import PaintPresenter.Graphics.Error
import PaintPresenter.Vulkan.Request

/-!
# Native handles of windows

A surface is made from two handles that the window system hands out: one of the display and one
of the window. Which instance extensions it takes depends on the display, and only matching pairs
of the supported window systems make a surface.
-/

namespace PaintPresenter.Vulkan

/-- The handle of a display. -/
inductive NativeDisplay
  | wayland
  | xlib (connected : Bool)
  | xcb (connected : Bool)
  | windows | android | appkit | uikit | web | haiku
  deriving DecidableEq, Repr

/-- The handle of a window. -/
inductive NativeWindow
  | wayland | xlib | xcb
  | windows (module : Bool)
  | android | appkit | uikit | web | haiku
  deriving DecidableEq, Repr

/-- The handles of one window, as far as the window system can hand them out. -/
structure NativeHandles where
  display : Except HandleFault NativeDisplay
  window : Except HandleFault NativeWindow

namespace NativeDisplay

/-- The extension that makes surfaces on a display, if there is one. -/
def surfaceExtension? : NativeDisplay → Option String
  | wayland => some "VK_KHR_wayland_surface"
  | xlib _ => some "VK_KHR_xlib_surface"
  | xcb _ => some "VK_KHR_xcb_surface"
  | windows => some "VK_KHR_win32_surface"
  | android => some "VK_KHR_android_surface"
  | appkit | uikit => some "VK_EXT_metal_surface"
  | web | haiku => none

/-- The instance extensions that presenting on a display takes. -/
def extensions (display : NativeDisplay) : Except ResultCode (List String) :=
  match display.surfaceExtension? with
  | some extension => .ok ["VK_KHR_surface", extension]
  | none => .error .extensionNotPresent

/-- The platform whose surface a display and a window make. -/
def platformWith (display : NativeDisplay) (window : NativeWindow) :
    Except ResultCode SurfacePlatform :=
  match display, window with
  | wayland, .wayland => .ok .wayland
  | xlib true, .xlib => .ok .xlib
  | xcb true, .xcb => .ok .xcb
  | windows, .windows true => .ok .win32
  | android, .android => .ok .android
  | xlib false, .xlib | xcb false, .xcb | windows, .windows false => .error .initializationFailed
  | _, _ => .error .extensionNotPresent

end NativeDisplay

end PaintPresenter.Vulkan
