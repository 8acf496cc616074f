import PaintPresenter.Desktop.World

/-!
# A window with its renderer

A window is made first and its renderer on top of it; they go in the opposite order, so that
everything made for the window is released while the window is still there. In between, the
window answers what an application asks for in a frame.
-/

namespace PaintPresenter.Desktop

open Vulkan

/-- Why a host gave up. -/
inductive HostError
  /-- The event loop could not be set up. -/
  | loopUnavailable (cause : String)
  /-- The event loop broke. -/
  | loopBroken (cause : String)
  /-- The window could not be made. -/
  | windowRefused (cause : String)
  /-- The renderer could not be made. -/
  | rendererRefused (cause : GraphicsError)
  deriving DecidableEq, Repr

/-- What failed, and what made it fail, from the outside in. -/
def HostError.chain : HostError → List String
  | loopUnavailable cause => ["failed to create winit EventLoop", cause]
  | loopBroken cause => ["winit event loop terminated with error", cause]
  | windowRefused cause => ["failed to create initial window", "failed to create window", cause]
  | rendererRefused cause =>
    "failed to create initial window" :: "GPU initialization failed for window" :: cause.chain

/-- What failed and why, in one line. -/
def HostError.line (e : HostError) : String := ": ".intercalate e.chain

/-- How the window looks at first. -/
structure WindowSettings where
  title : String := "vkweb"
  /-- In logical pixels. -/
  size : Extent := ⟨1280, 720⟩
  deriving DecidableEq, Repr

/-- A window and the renderer on it. -/
structure OpenWindow where
  id : WindowId
  stack : Stack
  renderer : Renderer SampledImage

namespace OpenWindow

variable {α : Type}

/-- An operation on a window. -/
abbrev Action (α : Type) := StateT OpenWindow (Program World) α

/-- Makes a window and a renderer of the window's size on it. Without the renderer the window is
dropped. -/
def create (look : WindowSettings) (graphics : GraphicsSettings) :
    ExceptT HostError (Program World) OpenWindow := ExceptT.mk do
  match ← World.createWindow look.title look.size with
  | .error cause => return .error (.windowRefused cause)
  | .ok id =>
    let extent ← World.windowSize id
    let handles ← World.nativeHandles id
    match ← World.onDriver (Stack.create handles { graphics with extent }).run with
    | .ok stack => return .ok ⟨id, stack, { clearColor := graphics.clear }⟩
    | .error e =>
      World.dropWindow id
      return .error (.rendererRefused e)

/-- Runs an operation of the renderer. -/
def onRenderer (action : Renderer.Action SampledImage Recording α) : Action α := fun w => do
  let ((a, renderer), stack) ←
    World.onDriver ((action w.renderer).interpret Stack.answer w.stack)
  return (a, { w with renderer, stack })

/-- The reply to a call of the frame loop. A drawing leaves its records and is announced to the
window before the recording ends. -/
def answerLoop (window : WindowId) (records : Drawing Recording → List LogRecord) :
    (call : FrameCall SampledImage Recording) → StateT Easel (Program World) call.Reply
  | .graphics call => fun e => World.onDriver (Easel.answer (.graphics call) e)
  | .draw frame binding => fun e => do
    (records ⟨frame, binding⟩).forM fun r => .note r (.done ())
    World.announcePresent window
    World.onDriver (Easel.answer (.draw frame binding) e)

/-- Makes one turn of the frame loop; also returns what was drawn, if anything was. -/
def render (records : Drawing Recording → List LogRecord) :
    Action (LoopControl × Option (Drawing Recording)) := fun w => do
  let ((control, renderer), easel) ←
    (driveFrame w.renderer).interpret (answerLoop w.id records) ⟨w.stack, none⟩
  return ((control, easel.drawing), { w with renderer, stack := easel.stack })

/-- The reply to what an application asks for in a frame. -/
def answer : (request : FrameRequest) → Action request.Reply
  | .uploadPaint => fun w => do
    let paint ← World.collectPaint
    onRenderer (Renderer.uploadCollected paint).run w
  | .render records => render records
  | .windowSize => fun w => return (← World.windowSize w.id, w)
  | .beginFrame => onRenderer Renderer.beginFrame.run
  | .shutdown => onRenderer Renderer.shutdown.run

/-- Asks the renderer for a size and the window for a frame at it. -/
def resize (size : Extent) : Action Unit := fun w => do
  let ((), w) ← onRenderer (Renderer.requestSize size) w
  World.requestRedraw w.id
  return ((), w)

/-- Shuts the renderer down, takes the stack down if that is left to do, and drops the window. -/
def close (w : OpenWindow) : Program World Unit := do
  let ((), w) ← onRenderer Renderer.close w
  let _ ← World.onDriver (Stack.close w.stack)
  World.dropWindow w.id

end OpenWindow

end PaintPresenter.Desktop
