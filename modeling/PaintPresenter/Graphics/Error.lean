import PaintPresenter.Base.Extent
import PaintPresenter.Graphics.ResultCode

/-!
# Errors of the graphics layer

Every error is raised by the call that caused it. Two of them only cost the current frame: the
swapchain no longer fits its surface, and a wait took too long. All others end the session.
-/

namespace PaintPresenter

/-- Why a window system could not hand out a native handle. -/
inductive HandleFault
  | notSupported
  | unavailable
  deriving DecidableEq, Repr

/-- The reason in words. -/
def HandleFault.message : HandleFault → String
  | notSupported => "the underlying handle cannot be represented using the types in this crate"
  | unavailable => "the underlying handle is not available"

/-- Everything that can go wrong in the graphics layer. -/
inductive GraphicsError
  /-- The driver's library could not be loaded. -/
  | libraryMissing
  /-- The window has no native handle to present to. -/
  | handleUnavailable (reason : HandleFault)
  /-- A driver function failed. -/
  | driver (function : String) (result : ResultCode)
  /-- No device can both draw and present. -/
  | noSuitableDevice
  /-- No memory type has the properties asked for. -/
  | noCompatibleMemory
  /-- The swapchain no longer fits its surface. -/
  | outOfDate
  /-- A wait for the device took too long. -/
  | timeout
  /-- The bytes are not an image of the given size. -/
  | invalidPixels (width height : UInt32) (length : Nat)
  /-- The upload has another size than the texture. -/
  | extentMismatch (expected actual : Extent)
  /-- An operation was called at a point of the frame where it has no meaning. -/
  | frameOrder (violation : String)
  deriving DecidableEq, Repr

namespace GraphicsError

/-- The error that a failing driver function stands for. -/
def ofResult (function : String) (result : ResultCode) : GraphicsError :=
  if result = .outOfDate then outOfDate
  else if result = .timeout ∨ result = .notReady then timeout
  else driver function result

/-- Skipping the current frame is an adequate answer. -/
def isRecoverable : GraphicsError → Bool
  | outOfDate | timeout => true
  | _ => false

/-- A failed driver function is recoverable exactly for the three codes that say "not now". -/
theorem isRecoverable_ofResult (function : String) (result : ResultCode) :
    (ofResult function result).isRecoverable = true ↔
      result = .outOfDate ∨ result = .timeout ∨ result = .notReady := by
  unfold ofResult
  split
  · simp [isRecoverable, *]
  · split <;> simp_all [isRecoverable]

private def extentRecord (e : Extent) : String :=
  s!"Extent2D \x7b width: {e.width}, height: {e.height} \x7d"

/-- The error in words. -/
def message : GraphicsError → String
  | libraryMissing => "failed to load the Vulkan library"
  | handleUnavailable reason => s!"window handle unavailable: {reason.message}"
  | driver function result => s!"{function} failed: {result.text}"
  | noSuitableDevice =>
    "no physical device exposes a queue family with graphics and present support"
  | noCompatibleMemory => "no memory type matches the requested properties"
  | outOfDate => "swapchain is out of date"
  | timeout => "timed out waiting for the GPU"
  | invalidPixels width height length =>
    s!"pixel buffer of {length} bytes does not describe a {width}x{height} BGRA/RGBA image"
  | extentMismatch expected actual =>
    let expected := extentRecord expected
    let actual := extentRecord actual
    s!"texture is {expected} but the upload is {actual}"
  | frameOrder violation => s!"frame order violated: {violation}"

/-- The error's own words followed by those of the error that caused it, if any. -/
def chain (e : GraphicsError) : List String :=
  match e with
  | handleUnavailable reason => [e.message, reason.message]
  | _ => [e.message]

end GraphicsError

end PaintPresenter
