import PaintPresenter.Base.Program
import PaintPresenter.Graphics.Error
import PaintPresenter.Vulkan.Handle

/-!
# The gate of the frame in flight

Two semaphores and a fence keep one frame in flight: the next frame is not recorded before the
fence of the last submission has been waited on. This module creates, replaces and destroys the
three objects over any device that can make them; a field is null exactly while it holds nothing.
-/

namespace PaintPresenter.Vulkan

/-- What the gate asks of a device. -/
inductive GateCall
  | newSemaphore
  /-- Signaled, so that the very first wait returns at once. -/
  | newSignaledFence
  | dropSemaphore (semaphore : Handle .semaphore)
  | dropFence (fence : Handle .fence)
  deriving DecidableEq, Repr

/-- The reply to each call. -/
abbrev GateCall.Reply : GateCall → Type
  | newSemaphore => Except GraphicsError (Handle .semaphore)
  | newSignaledFence => Except GraphicsError (Handle .fence)
  | dropSemaphore _ => Unit
  | dropFence _ => Unit

/-- The calls that make and drop the objects of a gate. -/
abbrev GateObjects : Interface where
  Call := GateCall
  Reply := GateCall.Reply

/-- The objects that gate a frame. -/
structure FrameGate where
  /-- Signaled when the acquired image may be drawn into. -/
  imageAvailable : Handle .semaphore := .null
  /-- Signaled when the image may be presented. -/
  renderFinished : Handle .semaphore := .null
  /-- Signaled when the submission is done. -/
  inFlight : Handle .fence := .null
  deriving DecidableEq, Repr

namespace FrameGate

/-- An operation on a gate. -/
abbrev Task (α : Type) := Stateful FrameGate GateObjects GraphicsError α

/-- Makes a semaphore. -/
def newSemaphore : Task (Handle .semaphore) := .ofTask (ExceptT.mk (.call .newSemaphore .done))

/-- Makes a fence that a first wait finds signaled. -/
def newSignaledFence : Task (Handle .fence) := .ofTask (ExceptT.mk (.call .newSignaledFence .done))

/-- Destroys a semaphore unless it is null. -/
def dropSemaphore (semaphore : Handle .semaphore) : Program GateObjects Unit :=
  if semaphore.isNull then .done () else .call (.dropSemaphore semaphore) .done

/-- Destroys a fence unless it is null. -/
def dropFence (fence : Handle .fence) : Program GateObjects Unit :=
  if fence.isNull then .done () else .call (.dropFence fence) .done

/-- Makes the three objects, one after the other; a failure leaves those made before it. -/
def fill : Task Unit := do
  let imageAvailable ← newSemaphore
  modify fun gate => { gate with imageAvailable }
  let renderFinished ← newSemaphore
  modify fun gate => { gate with renderFinished }
  let inFlight ← newSignaledFence
  modify fun gate => { gate with inFlight }

/-- Destroys what the gate holds. -/
def destroy : StateT FrameGate (Program GateObjects) Unit := fun gate => do
  dropSemaphore gate.imageAvailable
  dropSemaphore gate.renderFinished
  dropFence gate.inFlight
  return ((), {})

/-- Fills the gate, or destroys what was made. -/
def fillOrDestroy : Task Unit := do
  match ← fill.attempt with
  | .ok () => return
  | .error e =>
    .ofAction destroy
    throw e

/-- A new gate. -/
def create : ExceptT GraphicsError (Program GateObjects) FrameGate := ExceptT.mk do
  let (result, gate) ← fillOrDestroy.run {}
  return result.map fun _ => gate

/-- Swaps the fence for a new signaled one. Only right while the fence is unsignaled and nothing
was submitted against it since its last reset. -/
def replaceFence : Task Unit := do
  Stateful.log .debug "replacing in-flight fence"
  let fresh ← newSignaledFence
  .ofProgram (dropFence (← get).inFlight)
  modify fun gate => { gate with inFlight := fresh }

/-- Makes all three objects anew. The device must be idle. -/
def rearm : Task Unit := do
  Stateful.log .debug "re-arming frame synchronization"
  .ofAction destroy
  fillOrDestroy

/-- The objects that the gate holds. -/
def objects (gate : FrameGate) : List Object :=
  [gate.imageAvailable.object, gate.renderFinished.object, gate.inFlight.object].filter
    (·.number ≠ 0)

end FrameGate

end PaintPresenter.Vulkan
