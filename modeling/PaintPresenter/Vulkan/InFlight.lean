import PaintPresenter.Vulkan.Call
import PaintPresenter.Vulkan.FrameGate

/-!
# The frame in flight on a driver

The gate's objects are made by the driver; on top of them a frame waits for the one before it,
acquires an image, and is submitted and presented. The fence is reset before the acquire, so a
failed acquire replaces it by a signaled one: nothing else would ever signal it.
-/

namespace PaintPresenter.Vulkan

/-- Makes and drops the objects of a gate on a driver. -/
def GateCall.onDriver : (call : GateCall) → Program Driver call.Reply
  | newSemaphore => (Driver.create .semaphore).run
  | newSignaledFence => (Driver.create (.fence true)).run
  | dropSemaphore semaphore => Driver.release semaphore
  | dropFence fence => Driver.release fence

namespace FrameGate

variable {α : Type}

/-- An operation on a gate and a driver. -/
abbrev DriverTask (α : Type) := Stateful FrameGate Driver GraphicsError α

/-- An operation on a gate alone, its objects made by the driver. -/
def onDriver (task : Task α) : DriverTask α := ExceptT.mk fun gate =>
  (task.run gate).embed GateCall.onDriver

/-- A new gate. -/
def createOnDriver : Driver.Task FrameGate := ExceptT.mk (create.run.embed GateCall.onDriver)

/-- Destroys what the gate holds. -/
def destroyOnDriver (gate : FrameGate) : Program Driver FrameGate := do
  let ((), gate) ← (destroy gate).embed GateCall.onDriver
  return gate

/-- Waits for the previous submission and resets the fence. A wait that fails leaves the fence as
it is. -/
def waitForPrevious (timeoutNs : Nat) (gate : FrameGate) : Driver.Task Unit := do
  Driver.perform (.waitForFence gate.inFlight timeoutNs)
  Driver.perform (.resetFence gate.inFlight)

/-- Acquires the next image of a swapchain. If that fails, the fence is replaced; if this fails
too, the second error is the one reported. The semaphores stay: the last present may still wait on
one of them. -/
def acquire (swapchain : Handle .swapchain) (timeoutNs : Nat) : DriverTask AcquiredImage := do
  let gate ← get
  match ← .ofProgram (Program.ask (I := Driver) (.acquire swapchain timeoutNs gate.imageAvailable))
    with
  | .ok image => return image
  | .error result =>
    onDriver replaceFence
    throw (.ofResult "vkAcquireNextImageKHR" result)

/-- Submits a recording and queues the image for presentation. A swapchain that is out of date is
an outcome and not a failure: the submission was accepted and will signal the fence. -/
def submitAndPresent (queue : Handle .queue) (commands : Handle .commandBuffer)
    (swapchain : Handle .swapchain) (image : UInt32) (gate : FrameGate) :
    Driver.Task PresentOutcome := do
  Driver.perform (.submit queue {
    waits := [(gate.imageAvailable, .colorOutput)]
    commands := [commands]
    signals := [gate.renderFinished]
    fence := gate.inFlight })
  match ← ExceptT.lift
    (Program.ask (I := Driver) (.present queue gate.renderFinished swapchain image))
    with
  | .ok suboptimal => return if suboptimal then .suboptimal else .presented
  | .error result =>
    if result = .outOfDate then return .outOfDate
    else throw (.ofResult "vkQueuePresentKHR" result)

end FrameGate

end PaintPresenter.Vulkan
