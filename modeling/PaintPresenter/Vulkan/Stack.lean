import PaintPresenter.Graphics.FrameLoop
import PaintPresenter.Vulkan.InFlight
import PaintPresenter.Vulkan.SampledImage
import PaintPresenter.Vulkan.Screen

/-!
# The graphics stack on a driver

Rig, screen, gate, sampler and one command buffer make a graphics stack: they answer the calls of
a renderer by calls to the driver. The stack is built in that order and taken down in the opposite
one, whether building fails or the work is done.
-/

namespace PaintPresenter.Vulkan

/-- Frames are recorded into a command buffer. -/
abbrev Recording := Handle .commandBuffer

/-- A graphics stack. -/
structure Stack where
  rig : Rig
  screen : Screen
  gate : FrameGate
  sampler : Handle .sampler
  /-- Where frames are recorded. -/
  commands : Recording
  /-- Bound for the waits of a frame. -/
  timeoutNs : Nat
  tornDown : Bool := false

namespace Stack

/-! ## Building -/

/-- The rest of a stack on a rig. On failure nothing is left but the rig. -/
def buildOn (rig : Rig) (settings : GraphicsSettings) : Driver.Task Stack := do
  let screen ← Screen.create rig settings.extent
  Driver.undoing (do let _ ← Screen.destroy screen) do
    let gate ← FrameGate.createOnDriver
    Driver.undoing (do let _ ← gate.destroyOnDriver) do
      let sampler ← createSampler rig
      Driver.undoing (Driver.release sampler) do
        let commands ← Driver.create (.commandBuffer rig.commandPool)
        return { rig, screen, gate, sampler, commands, timeoutNs := settings.timeoutNs }

/-- A stack for a window. On failure nothing is left. -/
def create (handles : NativeHandles) (settings : GraphicsSettings) : Driver.Task Stack := do
  let display ← ExceptT.mk (.done (handles.display.mapError GraphicsError.handleUnavailable))
  let window ← ExceptT.mk (.done (handles.window.mapError GraphicsError.handleUnavailable))
  let rig ← Rig.create display window settings
  let stack ← Driver.undoing (do let _ ← rig.destroy) (buildOn rig settings)
  Driver.log .info "vulkan backend ready"
  return stack

/-- What a user interface is told about a stack before it draws into its frames. -/
structure Report where
  queueFamily : Nat
  imageCount : Nat
  minImages : UInt32
  deriving DecidableEq, Repr

/-- What a user interface is told about this stack. -/
def report (s : Stack) : Report :=
  ⟨s.rig.queueFamily, s.screen.images.length, s.screen.minImages⟩

/-! ## Operations -/

/-- An operation of a stack that cannot fail. -/
abbrev Action (α : Type) := StateT Stack (Program Driver) α

/-- An operation of a stack. -/
abbrev Task (α : Type) := Stateful Stack Driver GraphicsError α

/-- Runs an operation on the gate. -/
def onGate {α : Type} (task : FrameGate.DriverTask α) : Task α :=
  task.onPart Stack.gate fun gate s => { s with gate }

/-- Runs an operation on the screen. -/
def onScreen {α : Type} (task : Screen.Task α) : Task α :=
  task.onPart Stack.screen fun screen s => { s with screen }

/-- Waits for the fence of the previous frame. -/
def waitForPrevious : Task Unit := do
  let s ← get
  .ofTask (s.gate.waitForPrevious s.timeoutNs)

/-- Takes the next image of the swapchain; a failure replaces the fence. -/
def acquire : Task AcquiredImage := do
  let s ← get
  onGate (FrameGate.acquire s.screen.swapchain s.timeoutNs)

/-- Starts recording into the framebuffer of an image. -/
def beginPass (image : UInt32) (clear : Color) : Task Recording := do
  let s ← get
  match s.screen.targets.framebuffer? image.toNat with
  | none => throw (.frameOrder "acquired image index has no framebuffer")
  | some framebuffer =>
    .ofTask (Driver.perform (.resetCommands s.commands))
    .ofTask (Driver.perform (.beginCommands s.commands))
    .ofProgram <| Driver.record s.commands <| .beginPass {
      renderPass := s.screen.targets.renderPass
      framebuffer
      area := s.screen.extent
      clear := clear.clamped }
    return s.commands

/-- Ends the recording. -/
def endPass : Task Unit := do
  let s ← get
  .ofProgram (Driver.record s.commands .endPass)
  .ofTask (Driver.perform (.endCommands s.commands))

/-- Submits the recording and queues its image for presentation. -/
def present (image : UInt32) : Task PresentOutcome := do
  let s ← get
  .ofTask (s.gate.submitAndPresent s.rig.queue s.commands s.screen.swapchain image)

/-- Waits until the device is idle, puts the screen up anew and makes the gate's objects anew. -/
def rebuild (extent : Extent) : Task Unit := do
  .ofTask Driver.deviceIdle
  onScreen (Screen.rebuild (← get).rig extent)
  onGate (FrameGate.onDriver FrameGate.rearm)

/-- Takes the stack down, once. The device must be idle and every texture released. -/
def tearDown : Action Unit := fun s => do
  if s.tornDown then return ((), s)
  Driver.freeCommands s.rig.commandPool s.commands
  Rig.releaseUnlessNull s.sampler
  let gate ← s.gate.destroyOnDriver
  let ((), screen) ← Screen.destroy s.screen
  let rig ← s.rig.destroy
  .log .info "vulkan backend destroyed"
  return ((), { s with
    rig, screen, gate, commands := .null, sampler := .null, tornDown := true })

/-- Waits until the device is idle and takes the stack down, where nobody is left to be told of a
failure. -/
def close : Action Unit := fun s => do
  if s.tornDown then return ((), s)
  if let .error e ← Driver.deviceIdle.run then
    .log .error s!"device did not go idle before teardown: {e.message}"
  tearDown s

/-- How to sample a texture. -/
def binding (s : Stack) (texture : SampledImage) : TextureBinding :=
  ⟨texture.view, s.sampler, .shaderReadOnly, texture.extent⟩

/-- The reply to a renderer's call. -/
def answer : (call : GraphicsCall SampledImage) → Action (call.Reply Recording)
  | .extent => fun s => return (s.screen.extent, s)
  | .waitForPrevious => waitForPrevious.run
  | .acquire => acquire.run
  | .beginPass image clear => (beginPass image clear).run
  | .endPass => endPass.run
  | .present image => (present image).run
  | .rebuild extent => (rebuild extent).run
  | .createTexture pixels => fun s => do
    let result ← (SampledImage.create s.rig pixels).run
    return (result, s)
  | .updateTexture texture pixels => fun s => do
    let result ← (SampledImage.update s.rig texture pixels).run
    return (result, s)
  | .releaseTexture texture => fun s => do
    texture.release
    return ((), s)
  | .binding texture => fun s => return (s.binding texture, s)
  | .waitIdle => fun s => do
    let result ← Driver.deviceIdle.run
    return (result, s)
  | .tearDown => tearDown

end Stack

/-- A stack and the last drawing made on it. -/
structure Easel where
  stack : Stack
  drawing : Option (Drawing Recording) := none

/-- The reply to a call of the frame loop; a drawing is kept. -/
def Easel.answer :
    (call : FrameCall SampledImage Recording) → StateT Easel (Program Driver) call.Reply
  | .graphics call => fun e => do
    let (reply, stack) ← Stack.answer call e.stack
    return (reply, { e with stack })
  | .draw frame binding => fun e => return ((), { e with drawing := some ⟨frame, binding⟩ })

end PaintPresenter.Vulkan
