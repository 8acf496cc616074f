import PaintPresenter.Graphics.HeldTexture
import PaintPresenter.Paint.Mailbox

/-!
# The renderer

Drives one frame at a time over a graphics stack. Between frames the texture may be uploaded.
Two things make the renderer rebuild the stack's surface before a frame: a size that the window
asked for, and a report that the swapchain no longer fits. A window without pixels keeps frames
skipped. After a shutdown every operation is refused or does nothing.
-/

namespace PaintPresenter

/-- A frame that is being recorded. -/
structure ActiveFrame (ρ : Type) where
  recording : ρ
  image : UInt32
  extent : Extent
  deriving DecidableEq, Repr

/-- What beginning a frame leads to. -/
inductive FrameStatus (ρ : Type)
  | ready (frame : ActiveFrame ρ)
  /-- There is nothing to draw into this time. -/
  | skipped
  deriving DecidableEq, Repr

/-- The state of a renderer over textures of type `τ`. -/
structure Renderer (τ : Type) where
  texture : HeldTexture τ := {}
  clearColor : Color := .black
  /-- Size that the window asked for; a rebuild at it comes before the next frame. -/
  pendingSize : Option Extent := none
  /-- The swapchain was reported not to fit; a rebuild comes before the next frame. -/
  rebuildOwed : Bool := false
  /-- The image of the frame being recorded. -/
  active : Option UInt32 := none
  /-- Frames presented so far. The count has no bound here; a program keeps it in 64 bits, which no
  run of it can fill. -/
  presented : Nat := 0
  closed : Bool := false

namespace Renderer

variable {τ ρ : Type}

/-- An operation of a renderer that cannot fail. -/
abbrev Action (τ ρ α : Type) := StateT (Renderer τ) (Program (Graphics τ ρ)) α

/-- An operation of a renderer. -/
abbrev Task (τ ρ α : Type) := Stateful (Renderer τ) (Graphics τ ρ) GraphicsError α

/-- Asks for a new drawable size. The size in use cancels what was asked for before. -/
def requestSize (extent : Extent) : Action τ ρ Unit := fun r => do
  let current ← Graphics.extent
  return ((), { r with pendingSize := if extent = current then none else some extent })

/-- The window asked for a size without pixels. -/
def minimized (r : Renderer τ) : Bool := r.pendingSize.any Extent.isEmpty

/-- Makes the rebuild that is due: at the size asked for, else at the present one. -/
def settleRebuild : Task τ ρ Unit := do
  let r ← get
  match r.pendingSize with
  | some extent =>
    .ofTask (Graphics.rebuild extent)
    modify fun r => { r with pendingSize := none, rebuildOwed := false }
  | none =>
    if r.rebuildOwed then
      let extent ← .ofProgram Graphics.extent
      .ofTask (Graphics.rebuild extent)
      modify fun r => { r with rebuildOwed := false }

/-- Starts recording into an acquired image. -/
def record (image : AcquiredImage) : Task τ ρ (FrameStatus ρ) := do
  if image.suboptimal then
    Stateful.log .debug "suboptimal swapchain image; recreating after this frame"
    modify fun r => { r with rebuildOwed := true }
  let recording ← .ofTask (Graphics.beginPass image.index (← get).clearColor)
  modify fun r => { r with active := some image.index }
  let extent ← .ofProgram Graphics.extent
  return .ready ⟨recording, image.index, extent⟩

/-- Waits for the previous frame, takes an image and starts recording. A swapchain that is out of
date is rebuilt at once and the frame skipped. -/
def beginFrame : Task τ ρ (FrameStatus ρ) := do
  let r ← get
  if r.closed then throw (.frameOrder "begin_frame after shutdown")
  if r.active.isSome then throw (.frameOrder "begin_frame while a frame is active")
  if r.minimized then return .skipped
  settleRebuild
  .ofTask Graphics.waitForPrevious
  match ← Stateful.attempt (.ofTask Graphics.acquire) with
  | .ok image => record image
  | .error .outOfDate =>
    Stateful.log .warn "swapchain out of date on acquire; recreating"
    let extent ← .ofProgram Graphics.extent
    .ofTask (Graphics.rebuild extent)
    return .skipped
  | .error e => throw e

/-- Ends the recording, submits it and presents the image. The frame is over even if this fails. -/
def endFrame : Task τ ρ Unit := do
  match (← get).active with
  | none => throw (.frameOrder "end_frame without an active frame")
  | some image =>
    modify fun r => { r with active := none }
    .ofTask Graphics.endPass
    match ← .ofTask (Graphics.present image) with
    | .presented => modify fun r => { r with presented := r.presented + 1 }
    | .suboptimal =>
      modify fun r => { r with presented := r.presented + 1, rebuildOwed := true }
    | .outOfDate =>
      Stateful.log .warn "swapchain out of date on present; recreating next frame"
      modify fun r => { r with rebuildOwed := true }

/-- Runs an operation on the held texture. -/
def onTexture {α : Type} (task : HeldTexture.Task τ ρ α) : Task τ ρ α :=
  task.onPart Renderer.texture fun texture r => { r with texture }

/-- Uploads an image into the texture, between frames only: the frame being recorded may refer to
the texture. -/
def upload (pixels : PixelBuffer) : Task τ ρ UploadOutcome := do
  let r ← get
  if r.closed then throw (.frameOrder "upload after shutdown")
  if r.active.isSome then throw (.frameOrder "upload while a frame is active")
  onTexture (HeldTexture.upload pixels)

/-- Uploads a paint. -/
def uploadPaint (frame : PaintFrame) : Task τ ρ UploadOutcome := do
  upload (← .ofResult frame.pixels)

/-- Uploads the paint that waits in a mailbox, if there is one. -/
def uploadCollected : Option PaintFrame → Task τ ρ (Option UploadOutcome)
  | none => return none
  | some frame => return some (← uploadPaint frame)

/-- How to sample the texture, if there is one. -/
def binding? : Action τ ρ (Option TextureBinding) := fun r =>
  match r.texture.texture? with
  | none => return (none, r)
  | some texture => return (some (← Graphics.binding texture), r)

/-- Waits until the device is idle, releases the texture and tears the stack down, once. A failed
wait is reported afterwards. -/
def shutdown : Task τ ρ Unit := do
  if (← get).closed then return
  modify fun r => { r with closed := true, active := none }
  let idle ← Stateful.attempt (.ofTask Graphics.waitIdle)
  if let .error e := idle then
    Stateful.log .error s!"device did not go idle before shutdown: {e.message}"
  onTexture (.ofAction HeldTexture.clear)
  .ofProgram Graphics.tearDown
  let frames := (← get).presented
  Stateful.log .info s!"renderer shut down after {frames} frames"
  .ofResult idle

/-- Shuts down where nobody is left to be told of a failure. -/
def close : Action τ ρ Unit := fun r => do
  let (result, r) ← shutdown.run r
  if let .error e := result then
    Program.log .error s!"renderer shutdown failed: {e.message}"
  return ((), r)

end Renderer

end PaintPresenter
