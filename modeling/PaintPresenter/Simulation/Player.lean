import PaintPresenter.Graphics.FrameLoop
import PaintPresenter.Paint.Mailbox
import PaintPresenter.Simulation.Session

/-!
# Sessions with a renderer

A `Player` says where a session keeps a renderer and a painter's mailbox, and how it runs the
renderer's programs. What a user of the renderer and a painter can do follows from it.
-/

namespace PaintPresenter.Simulation

/-- How a session runs a renderer with textures `τ` and recordings `ρ`. -/
structure Player (σ τ ρ : Type) where
  run : {α : Type} → Program (FrameLoop τ ρ) α → Session σ α
  renderer : σ → Renderer τ
  setRenderer : Renderer τ → σ → σ
  /-- Does something to the mailbox. -/
  onMailbox : {α : Type} → (PaintMailbox → α × PaintMailbox) → Session σ α
  /-- Takes the last drawing, if there is one. -/
  takeDrawing : Session σ (Option (Drawing ρ))

namespace Player

variable {σ τ ρ α : Type} (p : Player σ τ ρ)

/-- Runs an operation on the renderer and the frame loop. -/
def onLoop (action : StateT (Renderer τ) (Program (FrameLoop τ ρ)) α) : Session σ α := do
  let (a, r) ← p.run (action (p.renderer (← get)))
  modify (p.setRenderer r)
  return a

/-- Runs an operation of the renderer. -/
def onRenderer (action : Renderer.Action τ ρ α) : Session σ α :=
  p.onLoop fun r => FrameLoop.onGraphics (action r)

/-- Runs an operation of the renderer that can fail. -/
def attempt (task : Renderer.Task τ ρ α) : Session σ (Except GraphicsError α) :=
  p.onRenderer task.run

/-- Makes one turn of the frame loop; also returns what was drawn. -/
def drive : Session σ (LoopControl × Option (Drawing ρ)) := do
  let control ← p.onLoop driveFrame
  return (control, ← p.takeDrawing)

/-- Changes the color that frames are cleared to. -/
def setClearColor (color : Color) : Session σ Unit :=
  modify fun s => p.setRenderer { p.renderer s with clearColor := color } s

/-- Uploads the latest paint, if one waits. -/
def uploadFresh : Session σ (Except GraphicsError (Option UploadOutcome)) := do
  let paint ← p.onMailbox PaintMailbox.collect
  p.attempt (Renderer.uploadCollected paint)

end Player

end PaintPresenter.Simulation
