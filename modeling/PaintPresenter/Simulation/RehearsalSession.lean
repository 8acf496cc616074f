import PaintPresenter.Simulation.Player
import PaintPresenter.Simulation.Rehearsal

/-!
# Sessions on a stack in memory

A session on a stage: a renderer plays on it, and beside the renderer a held texture and single
calls can be tried.
-/

namespace PaintPresenter.Simulation

/-- What a session on a stage keeps. -/
structure RehearsalSession where
  stage : Stage := {}
  renderer : Renderer Nat := {}
  /-- A texture held apart from the renderer. -/
  held : HeldTexture Nat := {}
  mailbox : PaintMailbox

namespace RehearsalSession

variable {α : Type}

/-- Runs a program on the stage. -/
def onStage : Program (FrameLoop Nat Nat) α → Session RehearsalSession α :=
  Session.perform (·.stage) (fun stage s => { s with stage }) Stage.answer

/-- The renderer of the session. -/
def player : Player RehearsalSession Nat Nat where
  run := onStage
  renderer := (·.renderer)
  setRenderer renderer s := { s with renderer }
  onMailbox action := modifyGet fun s =>
    let (a, mailbox) := action s.mailbox
    (a, { s with mailbox })
  takeDrawing := modifyGet fun s =>
    (s.stage.drawing, { s with stage := { s.stage with drawing := none } })

/-- Makes calls past the renderer. -/
def onGraphics (p : Program (Graphics Nat Nat) α) : Session RehearsalSession α :=
  onStage (FrameLoop.onGraphics p)

/-- Runs an operation on the texture held apart. -/
def onHeld (task : HeldTexture.Task Nat Nat α) :
    Session RehearsalSession (Except GraphicsError α) := do
  let (result, held) ← onGraphics (task.run (← get).held)
  modify fun s => { s with held }
  return result

/-- Changes the script. -/
def direct (f : Staged → Staged) : Session RehearsalSession Unit :=
  modify fun s => { s with stage := { s.stage with staged := f s.stage.staged } }

/-- The stack in memory. -/
def stack (s : RehearsalSession) : Rehearsal := s.stage.staged.stack

/-- Takes the cues written so far, oldest first. -/
def takeCues : Session RehearsalSession (List Cue) := do
  let cues := (← get).stack.cues.reverse
  direct fun s => { s with stack := { s.stack with cues := [] } }
  return cues

/-- The bytes of a texture. -/
def contents (id : Nat) : Session RehearsalSession ByteArray := do
  match (← get).stack.texture? id with
  | some stored => return stored.rgba
  | none => throw .unknownTexture

end RehearsalSession

end PaintPresenter.Simulation
