import PaintPresenter.Graphics.Renderer

/-!
# One turn of the frame loop

A turn begins a frame, lets the application draw into it, and ends it. Drawing is a call of its
own beside those to the graphics stack, so whoever answers it sees exactly when it happens and
what it is given. Errors become a decision: recoverable ones cost the frame, all others end the
loop.
-/

namespace PaintPresenter

/-- Whether the loop goes on. -/
inductive LoopControl
  | proceed
  | exit
  deriving DecidableEq, Repr

/-- What an application was given to draw. -/
structure Drawing (ρ : Type) where
  frame : ActiveFrame ρ
  binding : Option TextureBinding

/-- A call in a turn of the frame loop. -/
inductive FrameCall (τ ρ : Type)
  | graphics (call : GraphicsCall τ)
  /-- The application draws into a frame, with the texture if there is one. -/
  | draw (frame : ActiveFrame ρ) (binding : Option TextureBinding)

/-- The reply to each call; drawing has none. -/
abbrev FrameCall.Reply {τ ρ : Type} : FrameCall τ ρ → Type
  | graphics call => call.Reply ρ
  | draw _ _ => Unit

/-- The calls of the frame loop over a stack with textures `τ` and recordings `ρ`. -/
abbrev FrameLoop (τ ρ : Type) : Interface where
  Call := FrameCall τ ρ
  Reply := FrameCall.Reply

namespace FrameLoop

variable {τ ρ α : Type}

/-- A program over the stack, as a part of the loop. -/
def onGraphics (p : Program (Graphics τ ρ) α) : Program (FrameLoop τ ρ) α :=
  p.embed fun c => .call (.graphics c) .done

/-- The decision that an error leads to. -/
def controlFor (e : GraphicsError) : Program (FrameLoop τ ρ) LoopControl := do
  if e.isRecoverable then
    .log .warn s!"frame skipped: {e.message}"
    return .proceed
  else
    .log .error s!"fatal frame error: {e.message}"
    return .exit

end FrameLoop

open FrameLoop in
/-- Begins a frame, draws, and ends it. A skipped frame is not drawn. -/
def driveFrame {τ ρ : Type} : StateT (Renderer τ) (Program (FrameLoop τ ρ)) LoopControl :=
  fun r => do
    let (begun, r) ← onGraphics (Renderer.beginFrame.run r)
    match begun with
    | .error e => return (← controlFor e, r)
    | .ok .skipped => return (.proceed, r)
    | .ok (.ready frame) =>
      let (binding, r) ← onGraphics (Renderer.binding? r)
      .call (.draw frame binding) .done
      let (ended, r) ← onGraphics (Renderer.endFrame.run r)
      match ended with
      | .error e => return (← controlFor e, r)
      | .ok () => return (.proceed, r)

end PaintPresenter
