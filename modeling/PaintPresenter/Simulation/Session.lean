import PaintPresenter.Base.Program

/-!
# Sessions

A session runs programs one after the other against a state that answers their calls. Between two
programs the state can be looked at and changed, records pile up until they are taken, and a fault
ends the session.
-/

namespace PaintPresenter.Simulation

/-- A step of a session over a state of type `σ`. -/
abbrev Session (σ : Type) := StateT σ (StateT (List LogRecord) (Except Fault))

namespace Session

variable {σ ω α : Type} {I : Interface}

/-- Adds records. -/
def note (records : List LogRecord) : Session σ Unit := modifyThe (List LogRecord) (· ++ records)

/-- Takes the records written so far. -/
def takeRecords : Session σ (List LogRecord) := modifyGetThe (List LogRecord) fun log => (log, [])

/-- Runs a program against the part of the state that answers its calls. -/
def perform (read : σ → ω) (write : ω → σ → σ)
    (answer : (c : I.Call) → ω → Except Fault (I.Reply c) × ω) (p : Program I α) : Session σ α := do
  let run := p.run answer (read (← get))
  modify (write run.state)
  note run.log
  run.result

/-- The values of steps made in turn, up to the first fault, and that fault. -/
def trace : List (Session σ (List α)) → σ → List LogRecord → List α × Option Fault
  | [], _, _ => ([], none)
  | step :: later, state, log =>
    match (step.run state).run log with
    | .error fault => ([], some fault)
    | .ok ((values, state), log) =>
      let (more, fault) := trace later state log
      (values ++ more, fault)

end Session

end PaintPresenter.Simulation
