import PaintPresenter.Log.Record

/-!
# Programs over an interface of calls

Everything the presenter does to the outside world is a call: to a graphics stack, to a driver,
to a window system. An `Interface` lists the calls and the type of the reply to each; a `Program`
is a finite tree of calls whose branches are the possible replies. What answers the calls is
chosen later: `Program.run` lets a state answer them, `Program.interpret` answers them with
programs over another interface, and a statement over all replies speaks of every possible world.

A program ends in one of two ways: with a value, or with a `Fault`, when it found a promise of
its own broken. Errors that callers are meant to handle are values.
-/

namespace PaintPresenter

/-- A broken promise that stops a program for good. -/
inductive Fault
  /-- A sum or product left its machine word. -/
  | overflow
  /-- A value was to be clamped into a range whose ends are crossed. -/
  | crossedRange
  /-- A buffer was to be larger than half the address space. -/
  | oversizedBuffer
  /-- Bytes outside a buffer were asked for. -/
  | outOfBounds
  /-- A fence was waited on that nothing pending will signal. -/
  | deadlock
  /-- A texture was named that does not exist. -/
  | unknownTexture
  deriving DecidableEq, Repr

/-- The calls a program may make, and the type of the reply to each. -/
structure Interface where
  Call : Type
  Reply : Call → Type

/-- A finite program that makes calls, writes log records, and ends with a value or a fault. -/
inductive Program (I : Interface) (α : Type) : Type
  | done (value : α)
  | abort (fault : Fault)
  | note (record : LogRecord) (next : Program I α)
  | call (c : I.Call) (next : I.Reply c → Program I α)

namespace Program

variable {I J : Interface} {α β γ σ : Type}

/-- Runs `p` and then the program chosen by its value. -/
protected def bind : Program I α → (α → Program I β) → Program I β
  | done a, f => f a
  | abort e, _ => abort e
  | note r p, f => note r (p.bind f)
  | call c k, f => call c fun reply => (k reply).bind f

/-- Programs run one after the other. -/
instance : Monad (Program I) where
  pure := done
  bind := Program.bind

/-- The monad's `pure` is the program that is done at once. -/
@[simp] theorem pure_eq (a : α) : (pure a : Program I α) = done a := rfl

/-- A program that is done hands its value to the next one. -/
@[simp] theorem done_bind (a : α) (f : α → Program I β) : (done a >>= f) = f a := rfl

/-- Nothing runs after a fault. -/
@[simp] theorem abort_bind (e : Fault) (f : α → Program I β) :
    (abort e >>= f) = abort e := rfl

/-- A log record comes out before the rest runs. -/
@[simp] theorem note_bind (r : LogRecord) (p : Program I α) (f : α → Program I β) :
    (note r p >>= f) = note r (p >>= f) := rfl

/-- A call is made first; what follows waits for its reply. -/
@[simp] theorem call_bind (c : I.Call) (k : I.Reply c → Program I α) (f : α → Program I β) :
    (call c k >>= f) = call c fun reply => k reply >>= f := rfl

private theorem bind_done (p : Program I α) : (p >>= done) = p := by
  induction p with
  | done => rfl
  | abort => rfl
  | note r p ih => simp [ih]
  | call c k ih => simp [ih]

private theorem bind_bind (p : Program I α) (f : α → Program I β) (g : β → Program I γ) :
    (p >>= f >>= g) = p >>= fun a => f a >>= g := by
  induction p with
  | done => rfl
  | abort => rfl
  | note r p ih => simp [ih]
  | call c k ih => simp [ih]

/-- It makes no difference how a sequence of programs is grouped. -/
instance : LawfulMonad (Program I) :=
  LawfulMonad.mk' (Program I) bind_done (fun _ _ => rfl) bind_bind

/-- Makes one call and returns its reply. -/
def ask (c : I.Call) : Program I (I.Reply c) := call c done

/-- Writes one record on the presenter's channel. -/
def log (level : LogLevel) (text : String) : Program I Unit :=
  note ⟨level, LogRecord.presenterChannel, text⟩ (done ())

/-- Stops unless a value is there. -/
def require (fault : Fault) : Option α → Program I α
  | some a => done a
  | none => abort fault

/-! ## Running against a state that answers calls -/

/-- What a run leaves: the value or fault it ended with, the answering state, the records. -/
structure Run (σ α : Type) where
  result : Except Fault α
  state : σ
  log : List LogRecord

/-- Runs a program against a state that answers each call, possibly by a fault. -/
def run (answer : (c : I.Call) → σ → Except Fault (I.Reply c) × σ) :
    Program I α → σ → Run σ α
  | done a, s => ⟨.ok a, s, []⟩
  | abort e, s => ⟨.error e, s, []⟩
  | note r p, s =>
    let rest := run answer p s
    { rest with log := r :: rest.log }
  | call c k, s =>
    match answer c s with
    | (.ok reply, s) => run answer (k reply) s
    | (.error e, s) => ⟨.error e, s, []⟩

/-! ## Answering calls by programs -/

/-- Replaces every call by a program over another interface that answers it and may keep a
state between calls. -/
def interpret (answer : (c : I.Call) → StateT σ (Program J) (I.Reply c)) :
    Program I α → StateT σ (Program J) α
  | done a, s => done (a, s)
  | abort e, _ => abort e
  | note r p, s => note r (interpret answer p s)
  | call c k, s => answer c s >>= fun (reply, s) => interpret answer (k reply) s

/-- Replaces every call by a program over another interface that answers it. -/
def embed (answer : (c : I.Call) → Program J (I.Reply c)) : Program I α → Program J α
  | done a => done a
  | abort e => abort e
  | note r p => note r (embed answer p)
  | call c k => answer c >>= fun reply => embed answer (k reply)

end Program

/-- A program that may also fail with an error of type `ε` and keeps a state of type `σ`, also
when it fails. -/
abbrev Stateful (σ : Type) (I : Interface) (ε α : Type) := ExceptT ε (StateT σ (Program I)) α

namespace Stateful

variable {σ ε α : Type} {I : Interface}

/-- A program that has no use for the state and cannot fail. -/
def ofProgram (p : Program I α) : Stateful σ I ε α := ExceptT.mk fun s => do
  let a ← p
  return (.ok a, s)

/-- A program that has no use for the state. -/
def ofTask (task : ExceptT ε (Program I) α) : Stateful σ I ε α := ExceptT.mk fun s => do
  let result ← task.run
  return (result, s)

/-- An operation on the state that cannot fail. -/
def ofAction (action : StateT σ (Program I) α) : Stateful σ I ε α := ExceptT.mk fun s => do
  let (a, s) ← action s
  return (.ok a, s)

/-- A result that is there already. -/
def ofResult (result : Except ε α) : Stateful σ I ε α := ExceptT.mk fun s => .done (result, s)

/-- Runs a task and hands its failure over as a value. -/
def attempt (task : Stateful σ I ε α) : Stateful σ I ε (Except ε α) := ExceptT.mk fun s => do
  let (result, s) ← task.run s
  return (.ok result, s)

/-- Writes one record on the presenter's channel. -/
def log (level : LogLevel) (text : String) : Stateful σ I ε Unit :=
  ofProgram (Program.log level text)

/-- Runs a task on a part of the state. -/
def onPart {part : Type} (read : σ → part) (write : part → σ → σ)
    (task : Stateful part I ε α) : Stateful σ I ε α := ExceptT.mk fun s => do
  let (result, p) ← task.run (read s)
  return (result, write p s)

end Stateful

end PaintPresenter
