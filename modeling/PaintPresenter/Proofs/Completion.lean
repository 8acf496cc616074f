import PaintPresenter.Proofs.World

/-!
# Programs that end

`Keeps` excuses a program that stops at a fault. `Surely` does not: it says what every run of a
program ends with, and that every run ends. A program surely ends well when it keeps its promises
and `Completes`, which is a matter of its shape alone: no fault is in reach as long as the replies
are good. `Delivers` says moreover that no call waits forever: the world has a reply to each.
-/

namespace PaintPresenter

variable {I J : Interface} {α β γ ε σ : Type}

namespace Program

/-- Started in `s`, a program ends with a value in every run, and `post` holds of the value and the
state. -/
def Surely (W : World I γ) : Program I α → γ → (α → γ → Prop) → Prop
  | .done a, s, post => post a s
  | .abort _, _, _ => False
  | .note _ p, s, post => Surely W p s post
  | .call c k, s, post => ∀ reply t, W.step s c reply t → Surely W (k reply) t post

/-- The same, and there is a reply to every call that the program comes to make. -/
def Delivers (W : World I γ) : Program I α → γ → (α → γ → Prop) → Prop
  | .done a, s, post => post a s
  | .abort _, _, _ => False
  | .note _ p, s, post => Delivers W p s post
  | .call c k, s, post => (∃ reply t, W.step s c reply t) ∧
    ∀ reply t, W.step s c reply t → Delivers W (k reply) t post

/-- As long as the replies are good, a program makes allowed calls only and meets no fault. -/
def Completes (allowed : I.Call → Prop) (good : (c : I.Call) → I.Reply c → Prop) :
    Program I α → Prop
  | .done _ => True
  | .abort _ => False
  | .note _ p => Completes allowed good p
  | .call c k => allowed c ∧ ∀ reply, good c reply → Completes allowed good (k reply)

variable {allowed : I.Call → Prop} {good : (c : I.Call) → I.Reply c → Prop}

/-- What a program surely ends with, every run ends with. -/
theorem Surely.ends {W : World I γ} {p : Program I α} {s t : γ} {a : α} {post : α → γ → Prop}
    (h : p.Surely W s post) (ends : p.Ends W s a t) : post a t := by
  induction ends with
  | done => exact h
  | note _ ih => exact ih h
  | call reply u step _ ih => exact ih (h reply u step)

/-- A program that completes and keeps its promises ends well. -/
theorem Completes.surely {W : World I γ} {p : Program I α} {s : γ} {post : α → γ → Prop}
    (completes : p.Completes allowed good)
    (replies : ∀ s c reply t, W.step s c reply t → good c reply)
    (kept : (Contract.free W).Keeps p s post) : p.Surely W s post := by
  induction p generalizing s with
  | done a => exact kept
  | abort fault => exact completes
  | note r p ih => exact ih completes kept
  | call c k ih =>
    intro reply t step
    exact ih reply (completes.2 reply (replies s c reply t step)) (kept.2 reply t step)

/-- If moreover every allowed call has a reply, the program delivers. -/
theorem Completes.delivers {W : World I γ} {p : Program I α} {s : γ} {post : α → γ → Prop}
    (completes : p.Completes allowed good)
    (replies : ∀ s c reply t, W.step s c reply t → good c reply)
    (answered : ∀ s c, allowed c → ∃ reply t, W.step s c reply t)
    (kept : (Contract.free W).Keeps p s post) : p.Delivers W s post := by
  induction p generalizing s with
  | done a => exact kept
  | abort fault => exact completes
  | note r p ih => exact ih completes kept
  | call c k ih =>
    refine ⟨answered s c completes.1, fun reply t step => ?_⟩
    exact ih reply (completes.2 reply (replies s c reply t step)) (kept.2 reply t step)

/-- A run delivers what its second part does from wherever the first part ends. -/
theorem Delivers.bind {W : World I γ} {p : Program I α} {f : α → Program I β} {s : γ}
    {mid : α → γ → Prop} {post : β → γ → Prop} (first : p.Delivers W s mid)
    (then_ : ∀ a t, mid a t → (f a).Delivers W t post) : (p >>= f).Delivers W s post := by
  induction p generalizing s with
  | done a => exact then_ a s first
  | abort fault => exact first
  | note r p ih => exact ih first
  | call c k ih => exact ⟨first.1, fun reply t step => ih reply (first.2 reply t step)⟩

/-- A run that delivers something delivers whatever follows from it. -/
theorem Delivers.mono {W : World I γ} {p : Program I α} {s : γ} {post post' : α → γ → Prop}
    (first : p.Delivers W s post) (weaker : ∀ a t, post a t → post' a t) :
    p.Delivers W s post' := by
  induction p generalizing s with
  | done a => exact weaker a s first
  | abort fault => exact first
  | note r p ih => exact ih first
  | call c k ih => exact ⟨first.1, fun reply t step => ih reply (first.2 reply t step)⟩

/-! ## Programs -/

/-- More calls may be allowed. -/
theorem Completes.mono {allowed' : I.Call → Prop} {p : Program I α}
    (completes : p.Completes allowed good) (weaker : ∀ c, allowed c → allowed' c) :
    p.Completes allowed' good := by
  induction p with
  | done a => trivial
  | abort fault => exact completes
  | note r p ih => exact ih completes
  | call c k ih =>
    exact ⟨weaker c completes.1, fun reply goes => ih reply (completes.2 reply goes)⟩

/-- Logging makes no calls. -/
@[simp] theorem completes_log (level : LogLevel) (text : String) :
    (Program.log level text).Completes allowed good := trivial

/-- A single call completes when it is allowed. -/
theorem completes_ask {c : I.Call} (allows : allowed c) :
    (Program.call c .done).Completes allowed good := ⟨allows, fun _ _ => trivial⟩

/-- A program that may be spared completes when it does. -/
theorem completes_unless {p : Program I Unit} (completes : p.Completes allowed good)
    (spared : Bool) : (if spared then .done () else p : Program I Unit).Completes allowed good := by
  cases spared with
  | true => trivial
  | false => exact completes

/-- Sequencing. -/
theorem Completes.bind {p : Program I α} {f : α → Program I β}
    (first : p.Completes allowed good) (then_ : ∀ a, (f a).Completes allowed good) :
    (p >>= f).Completes allowed good := by
  induction p with
  | done a => exact then_ a
  | abort fault => exact first
  | note r p ih => exact ih first
  | call c k ih => exact ⟨first.1, fun reply goes => ih reply (first.2 reply goes)⟩

/-- A loop over a list completes when its body does. -/
theorem completes_forM {f : β → Program I PUnit} (each : ∀ b, (f b).Completes allowed good)
    (bs : List β) : (bs.forM f).Completes allowed good := by
  induction bs with
  | nil => trivial
  | cons b later ih => exact (each b).bind fun _ => ih

/-- Answers that complete make a program of any calls complete. -/
theorem Completes.embed {answer : (c : I.Call) → Program J (I.Reply c)}
    {allowed' : J.Call → Prop} {good' : (c : J.Call) → J.Reply c → Prop} {p : Program I α}
    (completes : p.Completes allowed fun _ _ => True)
    (answers : ∀ c, allowed c → (answer c).Completes allowed' good') :
    (p.embed answer).Completes allowed' good' := by
  induction p with
  | done a => trivial
  | abort fault => exact completes
  | note r p ih => exact ih completes
  | call c k ih =>
    exact (answers c completes.1).bind fun reply => ih reply (completes.2 reply trivial)

/-- An interpreted program completes when each answer does. -/
theorem Completes.interpret {answer : (c : I.Call) → StateT σ (Program J) (I.Reply c)}
    {allowed' : J.Call → Prop} {good' : (c : J.Call) → J.Reply c → Prop} {p : Program I α}
    (completes : p.Completes allowed fun _ _ => True)
    (answers : ∀ c x, allowed c → (answer c x).Completes allowed' good') (x : σ) :
    (p.interpret answer x).Completes allowed' good' := by
  induction p generalizing x with
  | done a => trivial
  | abort fault => exact completes
  | note r p ih => exact ih completes x
  | call c k ih =>
    exact (answers c x completes.1).bind fun out => ih out.1 (completes.2 out.1 trivial) out.2

end Program

/-! ## Programs that may fail -/

section Task

variable {allowed : I.Call → Prop} {good : (c : I.Call) → I.Reply c → Prop}

/-- Sequencing of tasks, which stop at the first failure. -/
theorem ExceptT.completes_bind {task : ExceptT ε (Program I) α}
    {f : α → ExceptT ε (Program I) β} (first : task.run.Completes allowed good)
    (then_ : ∀ a, (f a).run.Completes allowed good) : (task >>= f).run.Completes allowed good := by
  rw [ExceptT.run_bind]
  apply first.bind
  rintro (e | a)
  · trivial
  · exact then_ a

end Task

/-! ## Programs that may fail and keep a state -/

namespace Stateful

/-- An operation completes from whatever state. -/
def Completes (allowed : I.Call → Prop) (good : (c : I.Call) → I.Reply c → Prop)
    (op : Stateful σ I ε α) : Prop := ∀ x, (op.run x).Completes allowed good

variable {allowed : I.Call → Prop} {good : (c : I.Call) → I.Reply c → Prop}

/-- Sequencing of operations. -/
theorem Completes.bind {op : Stateful σ I ε α} {f : α → Stateful σ I ε β}
    (first : op.Completes allowed good) (then_ : ∀ a, (f a).Completes allowed good) :
    (op >>= f).Completes allowed good := by
  intro x
  apply (first x).bind
  rintro ⟨e | a, y⟩
  · trivial
  · exact then_ a y

/-- A value makes no calls. -/
@[simp] theorem completes_pure (a : α) :
    (pure a : Stateful σ I ε α).Completes allowed good := fun _ => trivial

/-- A failure makes no calls. -/
@[simp] theorem completes_throw (e : ε) :
    (throw e : Stateful σ I ε α).Completes allowed good := fun _ => trivial

/-- Reading the state makes no calls. -/
@[simp] theorem completes_get : (get : Stateful σ I ε σ).Completes allowed good := fun _ => trivial

/-- Changing the state makes no calls. -/
@[simp] theorem completes_modify (f : σ → σ) :
    (modify f : Stateful σ I ε PUnit).Completes allowed good := fun _ => trivial

/-- Logging makes no calls. -/
@[simp] theorem completes_log (level : LogLevel) (text : String) :
    (Stateful.log level text : Stateful σ I ε Unit).Completes allowed good := fun _ => trivial

/-- A program completes as an operation too. -/
theorem completes_ofProgram {p : Program I α} (completes : p.Completes allowed good) :
    (ofProgram p : Stateful σ I ε α).Completes allowed good :=
  fun _ => completes.bind fun _ => trivial

/-- A task completes as an operation too. -/
theorem completes_ofTask {task : ExceptT ε (Program I) α}
    (completes : task.run.Completes allowed good) :
    (ofTask task : Stateful σ I ε α).Completes allowed good :=
  fun _ => completes.bind fun _ => trivial

/-- An action completes as an operation when it does from every state. -/
theorem completes_ofAction {action : StateT σ (Program I) α}
    (completes : ∀ x, (action x).Completes allowed good) :
    (ofAction action : Stateful σ I ε α).Completes allowed good :=
  fun x => (completes x).bind fun _ => trivial

/-- Catching a failure adds no calls. -/
theorem Completes.attempt {op : Stateful σ I ε α} (completes : op.Completes allowed good) :
    op.attempt.Completes allowed good := fun x => (completes x).bind fun _ => trivial

/-- An operation on a part makes the calls it makes on its own. -/
theorem Completes.onPart {part : Type} {op : Stateful part I ε α}
    (completes : op.Completes allowed good) (read : σ → part) (write : part → σ → σ) :
    (op.onPart read write).Completes allowed good :=
  fun x => (completes (read x)).bind fun _ => trivial

/-- A loop over a list completes when its body does. -/
theorem completes_forM {f : β → Stateful σ I ε PUnit} (each : ∀ b, (f b).Completes allowed good)
    (bs : List β) : (bs.forM f).Completes allowed good := by
  induction bs with
  | nil => exact completes_pure _
  | cons b later ih => exact (each b).bind fun _ => ih

end Stateful

end PaintPresenter
