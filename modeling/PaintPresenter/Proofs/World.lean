import PaintPresenter.Base.Program

/-!
# Programs in a world

A world says which replies a call may get and what state each of them leads to. `Makes` and
`Ends` say which calls a program can come to make in a world and with which values it can end. A
contract adds what the program owes in return: which calls it may make in which state. `Keeps` is
the judgement that proofs work with, and `keeps_iff` says that it is nothing but a statement about
all runs. It has one rule for each way of putting programs together, also for those that may fail
(`KeepsTask`) and those that keep a state as well (`KeepsOp`).
-/

namespace PaintPresenter

/-- What gave something did not fail. -/
theorem eq_ok_of_toOption {ε α : Type} {result : Except ε α} {a : α}
    (given : result.toOption = some a) : result = .ok a := by
  cases result with
  | error e => nomatch given
  | ok b => exact congrArg _ (Option.some.inj given)

/-- How calls are answered. -/
structure Program.World (I : Interface) (γ : Type) where
  /-- In a state a call may get a reply and lead to another state. -/
  step : γ → (c : I.Call) → I.Reply c → γ → Prop

/-- A call, its reply, and the state that it led to. -/
structure Exchange (I : Interface) (γ : Type) where
  call : I.Call
  reply : I.Reply call
  after : γ

variable {I J : Interface} {α β ε σ γ δ : Type}

namespace Program

/-- The world that also writes down every exchange, latest first. -/
def World.recorded (W : World I γ) : World I (γ × List (Exchange I γ)) where
  step s c reply t := W.step s.1 c reply t.1 ∧ t.2 = ⟨c, reply, t.1⟩ :: s.2

/-- Started in `s`, a program may come to make call `c` in state `t`. -/
inductive Makes (W : World I γ) : Program I α → γ → I.Call → γ → Prop
  | here {c : I.Call} {k : I.Reply c → Program I α} {s : γ} : Makes W (.call c k) s c s
  | note {r : LogRecord} {p : Program I α} {s t : γ} {c : I.Call} (later : Makes W p s c t) :
      Makes W (.note r p) s c t
  | call {c d : I.Call} {k : I.Reply c → Program I α} {s t : γ} (reply : I.Reply c) (u : γ)
      (step : W.step s c reply u) (later : Makes W (k reply) u d t) : Makes W (.call c k) s d t

/-- Started in `s`, a program may end with value `a` in state `t`. -/
inductive Ends (W : World I γ) : Program I α → γ → α → γ → Prop
  | done {a : α} {s : γ} : Ends W (.done a) s a s
  | note {r : LogRecord} {p : Program I α} {s t : γ} {a : α} (later : Ends W p s a t) :
      Ends W (.note r p) s a t
  | call {c : I.Call} {k : I.Reply c → Program I α} {s t : γ} {a : α} (reply : I.Reply c) (u : γ)
      (step : W.step s c reply u) (later : Ends W (k reply) u a t) : Ends W (.call c k) s a t

/-- A sequence ends where its second part ends, started where the first part ended. -/
theorem Ends.of_bind {W : World I γ} {p : Program I α} {f : α → Program I β} {s t : γ} {b : β}
    (ends : (p >>= f).Ends W s b t) : ∃ a u, p.Ends W s a u ∧ (f a).Ends W u b t := by
  induction p generalizing s with
  | done a => exact ⟨a, s, .done, ends⟩
  | abort fault => nomatch ends
  | note r p ih =>
    cases ends with
    | note later =>
      obtain ⟨a, u, first, second⟩ := ih later
      exact ⟨a, u, .note first, second⟩
  | call c k ih =>
    cases ends with
    | call reply v step later =>
      obtain ⟨a, u, first, second⟩ := ih reply later
      exact ⟨a, u, .call reply v step first, second⟩

/-! ## How programs end -/

section Endings

variable {W : World I γ} {s t : γ}

/-- A program that is done ends with its value, where it started. -/
@[simp] theorem ends_done_iff {a b : α} : (done a).Ends W s b t ↔ b = a ∧ t = s := by
  constructor
  · rintro ⟨⟩
    exact ⟨rfl, rfl⟩
  · rintro ⟨rfl, rfl⟩
    exact .done

/-- A program that faults does not end. -/
@[simp] theorem not_ends_abort {fault : Fault} {a : α} : ¬(abort fault).Ends W s a t := nofun

/-- A log record is no step. -/
@[simp] theorem ends_note_iff {r : LogRecord} {p : Program I α} {a : α} :
    (note r p).Ends W s a t ↔ p.Ends W s a t :=
  ⟨fun | .note later => later, .note⟩

/-- A call ends as the rest does after some reply. -/
theorem ends_call_iff {c : I.Call} {k : I.Reply c → Program I α} {a : α} :
    (call c k).Ends W s a t ↔ ∃ reply u, W.step s c reply u ∧ (k reply).Ends W u a t :=
  ⟨fun | .call reply u step later => ⟨reply, u, step, later⟩,
    fun ⟨reply, u, step, later⟩ => .call reply u step later⟩

/-- A program ends where its second part does, from where the first part ends. -/
theorem Ends.bind {p : Program I α} {f : α → Program I β} {u : γ} {a : α} {b : β}
    (first : p.Ends W s a u) (second : (f a).Ends W u b t) : (p >>= f).Ends W s b t := by
  induction first with
  | done => exact second
  | note _ ih => exact .note (ih second)
  | call reply v step _ ih => exact .call reply v step (ih second)

/-- It ends nowhere else. -/
@[simp] theorem ends_bind_iff {p : Program I α} {f : α → Program I β} {b : β} :
    (p >>= f).Ends W s b t ↔ ∃ a u, p.Ends W s a u ∧ (f a).Ends W u b t :=
  ⟨Ends.of_bind, fun ⟨_, _, first, second⟩ => first.bind second⟩

/-- Behind a program that ends in one way only, and under one condition, the next one starts
there. -/
theorem ends_bind_if {p : Program I α} {f : α → Program I β} {a : α} {u : γ} {b : β} {P : Prop}
    (single : ∀ a' u', p.Ends W s a' u' ↔ P ∧ a' = a ∧ u' = u) :
    (p >>= f).Ends W s b t ↔ P ∧ (f a).Ends W u b t := by
  rw [ends_bind_iff]
  constructor
  · rintro ⟨a', u', first, second⟩
    obtain ⟨holds, rfl, rfl⟩ := (single a' u').mp first
    exact ⟨holds, second⟩
  · rintro ⟨holds, second⟩
    exact ⟨a, u, (single a u).mpr ⟨holds, rfl, rfl⟩, second⟩

/-- Behind a program that ends in one way only, the next one starts there. -/
theorem ends_bind_of {p : Program I α} {f : α → Program I β} {a : α} {u : γ} {b : β}
    (single : ∀ a' u', p.Ends W s a' u' ↔ a' = a ∧ u' = u) :
    (p >>= f).Ends W s b t ↔ (f a).Ends W u b t := by
  rw [ends_bind_if (P := True) fun a' u' => (single a' u').trans (true_and _).symm.to_iff,
    true_and]

/-- A program that ends in one way only does so as a task, with success. -/
theorem ends_liftM_if {ε : Type} {p : Program I α} {a : α} {u : γ} {result : Except ε α}
    {P : Prop} (single : ∀ a' u', p.Ends W s a' u' ↔ P ∧ a' = a ∧ u' = u) :
    (liftM p : ExceptT ε (Program I) α).run.Ends W s result t ↔
      P ∧ result = .ok a ∧ t = u := by
  change (p >>= fun a => done (.ok a)).Ends W s result t ↔ _
  rw [ends_bind_if single, ends_done_iff]

end Endings

/-! ## One run -/

/-- A way of answering calls that a world allows. -/
def World.Allows (W : World I γ) (answer : (c : I.Call) → γ → Except Fault (I.Reply c) × γ) :
    Prop :=
  ∀ c s reply, (answer c s).1 = .ok reply → W.step s c reply (answer c s).2

/-- The calls of one run, each with the state that it is made in. -/
def calls (answer : (c : I.Call) → γ → Except Fault (I.Reply c) × γ) :
    Program I α → γ → List (I.Call × γ)
  | .done _, _ => []
  | .abort _, _ => []
  | .note _ p, s => p.calls answer s
  | .call c k, s => (c, s) ::
    match answer c s with
    | (.ok reply, t) => (k reply).calls answer t
    | (.error _, _) => []

section Run

variable {W : World I γ} {answer : (c : I.Call) → γ → Except Fault (I.Reply c) × γ}

/-- The calls of a run are calls that the program may make. -/
theorem World.Allows.makes (allows : W.Allows answer) {p : Program I α} {s t : γ} {c : I.Call}
    (mem : (c, t) ∈ p.calls answer s) : p.Makes W s c t := by
  induction p generalizing s with
  | done => exact absurd mem List.not_mem_nil
  | abort => exact absurd mem List.not_mem_nil
  | note r p ih => exact .note (ih mem)
  | call d k ih =>
    rw [calls] at mem
    obtain here | later := List.mem_cons.mp mem
    · obtain ⟨rfl, rfl⟩ := Prod.mk.inj here
      exact .here
    · have step := allows d s
      rcases answered : answer d s with ⟨_ | reply, u⟩
      · simp [answered] at later
      · rw [answered] at later step
        exact .call reply u (step reply rfl) (ih reply later)

/-- The end of a run is one that the program may come to. -/
theorem World.Allows.ends (allows : W.Allows answer) {p : Program I α} {s : γ} {a : α}
    (result : (p.run answer s).result = .ok a) : p.Ends W s a (p.run answer s).state := by
  induction p generalizing s with
  | done b =>
    obtain rfl := Except.ok.inj result
    exact .done
  | abort => exact absurd result (by simp [run])
  | note r p ih => exact .note (ih result)
  | call d k ih =>
    have step := allows d s
    rcases answered : answer d s with ⟨_ | reply, u⟩
    · simp [Program.run, answered] at result
    · simp only [Program.run, answered] at result step ⊢
      exact .call reply u (step reply rfl) (ih reply result)

end Run

end Program

/-- A world together with the calls that a program may make in it. -/
structure Contract (I : Interface) (γ : Type) extends Program.World I γ where
  permits : γ → I.Call → Prop

/-- A reply that may be a failure is looked at in two cases. -/
theorem forall_except {P : Except ε α → Prop} :
    (∀ reply, P reply) ↔ (∀ a, P (.ok a)) ∧ ∀ e, P (.error e) :=
  ⟨fun h => ⟨fun a => h (.ok a), fun e => h (.error e)⟩, fun h reply => by
    cases reply with
    | ok a => exact h.1 a
    | error e => exact h.2 e⟩

/-- What holds of all replies holds of success and of each failure. -/
theorem forall_except_unit {P : Except ε Unit → Prop} :
    (∀ reply, P reply) ↔ P (.ok ()) ∧ ∀ e, P (.error e) :=
  forall_except.trans ⟨fun h => ⟨h.1 (), h.2⟩, fun h => ⟨fun _ => h.1, h.2⟩⟩

namespace Contract

variable (C : Contract I γ)

/-! ## Programs -/

/-- Started in `s`, a program makes permitted calls only, and whenever it ends with a value, `post`
holds of the value and the state. A program that stops at a fault owes no more. -/
def Keeps : Program I α → γ → (α → γ → Prop) → Prop
  | .done a, s, post => post a s
  | .abort _, _, _ => True
  | .note _ p, s, post => Keeps p s post
  | .call c k, s, post =>
    C.permits s c ∧ ∀ reply t, C.step s c reply t → Keeps (k reply) t post

variable {C}

/-- A program that is done keeps what holds of its value. -/
@[simp] theorem keeps_done (a : α) (s : γ) (post : α → γ → Prop) :
    C.Keeps (.done a) s post ↔ post a s := Iff.rfl

/-- A program that faults keeps anything. -/
@[simp] theorem keeps_abort (fault : Fault) (s : γ) (post : α → γ → Prop) :
    C.Keeps (.abort fault) s post ↔ True := Iff.rfl

/-- A log record is no step. -/
@[simp] theorem keeps_note (r : LogRecord) (p : Program I α) (s : γ) (post : α → γ → Prop) :
    C.Keeps (.note r p) s post ↔ C.Keeps p s post := Iff.rfl

/-- A call has to be permitted, and the rest to keep its promise after every reply. -/
@[simp] theorem keeps_call (c : I.Call) (k : I.Reply c → Program I α) (s : γ)
    (post : α → γ → Prop) :
    C.Keeps (.call c k) s post ↔
      C.permits s c ∧ ∀ reply t, C.step s c reply t → C.Keeps (k reply) t post := Iff.rfl

/-- A sequence keeps a contract when its first part leads to where the second one keeps it. -/
@[simp] theorem keeps_bind (p : Program I α) (f : α → Program I β) (s : γ)
    (post : β → γ → Prop) :
    C.Keeps (p >>= f) s post ↔ C.Keeps p s fun a t => C.Keeps (f a) t post := by
  induction p generalizing s with
  | done => rfl
  | abort => rfl
  | note r p ih => exact ih s
  | call c k ih =>
    simp only [Program.call_bind, keeps_call]
    exact and_congr_right fun _ => forall₃_congr fun reply t _ => ih reply t

/-- A mapped program promises what holds of the mapped value. -/
@[simp] theorem keeps_map (f : α → β) (p : Program I α) (s : γ) (post : β → γ → Prop) :
    C.Keeps (f <$> p) s post ↔ C.Keeps p s fun a => post (f a) := by
  rw [← bind_pure_comp, keeps_bind]
  rfl

/-- What a program ends with may be weakened. -/
theorem Keeps.mono {p : Program I α} {s : γ} {post post' : α → γ → Prop}
    (h : C.Keeps p s post) (weaker : ∀ a t, post a t → post' a t) : C.Keeps p s post' := by
  induction p generalizing s with
  | done a => exact weaker a s h
  | abort => trivial
  | note r p ih => exact ih h
  | call c k ih => exact ⟨h.1, fun reply t step => ih reply (h.2 reply t step)⟩

/-- A loop over a list is followed by what is known when a part of the list is left. -/
theorem keeps_forM (Left : List β → γ → Prop) {f : β → Program I PUnit}
    (each : ∀ b later s, Left (b :: later) s → C.Keeps (f b) s fun _ t => Left later t)
    {bs : List β} {s : γ} (start : Left bs s) : C.Keeps (bs.forM f) s fun _ t => Left [] t := by
  induction bs generalizing s with
  | nil => exact start
  | cons b later ih =>
    exact (keeps_bind ..).mpr ((each b later s start).mono fun _ t left => ih left)

/-- To keep a contract is to make permitted calls in every run and to end well in every run. -/
theorem keeps_iff {p : Program I α} {s : γ} {post : α → γ → Prop} :
    C.Keeps p s post ↔
      (∀ c t, p.Makes C.toWorld s c t → C.permits t c) ∧
        ∀ a t, p.Ends C.toWorld s a t → post a t := by
  constructor
  · intro h
    constructor
    · intro c t makes
      induction makes with
      | here => exact h.1
      | note _ ih => exact ih h
      | call reply u step _ ih => exact ih (h.2 reply u step)
    · intro a t ends
      induction ends with
      | done => exact h
      | note _ ih => exact ih h
      | call reply u step _ ih => exact ih (h.2 reply u step)
  · rintro ⟨calls, values⟩
    -- Runs of the rest of a program are runs of the program, one exchange later.
    induction p generalizing s with
    | done a => exact values a s .done
    | abort => trivial
    | note r p ih =>
      exact ih (fun c t makes => calls c t (.note makes)) fun a t ends => values a t (.note ends)
    | call c k ih =>
      refine ⟨calls c s .here, fun reply t step => ?_⟩
      exact ih reply (fun d u makes => calls d u (.call reply t step makes)) fun a u ends =>
        values a u (.call reply t step ends)

/-- Every call that a program comes to make is permitted. -/
theorem Keeps.permits {p : Program I α} {s t : γ} {c : I.Call} {post : α → γ → Prop}
    (h : C.Keeps p s post) (makes : p.Makes C.toWorld s c t) : C.permits t c :=
  (keeps_iff.mp h).1 c t makes

/-- Every value that a program ends with is as promised. -/
theorem Keeps.ends {p : Program I α} {s t : γ} {a : α} {post : α → γ → Prop}
    (h : C.Keeps p s post) (ends : p.Ends C.toWorld s a t) : post a t :=
  (keeps_iff.mp h).2 a t ends

/-- The calls and the values of a program may be looked at apart. -/
theorem keeps_iff_ends {p : Program I α} {s : γ} {post : α → γ → Prop} :
    C.Keeps p s post ↔
      (C.Keeps p s fun _ _ => True) ∧ ∀ a t, p.Ends C.toWorld s a t → post a t := by
  rw [keeps_iff, keeps_iff]
  simp

/-- A world without duties. -/
def free (W : Program.World I γ) : Contract I γ where
  toWorld := W
  permits _ _ := True

/-- Where nothing is forbidden, what is always true is kept. -/
theorem keeps_free {W : Program.World I γ} {p : Program I α} {s : γ} {post : α → γ → Prop}
    (always : ∀ a t, post a t) : (free W).Keeps p s post :=
  keeps_iff.mpr ⟨fun _ _ _ => trivial, fun a t _ => always a t⟩

/-- What is promised separately is promised together. -/
theorem Keeps.and {p : Program I α} {s : γ} {post post' : α → γ → Prop}
    (first : C.Keeps p s post) (second : C.Keeps p s post') :
    C.Keeps p s fun a t => post a t ∧ post' a t :=
  keeps_iff.mpr ⟨fun _ _ makes => first.permits makes, fun _ _ ends =>
    ⟨first.ends ends, second.ends ends⟩⟩

/-- Two contracts at once. -/
def both (C : Contract I γ) (D : Contract I δ) : Contract I (γ × δ) where
  step s c reply t := C.step s.1 c reply t.1 ∧ D.step s.2 c reply t.2
  permits s c := C.permits s.1 c ∧ D.permits s.2 c

/-- What two contracts promise they promise together. -/
theorem Keeps.both {D : Contract I δ} {p : Program I α} {s : γ} {u : δ} {post : α → γ → Prop}
    {post' : α → δ → Prop} (first : C.Keeps p s post) (second : D.Keeps p u post') :
    (C.both D).Keeps p (s, u) fun a x => post a x.1 ∧ post' a x.2 := by
  induction p generalizing s u with
  | done a => exact ⟨first, second⟩
  | abort => trivial
  | note r p ih => exact ih first second
  | call c k ih =>
    refine ⟨⟨first.1, second.1⟩, fun reply x step => ?_⟩
    exact ih reply (first.2 reply x.1 step.1) (second.2 reply x.2 step.2)

/-! ## From one world to another -/

/-- A contract kept in one world is kept in every world that follows it: whatever the second world
does after a call that the first permits, the first can do as well. -/
theorem Keeps.transfer {D : Contract I δ} {p : Program I α} {s : γ} {u : δ}
    {post : α → γ → Prop} (R : γ → δ → Prop)
    (follows : ∀ s u c, R s u → C.permits s c → D.permits u c ∧ ∀ reply v, D.step u c reply v →
      ∃ t, C.step s c reply t ∧ R t v)
    (h : C.Keeps p s post) (start : R s u) :
    D.Keeps p u fun a v => ∃ t, R t v ∧ post a t := by
  induction p generalizing s u with
  | done a => exact ⟨s, start, h⟩
  | abort => trivial
  | note r p ih => exact ih h start
  | call c k ih =>
    obtain ⟨permitted, answered⟩ := follows s u c start h.1
    refine ⟨permitted, fun reply v step => ?_⟩
    obtain ⟨t, step', next⟩ := answered reply v step
    exact ih reply (h.2 reply t step') next

/-- A program that keeps a contract can be followed through a world that writes down what
happens: what is known of the contract's state and the history is known at every call. -/
theorem Keeps.recorded {C : Contract I δ} {p : Program I α} {W : Program.World I γ} {u : δ}
    {s t : γ} {c : I.Call} {history : List (Exchange I γ)} {post : α → δ → Prop}
    (Known : δ → γ → List (Exchange I γ) → Prop)
    (next : ∀ u s history c reply t, Known u s history → C.permits u c → W.step s c reply t →
      ∃ v, C.step u c reply v ∧ Known v t (⟨c, reply, t⟩ :: history))
    (h : C.Keeps p u post) (start : Known u s [])
    (makes : p.Makes W.recorded (s, []) c (t, history)) :
    ∃ u, C.permits u c ∧ Known u t history := by
  let watched : Contract I (γ × List (Exchange I γ)) :=
    { W.recorded with permits := fun x c => ∃ u, C.permits u c ∧ Known u x.1 x.2 }
  have kept := h.transfer (D := watched) (u := (s, [])) (fun u x => Known u x.1 x.2) ?_ start
  · exact kept.permits makes
  · intro u x c known permitted
    refine ⟨⟨u, permitted, known⟩, fun reply y ⟨step, written⟩ => ?_⟩
    rw [written]
    exact next u x.1 x.2 c reply y.1 known permitted step

/-- The world that writes down every exchange, with duties that look at the state and the
history. -/
def watched (W : Program.World I γ) (permits : γ → List (Exchange I γ) → I.Call → Prop) :
    Contract I (γ × List (Exchange I γ)) where
  toWorld := W.recorded
  permits s := permits s.1 s.2

section Watched

variable {W : Program.World I γ} {permits : γ → List (Exchange I γ) → I.Call → Prop}
  {s : γ × List (Exchange I γ)} {c : I.Call}

/-- A watched world permits calls by what was exchanged before. -/
@[simp] theorem watched_permits : (watched W permits).permits s c ↔ permits s.1 s.2 c := Iff.rfl

/-- A watched step is a step that is remembered. -/
@[simp] theorem watched_step {reply : I.Reply c} {t : γ} {history : List (Exchange I γ)} :
    (watched W permits).step s c reply (t, history) ↔
      history = ⟨c, reply, t⟩ :: s.2 ∧ W.step s.1 c reply t := and_comm

/-- A history may be continued from what was exchanged before. -/
theorem Keeps.continued {p : Program I α} {t : γ} {earlier : List (Exchange I γ)}
    {post : α → γ × List (Exchange I γ) → Prop} (h : (watched W permits).Keeps p (t, []) post) :
    (watched W fun _ _ _ => True).Keeps p (t, earlier) fun a s =>
      ∃ own, s.2 = own ++ earlier ∧ post a (s.1, own) := by
  have kept := h.transfer (D := watched W fun _ _ _ => True) (u := (t, earlier))
    (fun s u => s.1 = u.1 ∧ u.2 = s.2 ++ earlier) ?_ ⟨rfl, rfl⟩
  · apply kept.mono
    rintro a ⟨u, history⟩ ⟨⟨u', own⟩, ⟨rfl, rfl⟩, promised⟩
    exact ⟨own, rfl, promised⟩
  · rintro ⟨s, own⟩ ⟨_, _⟩ c ⟨rfl, rfl⟩ -
    exact ⟨trivial, fun reply v step =>
      ⟨(v.1, ⟨c, reply, v.1⟩ :: own), ⟨step.1, rfl⟩, rfl, step.2⟩⟩

end Watched

/-- The contract that a program has to keep when its calls are answered by programs that have to
keep `C`: to make calls that are answered well. -/
def through (C : Contract J γ)
    (answer : (c : I.Call) → StateT σ (Program J) (I.Reply c)) : Contract I (σ × γ) where
  step s c reply t := (answer c s.1).Ends C.toWorld s.2 (reply, t.1) t.2
  permits s c := C.Keeps (answer c s.1) s.2 fun _ _ => True

/-- Answering the calls of a program is the same as running it in the world of the answers. -/
theorem keeps_interpret {C : Contract J γ}
    {answer : (c : I.Call) → StateT σ (Program J) (I.Reply c)} {p : Program I α} {x : σ} {s : γ}
    {post : α × σ → γ → Prop} :
    C.Keeps (p.interpret answer x) s post ↔
      (C.through answer).Keeps p (x, s) fun a t => post (a, t.1) t.2 := by
  induction p generalizing x s with
  | done => rfl
  | abort => rfl
  | note r p ih => exact ih
  | call c k ih =>
    simp only [Program.interpret, keeps_bind, keeps_call]
    rw [keeps_iff_ends]
    refine and_congr_right fun _ => ⟨fun h reply t ends => ?_, fun h a t ends => ?_⟩
    · exact (ih reply).mp (h (reply, t.1) t.2 ends)
    · exact (ih a.1).mpr (h a.1 (a.2, t) ends)

/-- The same for answers that keep no state. -/
def behind (C : Contract J γ) (answer : (c : I.Call) → Program J (I.Reply c)) : Contract I γ where
  step s c reply t := (answer c).Ends C.toWorld s reply t
  permits s c := C.Keeps (answer c) s fun _ _ => True

/-- An embedded program is judged by what stands behind its calls. -/
theorem keeps_embed {C : Contract J γ} {answer : (c : I.Call) → Program J (I.Reply c)}
    {p : Program I α} {s : γ} {post : α → γ → Prop} :
    C.Keeps (p.embed answer) s post ↔ (C.behind answer).Keeps p s post := by
  induction p generalizing s with
  | done => rfl
  | abort => rfl
  | note r p ih => exact ih
  | call c k ih =>
    simp only [Program.embed, keeps_bind, keeps_call]
    rw [keeps_iff_ends]
    exact and_congr_right fun _ => forall₂_congr fun reply t => imp_congr_right fun _ => ih reply

/-- A single call is its answer. -/
theorem keeps_behind_call {C : Contract J γ} {answer : (c : I.Call) → Program J (I.Reply c)}
    {c : I.Call} {s : γ} {post : I.Reply c → γ → Prop} :
    (C.behind answer).Keeps (.call c .done) s post ↔ C.Keeps (answer c) s post := by
  rw [← keeps_embed, Program.embed, keeps_bind]
  rfl

/-- What every answer keeps true stays true, whatever is asked for. -/
theorem keeps_interpret_known {C : Contract J γ}
    {answer : (c : I.Call) → StateT σ (Program J) (I.Reply c)} {p : Program I α} {x : σ} {s : γ}
    (Known : σ → γ → Prop)
    (answered : ∀ c x s, Known x s → C.Keeps (answer c x) s fun out t => Known out.2 t)
    (start : Known x s) : C.Keeps (p.interpret answer x) s fun out t => Known out.2 t := by
  induction p generalizing x s with
  | done => exact start
  | abort => trivial
  | note r p ih => exact ih start
  | call c k ih =>
    rw [Program.interpret, keeps_bind]
    exact (answered c x s start).mono fun out t known => ih out.1 known

/-- A program that keeps a contract keeps it also when its calls are answered by programs, if the
answers do what the contract's world may do. -/
theorem Keeps.interpret {D : Contract J δ}
    {answer : (c : I.Call) → StateT σ (Program J) (I.Reply c)} {p : Program I α} {s : γ} {x : σ}
    {u : δ} {post : α → γ → Prop} (R : γ → σ → δ → Prop)
    (answered : ∀ s x u c, R s x u → C.permits s c →
      D.Keeps (answer c x) u fun a v => ∃ t, C.step s c a.1 t ∧ R t a.2 v)
    (h : C.Keeps p s post) (start : R s x u) :
    D.Keeps (p.interpret answer x) u fun a v => ∃ t, R t a.2 v ∧ post a.1 t := by
  rw [keeps_interpret]
  refine h.transfer (D := D.through answer) (u := (x, u)) (fun s y => R s y.1 y.2) ?_ start
  intro s y c r permitted
  have answered := answered s y.1 y.2 c r permitted
  exact ⟨answered.mono fun _ _ _ => trivial, fun reply v ends => answered.ends ends⟩

variable (C)

/-! ## Programs that may fail -/

/-- `Keeps` for a program that may fail: `good` is promised of its values and `bad` of its
errors. -/
def KeepsTask (task : ExceptT ε (Program I) α) (s : γ) (good : α → γ → Prop)
    (bad : ε → γ → Prop) : Prop :=
  C.Keeps task.run s fun
    | .ok a, t => good a t
    | .error e, t => bad e t

variable {C}

/-- A value is a success. -/
@[simp] theorem keepsTask_pure (a : α) (s : γ) (good : α → γ → Prop) (bad : ε → γ → Prop) :
    C.KeepsTask (pure a) s good bad ↔ good a s := Iff.rfl

/-- An error is a failure. -/
@[simp] theorem keepsTask_throw (e : ε) (s : γ) (good : α → γ → Prop) (bad : ε → γ → Prop) :
    C.KeepsTask (throw e) s good bad ↔ bad e s := Iff.rfl

/-- A task goes on only after a success. -/
@[simp] theorem keepsTask_bind (task : ExceptT ε (Program I) α)
    (f : α → ExceptT ε (Program I) β) (s : γ) (good : β → γ → Prop) (bad : ε → γ → Prop) :
    C.KeepsTask (task >>= f) s good bad ↔
      C.KeepsTask task s (fun a t => C.KeepsTask (f a) t good bad) bad := by
  unfold KeepsTask
  rw [ExceptT.run_bind, keeps_bind]
  exact ⟨fun h => h.mono fun r _ => by cases r <;> exact id,
    fun h => h.mono fun r _ => by cases r <;> exact id⟩

/-- A lifted program succeeds. -/
@[simp] theorem keepsTask_lift (p : Program I α) (s : γ) (good : α → γ → Prop)
    (bad : ε → γ → Prop) :
    C.KeepsTask (ExceptT.lift p) s good bad ↔ C.Keeps p s good := by
  unfold KeepsTask
  rw [ExceptT.run_lift, ← bind_pure_comp, keeps_bind]
  rfl

/-- So it does when it is lifted by coercion. -/
@[simp] theorem keepsTask_liftM (p : Program I α) (s : γ) (good : α → γ → Prop)
    (bad : ε → γ → Prop) :
    C.KeepsTask (liftM p : ExceptT ε (Program I) α) s good bad ↔ C.Keeps p s good :=
  keepsTask_lift p s good bad

/-- To run a task is to look at its result. -/
theorem keepsTask_run {task : ExceptT ε (Program I) α} {s : γ} {post : Except ε α → γ → Prop} :
    C.Keeps task.run s post ↔
      C.KeepsTask task s (fun a => post (.ok a)) fun e => post (.error e) := by
  unfold KeepsTask
  exact ⟨fun h => h.mono fun r _ => by cases r <;> exact id,
    fun h => h.mono fun r _ => by cases r <;> exact id⟩

/-- Promises of a task may be weakened. -/
theorem KeepsTask.mono {task : ExceptT ε (Program I) α} {s : γ} {good good' : α → γ → Prop}
    {bad bad' : ε → γ → Prop} (h : C.KeepsTask task s good bad)
    (values : ∀ a t, good a t → good' a t) (errors : ∀ e t, bad e t → bad' e t) :
    C.KeepsTask task s good' bad' :=
  Keeps.mono h fun r t => by
    cases r with
    | ok a => exact values a t
    | error e => exact errors e t

/-- Where nothing is forbidden, a task keeps what is always true. -/
theorem keepsTask_free {W : Program.World I γ} {task : ExceptT ε (Program I) α} {s : γ}
    {good : α → γ → Prop} {bad : ε → γ → Prop} (values : ∀ a t, good a t)
    (errors : ∀ e t, bad e t) : (free W).KeepsTask task s good bad :=
  keeps_free fun r t => by
    cases r with
    | ok a => exact values a t
    | error e => exact errors e t

/-- A value that a task ends with is as promised. -/
theorem KeepsTask.ends_ok {task : ExceptT ε (Program I) α} {s t : γ} {a : α}
    {good : α → γ → Prop} {bad : ε → γ → Prop} (h : C.KeepsTask task s good bad)
    (ends : task.run.Ends C.toWorld s (.ok a) t) : good a t := by
  unfold KeepsTask at h
  have promised := h.ends ends
  exact promised

/-- An error that a task ends with is as promised. -/
theorem KeepsTask.ends_error {task : ExceptT ε (Program I) α} {s t : γ} {e : ε}
    {good : α → γ → Prop} {bad : ε → γ → Prop} (h : C.KeepsTask task s good bad)
    (ends : task.run.Ends C.toWorld s (.error e) t) : bad e t := by
  unfold KeepsTask at h
  have promised := h.ends ends
  exact promised

/-- Every call that a task comes to make is permitted. -/
theorem KeepsTask.permits {task : ExceptT ε (Program I) α} {s t : γ} {c : I.Call}
    {good : α → γ → Prop} {bad : ε → γ → Prop} (h : C.KeepsTask task s good bad)
    (makes : task.run.Makes C.toWorld s c t) : C.permits t c := Keeps.permits h makes

variable (C)

/-! ## Programs that may fail and keep a state -/

/-- `Keeps` for a program that may fail and keeps a state of its own, also when it fails. -/
def KeepsOp (op : Stateful σ I ε α) (x : σ) (s : γ) (good : α → σ → γ → Prop)
    (bad : ε → σ → γ → Prop) : Prop :=
  C.Keeps (op.run x) s fun
    | (.ok a, y), t => good a y t
    | (.error e, y), t => bad e y t

variable {C} {x : σ} {s : γ} {good : α → σ → γ → Prop} {bad : ε → σ → γ → Prop}

/-- A value leaves the state as it is. -/
@[simp] theorem keepsOp_pure (a : α) : C.KeepsOp (pure a) x s good bad ↔ good a x s := Iff.rfl

/-- So does an error. -/
@[simp] theorem keepsOp_throw (e : ε) : C.KeepsOp (throw e) x s good bad ↔ bad e x s := Iff.rfl

/-- An operation goes on only after a success, from the state it left. -/
@[simp] theorem keepsOp_bind {good : β → σ → γ → Prop} (op : Stateful σ I ε α)
    (f : α → Stateful σ I ε β) :
    C.KeepsOp (op >>= f) x s good bad ↔
      C.KeepsOp op x s (fun a y t => C.KeepsOp (f a) y t good bad) bad := by
  unfold KeepsOp
  have run_bind : (op >>= f).run x = op.run x >>= fun r => match r with
      | (.ok a, y) => (f a).run y
      | (.error e, y) => .done (.error e, y) := by
    change op.run x >>= _ = _
    congr 1
    funext r
    obtain ⟨r, y⟩ := r
    cases r <;> rfl
  rw [run_bind, keeps_bind]
  exact ⟨fun h => h.mono fun r _ => by obtain ⟨_ | _, _⟩ := r <;> exact id,
    fun h => h.mono fun r _ => by obtain ⟨_ | _, _⟩ := r <;> exact id⟩

/-- A mapped operation succeeds with the mapped value. -/
@[simp] theorem keepsOp_map {good : β → σ → γ → Prop} (f : α → β) (op : Stateful σ I ε α) :
    C.KeepsOp (f <$> op) x s good bad ↔ C.KeepsOp op x s (fun a => good (f a)) bad := by
  rw [← bind_pure_comp, keepsOp_bind]
  rfl

/-- Reading the state yields it. -/
@[simp] theorem keepsOp_get {good : σ → σ → γ → Prop} :
    C.KeepsOp (get : Stateful σ I ε σ) x s good bad ↔ good x x s := Iff.rfl

/-- Setting the state replaces it. -/
@[simp] theorem keepsOp_set {good : Unit → σ → γ → Prop} (y : σ) :
    C.KeepsOp (set y : Stateful σ I ε PUnit) x s good bad ↔ good () y s := Iff.rfl

/-- Modifying the state applies the function to it. -/
@[simp] theorem keepsOp_modify {good : Unit → σ → γ → Prop} (f : σ → σ) :
    C.KeepsOp (modify f : Stateful σ I ε PUnit) x s good bad ↔ good () (f x) s := Iff.rfl

/-- A program succeeds and leaves the state as it is. -/
@[simp] theorem keepsOp_ofProgram (p : Program I α) :
    C.KeepsOp (.ofProgram p) x s good bad ↔ C.Keeps p s fun a t => good a x t := by
  unfold KeepsOp
  exact keeps_bind ..

/-- A task leaves the state as it is, however it ends. -/
@[simp] theorem keepsOp_ofTask (task : ExceptT ε (Program I) α) :
    C.KeepsOp (.ofTask task) x s good bad ↔
      C.KeepsTask task s (fun a t => good a x t) fun e t => bad e x t := by
  unfold KeepsOp KeepsTask
  apply (keeps_bind ..).trans
  exact ⟨fun h => h.mono fun r _ => by cases r <;> exact id,
    fun h => h.mono fun r _ => by cases r <;> exact id⟩

/-- An action succeeds and changes the state. -/
@[simp] theorem keepsOp_ofAction (action : StateT σ (Program I) α) :
    C.KeepsOp (.ofAction action) x s good bad ↔
      C.Keeps (action x) s fun a t => good a.1 a.2 t := by
  unfold KeepsOp
  exact keeps_bind ..

/-- A result is a success or a failure. -/
@[simp] theorem keepsOp_ofResult (result : Except ε α) :
    C.KeepsOp (.ofResult result) x s good bad ↔
      match result with
      | .ok a => good a x s
      | .error e => bad e x s := by
  cases result <;> rfl

/-- Logging leaves the state as it is. -/
@[simp] theorem keepsOp_log {good : Unit → σ → γ → Prop} (level : LogLevel) (text : String) :
    C.KeepsOp (.log level text : Stateful σ I ε Unit) x s good bad ↔ good () x s := Iff.rfl

/-- An attempt succeeds with the result, and keeps the state that a failure left. -/
@[simp] theorem keepsOp_attempt {good : Except ε α → σ → γ → Prop} (op : Stateful σ I ε α) :
    C.KeepsOp op.attempt x s good bad ↔
      C.KeepsOp op x s (fun a => good (.ok a)) fun e => good (.error e) := by
  unfold KeepsOp
  apply (keeps_bind ..).trans
  exact ⟨fun h => h.mono fun r _ => by obtain ⟨_ | _, _⟩ := r <;> exact id,
    fun h => h.mono fun r _ => by obtain ⟨_ | _, _⟩ := r <;> exact id⟩

/-- An operation on a part changes that part, however it ends. -/
@[simp] theorem keepsOp_onPart {π : Type} (read : σ → π) (write : π → σ → σ)
    (op : Stateful π I ε α) :
    C.KeepsOp (op.onPart read write) x s good bad ↔
      C.KeepsOp op (read x) s (fun a part => good a (write part x))
        fun e part => bad e (write part x) := by
  unfold KeepsOp
  apply (keeps_bind ..).trans
  exact ⟨fun h => h.mono fun r _ => by obtain ⟨_ | _, _⟩ := r <;> exact id,
    fun h => h.mono fun r _ => by obtain ⟨_ | _, _⟩ := r <;> exact id⟩

/-- To run an operation is to look at its result. -/
theorem keeps_run {op : Stateful σ I ε α} {post : Except ε α × σ → γ → Prop} :
    C.Keeps (op.run x) s post ↔
      C.KeepsOp op x s (fun a y => post (.ok a, y)) fun e y => post (.error e, y) := by
  unfold KeepsOp
  exact ⟨fun h => h.mono fun r _ => by obtain ⟨_ | _, _⟩ := r <;> exact id,
    fun h => h.mono fun r _ => by obtain ⟨_ | _, _⟩ := r <;> exact id⟩

/-- Promises of an operation may be weakened. -/
theorem KeepsOp.mono {op : Stateful σ I ε α} {good' : α → σ → γ → Prop}
    {bad' : ε → σ → γ → Prop} (h : C.KeepsOp op x s good bad)
    (values : ∀ a y t, good a y t → good' a y t) (errors : ∀ e y t, bad e y t → bad' e y t) :
    C.KeepsOp op x s good' bad' :=
  Keeps.mono h fun r t => by
    obtain ⟨r, y⟩ := r
    cases r with
    | ok a => exact values a y t
    | error e => exact errors e y t

/-- A value that an operation ends with is as promised. -/
theorem KeepsOp.ends_ok {op : Stateful σ I ε α} {y : σ} {t : γ} {a : α}
    (h : C.KeepsOp op x s good bad) (ends : (op.run x).Ends C.toWorld s (.ok a, y) t) :
    good a y t := by
  unfold KeepsOp at h
  have promised := h.ends ends
  exact promised

/-- An error that an operation ends with is as promised. -/
theorem KeepsOp.ends_error {op : Stateful σ I ε α} {y : σ} {t : γ} {e : ε}
    (h : C.KeepsOp op x s good bad) (ends : (op.run x).Ends C.toWorld s (.error e, y) t) :
    bad e y t := by
  unfold KeepsOp at h
  have promised := h.ends ends
  exact promised

/-- Every call that an operation comes to make is permitted. -/
theorem KeepsOp.permits {op : Stateful σ I ε α} {t : γ} {c : I.Call}
    (h : C.KeepsOp op x s good bad) (makes : (op.run x).Makes C.toWorld s c t) : C.permits t c :=
  Keeps.permits h makes

/-- Where nothing is forbidden, an operation keeps what is always true. -/
theorem keepsOp_free {W : Program.World I γ} {op : Stateful σ I ε α}
    (values : ∀ a y t, good a y t) (errors : ∀ e y t, bad e y t) :
    (free W).KeepsOp op x s good bad :=
  keeps_free fun r t => by
    obtain ⟨_ | _, y⟩ := r
    · exact errors _ y t
    · exact values _ y t

/-- A loop over a list is followed by what is known when a part of the list is left. -/
theorem keepsOp_forM (Left : List β → σ → γ → Prop) {f : β → Stateful σ I ε PUnit}
    (each : ∀ b later x s, Left (b :: later) x s →
      C.KeepsOp (f b) x s (fun _ y t => Left later y t) bad)
    {bs : List β} (start : Left bs x s) :
    C.KeepsOp (bs.forM f) x s (fun _ y t => Left [] y t) bad := by
  induction bs generalizing x s with
  | nil => exact start
  | cons b later ih =>
    apply (keepsOp_bind ..).mpr
    exact (each b later x s start).mono (fun _ y t left => ih left) fun _ _ _ => id

end Contract

end PaintPresenter
