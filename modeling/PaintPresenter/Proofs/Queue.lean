import Mathlib.Logic.Relation
import PaintPresenter.Proofs.DriverConduct

/-!
# A driver that works off a queue

What a driver does with submissions, fences and semaphores. Work handed to it is pending until it
finishes, which may happen at any time; work that finishes uses up the semaphores that it waited
for and signals its own semaphores and its fence. A call that fails has no effect, except that a
failed present may still have queued its wait. Everything else a driver may reply as it likes.
-/

namespace PaintPresenter.Vulkan

namespace Submission

/-- The work waits for a semaphore. -/
def WaitsFor (w : Submission) (semaphore : Handle .semaphore) : Prop :=
  semaphore ∈ w.waits.map Prod.fst

/-- The work executes a command buffer. -/
def Uses (w : Submission) (buffer : Handle .commandBuffer) : Prop := buffer ∈ w.commands

/-- An image queued for presentation only waits. -/
def presentation (wait : Handle .semaphore) : Submission :=
  { waits := [(wait, .colorOutput)], commands := [] }

end Submission

/-- What a driver keeps of the objects that order its work. -/
structure QueueState where
  live : List Object := []
  /-- The fences and semaphores that are signaled. -/
  signaled : List Object := []
  pending : List Submission := []

namespace QueueState

/-- The signals after some work has finished. -/
def settle (w : Submission) (signaled : List Object) : List Object :=
  w.fence.object :: w.signals.map Handle.object ++
    signaled.filter (· ∉ w.waits.map (·.1.object))

/-- One of the pending submissions finishes. -/
inductive Finish : QueueState → QueueState → Prop
  | one {s : QueueState} (w : Submission) (before after : List Submission)
      (here : s.pending = before ++ w :: after) :
      Finish s { s with pending := before ++ after, signaled := settle w s.signaled }

/-- Any number of the pending submissions finish. -/
abbrev Progress : QueueState → QueueState → Prop := Relation.ReflTransGen Finish

/-- What an operation that succeeds finds and does. -/
def Does (s : QueueState) : Operation → QueueState → Prop
  | .waitForFence fence _, t => fence.object ∈ s.live ∧ fence.object ∈ s.signaled ∧ t = s
  | .resetFence fence, t => t = { s with signaled := s.signaled.filter (· ≠ fence.object) }
  | .submit _ work, t => t = { s with pending := s.pending ++ [work] }
  | .queueIdle _, t => s.pending = [] ∧ t = s
  | .deviceIdle, t => s.pending = [] ∧ t = s
  | _, t => t = s

/-- The signals after an object was made: only a fence can be made signaled. -/
def signaledWith (request : Creation) (o : Object) (signaled : List Object) : List Object :=
  match request with
  | .fence true => o :: signaled
  | _ => signaled.filter (· ≠ o)

/-- What a call and its reply do. -/
def Effect (s : QueueState) : (c : DriverCall) → c.Reply → QueueState → Prop
  | .create request, .ok handle, t =>
    handle ≠ .null ∧ handle.object ∉ s.live ∧ t = { s with
      live := handle.object :: s.live
      signaled := signaledWith request handle.object s.signaled }
  | .release object, (), t => t = { s with live := s.live.filter (· ≠ object) }
  | .freeCommands _ buffer, (), t => t = { s with live := s.live.filter (· ≠ buffer.object) }
  | .perform operation, .ok (), t => s.Does operation t
  | .acquire _ _ semaphore, .ok _, t => t = { s with signaled := semaphore.object :: s.signaled }
  | .present _ wait _ _, .ok _, t =>
    t = { s with pending := s.pending ++ [.presentation wait] }
  | .present _ wait _ _, .error _, t =>
    t = s ∨ t = { s with pending := s.pending ++ [.presentation wait] }
  | _, _, t => t = s

/-- What holds and goes on to hold whatever work finishes. -/
def Lasting (P : QueueState → Prop) : Prop := ∀ s t, P s → Finish s t → P t

/-- What lasts still holds after any progress. -/
theorem Lasting.progress {P : QueueState → Prop} (lasting : Lasting P) {s t : QueueState}
    (progress : Progress s t) (h : P s) : P t := by
  induction progress with
  | refl => exact h
  | tail _ finish ih => exact lasting _ _ ih finish

/-- Two things that last do so together. -/
theorem Lasting.and {P Q : QueueState → Prop} (p : Lasting P) (q : Lasting Q) :
    Lasting fun s => P s ∧ Q s :=
  fun s t h finish => ⟨p s t h.1 finish, q s t h.2 finish⟩

/-- Work that finishes releases nothing. -/
theorem live_lasting (o : Object) : Lasting fun s => o ∈ s.live := by
  rintro s _ live ⟨w, before, after, here⟩
  exact live

/-- Without pending work nothing can finish. -/
theorem lasting_of_idle {P : QueueState → Prop} (idle : ∀ s, P s → s.pending = []) :
    Lasting P := by
  rintro s _ h ⟨w, before, after, here⟩
  exact absurd (idle s h) (by simp [here])

end QueueState

/-- The driver as a world: work may finish before and after what a call does. -/
def queueWorld : Program.World Driver QueueState where
  step s c reply t :=
    ∃ u v, QueueState.Progress s u ∧ u.Effect c reply v ∧ QueueState.Progress v t

/-- Whatever work finishes around a call, it is enough to look at what the call does. -/
theorem queueWorld_step {P Q : QueueState → Prop} (before : QueueState.Lasting P)
    (after : QueueState.Lasting Q) {s t : QueueState} {c : DriverCall} {reply : c.Reply}
    (step : queueWorld.step s c reply t) (h : P s)
    (effect : ∀ u v, P u → u.Effect c reply v → Q v) : Q t := by
  obtain ⟨u, v, first, does, later⟩ := step
  exact after.progress later (effect u v (before.progress first h) does)

/-- A call that does nothing leaves what lasts. -/
theorem queueWorld_still {P : QueueState → Prop} (lasting : QueueState.Lasting P)
    {s t : QueueState} {c : DriverCall} {reply : c.Reply} (step : queueWorld.step s c reply t)
    (h : P s) (still : ∀ u v : QueueState, u.Effect c reply v → v = u) : P t :=
  queueWorld_step lasting lasting step h fun u v h effect => still u v effect ▸ h

/-! ## A driver that obliges -/

namespace QueueState

/-- A number that no live object has. -/
def fresh (s : QueueState) : Nat := (s.live.map Object.number).foldr max 0 + 1

/-- Work is done at once. -/
def finish (w : Submission) (s : QueueState) : QueueState :=
  { s with signaled := settle w s.signaled }

/-- Lets everything succeed, as far as it can. -/
def oblige : (c : DriverCall) → QueueState → Except Fault c.Reply × QueueState
  | .create request, s =>
    let made : Handle request.kind := ⟨s.fresh⟩
    (.ok (.ok made), { s with
      live := made.object :: s.live
      signaled := signaledWith request made.object s.signaled })
  | .release o, s => (.ok (), { s with live := s.live.filter (· ≠ o) })
  | .perform (.waitForFence fence _), s =>
    (.ok (if fence.object ∈ s.live ∧ fence.object ∈ s.signaled then .ok () else .error .timeout), s)
  | .perform (.resetFence fence), s =>
    (.ok (.ok ()), { s with signaled := s.signaled.filter (· ≠ fence.object) })
  | .perform (.submit _ work), s => (.ok (.ok ()), s.finish work)
  | .perform _, s => (.ok (if s.pending = [] then .ok () else .error .timeout), s)
  | .acquire _ _ semaphore, s =>
    (.ok (.ok ⟨0, false⟩), { s with signaled := semaphore.object :: s.signaled })
  | .present _ wait _ _, s => (.ok (.ok false), s.finish (.presentation wait))
  | .freeCommands _ buffer, s => (.ok (), { s with live := s.live.filter (· ≠ buffer.object) })
  | c, s => (.ok (c.granted s.fresh), s)

/-- A fresh number is larger than those of all objects that exist. -/
theorem number_lt_fresh {s : QueueState} {o : Object} (mem : o ∈ s.live) :
    o.number < s.fresh := by
  have bound : ∀ live : List Object, o ∈ live →
      o.number ≤ (live.map Object.number).foldr max 0 := by
    intro live mem
    induction live with
    | nil => exact absurd mem List.not_mem_nil
    | cons p later ih =>
      simp only [List.map_cons, List.foldr_cons]
      obtain rfl | mem := List.mem_cons.mp mem
      · omega
      · have := ih mem
        omega
  exact Nat.lt_succ_of_le (bound s.live mem)

-- Work that is done at once was pending for a moment.
private theorem progress_finish (w : Submission) (s : QueueState) :
    Progress { s with pending := s.pending ++ [w] } (s.finish w) := by
  have finished := Finish.one (s := { s with pending := s.pending ++ [w] }) w s.pending [] rfl
  rw [List.append_nil] at finished
  exact .single finished

end QueueState

/-- The obliging driver does what the queue world allows. -/
theorem queueWorld_allows_oblige : queueWorld.Allows QueueState.oblige := by
  intro c s reply answered
  have at_once {t : QueueState} (effect : s.Effect c reply t) : queueWorld.step s c reply t :=
    ⟨s, t, .refl, effect, .refl⟩
  cases c with
  | create request =>
    obtain rfl := Except.ok.inj answered
    refine at_once ⟨?_, ?_, rfl⟩
    · simp [Handle.null, QueueState.fresh]
    · intro live
      exact absurd (QueueState.number_lt_fresh live) (Nat.lt_irrefl _)
  | perform operation =>
    have waited {P : Prop} [Decidable P] {t : QueueState}
        (ok : P → s.Effect (.perform operation) (.ok ()) t) (same : t = s)
        (answered : (if P then .ok () else .error .timeout) = reply) :
        queueWorld.step s (.perform operation) reply t := by
      by_cases h : P
      · rw [if_pos h] at answered
        exact answered ▸ ⟨s, t, .refl, ok h, .refl⟩
      · rw [if_neg h] at answered
        exact answered ▸ ⟨s, t, .refl, same, .refl⟩
    cases operation with
    | waitForFence fence timeoutNs =>
      exact waited (fun h => ⟨h.1, h.2, rfl⟩) rfl (Except.ok.inj answered)
    | resetFence fence =>
      obtain rfl := Except.ok.inj answered
      exact at_once rfl
    | submit queue work =>
      obtain rfl := Except.ok.inj answered
      exact ⟨s, _, .refl, rfl, QueueState.progress_finish ..⟩
    | queueIdle queue => exact waited (fun h => ⟨h, rfl⟩) rfl (Except.ok.inj answered)
    | deviceIdle => exact waited (fun h => ⟨h, rfl⟩) rfl (Except.ok.inj answered)
    | _ => exact waited (fun _ => rfl) rfl (Except.ok.inj answered)
  | present queue wait swapchain image =>
    obtain rfl := Except.ok.inj answered
    exact ⟨s, _, .refl, rfl, QueueState.progress_finish ..⟩
  | _ =>
    obtain rfl := Except.ok.inj answered
    exact at_once rfl

end PaintPresenter.Vulkan
