import PaintPresenter.Proofs.SizeRequests
import PaintPresenter.Proofs.StaleSwapchain

/-!
# Rebuilds that are owed to a resize

A rebuild at a size that the window asked for may fail, and leaves a stack without a swapchain. It
is owed until a rebuild succeeds: the size stays pending, and the next frame tries again. But a
request for the size that the stack reports drops the pending one, also when the stack reports the
size of a rebuild that failed. `resize_owed_iff_cancelled` says that a frame goes on while a rebuild
is owed exactly after such a request.
-/

namespace PaintPresenter

variable {τ ρ γ : Type}

/-! ## Chronicles -/

/-- A request and what was exchanged with the stack to serve it, latest first. -/
structure Served (τ ρ γ : Type) where
  request : Renderer.Request
  own : List (Exchange (Graphics τ ρ) γ)

/-- From one state of renderer and stack, serving these requests, listed latest first, may lead to
another. -/
inductive Serves (W : Program.World (Graphics τ ρ) γ) (start : Renderer τ) (s : γ) :
    List (Served τ ρ γ) → Renderer τ → γ → Prop
  | nothing : Serves W start s [] start s
  | next {earlier : List (Served τ ρ γ)} {r r' : Renderer τ} {t u : γ}
      {request : Renderer.Request} {own : List (Exchange (Graphics τ ρ) γ)}
      (served : Serves W start s earlier r t)
      (performed : (Renderer.perform request r).Ends W.recorded (t, []) ((), r') (u, own)) :
      Serves W start s (⟨request, own⟩ :: earlier) r' u

namespace Served

/-- A rebuild succeeded. -/
def Rebuilds (x : Served τ ρ γ) : Prop := ∃ exchange ∈ x.own, exchange.Rebuilds

/-- A frame began with a rebuild that failed: it was made for the size that was pending, since any
other rebuild comes after a question for the size in use. -/
def FailsResize (x : Served τ ρ γ) : Prop :=
  x.request = .beginFrame ∧ ∃ extent e after, x.own = [⟨.rebuild extent, .error e, after⟩]

/-- The window asked for the size that the stack reported. -/
def AsksForCurrent (x : Served τ ρ γ) : Prop :=
  ∃ extent after, x.request = .requestSize extent ∧ x.own = [⟨.extent, extent, after⟩]

/-- The window asked for another size than the one that the stack reported. -/
def AsksForOther (x : Served τ ρ γ) : Prop :=
  ∃ extent current after, x.request = .requestSize extent ∧ x.own = [⟨.extent, current, after⟩] ∧
    extent ≠ current

end Served

/-- The rebuild for a resize failed, and no rebuild succeeded since. -/
def ResizeOwed : List (Served τ ρ γ) → Prop
  | [] => False
  | x :: earlier => x.FailsResize ∨ (¬x.Rebuilds ∧ ResizeOwed earlier)

/-- While the rebuild for a resize was owed, the window asked for the size that the stack reported.
It asked for no other size and no rebuild succeeded since. -/
def ResizeCancelled : List (Served τ ρ γ) → Prop
  | [] => False
  | x :: earlier => (x.AsksForCurrent ∧ ResizeOwed earlier) ∨
    (¬x.AsksForOther ∧ ¬x.Rebuilds ∧ ResizeCancelled earlier)

/-- To ask for the size in use rebuilds nothing. -/
theorem Served.AsksForCurrent.not_rebuilds {x : Served τ ρ γ} (asks : x.AsksForCurrent) :
    ¬x.Rebuilds := by
  obtain ⟨extent, after, -, own⟩ := asks
  simp [Rebuilds, own, Exchange.Rebuilds]

/-- What was cancelled is still owed. -/
theorem resizeOwed_of_cancelled {history : List (Served τ ρ γ)}
    (cancelled : ResizeCancelled history) : ResizeOwed history := by
  induction history with
  | nil => exact cancelled
  | cons x earlier ih =>
    obtain ⟨asks, owed⟩ | ⟨-, rebuildsNot, cancelled⟩ := cancelled
    · exact .inr ⟨asks.not_rebuilds, owed⟩
    · exact .inr ⟨rebuildsNot, ih cancelled⟩

/-! ## One request -/

/-- What serving a request has to do with the pending size before and after it. -/
structure Served.Accounts (x : Served τ ρ γ) (before after : Renderer τ) : Prop where
  failed : x.FailsResize → after.pendingSize ≠ none
  current : x.AsksForCurrent → after.pendingSize = none
  other : x.AsksForOther → after.pendingSize ≠ none
  same : ¬x.AsksForCurrent → ¬x.AsksForOther → ¬x.Rebuilds →
    after.pendingSize = before.pendingSize

section Requests

variable {r r' : Renderer τ} {request : Renderer.Request}
  {own : List (Exchange (Graphics τ ρ) γ)}

/-- A request that has nothing to do with sizes keeps the pending one. -/
theorem Served.Accounts.of_sizeless (sizeless : request.Sizeless)
    (same : r'.pendingSize = r.pendingSize) :
    (⟨request, own⟩ : Served τ ρ γ).Accounts r r' where
  failed := by
    rintro ⟨rfl, -⟩
    exact sizeless.elim
  current := by
    rintro ⟨extent, after, rfl, -⟩
    exact sizeless.elim
  other := by
    rintro ⟨extent, current, after, rfl, -⟩
    exact sizeless.elim
  same _ _ _ := same

/-- A request for a size drops the pending one or replaces it. -/
theorem Served.Accounts.of_requestSize (extent current : Extent) (after : γ) :
    (⟨.requestSize extent, [⟨.extent, current, after⟩]⟩ : Served τ ρ γ).Accounts r
      { r with pendingSize := if extent = current then none else some extent } where
  failed := by
    rintro ⟨⟨⟩, -⟩
  current := by
    rintro ⟨_, _, ⟨⟩, ⟨⟩⟩
    exact if_pos rfl
  other := by
    rintro ⟨_, _, _, ⟨⟩, ⟨⟩, differs⟩
    simp [if_neg differs]
  same notCurrent notOther := by
    by_cases inUse : extent = current
    · subst inUse
      exact absurd ⟨extent, after, rfl, rfl⟩ notCurrent
    · exact absurd ⟨extent, current, after, rfl, rfl, inUse⟩ notOther

/-- Of a frame it is enough to know what its rebuilds did. -/
theorem Served.Accounts.of_frame
    (failed : (⟨.beginFrame, own⟩ : Served τ ρ γ).FailsResize → r'.pendingSize ≠ none)
    (same : ¬(⟨.beginFrame, own⟩ : Served τ ρ γ).Rebuilds → r'.pendingSize = r.pendingSize) :
    (⟨.beginFrame, own⟩ : Served τ ρ γ).Accounts r r' where
  failed := failed
  current := by
    rintro ⟨_, _, ⟨⟩, -⟩
  other := by
    rintro ⟨_, _, _, ⟨⟩, -⟩
  same _ _ := same

end Requests

/-- A frame that goes on has made the rebuild that was due, if one was. -/
structure Settled (r : Renderer τ) (own : List (Exchange (Graphics τ ρ) γ)) : Prop where
  notFailed : ¬(⟨.beginFrame, own⟩ : Served τ ρ γ).FailsResize
  rebuilt : (⟨.beginFrame, own⟩ : Served τ ρ γ).Rebuilds ↔
    r.pendingSize ≠ none ∨ r.rebuildOwed = true

/-- A frame has waited after it made the rebuild that was due. -/
inductive WentOn (r : Renderer τ) : List (Exchange (Graphics τ ρ) γ) → Prop
  | waited {own : List (Exchange (Graphics τ ρ) γ)} (settled : Settled r own)
      (reply : Except GraphicsError Unit) (after : γ) :
      WentOn r (⟨.waitForPrevious, reply, after⟩ :: own)
  | later {own : List (Exchange (Graphics τ ρ) γ)} (wentOn : WentOn r own)
      (x : Exchange (Graphics τ ρ) γ) : WentOn r (x :: own)

section Frame

variable {r r' : Renderer τ} {own : List (Exchange (Graphics τ ρ) γ)}

/-- The wait changes nothing about the rebuild. -/
theorem Settled.waited (settled : Settled r own) (reply : Except GraphicsError Unit) (after : γ) :
    Settled r (⟨.waitForPrevious, reply, after⟩ :: own) where
  notFailed := by
    rintro ⟨-, _, _, _, ⟨⟩⟩
  rebuilt := by
    rw [← settled.rebuilt]
    simp [Served.Rebuilds, Exchange.Rebuilds]

private theorem WentOn.not_failsResize (wentOn : WentOn r own) :
    ¬(⟨.beginFrame, own⟩ : Served τ ρ γ).FailsResize := by
  rintro ⟨-, extent, e, after, only⟩
  obtain rfl : own = _ := only
  cases wentOn with
  | later wentOn => cases wentOn

private theorem WentOn.rebuilds (wentOn : WentOn r own) (pending : r.pendingSize ≠ none) :
    (⟨.beginFrame, own⟩ : Served τ ρ γ).Rebuilds := by
  induction wentOn with
  | waited settled reply after =>
    obtain ⟨x, mem, rebuilds⟩ := settled.rebuilt.mpr (.inl pending)
    exact ⟨x, List.mem_cons_of_mem _ mem, rebuilds⟩
  | later wentOn y ih =>
    obtain ⟨x, mem, rebuilds⟩ := ih
    exact ⟨x, List.mem_cons_of_mem _ mem, rebuilds⟩

/-- Whatever comes of a frame that went on, nothing is pending. -/
theorem WentOn.accounts (wentOn : WentOn r own) (settled : r'.pendingSize = none) :
    (⟨.beginFrame, own⟩ : Served τ ρ γ).Accounts r r' := by
  refine .of_frame (fun failed => absurd failed wentOn.not_failsResize) fun rebuildsNot => ?_
  rw [settled]
  cases pending : r.pendingSize with
  | none => rfl
  | some extent => exact absurd (wentOn.rebuilds (by simp [pending])) rebuildsNot

end Frame

/-- A frame waits and acquires only when the rebuild that was due is made. -/
def SettledFirst (r : Renderer τ) (own : List (Exchange (Graphics τ ρ) γ)) :
    GraphicsCall τ → Prop
  | .waitForPrevious => Settled r own
  | .acquire => Settled r own
  | _ => True

namespace Contract

open Renderer

variable {W : Program.World (Graphics τ ρ) γ} {r : Renderer τ} {t : γ}

private theorem settleRebuild_accounts :
    (watched W fun _ => SettledFirst r).KeepsOp settleRebuild r (t, [])
      (fun _ r' y => r'.pendingSize = none ∧ Settled r y.2)
      fun _ r' y => (⟨.beginFrame, y.2⟩ : Served τ ρ γ).Accounts r r' := by
  rw [keepsOp_settleRebuild]
  cases pending : r.pendingSize with
  | some extent =>
    simp only [keepsTask_rebuild, watched_permits, Prod.forall, watched_step, and_imp, forall_eq]
    refine ⟨trivial, fun u rebuilt => ⟨trivial, ?_, ?_⟩, fun e u failed => ?_⟩
    · rintro ⟨-, _, _, _, ⟨⟩⟩
    · simp [pending, Served.Rebuilds, Exchange.Rebuilds]
    · exact .of_frame (fun _ => by simp [pending]) fun _ => rfl
  | none =>
    by_cases owed : r.rebuildOwed = true
    · simp only [owed, if_true, keeps_extent, keepsTask_rebuild, watched_permits, Prod.forall,
        watched_step, and_imp, forall_eq]
      refine ⟨trivial, fun extent u asked => ⟨trivial, fun v rebuilt => ⟨trivial, ?_, ?_⟩,
        fun e v failed => .of_frame ?_ fun _ => rfl⟩⟩
      · rintro ⟨-, _, _, _, ⟨⟩⟩
      · simp [owed, Served.Rebuilds, Exchange.Rebuilds]
      · rintro ⟨-, _, _, _, ⟨⟩⟩
    · rw [if_neg owed]
      refine ⟨rfl, ?_, ?_⟩
      · rintro ⟨-, _, _, _, ⟨⟩⟩
      · simp [pending, owed, Served.Rebuilds]

private theorem beginFrame_accounts :
    (watched W fun _ => SettledFirst r).KeepsOp beginFrame r (t, [])
      (fun _ r' y => (⟨.beginFrame, y.2⟩ : Served τ ρ γ).Accounts r r')
      fun _ r' y => (⟨.beginFrame, y.2⟩ : Served τ ρ γ).Accounts r r' := by
  have untouched : (⟨.beginFrame, []⟩ : Served τ ρ γ).Accounts r r := by
    refine .of_frame ?_ fun _ => rfl
    rintro ⟨-, _, _, _, ⟨⟩⟩
  rw [keepsOp_beginFrame]
  by_cases closed : r.closed = true
  · simpa [closed] using untouched
  by_cases busy : r.active.isSome = true
  · simpa [closed, busy] using untouched
  by_cases minimized : r.minimized = true
  · simpa [closed, busy, minimized] using untouched
  rw [if_neg closed, if_neg busy, if_neg minimized]
  refine settleRebuild_accounts.mono ?_ fun _ _ _ => id
  rintro _ r' ⟨t, own⟩ ⟨unpending, settled⟩
  -- From here on nothing is pending, and each way to the end has the wait behind it.
  simp only [keepsTask_waitForPrevious, keepsTask_acquire, keepsOp_record, keepsTask_beginPass,
    keeps_extent, keepsTask_rebuild, watched_permits, Prod.forall, watched_step, and_imp, forall_eq]
  refine ⟨settled, fun u waited => ?_, fun e u failed => ?_⟩
  · have wentOn := WentOn.waited settled (.ok ()) u
    refine ⟨settled.waited (.ok ()) u, fun image v acquired => ⟨trivial, ?_, ?_⟩, ?_⟩
    · exact fun recording w begun => ⟨trivial, fun extent x asked =>
        (((wentOn.later _).later _).later _).accounts unpending⟩
    · exact fun e w failed => ((wentOn.later _).later _).accounts unpending
    · intro e v failed
      split
      · exact ⟨trivial, fun extent w asked => ⟨trivial, fun x rebuilt =>
          (((wentOn.later _).later _).later _).accounts unpending, fun e x failed =>
          (((wentOn.later _).later _).later _).accounts unpending⟩⟩
      · exact (wentOn.later _).accounts unpending
  · exact (WentOn.waited settled (.error e) u).accounts unpending

private theorem served_accounts (request : Request) :
    (free W.recorded).Keeps (perform request r) (t, []) fun out y =>
      (⟨request, y.2⟩ : Served τ ρ γ).Accounts r out.2 := by
  by_cases sizeless : request.Sizeless
  · have kept := keeps_of_unrebuilt (C := free W.recorded) (s := (t, []))
      (perform_unrebuilt (ρ := ρ) (r := r) sizeless) (fun _ => True) (by simp [free]) trivial
    apply kept.mono
    rintro ⟨_, r'⟩ y ⟨same, -⟩
    exact .of_sizeless sizeless same
  · cases request with
    | requestSize extent =>
      rw [perform, keeps_requestSize, keeps_extent]
      refine ⟨trivial, ?_⟩
      rintro current y ⟨-, written⟩
      rw [written]
      exact .of_requestSize extent current y.1
    | beginFrame =>
      refine keeps_iff.mpr ⟨fun _ _ _ => trivial, fun out y ends => ?_⟩
      have kept : (watched W fun _ => SettledFirst r).Keeps (perform .beginFrame r) (t, [])
          fun out y => (⟨.beginFrame, y.2⟩ : Served τ ρ γ).Accounts r out.2 :=
        keeps_ignoring.mpr beginFrame_accounts
      exact kept.ends ends
    | _ => exact absurd trivial sizeless

end Contract

/-! ## Every run -/

section Run

variable {W : Program.World (Graphics τ ρ) γ} {r r' : Renderer τ} {x : Served τ ρ γ}
  {earlier : List (Served τ ρ γ)}

/-- What the pending size says of a rebuild that is owed: it is due unless it was cancelled. -/
structure DebtKnown (history : List (Served τ ρ γ)) (r : Renderer τ) : Prop where
  owed : ResizeOwed history → r.pendingSize ≠ none ∨ ResizeCancelled history
  cancelled : ResizeCancelled history → r.pendingSize = none

private theorem DebtKnown.next (known : DebtKnown earlier r) (accounts : x.Accounts r r') :
    DebtKnown (x :: earlier) r' where
  owed := by
    rintro (failed | ⟨rebuildsNot, owed⟩)
    · exact .inl (accounts.failed failed)
    by_cases current : x.AsksForCurrent
    · exact .inr (.inl ⟨current, owed⟩)
    by_cases other : x.AsksForOther
    · exact .inl (accounts.other other)
    rw [accounts.same current other rebuildsNot]
    exact (known.owed owed).imp_right fun cancelled => .inr ⟨other, rebuildsNot, cancelled⟩
  cancelled := by
    rintro (⟨current, -⟩ | ⟨other, rebuildsNot, cancelled⟩)
    · exact accounts.current current
    by_cases current : x.AsksForCurrent
    · exact accounts.current current
    · exact (accounts.same current other rebuildsNot).trans (known.cancelled cancelled)

private theorem debtKnown_of_serves {s t : γ} {clearColor : Color}
    (served : Serves W { clearColor } s earlier r t) : DebtKnown earlier r := by
  induction served with
  | nothing => exact ⟨False.elim, False.elim⟩
  | next _ performed ih => exact ih.next ((Contract.served_accounts _).ends performed)

/-- Whatever is asked of a renderer, and whatever fails: a frame waits or acquires while the rebuild
for a resize is owed exactly when the window asked for the size that the stack reported and no other
rebuild is due. -/
theorem resize_owed_iff_cancelled {s t u : γ} {clearColor : Color}
    (served : Serves W { clearColor } s earlier r t) {call : GraphicsCall τ}
    (goesOn : call = .waitForPrevious ∨ call = .acquire) {own : List (Exchange (Graphics τ ρ) γ)}
    (makes : ((Renderer.beginFrame : Renderer.Task τ ρ _).run r).Makes W.recorded (t, []) call
      (u, own)) :
    ResizeOwed (⟨.beginFrame, own⟩ :: earlier) ↔
      ResizeCancelled earlier ∧ r.rebuildOwed = false := by
  have known := debtKnown_of_serves served
  have settled : Settled r own := by
    have permitted : SettledFirst r own call := by
      have kept := Contract.beginFrame_accounts (W := W) (r := r) (t := t)
      unfold Contract.KeepsOp at kept
      exact kept.permits makes
    obtain rfl | rfl := goesOn
    · exact permitted
    · exact permitted
  -- The frame itself repays the debt unless there is nothing that makes it rebuild.
  have due : ¬(⟨.beginFrame, own⟩ : Served τ ρ γ).Rebuilds ↔
      r.pendingSize = none ∧ r.rebuildOwed = false := by
    rw [settled.rebuilt]
    simp
  rw [ResizeOwed, due]
  constructor
  · rintro (failed | ⟨⟨unpending, fits⟩, owed⟩)
    · exact absurd failed settled.notFailed
    · exact ⟨(known.owed owed).resolve_left fun pending => pending unpending, fits⟩
  · rintro ⟨cancelled, fits⟩
    exact .inr ⟨⟨known.cancelled cancelled, fits⟩, resizeOwed_of_cancelled cancelled⟩

end Run

/-! ## A rebuild that is dropped -/

/-- A stack that replies what it likes, and whose size is that of its last rebuild, also when that
rebuild failed. -/
def hastyStack (τ ρ : Type) : Program.World (Graphics τ ρ) Extent where
  step before call reply after :=
    match call with
    | .rebuild extent => after = extent
    | call => SizeRule call reply before after

/-- The window asks for a size, the rebuild at it fails, and the window asks for it again. -/
def askedAgain : List (Served Unit Unit Extent) :=
  [⟨.requestSize ⟨8, 8⟩, [⟨.extent, ⟨8, 8⟩, ⟨8, 8⟩⟩]⟩,
    ⟨.beginFrame, [⟨.rebuild ⟨8, 8⟩, .error .timeout, ⟨8, 8⟩⟩]⟩,
    ⟨.requestSize ⟨8, 8⟩, [⟨.extent, ⟨4, 4⟩, ⟨4, 4⟩⟩]⟩]

private theorem serves_askedAgain :
    Serves (hastyStack Unit Unit) { clearColor := .black } ⟨4, 4⟩ askedAgain
      { clearColor := .black } ⟨8, 8⟩ := by
  refine .next (r := { clearColor := .black, pendingSize := some ⟨8, 8⟩ }) (t := ⟨8, 8⟩)
    (.next (r := { clearColor := .black, pendingSize := some ⟨8, 8⟩ }) (t := ⟨4, 4⟩)
      (.next .nothing ?_) ?_) ?_
  · refine .call ⟨4, 4⟩ (⟨4, 4⟩, [⟨.extent, ⟨4, 4⟩, ⟨4, 4⟩⟩]) ⟨⟨rfl, rfl⟩, rfl⟩ ?_
    exact .done
  · refine .call (.error .timeout) (⟨8, 8⟩, [⟨.rebuild ⟨8, 8⟩, .error .timeout, ⟨8, 8⟩⟩])
      ⟨rfl, rfl⟩ ?_
    exact .done
  · refine .call ⟨8, 8⟩ (⟨8, 8⟩, [⟨.extent, ⟨8, 8⟩, ⟨8, 8⟩⟩]) ⟨⟨rfl, rfl⟩, rfl⟩ ?_
    exact .done

private theorem resizeCancelled_askedAgain : ResizeCancelled askedAgain :=
  .inl ⟨⟨⟨8, 8⟩, ⟨8, 8⟩, rfl, rfl⟩, .inl ⟨rfl, ⟨8, 8⟩, .timeout, ⟨8, 8⟩, rfl⟩⟩

/-- A resize whose rebuild failed, and which is then asked for again, is still owed. -/
theorem resize_owed_askedAgain : ResizeOwed (⟨.beginFrame, []⟩ :: askedAgain) :=
  (resize_owed_iff_cancelled serves_askedAgain (.inl rfl) .here).mpr
    ⟨resizeCancelled_askedAgain, rfl⟩

/-- Not every frame that goes on finds the rebuild for a resize made. -/
theorem exists_cancelled_resize :
    ¬∀ (history : List (Served Unit Unit Extent)) (r : Renderer Unit) (t u : Extent)
      (own : List (Exchange (Graphics Unit Unit) Extent)),
      Serves (hastyStack Unit Unit) { clearColor := .black } ⟨4, 4⟩ history r t →
      ((Renderer.beginFrame : Renderer.Task Unit Unit _).run r).Makes
        (hastyStack Unit Unit).recorded (t, []) .waitForPrevious (u, own) →
      ¬ResizeOwed (⟨.beginFrame, own⟩ :: history) := by
  intro made
  apply made _ _ _ _ [] serves_askedAgain .here
  refine .inr ⟨?_, resizeOwed_of_cancelled resizeCancelled_askedAgain⟩
  simp [Served.Rebuilds]

end PaintPresenter
