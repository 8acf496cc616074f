import PaintPresenter.Proofs.DriverConduct
import PaintPresenter.Proofs.Protocol
import PaintPresenter.Proofs.Queue

/-!
# One frame in flight

A stack never has two frames pending. What ties the calls together is the fence of its gate: it is
signaled only while no frame is pending and the semaphore of the next image is not in use. A wait
that succeeds finds it so; from there to the submission nothing of the frame is pending, whatever
fails in between.
-/

namespace PaintPresenter.Vulkan

/-- What a call has to find so that no two frames meet, `frames` being the command buffer that
frames are recorded into. -/
structure SingleFrame (frames : Handle .commandBuffer) (s : QueueState) (c : DriverCall) :
    Prop where
  single : s.pending.Pairwise fun v w => ¬(v.Uses frames ∧ w.Uses frames)
  submit : ∀ queue work, c = .perform (.submit queue work) → work.fence ≠ .null →
    work.fence.object ∉ s.signaled ∧ ∀ w ∈ s.pending, w.fence ≠ work.fence
  record : c = .perform (.resetCommands frames) ∨ c = .perform (.beginCommands frames) →
    ∀ w ∈ s.pending, ¬w.Uses frames
  acquire : ∀ swapchain timeoutNs semaphore, c = .acquire swapchain timeoutNs semaphore →
    semaphore.object ∉ s.signaled ∧ ∀ w ∈ s.pending, ¬w.WaitsFor semaphore

/-- The driver that works off a queue, together with what its calls have to find. -/
def frameContract (frames : Handle .commandBuffer) : Contract Driver QueueState where
  toWorld := queueWorld
  permits := SingleFrame frames

/-! ## The invariant -/

section Invariant

variable (gate : FrameGate) (frames : Handle .commandBuffer)

/-- Work that has nothing to do with a frame. -/
structure Apart (w : Submission) : Prop where
  fence : w.fence = .null
  commands : ¬w.Uses frames
  waits : ¬w.WaitsFor gate.imageAvailable
  signals : w.signals = []

/-- Work that is a frame of the gate. -/
structure IsFrame (w : Submission) : Prop where
  fence : w.fence = gate.inFlight
  waits : w.WaitsFor gate.imageAvailable
  signals : w.signals = [gate.renderFinished]

/-- No frame is pending. -/
def Quiet (s : QueueState) : Prop := ∀ w ∈ s.pending, Apart gate frames w

/-- What holds between any two calls: at most one frame is pending, and none while the fence is
signaled. -/
structure Stable (s : QueueState) : Prop where
  real : ∀ o ∈ s.live, o.number ≠ 0
  commands : frames.object ∈ s.live
  distinct : gate.inFlight.object ∈ s.live → gate.imageAvailable ≠ gate.renderFinished
  known : ∀ w ∈ s.pending, Apart gate frames w ∨ IsFrame gate w
  single : s.pending.Pairwise fun v w => Apart gate frames v ∨ Apart gate frames w
  armed : gate.inFlight.object ∈ s.live → gate.inFlight.object ∈ s.signaled →
    Quiet gate frames s ∧ gate.imageAvailable.object ∉ s.signaled

/-- What holds when the fence was found signaled: the last frame is finished. -/
structure Finished (s : QueueState) : Prop extends Stable gate frames s where
  fenceLive : gate.inFlight.object ∈ s.live
  quiet : Quiet gate frames s
  free : gate.imageAvailable.object ∉ s.signaled

/-- What holds from a successful wait to the submission. -/
structure Unsubmitted (s : QueueState) : Prop extends Stable gate frames s where
  fenceLive : gate.inFlight.object ∈ s.live
  unsignaled : gate.inFlight.object ∉ s.signaled
  quiet : Quiet gate frames s

/-- What holds from a successful wait to the acquire. -/
structure Waited (s : QueueState) : Prop extends Unsubmitted gate frames s where
  free : gate.imageAvailable.object ∉ s.signaled

end Invariant

/-- What holds while the gate's objects are made: nothing is pending. -/
structure Idle (kept : List (Handle .commandBuffer)) (s : QueueState) : Prop where
  real : ∀ o ∈ s.live, o.number ≠ 0
  commands : ∀ buffer ∈ kept, buffer.object ∈ s.live
  nothing : s.pending = []

/-- A new gate, fit for the first frame. -/
structure Armed (gate : FrameGate) (kept : List (Handle .commandBuffer)) (s : QueueState) : Prop
    extends Idle kept s where
  distinct : gate.imageAvailable ≠ gate.renderFinished
  free : gate.imageAvailable.object ∉ s.signaled

variable {gate : FrameGate} {frames : Handle .commandBuffer} {s t : QueueState}
  {kept : List (Handle .commandBuffer)}

/-- A new gate is fit for frames. -/
theorem Armed.stable (h : Armed gate kept s) (mem : frames ∈ kept) : Stable gate frames s where
  real := h.real
  commands := h.commands frames mem
  distinct _ := h.distinct
  known w pending := absurd pending (by simp [h.nothing])
  single := by
    rw [h.nothing]
    exact .nil
  armed _ _ := ⟨fun w pending => absurd pending (by simp [h.nothing]), h.free⟩

/-- Without a gate nothing can be waited for. -/
theorem Idle.stable (h : Idle kept s) (mem : frames ∈ kept) : Stable {} frames s where
  real := h.real
  commands := h.commands frames mem
  distinct live := absurd rfl (h.real _ live)
  known w pending := absurd pending (by simp [h.nothing])
  single := by
    rw [h.nothing]
    exact .nil
  armed live _ := absurd rfl (h.real _ live)

/-- With nothing pending the queue is idle. -/
theorem Stable.idle (h : Stable gate frames s) (nothing : s.pending = []) : Idle [frames] s where
  real := h.real
  commands _ mem := List.mem_singleton.mp mem ▸ h.commands
  nothing := nothing

/-! ## Work that finishes -/

private theorem mem_settle {w : Submission} {signaled : List Object} {o : Object} :
    o ∈ QueueState.settle w signaled ↔
      o = w.fence.object ∨ (∃ semaphore ∈ w.signals, semaphore.object = o) ∨
        (o ∈ signaled ∧ ∀ semaphore, w.WaitsFor semaphore → semaphore.object ≠ o) := by
  simp [QueueState.settle, Submission.WaitsFor]

/-- A fence and a semaphore are never the same object. -/
theorem fence_ne_semaphore (fence : Handle .fence) (semaphore : Handle .semaphore) :
    semaphore.object ≠ fence.object := by
  simp [Handle.object]

/-- A fence that exists is not null. -/
theorem ne_null_of_live {fence : Handle .fence} (real : ∀ o ∈ s.live, o.number ≠ 0)
    (live : fence.object ∈ s.live) : fence ≠ .null := by
  rintro rfl
  exact real _ live rfl

private theorem settle_apart {w : Submission} (apart : Apart gate frames w)
    (used : gate.imageAvailable.object ∉ s.signaled) :
    gate.imageAvailable.object ∉ QueueState.settle w s.signaled := by
  rw [mem_settle, apart.signals]
  rintro (same | ⟨_, none, -⟩ | ⟨signaled, -⟩)
  · exact fence_ne_semaphore _ _ same
  · exact absurd none List.not_mem_nil
  · exact used signaled

private theorem settle_frame {w : Submission} (frame : IsFrame gate w)
    (distinct : gate.imageAvailable ≠ gate.renderFinished) :
    gate.imageAvailable.object ∉ QueueState.settle w s.signaled := by
  rw [mem_settle, frame.signals]
  rintro (same | ⟨semaphore, finished, same⟩ | ⟨-, used⟩)
  · exact fence_ne_semaphore _ _ same
  · rw [List.mem_singleton.mp finished, Handle.object_inj] at same
    exact distinct same.symm
  · exact used _ frame.waits rfl

-- A fence that becomes signaled when work finishes was the fence of the work, or signaled before.
private theorem fence_of_settle {w : Submission} {fence : Handle .fence}
    (signaled : fence.object ∈ QueueState.settle w s.signaled) :
    w.fence = fence ∨ fence.object ∈ s.signaled := by
  obtain same | ⟨semaphore, -, same⟩ | ⟨signaled, -⟩ := mem_settle.mp signaled
  · exact .inl (Handle.object_inj.mp same.symm)
  · exact absurd same (fence_ne_semaphore _ _)
  · exact .inr signaled

/-- Work that finishes leaves a gate stable. -/
theorem stable_lasting : QueueState.Lasting (Stable gate frames) := by
  rintro s _ h ⟨w, before, after, here⟩
  have left {v : Submission} (mem : v ∈ before ++ after) : v ∈ s.pending := by
    rw [here]
    exact ((List.sublist_cons_self w after).append_left before).subset mem
  have others := h.single
  rw [here, List.pairwise_middle Or.symm, List.pairwise_cons] at others
  refine ⟨h.real, h.commands, h.distinct, fun v mem => h.known v (left mem), others.2, ?_⟩
  intro live signaled
  obtain own | signaled := fence_of_settle signaled
  · have notApart : ¬Apart gate frames w := by
      intro apart
      exact ne_null_of_live h.real live (own ▸ apart.fence)
    have frame := (h.known w (by simp [here])).resolve_left notApart
    exact ⟨fun v mem => (others.1 v mem).resolve_left notApart,
      settle_frame frame (h.distinct live)⟩
  · obtain ⟨quiet, free⟩ := h.armed live signaled
    exact ⟨fun v mem => quiet v (left mem), settle_apart (quiet w (by simp [here])) free⟩

/-- Work that finishes leaves the last frame finished. -/
theorem finished_lasting : QueueState.Lasting (Finished gate frames) := by
  intro s t h finish
  have stable := stable_lasting s t h.toStable finish
  obtain ⟨w, before, after, here⟩ := finish
  have left : (before ++ after).Sublist s.pending := by
    rw [here]
    exact (List.sublist_cons_self w after).append_left before
  exact ⟨stable, h.fenceLive, fun v mem => h.quiet v (left.subset mem),
    settle_apart (h.quiet w (by simp [here])) h.free⟩

/-- Work that finishes submits nothing. -/
theorem unsubmitted_lasting : QueueState.Lasting (Unsubmitted gate frames) := by
  intro s t h finish
  have stable := stable_lasting s t h.toStable finish
  obtain ⟨w, before, after, here⟩ := finish
  have gone := h.quiet w (by simp [here])
  have left : (before ++ after).Sublist s.pending := by
    rw [here]
    exact (List.sublist_cons_self w after).append_left before
  refine ⟨stable, h.fenceLive, fun signaled => ?_, fun v mem => h.quiet v (left.subset mem)⟩
  obtain own | signaled := fence_of_settle signaled
  · exact ne_null_of_live h.real h.fenceLive (own ▸ gone.fence)
  · exact h.unsignaled signaled

/-- Work that finishes leaves a gate waited for. -/
theorem waited_lasting : QueueState.Lasting (Waited gate frames) := by
  intro s t h finish
  have unsubmitted := unsubmitted_lasting s t h.toUnsubmitted finish
  obtain ⟨w, before, after, here⟩ := finish
  exact ⟨unsubmitted, settle_apart (h.quiet w (by simp [here])) h.free⟩

/-- Nothing is left to finish while the queue is idle. -/
theorem idle_lasting : QueueState.Lasting (Idle kept) :=
  QueueState.lasting_of_idle fun _ => Idle.nothing

/-- Nothing is left to finish with a new gate. -/
theorem armed_lasting : QueueState.Lasting (Armed gate kept) :=
  QueueState.lasting_of_idle fun _ h => h.nothing

/-! ## Calls -/

/-- A handle that is not null names an object with a number. -/
theorem number_ne_zero {kind : ObjectKind} {handle : Handle kind}
    (made : handle ≠ .null) : handle.object.number ≠ 0 := by
  obtain ⟨number⟩ := handle
  rintro (rfl : number = 0)
  exact made rfl

/-- Only objects that exist are ever live. -/
theorem real_of_effect {c : DriverCall} {reply : c.Reply} (real : ∀ o ∈ s.live, o.number ≠ 0)
    (effect : s.Effect c reply t) : ∀ o ∈ t.live, o.number ≠ 0 := by
  cases c with
  | create request =>
    cases reply with
    | error result => exact (show t = s from effect) ▸ real
    | ok handle =>
      obtain ⟨made, -, rfl⟩ := effect
      intro o mem
      obtain rfl | old := List.mem_cons.mp mem
      · exact number_ne_zero made
      · exact real o old
  | release o =>
    obtain rfl : t = _ := effect
    exact fun o mem => real o (List.mem_filter.mp mem).1
  | freeCommands pool buffer =>
    obtain rfl : t = _ := effect
    exact fun o mem => real o (List.mem_filter.mp mem).1
  | perform operation =>
    cases reply with
    | error result => exact (show t = s from effect) ▸ real
    | ok =>
      cases operation with
      | waitForFence fence timeoutNs => exact effect.2.2 ▸ real
      | resetFence fence => exact (show t = _ from effect) ▸ real
      | submit queue work => exact (show t = _ from effect) ▸ real
      | queueIdle queue => exact effect.2 ▸ real
      | deviceIdle => exact effect.2 ▸ real
      | _ => exact (show t = s from effect) ▸ real
  | acquire swapchain timeoutNs semaphore =>
    cases reply with
    | ok image => exact (show t = _ from effect) ▸ real
    | error result => exact (show t = s from effect) ▸ real
  | present queue wait swapchain image =>
    cases reply with
    | ok suboptimal => exact (show t = _ from effect) ▸ real
    | error result =>
      obtain rfl | rfl := effect
      · exact real
      · exact real
  | _ => exact (show t = s from effect) ▸ real

/-- Calls that may be made at any time. -/
def Plain : DriverCall → Prop
  | .perform (.submit _ _) => False
  | .perform (.resetCommands _) => False
  | .perform (.beginCommands _) => False
  | .acquire _ _ _ => False
  | _ => True

/-- Plain calls have nothing to do with frames. -/
theorem singleFrame_of_plain {c : DriverCall}
    (single : s.pending.Pairwise fun v w => ¬(v.Uses frames ∧ w.Uses frames))
    (plain : Plain c) : SingleFrame frames s c where
  single := single
  submit := by
    rintro queue work rfl
    exact plain.elim
  record := by
    rintro (rfl | rfl)
    · exact plain.elim
    · exact plain.elim
  acquire := by
    rintro swapchain timeoutNs semaphore rfl
    exact plain.elim

/-- No two pending submissions use the frame's commands. -/
theorem Stable.uses (h : Stable gate frames s) :
    s.pending.Pairwise fun v w => ¬(v.Uses frames ∧ w.Uses frames) :=
  h.single.imp fun apart both => apart.elim (·.commands both.1) (·.commands both.2)

/-- Nor do any while the queue is idle. -/
theorem Idle.uses (h : Idle kept s) :
    s.pending.Pairwise fun v w => ¬(v.Uses frames ∧ w.Uses frames) := by
  rw [h.nothing]
  exact .nil

/-- Objects other than the gate's may come and go, and signals may go. -/
theorem Stable.of_objects (h : Stable gate frames s) {live signaled : List Object}
    (real : ∀ o ∈ live, o.number ≠ 0) (commands : frames.object ∈ live)
    (fence : gate.inFlight.object ∈ live → gate.inFlight.object ∈ s.live)
    (fewer : signaled ⊆ s.signaled) : Stable gate frames ⟨live, signaled, s.pending⟩ where
  real := real
  commands := commands
  distinct present := h.distinct (fence present)
  known := h.known
  single := h.single
  armed present raised :=
    have ⟨quiet, free⟩ := h.armed (fence present) (fewer raised)
    ⟨quiet, fun used => free (fewer used)⟩

/-- Work apart from frames may be submitted. -/
theorem Stable.push (h : Stable gate frames s) {w : Submission}
    (apart : Apart gate frames w) :
    Stable gate frames { s with pending := s.pending ++ [w] } where
  real := h.real
  commands := h.commands
  distinct := h.distinct
  known v mem := by
    obtain old | new := List.mem_append.mp mem
    · exact h.known v old
    · exact .inl (List.mem_singleton.mp new ▸ apart)
  single := by
    rw [List.pairwise_append]
    refine ⟨h.single, List.pairwise_singleton _ _, fun v _ u new => ?_⟩
    exact .inr (List.mem_singleton.mp new ▸ apart)
  armed live raised := by
    obtain ⟨quiet, free⟩ := h.armed live raised
    refine ⟨fun v mem => ?_, free⟩
    obtain old | new := List.mem_append.mp mem
    · exact quiet v old
    · exact List.mem_singleton.mp new ▸ apart

/-- Only fences are made signaled. -/
theorem signaledWith_subset {request : Creation} (o : Object) (signaled : List Object)
    (other : request.kind ≠ .fence) : QueueState.signaledWith request o signaled ⊆ signaled := by
  cases request with
  | fence signaled => exact absurd rfl other
  | _ => exact fun _ mem => (List.mem_filter.mp mem).1

/-- A signal may be taken away. -/
theorem Stable.reset (h : Stable gate frames s) (o : Object) :
    Stable gate frames { s with signaled := s.signaled.filter (· ≠ o) } :=
  h.of_objects h.real h.commands id fun _ mem => (List.mem_filter.mp mem).1

/-- Any object but the frame's commands may be released. -/
theorem Stable.drop (h : Stable gate frames s) {o : Object} (other : frames.object ≠ o) :
    Stable gate frames { s with live := s.live.filter (· ≠ o) } := by
  refine h.of_objects (fun p mem => h.real p (List.mem_filter.mp mem).1) ?_
    (fun mem => (List.mem_filter.mp mem).1) (List.Subset.refl _)
  exact List.mem_filter.mpr ⟨h.commands, by simpa using other⟩

end PaintPresenter.Vulkan
