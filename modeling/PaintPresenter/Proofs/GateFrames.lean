import PaintPresenter.Proofs.Bystanders

/-!
# The gate of a frame

One rule for each operation of a gate on a driver that works off a queue: what the gate is fit for
before it and after it, whether it succeeds or fails.
-/

namespace PaintPresenter.Vulkan

variable {gate : FrameGate} {frames : Handle .commandBuffer} {s t : QueueState}
  {kept : List (Handle .commandBuffer)}

/-! ## Operations of the gate -/

/-- A wait that succeeds finds the last frame finished and the gate ready for the next one. -/
theorem keeps_waitForPrevious (h : Stable gate frames s) (timeoutNs : Nat) :
    (frameContract frames).KeepsTask (gate.waitForPrevious timeoutNs) s
      (fun _ t => Waited gate frames t) fun _ t => Stable gate frames t := by
  rw [FrameGate.waitForPrevious, Contract.keepsTask_bind, Contract.keepsTask_perform]
  refine ⟨singleFrame_of_plain h.uses trivial, fun t step => ?_,
    fun result t step => queueWorld_still stable_lasting step h fun _ _ => id⟩
  have finished : Finished gate frames t := by
    apply queueWorld_step stable_lasting finished_lasting step h
    intro u v h effect
    obtain ⟨live, signaled, rfl⟩ := effect
    obtain ⟨quiet, free⟩ := h.armed live signaled
    exact ⟨h, live, quiet, free⟩
  rw [Contract.keepsTask_perform]
  refine ⟨?_, fun u step => ?_, fun result u step =>
    queueWorld_still stable_lasting step finished.toStable fun _ _ => id⟩
  · exact singleFrame_of_plain finished.uses trivial
  · apply queueWorld_step finished_lasting waited_lasting step finished
    intro u v h effect
    obtain rfl : v = _ := effect
    exact {
      toStable := h.reset _
      fenceLive := h.fenceLive
      unsignaled := by simp
      quiet := h.quiet
      free := fun used => h.free (List.mem_filter.mp used).1 }

private theorem stable_releases :
    (frameContract frames).Releases (· ≠ .commandBuffer) (Stable gate frames) := by
  intro s o other h
  refine ⟨singleFrame_of_plain h.uses trivial, fun t step => ?_⟩
  apply queueWorld_step stable_lasting stable_lasting step h
  intro u v h effect
  obtain rfl : v = _ := effect
  exact h.drop fun same => other (congrArg Object.kind same).symm

private theorem Apart.renew {w : Submission} (h : Apart gate frames w) (fresh : Handle .fence) :
    Apart { gate with inFlight := fresh } frames w := ⟨h.fence, h.commands, h.waits, h.signals⟩

private theorem Waited.renew (h : Waited gate frames s) {fresh : Handle .fence}
    (made : fresh ≠ .null) :
    Stable { gate with inFlight := fresh } frames
      { s with live := fresh.object :: s.live, signaled := fresh.object :: s.signaled } where
  real o mem := by
    obtain rfl | old := List.mem_cons.mp mem
    · exact number_ne_zero made
    · exact h.real o old
  commands := List.mem_cons_of_mem _ h.commands
  distinct _ := h.distinct h.fenceLive
  known w mem := .inl ((h.quiet w mem).renew fresh)
  single := List.pairwise_of_forall_mem_list fun v mem _ _ => .inl ((h.quiet v mem).renew fresh)
  armed _ _ := by
    refine ⟨fun w mem => (h.quiet w mem).renew fresh, fun used => ?_⟩
    obtain same | used := List.mem_cons.mp used
    · exact fence_ne_semaphore _ _ same
    · exact h.free used

/-- An acquire that succeeds leaves the gate ready for the submission, and one that fails leaves
it as after a frame, with a fence of its own. -/
theorem keeps_acquire (h : Waited gate frames s) (swapchain : Handle .swapchain)
    (timeoutNs : Nat) :
    (frameContract frames).KeepsOp (FrameGate.acquire swapchain timeoutNs) gate s
      (fun _ g t => g = gate ∧ Unsubmitted gate frames t) fun _ g t => Stable g frames t := by
  rw [FrameGate.acquire, Contract.keepsOp_bind, Contract.keepsOp_get, Contract.keepsOp_bind,
    Contract.keepsOp_ofProgram, Contract.keeps_ask]
  refine ⟨?_, fun reply t step => ?_⟩
  · refine ⟨h.uses, by rintro _ _ ⟨⟩, fun record => record.elim nofun nofun, ?_⟩
    rintro _ _ _ ⟨⟩
    exact ⟨h.free, fun w mem => (h.quiet w mem).waits⟩
  cases reply with
  | ok image =>
    refine ⟨rfl, queueWorld_step waited_lasting unsubmitted_lasting step h fun u v h effect => ?_⟩
    obtain rfl : v = _ := effect
    have unsignaled : gate.inFlight.object ∉ gate.imageAvailable.object :: u.signaled :=
      fun raised => (List.mem_cons.mp raised).elim (fun same => fence_ne_semaphore _ _ same.symm)
        h.unsignaled
    exact {
      real := h.real
      commands := h.commands
      distinct := h.distinct
      known := h.known
      single := h.single
      armed := fun _ raised => absurd raised unsignaled
      fenceLive := h.fenceLive
      unsignaled
      quiet := h.quiet }
  | error result =>
    have waited : Waited gate frames t := queueWorld_still waited_lasting step h fun _ _ => id
    simp only [Contract.keepsOp_bind, Contract.keepsOp_onDriver, Contract.keepsOp_replaceFence,
      Contract.keepsOp_throw]
    refine (Contract.keepsTask_create _).mpr ⟨singleFrame_of_plain waited.uses trivial,
      fun fresh u step => ?_, fun result u step =>
        queueWorld_still stable_lasting step waited.toStable fun _ _ => id⟩
    apply stable_releases.unlessNull _ (by simp)
    apply queueWorld_step waited_lasting stable_lasting step waited
    intro u v h effect
    obtain ⟨made, -, rfl⟩ := effect
    exact h.renew made

private theorem Unsubmitted.submit (h : Unsubmitted gate frames s) {w : Submission}
    (frame : IsFrame gate w) :
    Stable gate frames { s with pending := s.pending ++ [w] } where
  real := h.real
  commands := h.commands
  distinct := h.distinct
  known v mem := by
    obtain old | new := List.mem_append.mp mem
    · exact .inl (h.quiet v old)
    · exact .inr (List.mem_singleton.mp new ▸ frame)
  single := by
    rw [List.pairwise_append]
    exact ⟨h.single, List.pairwise_singleton _ _, fun v old _ _ => .inl (h.quiet v old)⟩
  armed _ raised := absurd raised h.unsignaled

private theorem apart_presentation (distinct : gate.imageAvailable ≠ gate.renderFinished) :
    Apart gate frames (.presentation gate.renderFinished) where
  fence := rfl
  commands := List.not_mem_nil
  waits waits := distinct (List.mem_singleton.mp waits)
  signals := rfl

/-- A frame is submitted when nothing of an earlier one is left. -/
theorem keeps_submitAndPresent (h : Unsubmitted gate frames s) (queue : Handle .queue)
    (swapchain : Handle .swapchain) (image : UInt32) :
    (frameContract frames).KeepsTask (gate.submitAndPresent queue frames swapchain image) s
      (fun _ t => Stable gate frames t) fun _ t => Stable gate frames t := by
  have lasting := (show QueueState.Lasting (Stable gate frames) from stable_lasting).and
    (QueueState.live_lasting gate.inFlight.object)
  rw [FrameGate.submitAndPresent, Contract.keepsTask_bind]
  refine (Contract.keepsTask_perform _).mpr ⟨?_, fun t step => ?_, fun result t step =>
    queueWorld_still stable_lasting step h.toStable fun _ _ => id⟩
  · refine ⟨h.uses, ?_, fun record => record.elim nofun nofun, nofun⟩
    rintro _ _ ⟨⟩ -
    refine ⟨h.unsignaled, fun w mem own => ?_⟩
    exact ne_null_of_live h.real h.fenceLive (own.symm.trans (h.quiet w mem).fence)
  have submitted : Stable gate frames t ∧ gate.inFlight.object ∈ t.live := by
    apply queueWorld_step unsubmitted_lasting lasting step h
    intro u v h effect
    obtain rfl : v = _ := effect
    exact ⟨h.submit ⟨rfl, List.mem_singleton_self _, rfl⟩, h.fenceLive⟩
  rw [Contract.keepsTask_bind, Contract.keepsTask_lift, Contract.keeps_ask]
  refine ⟨singleFrame_of_plain submitted.1.uses trivial, fun reply u step => ?_⟩
  have queued : Stable gate frames u := by
    apply queueWorld_step lasting stable_lasting step submitted
    rintro u v ⟨h, live⟩ effect
    have pushed := h.push (apart_presentation (h.distinct live))
    cases reply with
    | ok suboptimal => exact (show v = _ from effect) ▸ pushed
    | error result =>
      obtain rfl | rfl := effect
      · exact h
      · exact pushed
  cases reply with
  | ok suboptimal => exact queued
  | error result =>
    by_cases late : result = .outOfDate
    · simpa [late] using queued
    · simpa [late] using queued

/-! ## Making the gate anew -/

/-- An object may be made while the queue is idle. -/
theorem Idle.make (h : Idle kept s) {kind : ObjectKind} {made : Handle kind}
    (real : made ≠ .null) (signaled : List Object) :
    Idle kept ⟨made.object :: s.live, signaled, s.pending⟩ where
  real o mem := by
    obtain rfl | old := List.mem_cons.mp mem
    · exact number_ne_zero real
    · exact h.real o old
  commands buffer mem := List.mem_cons_of_mem _ (h.commands buffer mem)
  nothing := h.nothing

private theorem idle_releases :
    (frameContract frames).Releases (· ≠ .commandBuffer) (Idle kept) := by
  intro s o other h
  refine ⟨singleFrame_of_plain h.uses trivial, fun t step => ?_⟩
  apply queueWorld_step idle_lasting idle_lasting step h
  intro u v h effect
  obtain rfl : v = _ := effect
  refine ⟨fun o mem => h.real o (List.mem_filter.mp mem).1, fun buffer mem => ?_, h.nothing⟩
  refine List.mem_filter.mpr ⟨h.commands buffer mem, ?_⟩
  have kept : buffer.object ≠ o := fun same => other (congrArg Object.kind same).symm
  simpa using kept

private theorem idle_gateDestroy (h : Idle kept s) :
    ((frameContract frames).behind GateCall.onDriver).Keeps (FrameGate.destroy gate) s
      fun out t => out.2 = {} ∧ Idle kept t :=
  idle_releases.gateDestroy gate (by simp) h

private structure Begun (kept : List (Handle .commandBuffer)) (imageAvailable : Handle .semaphore)
    (s : QueueState) : Prop extends Idle kept s where
  live : imageAvailable.object ∈ s.live
  unused : imageAvailable.object ∉ s.signaled

private structure Halfway (kept : List (Handle .commandBuffer))
    (imageAvailable renderFinished : Handle .semaphore) (s : QueueState) : Prop
    extends Idle kept s where
  distinct : imageAvailable ≠ renderFinished
  unused : imageAvailable.object ∉ s.signaled

private theorem begun_lasting {imageAvailable : Handle .semaphore} :
    QueueState.Lasting (Begun kept imageAvailable) :=
  QueueState.lasting_of_idle fun _ h => h.nothing

private theorem halfway_lasting {imageAvailable renderFinished : Handle .semaphore} :
    QueueState.Lasting (Halfway kept imageAvailable renderFinished) :=
  QueueState.lasting_of_idle fun _ h => h.nothing

private theorem keepsOp_fill (h : Idle kept s) :
    ((frameContract frames).behind GateCall.onDriver).KeepsOp FrameGate.fill gate s
      (fun _ made t => Armed made kept t) fun _ _ t => Idle kept t := by
  rw [Contract.keepsOp_fill]
  refine (Contract.keepsTask_create _).mpr ⟨singleFrame_of_plain h.uses trivial,
    fun imageAvailable t step => ?_, fun result t step =>
      queueWorld_still idle_lasting step h fun _ _ => id⟩
  have begun : Begun kept imageAvailable t := by
    apply queueWorld_step idle_lasting begun_lasting step h
    intro u v h effect
    obtain ⟨made, -, rfl⟩ := effect
    exact ⟨h.make made _, List.mem_cons_self, by simp [QueueState.signaledWith]⟩
  refine (Contract.keepsTask_create _).mpr ⟨singleFrame_of_plain begun.uses trivial,
    fun renderFinished u step => ?_, fun result u step =>
      queueWorld_still idle_lasting step begun.toIdle fun _ _ => id⟩
  have halfway : Halfway kept imageAvailable renderFinished u := by
    apply queueWorld_step begun_lasting halfway_lasting step begun
    intro u v h effect
    obtain ⟨made, fresh, rfl⟩ := effect
    refine ⟨h.make made _, fun same => fresh (same ▸ h.live), fun used => h.unused ?_⟩
    exact (List.mem_filter.mp used).1
  refine (Contract.keepsTask_create _).mpr ⟨singleFrame_of_plain halfway.uses trivial,
    fun inFlight v step => ?_, fun result v step =>
      queueWorld_still idle_lasting step halfway.toIdle fun _ _ => id⟩
  apply queueWorld_step halfway_lasting armed_lasting step halfway
  intro u v h effect
  obtain ⟨made, -, rfl⟩ := effect
  refine ⟨h.make made _, h.distinct, fun used => ?_⟩
  obtain same | used := List.mem_cons.mp used
  · exact fence_ne_semaphore _ _ same
  · exact h.unused used

/-- A gate made on an idle queue is fit for the first frame; a failure leaves nothing of it. -/
theorem keepsOp_fillOrDestroy (h : Idle kept s) :
    ((frameContract frames).behind GateCall.onDriver).KeepsOp FrameGate.fillOrDestroy gate s
      (fun _ made t => Armed made kept t) fun _ made t => made = {} ∧ Idle kept t := by
  rw [Contract.keepsOp_fillOrDestroy]
  exact (keepsOp_fill h).mono (fun _ _ _ => id) fun _ _ t h => idle_gateDestroy h

/-- An idle queue gets a new gate, or none and stays idle. -/
theorem keepsOp_rearm (h : Idle kept s) :
    ((frameContract frames).behind GateCall.onDriver).KeepsOp FrameGate.rearm gate s
      (fun _ made t => Armed made kept t) fun _ made t => made = {} ∧ Idle kept t := by
  rw [Contract.keepsOp_rearm]
  exact (idle_gateDestroy h).mono fun _ t ⟨_, h⟩ => keepsOp_fillOrDestroy h

end PaintPresenter.Vulkan
