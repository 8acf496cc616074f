import PaintPresenter.Proofs.GateFrames

/-!
# One frame in flight

Whatever is asked of a renderer on a stack, and whatever the driver lets fail, a frame is recorded,
submitted and acquired for only while no other frame is pending. The renderer's protocol says in
which phase each call comes; `Fits` says what the stack's gate is fit for in each phase.
-/

namespace PaintPresenter.Vulkan

open Contract

variable {frames : Handle .commandBuffer} {s t : QueueState} {stack : Stack}

/-- At most one frame is pending. -/
def Sole (frames : Handle .commandBuffer) (s : QueueState) : Prop :=
  s.pending.Pairwise fun v w => ¬(v.Uses frames ∧ w.Uses frames)

/-- What a gate is fit for in each phase of its renderer. -/
def Fits (gate : FrameGate) (frames : Handle .commandBuffer) (s : QueueState) : Phase → Prop
  | .resting | .late | .leaving => Stable gate frames s
  | .waited => Waited gate frames s
  | .acquired _ | .recording _ | .recorded _ => Unsubmitted gate frames s
  | .gone => Sole frames s

/-- Until it is torn down, a stack records its frames into one command buffer, and its gate is fit
for the phase. -/
def StackFits (frames : Handle .commandBuffer) (phase : Phase) (stack : Stack) (s : QueueState) :
    Prop :=
  (phase ≠ .gone → stack.commands = frames) ∧ Fits stack.gate frames s phase

private theorem Fits.sole {gate : FrameGate} {phase : Phase} (h : Fits gate frames s phase) :
    Sole frames s := by
  cases phase with
  | resting => exact Stable.uses h
  | late => exact Stable.uses h
  | leaving => exact Stable.uses h
  | waited => exact Stable.uses h.toStable
  | acquired image => exact Stable.uses h.toStable
  | recording image => exact Stable.uses h.toStable
  | recorded image => exact Stable.uses h.toStable
  | gone => exact h

/-! ## Operations of the stack -/

private theorem keepsTask_unsubmitted (h : Unsubmitted stack.gate frames s) {operation : Operation}
    (allowed : SingleFrame frames s (.perform operation))
    (still : ∀ u v : QueueState, u.Does operation v → v = u) :
    (frameContract frames).KeepsTask (Driver.perform operation) s
      (fun _ t => Unsubmitted stack.gate frames t) fun _ t => Stable stack.gate frames t := by
  rw [keepsTask_perform]
  refine ⟨allowed, fun t step => ?_, fun result t step => ?_⟩
  · exact queueWorld_still unsubmitted_lasting step h still
  · exact queueWorld_still stable_lasting step h.toStable fun _ _ => id

private theorem keeps_record_unsubmitted (h : Unsubmitted stack.gate frames s)
    (buffer : Handle .commandBuffer) (command : Command) :
    (frameContract frames).Keeps (Driver.record buffer command) s
      fun _ t => Unsubmitted stack.gate frames t := by
  rw [keeps_record]
  refine ⟨singleFrame_of_plain h.uses trivial, fun t step => ?_⟩
  exact queueWorld_still unsubmitted_lasting step h fun _ _ => id

private theorem singleFrame_of_quiet (h : Unsubmitted stack.gate frames s) {operation : Operation}
    (records : operation = .resetCommands frames ∨ operation = .beginCommands frames) :
    SingleFrame frames s (.perform operation) where
  single := h.uses
  submit := by
    rintro queue work ⟨⟩
    simp at records
  record _ w mem := (h.quiet w mem).commands
  acquire := by
    rintro swapchain timeoutNs semaphore ⟨⟩

private theorem keepsOp_beginPass (own : stack.commands = frames)
    (h : Unsubmitted stack.gate frames s) (image : UInt32) (clear : Color) :
    (frameContract frames).KeepsOp (Stack.beginPass image clear) stack s
      (fun _ after t => after = stack ∧ Unsubmitted stack.gate frames t)
      fun _ after t => after = stack ∧ Stable stack.gate frames t := by
  unfold Stack.beginPass
  rw [keepsOp_bind, keepsOp_get]
  cases stack.screen.targets.framebuffer? image.toNat with
  | none => exact ⟨rfl, h.toStable⟩
  | some framebuffer =>
    simp only [keepsOp_bind, keepsOp_ofTask, keepsOp_ofProgram, keepsOp_pure, own]
    have reset := keepsTask_unsubmitted h (singleFrame_of_quiet h (.inl rfl)) fun _ _ => id
    refine reset.mono (fun _ t h => ?_) fun _ _ h => ⟨trivial, h⟩
    have begin_ := keepsTask_unsubmitted h (singleFrame_of_quiet h (.inr rfl)) fun _ _ => id
    refine begin_.mono (fun _ t h => ?_) fun _ _ h => ⟨trivial, h⟩
    exact (keeps_record_unsubmitted h _ _).mono fun _ _ h => ⟨trivial, h⟩

private theorem keepsOp_endPass (h : Unsubmitted stack.gate frames s) :
    (frameContract frames).KeepsOp Stack.endPass stack s
      (fun _ after t => after = stack ∧ Unsubmitted stack.gate frames t)
      fun _ after t => after = stack ∧ Stable stack.gate frames t := by
  unfold Stack.endPass
  simp only [keepsOp_bind, keepsOp_get, keepsOp_ofProgram, keepsOp_ofTask]
  apply (keeps_record_unsubmitted h _ _).mono
  intro _ t h
  have plain : SingleFrame frames t (.perform (.endCommands stack.commands)) :=
    singleFrame_of_plain h.uses trivial
  have ended := keepsTask_unsubmitted h plain fun _ _ => id
  exact ended.mono (fun _ _ h => ⟨trivial, h⟩) fun _ _ h => ⟨trivial, h⟩

private theorem keepsTask_deviceIdle_stable {gate : FrameGate} (h : Stable gate frames s) :
    (frameContract frames).KeepsTask Driver.deviceIdle s
      (fun _ t => Stable gate frames t ∧ t.pending = []) fun _ t => Stable gate frames t := by
  have lasting : QueueState.Lasting fun s => Stable gate frames s ∧ s.pending = [] :=
    QueueState.lasting_of_idle fun _ => And.right
  rw [keepsTask_deviceIdle, keepsTask_perform]
  refine ⟨singleFrame_of_plain h.uses trivial, fun t step => ?_, fun result t step => ?_⟩
  · apply queueWorld_step stable_lasting lasting step h
    intro u v h effect
    obtain ⟨nothing, rfl⟩ := effect
    exact ⟨h, nothing⟩
  · exact queueWorld_still stable_lasting step h fun _ _ => id

private theorem keepsOp_rebuild (own : stack.commands = frames) (h : Stable stack.gate frames s)
    (extent : Extent) :
    (frameContract frames).KeepsOp (Stack.rebuild extent) stack s
      (fun _ after t => after.commands = frames ∧ Stable after.gate frames t)
      fun _ after t => after.commands = frames ∧ Stable after.gate frames t := by
  unfold Stack.rebuild
  simp only [keepsOp_bind, keepsOp_ofTask, keepsOp_get, Stack.onScreen, Stack.onGate,
    keepsOp_onPart, keepsOp_onDriver]
  refine (keepsTask_deviceIdle_stable h).mono (fun _ t idle => ?_) fun _ _ h => ⟨own, h⟩
  obtain ⟨h, nothing⟩ := idle
  -- Nothing is submitted while the screen is made anew, so that the device stays idle.
  have screen : (frameContract frames).KeepsOp (Screen.rebuild stack.rig extent) stack.screen t
      (fun _ _ t => Stable stack.gate frames t ∧ t.pending = [])
      fun _ _ t => Stable stack.gate frames t ∧ t.pending = [] := by
    have kept : (harmless frames false).KeepsOp (Screen.rebuild stack.rig extent) stack.screen ()
        (fun _ _ _ => True) fun _ _ _ => True := harmless_rebuildScreen ..
    apply (keeps_of_harmless kept h fun _ => nothing).mono
    rintro ⟨_ | _, screen⟩ t ⟨-, h, nothing⟩
    · exact ⟨h, nothing rfl⟩
    · exact ⟨h, nothing rfl⟩
  refine screen.mono (fun _ screen t idle => ?_) fun _ _ _ idle => ⟨own, idle.1⟩
  obtain ⟨h, nothing⟩ := idle
  refine (keepsOp_rearm (h.idle nothing)).mono (fun _ gate t armed => ?_) ?_
  · exact ⟨own, armed.stable (List.mem_singleton_self _)⟩
  · rintro _ gate t ⟨rfl, idle⟩
    exact ⟨own, idle.stable (List.mem_singleton_self _)⟩

private theorem keeps_of_uploads {α : Type} {p : Program Driver α} {gate : FrameGate}
    (kept : (harmless frames true).Keeps p () fun _ _ => True) (h : Stable gate frames s) :
    (frameContract frames).Keeps p s fun _ t => Stable gate frames t :=
  (keeps_of_harmless kept h (by simp)).mono fun _ _ h => h.2.1

/-! ## Taking the stack down -/

private theorem sole_lasting : QueueState.Lasting (Sole frames) := by
  rintro s _ h ⟨w, before, after, here⟩
  have left : (before ++ after).Sublist s.pending := by
    rw [here]
    exact (List.sublist_cons_self w after).append_left before
  exact h.sublist left

private theorem sole_releases : (frameContract frames).Releases (fun _ => True) (Sole frames) := by
  intro s o _ h
  refine ⟨singleFrame_of_plain h trivial, fun t step => ?_⟩
  apply queueWorld_step sole_lasting sole_lasting step h
  intro u v h effect
  obtain rfl : v = _ := effect
  exact h

private theorem keeps_tearDown (h : Sole frames s) :
    (frameContract frames).Keeps (Stack.tearDown stack) s fun _ t => Sole frames t := by
  rw [keeps_stackTearDown]
  by_cases tornDown : stack.tornDown = true
  · rw [if_pos tornDown]
    exact h
  rw [if_neg tornDown, keeps_freeCommands]
  refine ⟨singleFrame_of_plain h trivial, fun t step => ?_⟩
  have freed : Sole frames t := by
    apply queueWorld_step sole_lasting sole_lasting step h
    intro u v h effect
    obtain rfl : v = _ := effect
    exact h
  apply (sole_releases.unlessNull _ trivial freed).mono
  intro _ t h
  rw [keeps_destroyOnDriver]
  apply (sole_releases.gateDestroy _ (by simp) h).mono
  rintro _ t ⟨_, h⟩
  apply (sole_releases.screenDestroy _ (by simp) h).mono
  intro _ t h
  exact sole_releases.rigDestroy _ (by simp) h

/-! ## Every call -/

/-- Whatever call the protocol allows, the stack answers it by calls that find no other frame, and
its gate is fit for what comes next. -/
theorem stackAnswer_fits {p : Position SampledImage} {call : GraphicsCall SampledImage}
    (fits : StackFits frames p.phase stack s) (allowed : p.Allows call) :
    (frameContract frames).Keeps (Stack.answer call stack) s fun out t =>
      StackFits frames (p.next call out.1).phase out.2 t := by
  obtain ⟨phase, held, owed⟩ := p
  obtain ⟨own, fits⟩ := fits
  cases call with
  | extent => exact ⟨own, fits⟩
  | waitForPrevious =>
    obtain ⟨rfl, -⟩ := allowed
    rw [Stack.answer, keeps_run, Stack.waitForPrevious, keepsOp_bind, keepsOp_get, keepsOp_ofTask]
    apply (keeps_waitForPrevious fits _).mono
    · intro _ t waited
      exact ⟨fun _ => own (by simp), waited⟩
    · intro _ t stable
      exact ⟨fun _ => own (by simp), stable⟩
  | acquire =>
    obtain ⟨rfl, -⟩ := allowed
    rw [Stack.answer, keeps_run, Stack.acquire, keepsOp_bind, keepsOp_get, Stack.onGate,
      keepsOp_onPart]
    refine (keeps_acquire fits _ _).mono ?_ fun e gate t stable => ?_
    · rintro image gate t ⟨rfl, unsubmitted⟩
      exact ⟨fun _ => own (by simp), unsubmitted⟩
    · by_cases late : e = .outOfDate
      · simpa [Position.next, late, StackFits, Fits, own] using stable
      · simpa [Position.next, late, StackFits, Fits, own] using stable
  | beginPass image clear =>
    obtain rfl := allowed
    rw [Stack.answer, keeps_run]
    apply (keepsOp_beginPass (own (by simp)) fits image clear).mono
    · rintro _ _ t ⟨rfl, h⟩
      exact ⟨fun _ => own (by simp), h⟩
    · rintro _ _ t ⟨rfl, h⟩
      exact ⟨fun _ => own (by simp), h⟩
  | endPass =>
    obtain ⟨image, rfl⟩ := allowed
    rw [Stack.answer, keeps_run]
    apply (keepsOp_endPass fits).mono
    · rintro _ _ t ⟨rfl, h⟩
      exact ⟨fun _ => own (by simp), h⟩
    · rintro _ _ t ⟨rfl, h⟩
      exact ⟨fun _ => own (by simp), h⟩
  | present image =>
    obtain rfl := allowed
    rw [Stack.answer, keeps_run, Stack.present, keepsOp_bind, keepsOp_get, keepsOp_ofTask,
      own (by simp)]
    apply (keeps_submitAndPresent fits _ _ _).mono
    · intro _ t h
      exact ⟨fun _ => own (by simp), h⟩
    · intro _ t h
      exact ⟨fun _ => own (by simp), h⟩
  | rebuild extent =>
    have stable : Stable stack.gate frames s := by
      obtain rfl | rfl := allowed
      · exact fits
      · exact fits
    have own : stack.commands = frames := own (by obtain rfl | rfl := allowed <;> simp)
    rw [Stack.answer, keeps_run]
    apply (keepsOp_rebuild own stable extent).mono
    · intro _ after t h
      exact ⟨fun _ => h.1, h.2⟩
    · intro _ after t h
      exact ⟨fun _ => h.1, h.2⟩
  | createTexture pixels =>
    obtain ⟨rfl, -⟩ := allowed
    rw [Stack.answer, keeps_bind]
    apply (keeps_of_uploads (keepsTask_run.mpr (harmless_createTexture ..)) fits).mono
    rintro (_ | _) t h
    · exact ⟨fun _ => own (by simp), h⟩
    · exact ⟨fun _ => own (by simp), h⟩
  | updateTexture texture pixels =>
    obtain ⟨rfl, -⟩ := allowed
    rw [Stack.answer, keeps_bind]
    apply (keeps_of_uploads (keepsTask_run.mpr (harmless_updateTexture ..)) fits).mono
    exact fun _ t h => ⟨fun _ => own (by simp), h⟩
  | releaseTexture texture =>
    obtain ⟨rfl | rfl, -⟩ := allowed
    · rw [Stack.answer, keeps_bind]
      apply (keeps_of_uploads (harmless_releaseTexture texture) fits).mono
      exact fun _ t h => ⟨fun _ => own (by simp), h⟩
    · rw [Stack.answer, keeps_bind]
      apply (keeps_of_uploads (harmless_releaseTexture texture) fits).mono
      exact fun _ t h => ⟨fun _ => own (by simp), h⟩
  | binding texture => exact ⟨own, fits⟩
  | waitIdle =>
    rw [Stack.answer, keeps_bind, keepsTask_run]
    obtain rfl | ⟨image, rfl⟩ := allowed
    · apply (keepsTask_deviceIdle_stable fits).mono
      · intro _ t h
        exact ⟨fun _ => own (by simp), h.1⟩
      · intro _ t h
        exact ⟨fun _ => own (by simp), h⟩
    · have stable : Stable stack.gate frames s := fits.toStable
      apply (keepsTask_deviceIdle_stable stable).mono
      · intro _ t h
        exact ⟨fun _ => own (by simp), h.1⟩
      · intro _ t h
        exact ⟨fun _ => own (by simp), h⟩
  | tearDown =>
    exact (keeps_tearDown fits.sole).mono fun _ t sole => ⟨fun gone => absurd rfl gone, sole⟩

/-! ## Building the stack -/

section Building

variable {gate : FrameGate} {kept : List (Handle .commandBuffer)}

private theorem Armed.make (h : Armed gate kept s) {request : Creation}
    (other : request.kind ≠ .fence) {made : Handle request.kind} {t : QueueState}
    (effect : s.Effect (.create request) (.ok made) t) : Armed gate kept t := by
  obtain ⟨real, -, rfl⟩ := effect
  refine ⟨h.toIdle.make real _, h.distinct, fun used => h.free ?_⟩
  exact signaledWith_subset _ _ other used

private theorem keepsTask_createSampler (h : Armed gate kept s) (rig : Rig) :
    (frameContract frames).KeepsTask (createSampler rig) s (fun _ t => Armed gate kept t)
      fun _ t => Armed gate kept t := by
  unfold createSampler
  simp only [keepsTask_bind, keepsTask_driverLog, keepsTask_pure]
  refine (keepsTask_create _).mpr ⟨singleFrame_of_plain h.uses trivial, fun _ t step => ?_,
    fun _ t step => ?_⟩
  · apply queueWorld_step armed_lasting armed_lasting step h
    intro u v h effect
    exact h.make (by simp) effect
  · exact queueWorld_still armed_lasting step h fun _ _ => id

-- The frame's command buffer is made last: nothing is pending, so nothing uses it.
private theorem keepsTask_createCommands (h : Armed gate [] s) (pool : Handle .commandPool) :
    (frameContract frames).KeepsTask (Driver.create (.commandBuffer pool)) s
      (fun commands t => Stable gate commands t) fun _ t => Sole frames t := by
  refine (keepsTask_create _).mpr ⟨singleFrame_of_plain h.uses trivial, fun commands t step => ?_,
    fun _ t step => ?_⟩
  · have armed : Armed gate [commands] t := by
      apply queueWorld_step armed_lasting armed_lasting step h
      intro u v h effect
      have made := h.make (by simp) effect
      obtain ⟨-, -, rfl⟩ := effect
      exact { made with commands := fun _ mem => List.mem_singleton.mp mem ▸ List.mem_cons_self }
    exact armed.stable (List.mem_singleton_self _)
  · exact (queueWorld_still armed_lasting step h fun _ _ => id).uses

private theorem keepsTask_buildOn (h : Idle [] s) (rig : Rig) (settings : GraphicsSettings) :
    (frameContract frames).KeepsTask (Stack.buildOn rig settings) s
      (fun stack t => Stable stack.gate stack.commands t) fun _ t => Sole frames t := by
  unfold Stack.buildOn
  have screen : (frameContract frames).KeepsTask (Screen.create rig settings.extent) s
      (fun _ t => Idle [] t) fun _ t => Idle [] t := by
    apply (idle_of_harmless (harmless_createScreen ..) h).mono
    rintro (_ | _) t ⟨-, h⟩
    · exact h
    · exact h
  rw [keepsTask_bind]
  refine screen.mono (fun screen t h => ?_) fun _ t h => h.uses
  have dropScreen {t : QueueState} (sole : Sole frames t) :
      (frameContract frames).Keeps (do let _ ← Screen.destroy screen) t
        fun _ t => Sole frames t := by
    rw [keeps_bind]
    exact sole_releases.screenDestroy screen (by simp) sole
  rw [keepsTask_undoing, keepsTask_bind, keepsTask_createOnDriver]
  apply (keepsOp_fillOrDestroy h).mono
  · intro _ gate t armed
    have dropGate {t : QueueState} (sole : Sole frames t) :
        (frameContract frames).Keeps (do let _ ← gate.destroyOnDriver) t
          fun _ t => Sole frames t := by
      rw [keeps_bind, keeps_destroyOnDriver]
      exact (sole_releases.gateDestroy gate (by simp) sole).mono fun _ _ h => h.2
    rw [keepsTask_undoing, keepsTask_bind]
    apply (keepsTask_createSampler armed rig).mono
    · intro sampler t armed
      rw [keepsTask_undoing, keepsTask_bind]
      refine (keepsTask_createCommands armed _).mono (fun commands t stable => stable)
        fun _ t sole => ?_
      apply (sole_releases.release sampler trivial sole).mono
      intro _ t sole
      exact (dropGate sole).mono fun _ t sole => dropScreen sole
    · intro _ t armed
      exact (dropGate armed.uses).mono fun _ t sole => dropScreen sole
  · rintro _ gate t ⟨_, h⟩
    exact dropScreen h.uses

/-- A new stack is fit for the first frame. -/
theorem stable_createStack (h : Idle [] s) (handles : NativeHandles)
    (settings : GraphicsSettings) :
    (frameContract frames).KeepsTask (Stack.create handles settings) s
      (fun stack t => Stable stack.gate stack.commands t) fun _ _ => True := by
  rw [keepsTask_stackCreate]
  cases handles.display with
  | error fault => exact trivial
  | ok display =>
    cases handles.window with
    | error fault => exact trivial
    | ok window =>
      have rig : (frameContract frames).KeepsTask (Rig.create display window settings) s
          (fun _ t => Idle [] t) fun _ _ => True := by
        apply (idle_of_harmless (harmless_createRig ..) h).mono
        rintro (_ | _) t ⟨-, h⟩
        · exact trivial
        · exact h
      refine rig.mono (fun rig t h => ?_) fun _ _ => id
      apply (keepsTask_buildOn h rig settings).mono (fun _ _ => id)
      intro _ t sole
      exact (sole_releases.rigDestroy rig (by simp) sole).mono fun _ _ _ => trivial

end Building

/-! ## Every run -/

/-- Whatever is asked of a renderer on a new stack, and whatever the driver lets fail, a call of
each run finds that no other frame is in its way, and at most one is pending at the end. -/
theorem single_frame_in_flight {handles : NativeHandles} {settings : GraphicsSettings}
    (created : (Stack.create handles settings).run.Ends queueWorld {} (.ok stack) s)
    (clearColor : Color) (requests : List Renderer.Request) :
    (∀ call t, ((Renderer.serve requests { clearColor }).interpret Stack.answer stack).Makes
      queueWorld s call t → SingleFrame stack.commands t call) ∧
    ∀ out t, ((Renderer.serve requests { clearColor }).interpret Stack.answer stack).Ends
      queueWorld s out t → Sole stack.commands t := by
  have stable : Stable stack.gate stack.commands s := by
    have idle : Idle [] ({} : QueueState) := ⟨nofun, nofun, rfl⟩
    have built : (frameContract .null).KeepsTask (Stack.create handles settings) {}
        (fun stack t => Stable stack.gate stack.commands t) fun _ _ => True :=
      stable_createStack idle handles settings
    exact built.ends_ok created
  have follows := serve_follows (ρ := Recording) (Renderer.tidy_new (τ := SampledImage) clearColor)
    requests
  have answered : ∀ (p : Position SampledImage) after t (call : GraphicsCall SampledImage),
      StackFits stack.commands p.phase after t → p.Allows call →
        (frameContract stack.commands).Keeps (Stack.answer call after) t fun out u =>
          ∃ q, q = p.next call out.1 ∧ StackFits stack.commands q.phase out.2 u := by
    intro p after t call fits allowed
    exact (stackAnswer_fits fits allowed).mono fun out u fits => ⟨_, rfl, fits⟩
  have start : StackFits stack.commands .resting stack s := ⟨fun _ => rfl, stable⟩
  have kept := follows.interpret _ answered start
  refine ⟨fun call t makes => kept.permits makes, fun out t ends => ?_⟩
  obtain ⟨p, fits, -⟩ := kept.ends ends
  exact fits.2.sole

/-- A stack made on a driver that obliges. -/
def obligedRun : Program.Run QueueState (Except GraphicsError Stack) :=
  (Stack.create ⟨.ok .wayland, .ok .wayland⟩ {}).run.run QueueState.oblige {}

/-- The calls of two frames on such a stack. -/
def obligedCalls (stack : Stack) : List (DriverCall × QueueState) :=
  let frames := Renderer.serve [.beginFrame, .endFrame, .beginFrame, .endFrame]
    { clearColor := .black }
  (frames.interpret Stack.answer stack).calls QueueState.oblige obligedRun.state

/-- The second submission of these calls, with the stack and the state that it finds. -/
def secondSubmit? : Option (Stack × QueueState × Handle .queue × Submission) :=
  match obligedRun.result with
  | .ok (.ok stack) =>
    match (obligedCalls stack)[18]? with
    | some (DriverCall.perform (.submit queue work), t) => some (stack, t, queue, work)
    | _ => none
  | _ => none

private theorem of_secondSubmit {stack : Stack} {t : QueueState} {queue : Handle .queue}
    {work : Submission} (h : secondSubmit? = some (stack, t, queue, work)) :
    obligedRun.result = .ok (.ok stack) ∧
      (.perform (.submit queue work), t) ∈ obligedCalls stack := by
  unfold secondSubmit? at h
  split at h
  · next _ created =>
    split at h
    · next reached =>
      obtain ⟨rfl, rfl, rfl, rfl⟩ := by simpa using h
      exact ⟨created, List.mem_of_getElem? reached⟩
    · exact absurd h (by simp)
  · exact absurd h (by simp)

/-- The second submission of two frames is a frame of its own. -/
theorem single_frame_at_second_submit :
    ∃ (stack : Stack) (t : QueueState) (queue : Handle .queue) (work : Submission),
      work.fence = ⟨12⟩ ∧ SingleFrame stack.commands t (.perform (.submit queue work)) := by
  have reached : secondSubmit?.map (·.2.2.2.fence) = some ⟨12⟩ := by decide +kernel
  obtain ⟨⟨stack, t, queue, work⟩, found, fence⟩ := Option.map_eq_some_iff.mp reached
  obtain ⟨created, made⟩ := of_secondSubmit found
  have single := single_frame_in_flight (queueWorld_allows_oblige.ends created) .black
    [.beginFrame, .endFrame, .beginFrame, .endFrame]
  exact ⟨stack, t, queue, work, fence, single.1 _ _ (queueWorld_allows_oblige.makes made)⟩

end PaintPresenter.Vulkan
