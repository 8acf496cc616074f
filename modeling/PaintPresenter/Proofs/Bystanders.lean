import PaintPresenter.Proofs.FrameInvariant

/-!
# Work beside the frames

Uploads and rebuilds of the screen have nothing to do with the frame in flight: none of their calls
touches the gate's objects or the frame's command buffer, so they keep the invariant whatever the
driver replies.
-/

namespace PaintPresenter.Vulkan

variable {gate : FrameGate} {frames : Handle .commandBuffer} {s t : QueueState}
  {kept : List (Handle .commandBuffer)} {uploads : Bool}

/-! ## Harmless calls -/

/-- Calls that leave the frame's objects alone: no fence or semaphore is made, released or reset,
the frame's command buffer is not touched, and what is submitted has nothing to do with a frame. -/
def Harmless (frames : Handle .commandBuffer) (uploads : Bool) : DriverCall → Prop
  | .create request => request.kind ≠ .fence ∧ request.kind ≠ .semaphore ∧
    (request.kind = .commandBuffer → uploads = true)
  | .release o => o.kind ≠ .fence ∧ o.kind ≠ .semaphore ∧ o.kind ≠ .commandBuffer
  | .freeCommands _ buffer => buffer ≠ frames
  | .perform (.resetFence _) => False
  | .perform (.resetCommands buffer) => buffer ≠ frames
  | .perform (.beginCommands buffer) => buffer ≠ frames
  | .perform (.submit _ work) => uploads = true ∧ ∀ gate, Apart gate frames work
  | .acquire _ _ _ => False
  | .present _ _ _ _ => False
  | _ => True

/-- A command buffer that is made is not the frame's. -/
def Spares (frames : Handle .commandBuffer) : (c : DriverCall) → c.Reply → Prop
  | .create (.commandBuffer _), .ok buffer => buffer ≠ frames
  | _, _ => True

/-- Harmless calls as a contract. -/
def harmless (frames : Handle .commandBuffer) (uploads : Bool) : Contract Driver Unit where
  step _ c reply _ := Spares frames c reply
  permits _ := Harmless frames uploads

private theorem stable_effect {c : DriverCall} {reply : c.Reply}
    (h : Stable gate frames s) (spared : Harmless frames uploads c)
    (effect : s.Effect c reply t) : Stable gate frames t := by
  cases c with
  | create request =>
    cases reply with
    | error result => exact (show t = s from effect) ▸ h
    | ok handle =>
      have real := real_of_effect h.real effect
      obtain ⟨-, -, rfl⟩ := effect
      refine h.of_objects real (List.mem_cons_of_mem _ h.commands) ?_
        (signaledWith_subset _ _ spared.1)
      intro mem
      apply (List.mem_cons.mp mem).resolve_left
      intro same
      exact spared.1 (congrArg Object.kind same).symm
  | release o =>
    obtain rfl : t = _ := effect
    refine h.of_objects ?_ ?_ ?_ (List.Subset.refl _)
    · exact fun o mem => h.real o (List.mem_filter.mp mem).1
    · refine List.mem_filter.mpr ⟨h.commands, ?_⟩
      have other : frames.object ≠ o := fun same => spared.2.2 (congrArg Object.kind same).symm
      simpa using other
    · exact fun mem => (List.mem_filter.mp mem).1
  | freeCommands pool buffer =>
    obtain rfl : t = _ := effect
    refine h.of_objects ?_ ?_ ?_ (List.Subset.refl _)
    · exact fun o mem => h.real o (List.mem_filter.mp mem).1
    · refine List.mem_filter.mpr ⟨h.commands, ?_⟩
      have other : frames.object ≠ buffer.object :=
        fun same => spared (Handle.object_inj.mp same).symm
      simpa using other
    · exact fun mem => (List.mem_filter.mp mem).1
  | perform operation =>
    cases reply with
    | error result => exact (show t = s from effect) ▸ h
    | ok =>
      cases operation with
      | waitForFence fence timeoutNs => exact effect.2.2 ▸ h
      | resetFence fence => exact spared.elim
      | submit queue work =>
        obtain rfl : t = _ := effect
        exact h.push (spared.2 gate)
      | queueIdle queue => exact effect.2 ▸ h
      | deviceIdle => exact effect.2 ▸ h
      | _ => exact (show t = s from effect) ▸ h
  | acquire swapchain timeoutNs semaphore => exact spared.elim
  | present queue wait swapchain image => exact spared.elim
  | _ => exact (show t = s from effect) ▸ h

private theorem singleFrame_of_harmless {c : DriverCall}
    (h : Stable gate frames s) (spared : Harmless frames uploads c) : SingleFrame frames s c where
  single := h.uses
  submit := by
    rintro queue work rfl fenced
    exact absurd (spared.2 gate).fence fenced
  record := by
    rintro (rfl | rfl)
    · exact absurd rfl spared
    · exact absurd rfl spared
  acquire := by
    rintro swapchain timeoutNs semaphore rfl
    exact spared.elim

private theorem singleFrame_of_idle {c : DriverCall} (h : Idle kept s)
    (spared : Harmless frames false c) : SingleFrame frames s c where
  single := h.uses
  submit := by
    rintro queue work rfl
    exact absurd spared.1 Bool.false_ne_true
  record _ w pending := absurd pending (by simp [h.nothing])
  acquire := by
    rintro swapchain timeoutNs semaphore rfl
    exact spared.elim

private theorem spares_effect {c : DriverCall} {reply : c.Reply}
    (commands : frames.object ∈ s.live) (effect : s.Effect c reply t) : Spares frames c reply := by
  cases c with
  | create request =>
    cases request with
    | commandBuffer pool =>
      cases reply with
      | error result => exact trivial
      | ok buffer =>
        rintro rfl
        exact effect.2.1 commands
    | _ => exact trivial
  | _ => exact trivial

private theorem spares_of_harmless {c : DriverCall} {reply : c.Reply}
    (spared : Harmless frames false c) : Spares frames c reply := by
  cases c with
  | create request =>
    cases request with
    | commandBuffer pool => exact absurd (spared.2.2 rfl) Bool.false_ne_true
    | _ => exact trivial
  | _ => exact trivial

private theorem idle_effect {c : DriverCall} {reply : c.Reply} (idle : s.pending = [])
    (spared : Harmless frames false c) (effect : s.Effect c reply t) : t.pending = [] := by
  cases c with
  | create request =>
    cases reply with
    | error result => exact (show t = s from effect) ▸ idle
    | ok handle => exact effect.2.2 ▸ idle
  | release o => exact (show t = _ from effect) ▸ idle
  | freeCommands pool buffer => exact (show t = _ from effect) ▸ idle
  | perform operation =>
    cases reply with
    | error result => exact (show t = s from effect) ▸ idle
    | ok =>
      cases operation with
      | waitForFence fence timeoutNs => exact effect.2.2 ▸ idle
      | resetFence fence => exact spared.elim
      | submit queue work => exact absurd spared.1 Bool.false_ne_true
      | queueIdle queue => exact effect.2 ▸ idle
      | deviceIdle => exact effect.2 ▸ idle
      | _ => exact (show t = s from effect) ▸ idle
  | acquire swapchain timeoutNs semaphore => exact spared.elim
  | present queue wait swapchain image => exact spared.elim
  | _ => exact (show t = s from effect) ▸ idle

/-- Harmless programs keep the invariant, and without submissions an idle queue stays idle. -/
theorem keeps_of_harmless {α : Type} {p : Program Driver α}
    {post : α → Unit → Prop} (kept : (harmless frames uploads).Keeps p () post)
    (h : Stable gate frames s) (idle : uploads = false → s.pending = []) :
    (frameContract frames).Keeps p s fun a t =>
      post a () ∧ Stable gate frames t ∧ (uploads = false → t.pending = []) := by
  have lasting : QueueState.Lasting fun s =>
      Stable gate frames s ∧ (uploads = false → s.pending = []) :=
    stable_lasting.and fun s t idle finish still =>
      QueueState.lasting_of_idle (fun _ => id) s t (idle still) finish
  refine (kept.transfer (D := frameContract frames)
    (fun _ s => Stable gate frames s ∧ (uploads = false → s.pending = [])) ?_ ⟨h, idle⟩).mono
    fun a t ⟨_, known, holds⟩ => ⟨holds, known⟩
  rintro ⟨⟩ s c known spared
  refine ⟨singleFrame_of_harmless known.1 spared, fun reply t step => ⟨(), ?_, ?_⟩⟩
  · obtain ⟨u, v, first, effect, -⟩ := step
    exact spares_effect (lasting.progress first known).1.commands effect
  · apply queueWorld_step lasting lasting step known
    rintro u v ⟨h, idle⟩ effect
    refine ⟨stable_effect h spared effect, ?_⟩
    rintro rfl
    exact idle_effect (idle rfl) spared effect

/-- Harmless programs without submissions leave a queue idle on which no frame was ever made. -/
theorem idle_of_harmless {α : Type} {p : Program Driver α} {post : α → Unit → Prop}
    (kept : (harmless frames false).Keeps p () post) (h : Idle [] s) :
    (frameContract frames).Keeps p s fun a t => post a () ∧ Idle [] t := by
  refine (kept.transfer (D := frameContract frames) (fun _ s => Idle [] s) ?_ h).mono
    fun a t ⟨_, idle, holds⟩ => ⟨holds, idle⟩
  rintro ⟨⟩ s c h spared
  refine ⟨singleFrame_of_idle h spared, fun reply t step => ⟨(), spares_of_harmless spared, ?_⟩⟩
  apply queueWorld_step idle_lasting idle_lasting step h
  intro u v h effect
  exact ⟨real_of_effect h.real effect, nofun, idle_effect h.nothing spared effect⟩

section Programs

open Contract

variable {t : Unit}

/-- The contract permits exactly the calls that are harmless. -/
@[simp] theorem harmless_permits (c : DriverCall) :
    (harmless frames uploads).permits t c ↔ Harmless frames uploads c := Iff.rfl

/-- The contract asks of a reply that it spares the frames. -/
@[simp] theorem harmless_step (c : DriverCall) (reply : c.Reply) (u : Unit) :
    (harmless frames uploads).step t c reply u ↔ Spares frames c reply := Iff.rfl

private theorem harmless_create {request : Creation}
    (other : request.kind ≠ .fence ∧ request.kind ≠ .semaphore ∧ request.kind ≠ .commandBuffer) :
    (harmless frames uploads).KeepsTask (Driver.create request) t (fun _ _ => True)
      fun _ _ => True :=
  (keepsTask_create _).mpr ⟨⟨other.1, other.2.1, fun same => absurd same other.2.2⟩,
    fun _ _ _ => trivial, fun _ _ _ => trivial⟩

private theorem harmless_answers : (harmless frames uploads).Answers fun _ => True := by
  intro _ c query _
  refine ⟨?_, fun _ _ _ => trivial⟩
  cases c with
  | create request => exact query.elim
  | release o => exact query.elim
  | perform operation => exact query.elim
  | acquire swapchain timeoutNs semaphore => exact query.elim
  | present queue wait swapchain image => exact query.elim
  | freeCommands pool buffer => exact query.elim
  | _ => exact trivial

private theorem harmless_releases : (harmless frames uploads).Releases
    (fun kind => kind ≠ .fence ∧ kind ≠ .semaphore ∧ kind ≠ .commandBuffer) fun _ => True :=
  fun _ _ other _ => ⟨other, fun _ _ => trivial⟩

private theorem harmless_release {kind : ObjectKind} (handle : Handle kind)
    (other : kind ≠ .fence ∧ kind ≠ .semaphore ∧ kind ≠ .commandBuffer) :
    (harmless frames uploads).Keeps (Driver.release handle) t fun _ _ => True :=
  harmless_releases.release handle other trivial

/-! ## Uploads -/

private theorem harmless_allocate (rig : Rig) (needs : MemoryRequirements) (flags : MemoryFlags) :
    (harmless frames uploads).KeepsTask (allocate rig needs flags) t (fun _ _ => True)
      fun _ _ => True := by
  unfold allocate
  cases rig.memory.typeFor? needs.typeBits flags with
  | none => simp
  | some type => exact harmless_create (by simp)

private theorem harmless_stagingRelease (staging : StagingBuffer) :
    (harmless frames uploads).Keeps staging.release t fun _ _ => True := by
  unfold StagingBuffer.release
  rw [keeps_bind]
  exact (harmless_release _ (by simp)).mono fun _ _ _ => harmless_release _ (by simp)

private theorem harmless_stagingCreate (rig : Rig) (bytes : Nat) :
    (harmless frames uploads).KeepsTask (StagingBuffer.create rig bytes) t (fun _ _ => True)
      fun _ _ => True := by
  unfold StagingBuffer.create
  rw [keepsTask_bind]
  refine (harmless_create (by simp)).mono (fun buffer _ _ => ?_) fun _ _ => id
  rw [keepsTask_bind, keepsTask_liftM, keeps_bufferNeeds]
  refine ⟨trivial, fun needs _ _ => ?_⟩
  rw [keepsTask_bind, keepsTask_undoing]
  refine (harmless_allocate ..).mono (fun memory _ _ => ?_) fun _ _ _ =>
    harmless_release _ (by simp)
  rw [keepsTask_bind, keepsTask_undoing, keepsTask_perform]
  exact ⟨trivial, fun _ _ => trivial, fun _ _ _ => harmless_stagingRelease _⟩

private theorem harmless_ofPixels (rig : Rig) (pixels : PixelBuffer) :
    (harmless frames uploads).KeepsTask (StagingBuffer.ofPixels rig pixels) t (fun _ _ => True)
      fun _ _ => True := by
  unfold StagingBuffer.ofPixels
  rw [keepsTask_bind]
  refine (harmless_stagingCreate ..).mono (fun staging _ _ => ?_) fun _ _ => id
  rw [keepsTask_bind, keepsTask_undoing]
  unfold StagingBuffer.fill
  rw [keepsTask_bind, keepsTask_perform]
  refine ⟨trivial, fun _ _ => ?_, fun _ _ _ => harmless_stagingRelease _⟩
  simp [Harmless]

private theorem harmless_releaseBare (image : Handle .image) (memory : Handle .memory) :
    (harmless frames uploads).Keeps (SampledImage.releaseBare image memory) t
      fun _ _ => True := by
  unfold SampledImage.releaseBare
  rw [keeps_bind]
  exact (harmless_release _ (by simp)).mono fun _ _ _ => harmless_release _ (by simp)

private theorem harmless_createBare (rig : Rig) (extent : Extent) :
    (harmless frames uploads).KeepsTask (SampledImage.createBare rig extent) t (fun _ _ => True)
      fun _ _ => True := by
  unfold SampledImage.createBare
  rw [keepsTask_bind]
  refine (harmless_create (by simp)).mono (fun image _ _ => ?_) fun _ _ => id
  rw [keepsTask_bind, keepsTask_liftM, keeps_imageNeeds]
  refine ⟨trivial, fun needs _ _ => ?_⟩
  rw [keepsTask_bind, keepsTask_undoing]
  refine (harmless_allocate ..).mono (fun memory _ _ => ?_) fun _ _ _ =>
    harmless_release _ (by simp)
  rw [keepsTask_bind, keepsTask_undoing, keepsTask_perform]
  exact ⟨trivial, fun _ _ => trivial, fun _ _ _ => harmless_releaseBare _ _⟩

private theorem harmless_changeLayout (commands : Handle .commandBuffer) (image : Handle .image)
    (old new : ImageLayout) :
    (harmless frames uploads).KeepsTask (changeLayout commands image old new) t
      (fun _ _ => True) fun _ _ => True := by
  unfold changeLayout
  cases LayoutChange.between? old new with
  | none => simp
  | some change => simp [harmless, Harmless]

private theorem harmless_recordCopy (staging : StagingBuffer) (commands : Handle .commandBuffer)
    (image : Handle .image) (extent : Extent) (old : ImageLayout) (spared : commands ≠ frames) :
    (harmless frames true).KeepsTask (recordCopy commands staging image extent old) t
      (fun _ _ => True) fun _ _ => True := by
  simp only [recordCopy, keepsTask_bind, keepsTask_perform, keepsTask_liftM, keeps_record]
  refine ⟨spared, fun _ _ => ?_, fun _ _ _ => trivial⟩
  refine (harmless_changeLayout ..).mono (fun _ _ _ => ?_) fun _ _ _ => trivial
  refine ⟨trivial, fun _ _ => ?_⟩
  refine (harmless_changeLayout ..).mono (fun _ _ _ => ?_) fun _ _ _ => trivial
  exact ⟨trivial, fun _ _ => trivial, fun _ _ _ => trivial⟩

private theorem harmless_copyIntoImage (rig : Rig) (staging : StagingBuffer)
    (image : Handle .image) (extent : Extent) (old : ImageLayout) :
    (harmless frames true).KeepsTask (copyIntoImage rig staging image extent old) t
      (fun _ _ => True) fun _ _ => True := by
  unfold copyIntoImage
  simp only [keepsTask_bind, keepsTask_closing]
  refine (keepsTask_create _).mpr ⟨by simp [harmless, Harmless], ?_, fun _ _ _ => trivial⟩
  intro commands _ (spared : commands ≠ frames)
  have freed (t : Unit) : (harmless frames true).Keeps
      (Driver.freeCommands rig.commandPool commands) t fun _ _ => True :=
    (keeps_freeCommands ..).mpr ⟨spared, fun _ _ => trivial⟩
  refine (harmless_recordCopy _ _ _ _ _ spared).mono (fun _ _ _ => ?_) fun _ _ _ => freed _
  simp only [keepsTask_perform]
  refine ⟨⟨rfl, fun gate => ?_⟩, fun _ _ => ⟨trivial, fun _ _ => freed _, fun _ _ _ => freed _⟩,
    fun _ _ _ => freed _⟩
  exact ⟨rfl, fun used => spared (List.mem_singleton.mp used).symm, List.not_mem_nil, rfl⟩

/-- Making a texture leaves the frames alone. -/
theorem harmless_createTexture (rig : Rig) (pixels : PixelBuffer) :
    (harmless frames true).KeepsTask (SampledImage.create rig pixels) t (fun _ _ => True)
      fun _ _ => True := by
  unfold SampledImage.create
  rw [keepsTask_bind]
  refine (harmless_ofPixels ..).mono (fun staging _ _ => ?_) fun _ _ => id
  rw [keepsTask_bind, keepsTask_undoing]
  refine (harmless_createBare ..).mono (fun ⟨image, memory⟩ _ _ => ?_) fun _ _ _ =>
    harmless_stagingRelease _
  rw [keepsTask_bind, keepsTask_undoing, keepsTask_bind, keepsTask_closing]
  apply (harmless_copyIntoImage ..).mono
  · intro _ _ _
    apply (harmless_stagingRelease _).mono
    intro _ _ _
    refine (harmless_create (by simp)).mono (fun _ _ _ => ?_) fun _ _ _ =>
      harmless_releaseBare _ _
    rw [keepsTask_bind, keepsTask_driverLog]
    trivial
  · intro _ _ _
    exact (harmless_stagingRelease _).mono fun _ _ _ => harmless_releaseBare _ _

/-- Overwriting a texture leaves the frames alone. -/
theorem harmless_updateTexture (rig : Rig) (texture : SampledImage) (pixels : PixelBuffer) :
    (harmless frames true).KeepsTask (SampledImage.update rig texture pixels) t (fun _ _ => True)
      fun _ _ => True := by
  unfold SampledImage.update
  by_cases other : pixels.extent ≠ texture.extent
  · simp [other]
  · simp only [if_neg other, keepsTask_bind, keepsTask_closing]
    refine (harmless_ofPixels ..).mono (fun staging _ _ => ?_) fun _ _ => id
    exact (harmless_copyIntoImage ..).mono (fun _ _ _ => harmless_stagingRelease _)
      fun _ _ _ => harmless_stagingRelease _

/-- Releasing a texture leaves the frames alone. -/
theorem harmless_releaseTexture (texture : SampledImage) :
    (harmless frames true).Keeps texture.release t fun _ _ => True := by
  unfold SampledImage.release
  simp only [keeps_bind]
  apply (harmless_release _ (by simp)).mono
  intro _ _ _
  apply (harmless_release _ (by simp)).mono
  intro _ _ _
  exact (harmless_release _ (by simp)).mono fun _ _ _ => trivial

/-! ## The screen -/

private theorem harmless_fillTargets (images : List (Handle .image)) (format : Format)
    (extent : Extent) :
    ((harmless frames uploads).behind TargetCall.onDriver).KeepsOp
      (TargetSet.fill images format extent) {} t (fun _ _ _ => True) fun _ _ _ => True := by
  rw [keepsOp_fillTargets]
  refine (keepsOp_forM (fun _ _ _ => True) (fun image _ _ _ _ => ?_) trivial).mono
    (fun _ set _ _ => ?_) fun _ _ _ => id
  · exact (keepsOp_addView ..).mpr (harmless_create (by simp))
  refine (harmless_create (by simp)).mono (fun renderPass _ _ => ?_) fun _ _ => id
  refine keepsOp_forM (fun _ _ _ => True) (fun view _ _ _ _ => ?_) trivial
  exact (keepsOp_addFramebuffer ..).mpr (harmless_create (by simp))

private theorem harmless_screenDestroy (screen : Screen) :
    (harmless frames uploads).Keeps (Screen.destroy screen) t fun _ _ => True :=
  harmless_releases.screenDestroy screen (by simp) trivial

private theorem harmless_screenFillOrDestroy (rig : Rig) (requested : Extent) (screen : Screen) :
    (harmless frames uploads).KeepsOp (Screen.fillOrDestroy rig requested) screen t
      (fun _ _ _ => True) fun _ _ _ => True := by
  rw [keepsOp_screenFillOrDestroy, keepsOp_screenFill]
  refine (harmless_answers.settle rig requested trivial).mono (fun request _ _ _ => ?_)
    fun _ _ _ _ => harmless_screenDestroy _
  refine (harmless_create (by simp)).mono (fun swapchain _ _ => ?_)
    fun _ _ _ => harmless_screenDestroy _
  rw [keepsTask_swapchainImages]
  refine ⟨trivial, fun images _ _ => ?_, fun _ _ _ => harmless_screenDestroy _⟩
  rw [keepsTask_build]
  apply (harmless_fillTargets ..).mono (fun _ _ _ => id)
  intro _ made _ _
  exact (harmless_releases.targetsDestroy made (by simp) trivial).mono fun _ _ _ =>
    harmless_screenDestroy _

/-- Putting up a screen leaves the frames alone. -/
theorem harmless_createScreen (rig : Rig) (requested : Extent) :
    (harmless frames uploads).KeepsTask (Screen.create rig requested) t (fun _ _ => True)
      fun _ _ => True := by
  rw [keepsTask_screenCreate]
  exact harmless_screenFillOrDestroy ..

/-- Putting it up anew leaves the frames alone. -/
theorem harmless_rebuildScreen (rig : Rig) (requested : Extent) (screen : Screen) :
    (harmless frames uploads).KeepsOp (Screen.rebuild rig requested) screen t
      (fun _ _ _ => True) fun _ _ _ => True := by
  rw [keepsOp_screenRebuild]
  exact (harmless_screenDestroy _).mono fun _ _ _ => harmless_screenFillOrDestroy ..

/-! ## The rig -/

private theorem harmless_attach :
    (harmless frames uploads).Keeps Diagnostics.attach t fun _ _ => True := by
  unfold Diagnostics.attach
  rw [keeps_bind, keepsTask_run]
  exact (harmless_create (by simp)).mono (fun _ _ _ => trivial) fun _ _ _ => trivial

private theorem harmless_createInstance (display : NativeDisplay) (appName : String)
    (validation : Bool) :
    (harmless frames uploads).KeepsTask (Rig.createInstance display appName validation) t
      (fun _ _ => True) fun _ _ => True := by
  unfold Rig.createInstance
  rw [keepsTask_bind, keepsTask_checked]
  cases display.extensions with
  | error result => exact trivial
  | ok extensions =>
    simp only [keeps_done, keepsTask_bind, keepsTask_driverLog]
    exact (harmless_create (by simp)).mono (fun _ _ _ => trivial) fun _ _ => id

private theorem harmless_createSurface (display : NativeDisplay) (window : NativeWindow) :
    (harmless frames uploads).KeepsTask (Rig.createSurface display window) t
      (fun _ _ => True) fun _ _ => True := by
  unfold Rig.createSurface
  rw [keepsTask_bind, keepsTask_checked]
  cases display.platformWith window with
  | error result => exact trivial
  | ok platform => exact harmless_create (by simp)

private theorem harmless_createDevice (device : Handle .physicalDevice) (family : Nat)
    (anisotropy : Bool) :
    (harmless frames uploads).KeepsTask (Rig.createDevice device family anisotropy) t
      (fun _ _ => True) fun _ _ => True := by
  unfold Rig.createDevice
  simp only [keepsTask_bind, keepsTask_driverLog]
  exact (harmless_create (by simp)).mono (fun _ _ _ => trivial) fun _ _ => id

private theorem harmless_putUp (display : NativeDisplay) (window : NativeWindow)
    (settings : GraphicsSettings) (scaffold : Rig.Scaffold) :
    (harmless frames uploads).KeepsOp (Rig.putUp display window settings) scaffold t
      (fun _ _ _ => True) fun _ _ _ => True := by
  unfold Rig.putUp
  simp only [keepsOp_bind, keepsOp_ofTask, keepsOp_modify, keepsOp_ofProgram, keepsOp_log,
    keepsOp_get, keepsOp_pure]
  refine (harmless_createSurface ..).mono (fun surface _ _ => ?_) fun _ _ => id
  refine (harmless_answers.selectDevice _ _ trivial).mono (fun offer _ _ => ?_) fun _ _ => id
  apply (harmless_answers.ask (c := .properties _) trivial trivial).mono
  intro _ _ _
  apply (harmless_answers.ask (c := .anisotropy _) trivial trivial).mono
  intro _ _ _
  apply (harmless_answers.ask (c := .memory _) trivial trivial).mono
  intro _ _ _
  refine (harmless_createDevice ..).mono (fun device _ _ => ?_) fun _ _ => id
  apply (harmless_answers.ask (c := .queue _) trivial trivial).mono
  intro _ _ _
  refine (harmless_create (by simp)).mono (fun _ _ _ => ?_) fun _ _ => id
  exact (harmless_create (by simp)).mono (fun _ _ => id) fun _ _ => id

/-- Building a rig leaves the frames alone. -/
theorem harmless_createRig (display : NativeDisplay) (window : NativeWindow)
    (settings : GraphicsSettings) :
    (harmless frames uploads).KeepsTask (Rig.create display window settings) t
      (fun _ _ => True) fun _ _ => True := by
  rw [keepsTask_rigCreate]
  refine ⟨trivial, fun loaded _ _ => ?_⟩
  by_cases loaded : loaded = true
  · rw [if_pos loaded]
    apply (harmless_answers.wanted settings trivial).mono
    intro validation _ _
    refine (harmless_createInstance ..).mono (fun apiInstance _ _ => ?_) fun _ _ => id
    have messenger : (harmless frames uploads).Keeps
        (if validation then Diagnostics.attach else .done none) t fun _ _ => True := by
      by_cases validation : validation = true
      · rw [if_pos validation]
        exact harmless_attach
      · rw [if_neg validation]
        exact trivial
    apply messenger.mono
    intro messenger _ _
    exact (harmless_putUp ..).mono (fun _ _ _ => id) fun _ scaffold _ _ =>
      harmless_releases.takeDown scaffold (by simp) trivial
  · rw [if_neg loaded]
    exact trivial

end Programs

end PaintPresenter.Vulkan
