import PaintPresenter.Proofs.Conduct
import PaintPresenter.Proofs.DriverConduct

/-!
# What is made when

A stack makes its instance once, before anything else, and never again; to take it down makes
nothing at all. Both are matters of the calls alone, whatever the driver replies.
-/

namespace PaintPresenter.Vulkan

open Contract

/-- Only objects of some kinds are made. -/
def making (kinds : ObjectKind → Prop) : Contract Driver Unit where
  step _ _ _ _ := True
  permits
    | _, .create request => kinds request.kind
    | _, _ => True

variable {kinds : ObjectKind → Prop} {α γ : Type} {t : Unit}

/-- A program that makes objects of some kinds only keeps true what other calls and the making of
such objects keep true. -/
theorem keeps_of_making {C : Contract Driver γ} {p : Program Driver α} {s : γ}
    {post : α → Unit → Prop} (Known : γ → Prop)
    (bears : ∀ s c, Known s → (making kinds).permits () c →
      C.permits s c ∧ ∀ reply t, C.step s c reply t → Known t)
    (made : (making kinds).Keeps p () post) (start : Known s) :
    C.Keeps p s fun a t => Known t ∧ post a () := by
  refine (made.transfer (fun _ => Known) ?_ start).mono fun a t ⟨_, known, promised⟩ =>
    ⟨known, promised⟩
  intro _ s c known permitted
  obtain ⟨permitted, next⟩ := bears s c known permitted
  exact ⟨permitted, fun reply t step => ⟨(), trivial, next reply t step⟩⟩

/-- The contract asks nothing of a reply. -/
@[simp] theorem making_step (c : DriverCall) (reply : c.Reply) (u : Unit) :
    (making kinds).step t c reply u ↔ True := Iff.rfl

/-- Objects of the kinds may be made. -/
@[simp] theorem making_permits_create (request : Creation) :
    (making kinds).permits t (.create request) ↔ kinds request.kind := Iff.rfl

/-- Operations are all permitted. -/
@[simp] theorem making_permits_perform (operation : Operation) :
    (making kinds).permits t (.perform operation) := trivial

private theorem making_answers : (making kinds).Answers fun _ => True := by
  intro _ c query _
  refine ⟨?_, fun _ _ _ => trivial⟩
  cases c with
  | create request => exact query.elim
  | _ => exact trivial

private theorem making_releases : (making kinds).Releases (fun _ => True) fun _ => True :=
  fun _ _ _ _ => ⟨trivial, fun _ _ => trivial⟩

/-! ## Taking down -/

private theorem making_perform (operation : Operation) :
    (making kinds).KeepsTask (Driver.perform operation) t (fun _ _ => True) fun _ _ => True := by
  simp

private theorem making_release {kind : ObjectKind} (handle : Handle kind) :
    (making kinds).Keeps (Driver.release handle) t fun _ _ => True :=
  making_releases.release handle trivial trivial

private theorem making_releaseTexture (texture : SampledImage) :
    (making kinds).Keeps texture.release t fun _ _ => True := by
  unfold SampledImage.release
  simp only [keeps_bind, keeps_log]
  apply (making_release _).mono
  intro _ _ _
  apply (making_release _).mono
  intro _ _ _
  exact making_release _

private theorem making_gateDestroy (gate : FrameGate) :
    ((making kinds).behind GateCall.onDriver).Keeps (FrameGate.destroy gate) t
      fun _ _ => True :=
  (making_releases.gateDestroy gate (fun _ _ => trivial) trivial).mono fun _ _ _ => trivial

private theorem making_screenDestroy (screen : Screen) :
    (making kinds).Keeps (Screen.destroy screen) t fun _ _ => True :=
  making_releases.screenDestroy screen (fun _ _ => trivial) trivial

private theorem making_tearDown (stack : Stack) :
    (making kinds).Keeps (Stack.tearDown stack) t fun _ _ => True := by
  rw [keeps_stackTearDown]
  by_cases tornDown : stack.tornDown = true
  · rw [if_pos tornDown]
    exact trivial
  rw [if_neg tornDown, keeps_freeCommands]
  refine ⟨trivial, fun _ _ => ?_⟩
  apply (making_releases.unlessNull _ trivial trivial).mono
  intro _ _ _
  rw [keeps_destroyOnDriver]
  apply (making_gateDestroy _).mono
  intro _ _ _
  apply (making_screenDestroy _).mono
  intro _ _ _
  exact (making_releases.rigDestroy _ (fun _ _ => trivial) trivial).mono fun _ _ _ => trivial

/-- Closing a stack makes nothing. -/
theorem making_close (stack : Stack) :
    (making kinds).Keeps (Stack.close stack) t fun _ _ => True := by
  unfold Stack.close
  by_cases tornDown : stack.tornDown = true
  · rw [if_pos tornDown]
    exact trivial
  rw [if_neg tornDown, keeps_bind, keepsTask_run]
  apply (making_perform .deviceIdle).mono
  · exact fun _ _ _ => making_tearDown stack
  · exact fun e _ _ => making_tearDown stack

private theorem making_waitIdle (stack : Stack) :
    (making kinds).Keeps (Stack.answer .waitIdle stack) t fun _ _ => True := by
  rw [Stack.answer, keeps_bind, keepsTask_run]
  exact (making_perform .deviceIdle).mono (fun _ _ => id) fun _ _ => id

private theorem making_texture (texture : SampledImage) (stack : Stack) :
    (making kinds).Keeps (Stack.answer (.releaseTexture texture) stack) t fun _ _ => True := by
  rw [Stack.answer, keeps_bind]
  exact making_releaseTexture texture

private theorem making_clear (held : HeldTexture SampledImage) {x : Stack × Unit} :
    ((making kinds).through Stack.answer).Keeps (HeldTexture.clear held) x fun _ y =>
      ((making kinds).through Stack.answer).Keeps Graphics.tearDown y fun _ _ => True := by
  have tornDown (y : Stack × Unit) :
      ((making kinds).through Stack.answer).Keeps Graphics.tearDown y fun _ _ => True :=
    (keeps_tearDown _).mpr ⟨making_tearDown y.1, fun _ _ => trivial⟩
  rw [keeps_clear]
  cases held.current with
  | none => exact tornDown x
  | some current =>
    obtain ⟨texture, size⟩ := current
    exact (keeps_releaseTexture ..).mpr ⟨making_texture texture x.1, fun y _ => tornDown y⟩

/-- To close a renderer makes nothing. -/
theorem making_closeRenderer (r : Renderer SampledImage) (stack : Stack) :
    (making kinds).Keeps ((Renderer.close r).interpret Stack.answer stack) t fun _ _ => True := by
  rw [keeps_interpret, keeps_close, keepsOp_shutdown]
  by_cases closed : r.closed = true
  · rw [if_pos closed]
    exact trivial
  · rw [if_neg closed]
    refine keepsTask_waitIdle.mpr ⟨making_waitIdle stack, fun _ _ => ?_, fun _ _ _ => ?_⟩
    · exact making_clear r.texture
    · exact making_clear r.texture

/-! ## Everything but an instance -/

section Building

variable (others : ∀ kind, kind ≠ .apiInstance → kinds kind)
include others

private theorem making_create {request : Creation} (other : request.kind ≠ .apiInstance) :
    (making kinds).KeepsTask (Driver.create request) t (fun _ _ => True) fun _ _ => True :=
  (keepsTask_create _).mpr ⟨others _ other, fun _ _ _ => trivial, fun _ _ _ => trivial⟩

private theorem making_allocate (rig : Rig) (needs : MemoryRequirements) (flags : MemoryFlags) :
    (making kinds).KeepsTask (allocate rig needs flags) t (fun _ _ => True)
      fun _ _ => True := by
  unfold allocate
  cases rig.memory.typeFor? needs.typeBits flags with
  | none => exact trivial
  | some type => exact making_create others (by simp)

omit others in
private theorem making_stagingRelease (staging : StagingBuffer) :
    (making kinds).Keeps staging.release t fun _ _ => True := by
  unfold StagingBuffer.release
  rw [keeps_bind]
  exact (making_release _).mono fun _ _ _ => making_release _

private theorem making_ofPixels (rig : Rig) (pixels : PixelBuffer) :
    (making kinds).KeepsTask (StagingBuffer.ofPixels rig pixels) t (fun _ _ => True)
      fun _ _ => True := by
  unfold StagingBuffer.ofPixels StagingBuffer.create StagingBuffer.fill
  simp only [keepsTask_bind, keepsTask_undoing, keepsTask_liftM, keeps_bufferNeeds, keeps_store,
    keeps_unmap, keepsTask_pure]
  refine (making_create others (by simp)).mono (fun buffer _ _ => ?_) fun _ _ => id
  refine ⟨trivial, fun needs _ _ => ?_⟩
  refine (making_allocate others ..).mono (fun memory _ _ => ?_) fun _ _ _ => making_release _
  refine (making_perform _).mono (fun _ _ _ => ?_) fun _ _ _ => making_stagingRelease _
  refine (making_perform _).mono (fun _ _ _ => ?_) fun _ _ _ => making_stagingRelease _
  exact ⟨trivial, fun _ _ => ⟨trivial, fun _ _ => trivial⟩⟩

omit others in
private theorem making_releaseBare (image : Handle .image) (memory : Handle .memory) :
    (making kinds).Keeps (SampledImage.releaseBare image memory) t fun _ _ => True := by
  unfold SampledImage.releaseBare
  rw [keeps_bind]
  exact (making_release _).mono fun _ _ _ => making_release _

private theorem making_createBare (rig : Rig) (extent : Extent) :
    (making kinds).KeepsTask (SampledImage.createBare rig extent) t (fun _ _ => True)
      fun _ _ => True := by
  unfold SampledImage.createBare
  simp only [keepsTask_bind, keepsTask_undoing, keepsTask_liftM, keeps_imageNeeds, keepsTask_pure]
  refine (making_create others (by simp)).mono (fun image _ _ => ?_) fun _ _ => id
  refine ⟨trivial, fun needs _ _ => ?_⟩
  refine (making_allocate others ..).mono (fun memory _ _ => ?_) fun _ _ _ => making_release _
  exact (making_perform _).mono (fun _ _ _ => trivial) fun _ _ _ => making_releaseBare _ _

omit others in
private theorem making_changeLayout (commands : Handle .commandBuffer) (image : Handle .image)
    (old new : ImageLayout) :
    (making kinds).KeepsTask (changeLayout commands image old new) t (fun _ _ => True)
      fun _ _ => True := by
  unfold changeLayout
  cases LayoutChange.between? old new with
  | none => exact trivial
  | some change => exact ⟨trivial, fun _ _ _ => trivial⟩

private theorem making_copyIntoImage (rig : Rig) (staging : StagingBuffer) (image : Handle .image)
    (extent : Extent) (old : ImageLayout) :
    (making kinds).KeepsTask (copyIntoImage rig staging image extent old) t (fun _ _ => True)
      fun _ _ => True := by
  unfold copyIntoImage recordCopy
  simp only [keepsTask_bind, keepsTask_closing, keepsTask_liftM, keeps_record]
  refine (making_create others (by simp)).mono (fun commands _ _ => ?_) fun _ _ => id
  have freed (t : Unit) : (making kinds).Keeps (Driver.freeCommands rig.commandPool commands) t
      fun _ _ => True := (keeps_freeCommands ..).mpr ⟨trivial, fun _ _ => trivial⟩
  refine (making_perform _).mono (fun _ _ _ => ?_) fun _ _ _ => freed _
  refine (making_changeLayout ..).mono (fun _ _ _ => ?_) fun _ _ _ => freed _
  refine ⟨trivial, fun _ _ => ?_⟩
  refine (making_changeLayout ..).mono (fun _ _ _ => ?_) fun _ _ _ => freed _
  refine (making_perform _).mono (fun _ _ _ => ?_) fun _ _ _ => freed _
  refine (making_perform _).mono (fun _ _ _ => ?_) fun _ _ _ => freed _
  exact (making_perform _).mono (fun _ _ _ => freed _) fun _ _ _ => freed _

private theorem making_createTexture (rig : Rig) (pixels : PixelBuffer) :
    (making kinds).KeepsTask (SampledImage.create rig pixels) t (fun _ _ => True)
      fun _ _ => True := by
  unfold SampledImage.create
  simp only [keepsTask_bind, keepsTask_undoing, keepsTask_closing, keepsTask_driverLog,
    keepsTask_pure]
  refine (making_ofPixels others ..).mono (fun staging _ _ => ?_) fun _ _ => id
  refine (making_createBare others ..).mono (fun made _ _ => ?_)
    fun _ _ _ => making_stagingRelease _
  refine (making_copyIntoImage others ..).mono (fun _ _ _ => ?_) fun _ _ _ =>
    (making_stagingRelease _).mono fun _ _ _ => making_releaseBare _ _
  apply (making_stagingRelease _).mono
  intro _ _ _
  exact (making_create others (by simp)).mono (fun _ _ => id) fun _ _ _ => making_releaseBare _ _

private theorem making_updateTexture (rig : Rig) (texture : SampledImage) (pixels : PixelBuffer) :
    (making kinds).KeepsTask (SampledImage.update rig texture pixels) t (fun _ _ => True)
      fun _ _ => True := by
  unfold SampledImage.update
  by_cases other : pixels.extent ≠ texture.extent
  · simp [other]
  · simp only [if_neg other, keepsTask_bind, keepsTask_closing]
    refine (making_ofPixels others ..).mono (fun staging _ _ => ?_) fun _ _ => id
    exact (making_copyIntoImage others ..).mono (fun _ _ _ => making_stagingRelease _)
      fun _ _ _ => making_stagingRelease _

/-! ### Screen and gate -/

private theorem making_fillTargets (images : List (Handle .image)) (format : Format)
    (extent : Extent) :
    ((making kinds).behind TargetCall.onDriver).KeepsOp
      (TargetSet.fill images format extent) {} t (fun _ _ _ => True) fun _ _ _ => True := by
  rw [keepsOp_fillTargets]
  refine (keepsOp_forM (fun _ _ _ => True) (fun image _ _ _ _ => ?_) trivial).mono
    (fun _ set _ _ => ?_) fun _ _ _ => id
  · exact (keepsOp_addView ..).mpr (making_create others (by simp))
  refine (making_create others (by simp)).mono (fun renderPass _ _ => ?_) fun _ _ => id
  refine keepsOp_forM (fun _ _ _ => True) (fun view _ _ _ _ => ?_) trivial
  exact (keepsOp_addFramebuffer ..).mpr (making_create others (by simp))

private theorem making_screenFillOrDestroy (rig : Rig) (requested : Extent) (screen : Screen) :
    (making kinds).KeepsOp (Screen.fillOrDestroy rig requested) screen t
      (fun _ _ _ => True) fun _ _ _ => True := by
  rw [keepsOp_screenFillOrDestroy, keepsOp_screenFill]
  refine (making_answers.settle rig requested trivial).mono (fun request _ _ _ => ?_)
    fun _ _ _ _ => making_screenDestroy _
  refine (making_create others (by simp)).mono (fun swapchain _ _ => ?_)
    fun _ _ _ => making_screenDestroy _
  rw [keepsTask_swapchainImages]
  refine ⟨trivial, fun images _ _ => ?_, fun _ _ _ => making_screenDestroy _⟩
  rw [keepsTask_build]
  apply (making_fillTargets others ..).mono (fun _ _ _ => id)
  intro _ made _ _
  exact (making_releases.targetsDestroy made (fun _ _ => trivial) trivial).mono fun _ _ _ =>
    making_screenDestroy _

private theorem making_fillOrDestroyGate (gate : FrameGate) :
    ((making kinds).behind GateCall.onDriver).KeepsOp FrameGate.fillOrDestroy gate t
      (fun _ _ _ => True) fun _ _ _ => True := by
  rw [keepsOp_fillOrDestroy, keepsOp_fill]
  refine (making_create others (by simp)).mono (fun _ _ _ => ?_) fun _ _ _ => making_gateDestroy _
  refine (making_create others (by simp)).mono (fun _ _ _ => ?_) fun _ _ _ => making_gateDestroy _
  exact (making_create others (by simp)).mono (fun _ _ => id) fun _ _ _ => making_gateDestroy _

private theorem making_acquire (swapchain : Handle .swapchain) (timeoutNs : Nat)
    (gate : FrameGate) :
    (making kinds).KeepsOp (FrameGate.acquire swapchain timeoutNs) gate t
      (fun _ _ _ => True) fun _ _ _ => True := by
  rw [FrameGate.acquire, keepsOp_bind, keepsOp_get, keepsOp_bind, keepsOp_ofProgram, keeps_ask]
  refine ⟨trivial, fun reply _ _ => ?_⟩
  cases reply with
  | ok image => exact trivial
  | error result =>
    rw [keepsOp_bind, keepsOp_onDriver, keepsOp_replaceFence]
    refine (making_create others (by simp)).mono (fun _ _ _ => ?_) fun _ _ => id
    exact making_releases.unlessNull _ trivial trivial

omit others in
private theorem making_submitAndPresent (gate : FrameGate) (queue : Handle .queue)
    (commands : Handle .commandBuffer) (swapchain : Handle .swapchain) (image : UInt32) :
    (making kinds).KeepsTask (gate.submitAndPresent queue commands swapchain image) t
      (fun _ _ => True) fun _ _ => True := by
  rw [FrameGate.submitAndPresent, keepsTask_bind]
  refine (making_perform _).mono (fun _ _ _ => ?_) fun _ _ => id
  rw [keepsTask_bind, keepsTask_lift, keeps_ask]
  refine ⟨trivial, fun reply _ _ => ?_⟩
  cases reply with
  | ok suboptimal => exact trivial
  | error result =>
    by_cases late : result = .outOfDate
    · simp [late]
    · simp [late]

/-! ### Answers to a renderer -/

private theorem making_rebuild (extent : Extent) (stack : Stack) :
    (making kinds).KeepsOp (Stack.rebuild extent) stack t (fun _ _ _ => True)
      fun _ _ _ => True := by
  rw [Stack.rebuild, keepsOp_bind, keepsOp_ofTask]
  refine (making_perform .deviceIdle).mono (fun _ _ _ => ?_) fun _ _ => id
  rw [keepsOp_bind, keepsOp_get, keepsOp_bind, Stack.onScreen, keepsOp_onPart,
    keepsOp_screenRebuild]
  apply (making_screenDestroy _).mono
  intro _ _ _
  refine (making_screenFillOrDestroy others ..).mono (fun _ screen _ _ => ?_) fun _ _ _ => id
  rw [Stack.onGate, keepsOp_onPart, keepsOp_onDriver, keepsOp_rearm]
  apply (making_gateDestroy _).mono
  intro _ _ _
  exact making_fillOrDestroyGate others _

omit others in
private theorem making_beginPass (image : UInt32) (clear : Color) (stack : Stack) :
    (making kinds).KeepsOp (Stack.beginPass image clear) stack t (fun _ _ _ => True)
      fun _ _ _ => True := by
  rw [Stack.beginPass, keepsOp_bind, keepsOp_get]
  cases stack.screen.targets.framebuffer? image.toNat with
  | none => exact trivial
  | some framebuffer =>
    simp only [keepsOp_bind, keepsOp_ofTask, keepsOp_ofProgram, keepsOp_pure]
    refine (making_perform _).mono (fun _ _ _ => ?_) fun _ _ => id
    refine (making_perform _).mono (fun _ _ _ => ?_) fun _ _ => id
    exact ⟨trivial, fun _ _ _ => trivial⟩

/-- No answer to a renderer makes an instance. -/
theorem making_answer (call : GraphicsCall SampledImage) (stack : Stack) :
    (making kinds).Keeps (Stack.answer call stack) t fun _ _ => True := by
  cases call with
  | extent => exact trivial
  | waitForPrevious =>
    rw [Stack.answer, keeps_run, Stack.waitForPrevious, keepsOp_bind, keepsOp_get, keepsOp_ofTask,
      FrameGate.waitForPrevious, keepsTask_bind]
    exact (making_perform _).mono (fun _ _ _ => making_perform _) fun _ _ => id
  | acquire =>
    rw [Stack.answer, keeps_run, Stack.acquire, keepsOp_bind, keepsOp_get, Stack.onGate,
      keepsOp_onPart]
    exact making_acquire others ..
  | beginPass image clear =>
    rw [Stack.answer, keeps_run]
    exact making_beginPass image clear stack
  | endPass =>
    rw [Stack.answer, keeps_run, Stack.endPass, keepsOp_bind, keepsOp_get]
    simp only [keepsOp_bind, keepsOp_ofProgram, keepsOp_ofTask]
    exact ⟨trivial, fun _ _ _ => making_perform _⟩
  | present image =>
    rw [Stack.answer, keeps_run, Stack.present, keepsOp_bind, keepsOp_get, keepsOp_ofTask]
    exact making_submitAndPresent ..
  | rebuild extent =>
    rw [Stack.answer, keeps_run]
    exact making_rebuild others extent stack
  | createTexture pixels =>
    rw [Stack.answer, keeps_bind, keepsTask_run]
    exact (making_createTexture others ..).mono (fun _ _ => id) fun _ _ => id
  | updateTexture texture pixels =>
    rw [Stack.answer, keeps_bind, keepsTask_run]
    exact (making_updateTexture others ..).mono (fun _ _ => id) fun _ _ => id
  | releaseTexture texture => exact making_texture texture stack
  | binding texture => exact trivial
  | waitIdle => exact making_waitIdle stack
  | tearDown => exact making_tearDown stack

/-- Whatever a renderer asks for, no instance is made. -/
theorem making_interpret (p : Program (Graphics SampledImage Recording) α) (stack : Stack) :
    (making kinds).Keeps (p.interpret Stack.answer stack) t fun _ _ => True :=
  keeps_interpret_known (fun _ _ => True) (fun call stack _ _ => making_answer others call stack)
    trivial

/-! ### On an instance -/

omit others in
private theorem making_takeDown (scaffold : Rig.Scaffold) :
    (making kinds).Keeps scaffold.takeDown t fun _ _ => True :=
  making_releases.takeDown scaffold (fun _ _ => trivial) trivial

private theorem making_attach : (making kinds).Keeps Diagnostics.attach t fun _ _ => True := by
  unfold Diagnostics.attach
  rw [keeps_bind, keepsTask_run]
  exact (making_create others (by simp)).mono (fun _ _ => id) fun _ _ _ => trivial

private theorem making_createSurface (display : NativeDisplay) (window : NativeWindow) :
    (making kinds).KeepsTask (Rig.createSurface display window) t (fun _ _ => True)
      fun _ _ => True := by
  unfold Rig.createSurface
  rw [keepsTask_bind, keepsTask_checked]
  cases display.platformWith window with
  | error result => exact trivial
  | ok platform => exact making_create others (by simp)

private theorem making_putUp (display : NativeDisplay) (window : NativeWindow)
    (settings : GraphicsSettings) (scaffold : Rig.Scaffold) :
    (making kinds).KeepsOp (Rig.putUp display window settings) scaffold t (fun _ _ _ => True)
      fun _ _ _ => True := by
  unfold Rig.putUp Rig.createDevice
  simp only [keepsOp_bind, keepsOp_ofTask, keepsOp_modify, keepsOp_ofProgram, keepsOp_log,
    keepsOp_get, keepsOp_pure, keepsTask_bind, keepsTask_driverLog, keepsTask_pure]
  have asked {c : DriverCall} (query : c.IsQuery) (t : Unit) :
      (making kinds).Keeps (Program.ask (I := Driver) c) t fun _ _ => True :=
    making_answers.ask query trivial
  refine (making_createSurface others ..).mono (fun surface _ _ => ?_) fun _ _ => id
  refine (making_answers.selectDevice _ _ trivial).mono (fun offer _ _ => ?_) fun _ _ => id
  apply (asked (c := .properties _) trivial _).mono
  intro _ _ _
  apply (asked (c := .anisotropy _) trivial _).mono
  intro _ _ _
  apply (asked (c := .memory _) trivial _).mono
  intro _ _ _
  refine (making_create others (by simp)).mono (fun device _ _ => ?_) fun _ _ => id
  apply (asked (c := .queue _) trivial _).mono
  intro _ _ _
  refine (making_create others (by simp)).mono (fun _ _ _ => ?_) fun _ _ => id
  exact (making_create others (by simp)).mono (fun _ _ => id) fun _ _ => id

private theorem making_buildOn (rig : Rig) (settings : GraphicsSettings) :
    (making kinds).KeepsTask (Stack.buildOn rig settings) t (fun _ _ => True)
      fun _ _ => True := by
  unfold Stack.buildOn createSampler
  simp only [keepsTask_bind, keepsTask_undoing, keeps_bind, keepsTask_screenCreate,
    keepsTask_createOnDriver, keeps_destroyOnDriver, keepsTask_driverLog, keepsTask_pure]
  refine (making_screenFillOrDestroy others ..).mono (fun _ screen _ _ => ?_) fun _ _ _ => id
  have screenGone (t : Unit) : (making kinds).Keeps (Screen.destroy screen) t
      fun _ t => (making kinds).Keeps (pure ()) t fun _ _ => True := making_screenDestroy screen
  refine (making_fillOrDestroyGate others _).mono (fun _ gate _ _ => ?_)
    fun _ _ _ _ => screenGone _
  have gateGone (t : Unit) : ((making kinds).behind GateCall.onDriver).Keeps
      (FrameGate.destroy gate) t fun _ t => (making kinds).Keeps (pure ()) t fun _ t =>
        (making kinds).Keeps (Screen.destroy screen) t fun _ t =>
          (making kinds).Keeps (pure ()) t fun _ _ => True :=
    (making_gateDestroy gate).mono fun _ t _ => screenGone t
  refine (making_create others (by simp)).mono (fun sampler _ _ => ?_) fun _ _ _ => gateGone _
  refine (making_create others (by simp)).mono (fun _ _ => id) fun _ t _ => ?_
  exact (making_release sampler).mono fun _ _ _ => gateGone _

end Building

/-! ## The instance -/

/-- An instance is made before anything else is made. The state tells whether something was. -/
def instanceFirst : Contract Driver Bool where
  step
    | _, .create _, .ok _, after => after = true
    | made, _, _, after => after = made
  permits
    | made, .create request => request.kind = .apiInstance → made = false
    | _, _ => True

private theorem instanceFirst_bears (made : Bool) (c : DriverCall)
    (permitted : (making (· ≠ .apiInstance)).permits () c) :
    instanceFirst.permits made c ∧ ∀ reply after, instanceFirst.step made c reply after → True := by
  refine ⟨?_, fun _ _ _ => trivial⟩
  cases c with
  | create request => exact fun same => absurd same permitted
  | _ => trivial

/-- What makes no instance may come at any time. -/
theorem instanceFirst_of_making {p : Program Driver α} {post : α → Unit → Prop}
    (kept : (making (· ≠ .apiInstance)).Keeps p () post) (made : Bool) :
    instanceFirst.Keeps p made fun _ _ => True :=
  (keeps_of_making (fun _ => True) (fun made c _ => instanceFirst_bears made c) kept trivial).mono
    fun _ _ _ => trivial

private theorem instanceFirst_task {task : Driver.Task α} {good : α → Unit → Prop}
    {bad : GraphicsError → Unit → Prop}
    (kept : (making (· ≠ .apiInstance)).KeepsTask task () good bad) (made : Bool) :
    instanceFirst.KeepsTask task made (fun _ _ => True) fun _ _ => True := by
  unfold KeepsTask at kept
  exact (instanceFirst_of_making kept made).mono fun r _ _ => by cases r <;> trivial

private theorem instanceFirst_answers : instanceFirst.Answers fun made => made = false := by
  intro made c query known
  cases c with
  | create request => exact query.elim
  | release o => exact query.elim
  | perform operation => exact query.elim
  | _ => exact ⟨trivial, fun _ _ same => same.trans known⟩

private theorem instanceFirst_createInstance (display : NativeDisplay) (appName : String)
    (validation : Bool) :
    instanceFirst.KeepsTask (Rig.createInstance display appName validation) false
      (fun _ _ => True) fun _ _ => True := by
  unfold Rig.createInstance
  rw [keepsTask_bind, keepsTask_checked, keeps_done]
  cases display.extensions with
  | error result => exact trivial
  | ok extensions =>
    simp only [keepsTask_bind, keepsTask_driverLog, keepsTask_pure]
    exact (keepsTask_create _).mpr ⟨fun _ => rfl, fun _ _ _ => trivial, fun _ _ _ => trivial⟩

-- Whatever fails while a rig is put up, its instance is made before everything else.
private theorem instanceFirst_createRig (display : NativeDisplay) (window : NativeWindow)
    (settings : GraphicsSettings) :
    instanceFirst.KeepsTask (Rig.create display window settings) false (fun _ _ => True)
      fun _ _ => True := by
  have others : ∀ kind, kind ≠ .apiInstance → kind ≠ ObjectKind.apiInstance := fun _ => id
  rw [keepsTask_rigCreate]
  refine ⟨trivial, fun loaded made same => ?_⟩
  obtain rfl : made = false := same
  by_cases loaded : loaded = true
  · rw [if_pos loaded]
    apply (instanceFirst_answers.wanted settings rfl).mono
    rintro validation made rfl
    refine (instanceFirst_createInstance ..).mono (fun apiInstance made _ => ?_) fun _ _ => id
    have messenger : instanceFirst.Keeps
        (if validation then Diagnostics.attach else .done none) made fun _ _ => True := by
      by_cases validation : validation = true
      · rw [if_pos validation]
        exact instanceFirst_of_making (making_attach others) made
      · rw [if_neg validation]
        exact trivial
    apply messenger.mono
    intro messenger made _
    have putUp (scaffold : Rig.Scaffold) :=
      making_putUp (t := ()) others display window settings scaffold
    unfold KeepsOp at putUp ⊢
    apply (instanceFirst_of_making (putUp _) made).mono
    rintro ⟨_ | rig, scaffold⟩ made _
    · exact instanceFirst_of_making (making_takeDown scaffold) made
    · exact trivial
  · rw [if_neg loaded]
    exact trivial

/-- Whatever fails while a stack is made, its instance is made before everything else. -/
theorem instanceFirst_createStack (handles : NativeHandles) (settings : GraphicsSettings) :
    instanceFirst.KeepsTask (Stack.create handles settings) false (fun _ _ => True)
      fun _ _ => True := by
  rw [keepsTask_stackCreate]
  cases handles.display with
  | error fault => exact trivial
  | ok display =>
    cases handles.window with
    | error fault => exact trivial
    | ok window =>
      refine (instanceFirst_createRig ..).mono (fun rig made _ => ?_) fun _ _ => id
      have built := making_buildOn (fun _ => id) rig settings (t := ())
      refine (instanceFirst_task built made).mono (fun _ _ => id) fun _ made _ => ?_
      exact instanceFirst_of_making
        (making_releases.rigDestroy rig (fun _ _ => trivial) trivial) made

end PaintPresenter.Vulkan
