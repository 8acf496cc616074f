import PaintPresenter.Proofs.DriverConduct

/-!
# Parts of a stack that make and release objects only

Rig, screen, gate and sampler ask the driver questions, make objects of some kinds and release
objects of the same kinds, and do nothing else: nothing is recorded, submitted or waited for.
`keeps_of_confined` takes this to any other contract.
-/

namespace PaintPresenter.Vulkan

open Contract

/-- Questions, and calls that make or release objects of some kinds. -/
def Confined (kinds : ObjectKind → Prop) : DriverCall → Prop
  | .create request => kinds request.kind
  | .release o => kinds o.kind
  | .freeCommands _ _ | .perform _ | .acquire _ _ _ | .present _ _ _ _ | .record _ _ | .store _ _
  | .unmap _ => False
  | _ => True

/-- Only such calls are made. -/
def confined (kinds : ObjectKind → Prop) : Contract Driver Unit where
  step _ _ _ _ := True
  permits _ := Confined kinds

/-- The kinds of render targets. -/
def TargetSet.kinds : List ObjectKind := [.framebuffer, .renderPass, .view]

/-- The kinds of a screen's objects. -/
def Screen.kinds : List ObjectKind := [.framebuffer, .renderPass, .view, .swapchain]

/-- The kinds of a rig's objects. -/
def Rig.kinds : List ObjectKind :=
  [.descriptorPool, .commandPool, .device, .messenger, .surface, .apiInstance]

/-- The kinds of a gate's objects. -/
def FrameGate.kinds : List ObjectKind := [.semaphore, .fence]

variable {kinds : ObjectKind → Prop} {α γ : Type} {t : Unit}

/-- A confined program keeps true what such calls keep true. -/
theorem keeps_of_confined {C : Contract Driver γ} {p : Program Driver α} {s : γ}
    {post : α → Unit → Prop} (Known : γ → Prop)
    (bears : ∀ s c, Known s → Confined kinds c →
      C.permits s c ∧ ∀ reply t, C.step s c reply t → Known t)
    (kept : (confined kinds).Keeps p () post) (start : Known s) :
    C.Keeps p s fun a t => Known t ∧ post a () := by
  refine (kept.transfer (fun _ => Known) ?_ start).mono fun a t ⟨_, known, promised⟩ =>
    ⟨known, promised⟩
  intro _ s c known permitted
  obtain ⟨permitted, next⟩ := bears s c known permitted
  exact ⟨permitted, fun reply t step => ⟨(), trivial, next reply t step⟩⟩

/-- The contract permits exactly the calls that are confined to the kinds. -/
@[simp] theorem confined_permits (c : DriverCall) :
    (confined kinds).permits t c ↔ Confined kinds c := Iff.rfl

/-- The contract asks nothing of a reply. -/
@[simp] theorem confined_step (c : DriverCall) (reply : c.Reply) (u : Unit) :
    (confined kinds).step t c reply u ↔ True := Iff.rfl

private theorem confined_answers : (confined kinds).Answers fun _ => True := by
  intro _ c query _
  refine ⟨?_, fun _ _ _ => trivial⟩
  cases c with
  | create request => exact query.elim
  | release o => exact query.elim
  | perform operation => exact query.elim
  | acquire swapchain timeoutNs semaphore => exact query.elim
  | present queue wait swapchain image => exact query.elim
  | record buffer command => exact query.elim
  | freeCommands pool buffer => exact query.elim
  | store memory bytes => exact query.elim
  | unmap memory => exact query.elim
  | _ => exact trivial

private theorem confined_releases : (confined kinds).Releases kinds fun _ => True :=
  fun _ _ allowed _ => ⟨allowed, fun _ _ => trivial⟩

private theorem confined_create {request : Creation} (allowed : kinds request.kind) :
    (confined kinds).KeepsTask (Driver.create request) t (fun _ _ => True) fun _ _ => True :=
  (keepsTask_create _).mpr ⟨allowed, fun _ _ _ => trivial, fun _ _ _ => trivial⟩

/-! ## The screen -/

section Targets

variable (allowed : ∀ kind ∈ TargetSet.kinds, kinds kind)

include allowed

private theorem confined_fillTargets (images : List (Handle .image)) (format : Format)
    (extent : Extent) :
    ((confined kinds).behind TargetCall.onDriver).KeepsOp
      (TargetSet.fill images format extent) {} t (fun _ _ _ => True) fun _ _ _ => True := by
  rw [keepsOp_fillTargets]
  refine (keepsOp_forM (fun _ _ _ => True) (fun image _ _ _ _ => ?_) trivial).mono
    (fun _ set _ _ => ?_) fun _ _ _ => id
  · exact (keepsOp_addView ..).mpr (confined_create (allowed _ (by simp [TargetSet.kinds])))
  refine (confined_create (allowed _ (by simp [TargetSet.kinds]))).mono
    (fun renderPass _ _ => ?_) fun _ _ => id
  refine keepsOp_forM (fun _ _ _ => True) (fun view _ _ _ _ => ?_) trivial
  exact (keepsOp_addFramebuffer ..).mpr (confined_create (allowed _ (by simp [TargetSet.kinds])))

/-- Building targets makes and destroys only views, render passes and framebuffers. -/
theorem confined_buildTargets (images : List (Handle .image)) (format : Format)
    (extent : Extent) :
    (confined kinds).KeepsTask
      (ExceptT.mk ((TargetSet.build images format extent).run.embed TargetCall.onDriver)) t
      (fun _ _ => True) fun _ _ => True := by
  rw [keepsTask_build]
  exact (confined_fillTargets allowed ..).mono (fun _ _ _ => id) fun _ made _ _ =>
    confined_releases.targetsDestroy made allowed trivial

end Targets

section Screen

variable (allowed : ∀ kind ∈ Screen.kinds, kinds kind)

include allowed

private theorem confined_screenDestroy (screen : Screen) :
    (confined kinds).Keeps (Screen.destroy screen) t fun _ _ => True :=
  confined_releases.screenDestroy screen allowed trivial

private theorem confined_screenFillOrDestroy (rig : Rig) (requested : Extent) (screen : Screen) :
    (confined kinds).KeepsOp (Screen.fillOrDestroy rig requested) screen t
      (fun _ _ _ => True) fun _ _ _ => True := by
  rw [keepsOp_screenFillOrDestroy, keepsOp_screenFill]
  refine (confined_answers.settle rig requested trivial).mono (fun request _ _ _ => ?_)
    fun _ _ _ _ => confined_screenDestroy allowed _
  refine (confined_create (allowed _ (by simp [Screen.kinds]))).mono (fun swapchain _ _ => ?_)
    fun _ _ _ => confined_screenDestroy allowed _
  rw [keepsTask_swapchainImages]
  refine ⟨trivial, fun images _ _ => ?_, fun _ _ _ => confined_screenDestroy allowed _⟩
  refine (confined_buildTargets (fun kind mem => allowed kind ?_) ..).mono (fun _ _ => id)
    fun _ _ _ => confined_screenDestroy allowed _
  exact List.mem_append_left [.swapchain] mem

/-- Putting up a screen stays within the kinds of its objects. -/
theorem confined_createScreen (rig : Rig) (requested : Extent) :
    (confined kinds).KeepsTask (Screen.create rig requested) t (fun _ _ => True)
      fun _ _ => True := by
  rw [keepsTask_screenCreate]
  exact confined_screenFillOrDestroy allowed ..

/-- Putting it up anew stays within the same kinds. -/
theorem confined_rebuildScreen (rig : Rig) (requested : Extent) (screen : Screen) :
    (confined kinds).KeepsOp (Screen.rebuild rig requested) screen t
      (fun _ _ _ => True) fun _ _ _ => True := by
  rw [keepsOp_screenRebuild]
  exact (confined_screenDestroy allowed _).mono fun _ _ _ =>
    confined_screenFillOrDestroy allowed ..

end Screen

/-! ## The gate -/

section Gate

variable (allowed : ∀ kind ∈ FrameGate.kinds, kinds kind)

include allowed

private theorem confined_gateDestroy (gate : FrameGate) :
    ((confined kinds).behind GateCall.onDriver).Keeps (FrameGate.destroy gate) t
      fun _ _ => True :=
  (confined_releases.gateDestroy gate allowed trivial).mono fun _ _ _ => trivial

private theorem confined_fillOrDestroy (gate : FrameGate) :
    ((confined kinds).behind GateCall.onDriver).KeepsOp FrameGate.fillOrDestroy gate t
      (fun _ _ _ => True) fun _ _ _ => True := by
  have semaphore : kinds .semaphore := allowed _ (by simp [FrameGate.kinds])
  have fence : kinds .fence := allowed _ (by simp [FrameGate.kinds])
  rw [keepsOp_fillOrDestroy, keepsOp_fill]
  refine (confined_create semaphore).mono (fun _ _ _ => ?_) fun _ _ _ =>
    confined_gateDestroy allowed _
  refine (confined_create semaphore).mono (fun _ _ _ => ?_) fun _ _ _ =>
    confined_gateDestroy allowed _
  exact (confined_create fence).mono (fun _ _ _ => trivial) fun _ _ _ =>
    confined_gateDestroy allowed _

/-- Making a gate stays within the kinds of its objects. -/
theorem confined_createGate :
    (confined kinds).KeepsTask FrameGate.createOnDriver t (fun _ _ => True) fun _ _ => True := by
  rw [keepsTask_createOnDriver]
  exact confined_fillOrDestroy allowed _

/-- Making its objects anew stays within the same kinds. -/
theorem confined_rearm (gate : FrameGate) :
    (confined kinds).KeepsOp (FrameGate.onDriver FrameGate.rearm) gate t
      (fun _ _ _ => True) fun _ _ _ => True := by
  rw [keepsOp_onDriver, keepsOp_rearm]
  exact (confined_gateDestroy allowed gate).mono fun _ _ _ => confined_fillOrDestroy allowed _

/-- So does replacing its fence. -/
theorem confined_replaceFence (gate : FrameGate) :
    (confined kinds).KeepsOp (FrameGate.onDriver FrameGate.replaceFence) gate t
      (fun _ _ _ => True) fun _ _ _ => True := by
  have fence : kinds .fence := allowed _ (by simp [FrameGate.kinds])
  rw [keepsOp_onDriver, keepsOp_replaceFence]
  exact (confined_create fence).mono
    (fun _ _ _ => confined_releases.unlessNull _ fence trivial) fun _ _ => id

end Gate

/-! ## The rig -/

section Rig

variable (allowed : ∀ kind ∈ Rig.kinds, kinds kind)

include allowed

private theorem confined_attach :
    (confined kinds).Keeps Diagnostics.attach t fun _ _ => True := by
  unfold Diagnostics.attach
  rw [keeps_bind, keepsTask_run]
  exact (confined_create (allowed _ (by simp [Rig.kinds]))).mono (fun _ _ _ => trivial)
    fun _ _ _ => trivial

private theorem confined_createInstance (display : NativeDisplay) (appName : String)
    (validation : Bool) :
    (confined kinds).KeepsTask (Rig.createInstance display appName validation) t
      (fun _ _ => True) fun _ _ => True := by
  unfold Rig.createInstance
  rw [keepsTask_bind, keepsTask_checked]
  cases display.extensions with
  | error result => exact trivial
  | ok extensions =>
    simp only [keeps_done, keepsTask_bind, keepsTask_driverLog]
    exact (confined_create (allowed _ (by simp [Rig.kinds]))).mono (fun _ _ _ => trivial)
      fun _ _ => id

private theorem confined_createSurface (display : NativeDisplay) (window : NativeWindow) :
    (confined kinds).KeepsTask (Rig.createSurface display window) t
      (fun _ _ => True) fun _ _ => True := by
  unfold Rig.createSurface
  rw [keepsTask_bind, keepsTask_checked]
  cases display.platformWith window with
  | error result => exact trivial
  | ok platform => exact confined_create (allowed _ (by simp [Rig.kinds]))

private theorem confined_createDevice (device : Handle .physicalDevice) (family : Nat)
    (anisotropy : Bool) :
    (confined kinds).KeepsTask (Rig.createDevice device family anisotropy) t
      (fun _ _ => True) fun _ _ => True := by
  unfold Rig.createDevice
  simp only [keepsTask_bind, keepsTask_driverLog]
  exact (confined_create (allowed _ (by simp [Rig.kinds]))).mono (fun _ _ _ => trivial)
    fun _ _ => id

private theorem confined_putUp (display : NativeDisplay) (window : NativeWindow)
    (settings : GraphicsSettings) (scaffold : Rig.Scaffold) :
    (confined kinds).KeepsOp (Rig.putUp display window settings) scaffold t
      (fun _ _ _ => True) fun _ _ _ => True := by
  unfold Rig.putUp
  simp only [keepsOp_bind, keepsOp_ofTask, keepsOp_modify, keepsOp_ofProgram, keepsOp_log,
    keepsOp_get, keepsOp_pure]
  refine (confined_createSurface allowed ..).mono (fun surface _ _ => ?_) fun _ _ => id
  refine (confined_answers.selectDevice _ _ trivial).mono (fun offer _ _ => ?_) fun _ _ => id
  apply (confined_answers.ask (c := .properties _) trivial trivial).mono
  intro _ _ _
  apply (confined_answers.ask (c := .anisotropy _) trivial trivial).mono
  intro _ _ _
  apply (confined_answers.ask (c := .memory _) trivial trivial).mono
  intro _ _ _
  refine (confined_createDevice allowed ..).mono (fun device _ _ => ?_) fun _ _ => id
  apply (confined_answers.ask (c := .queue _) trivial trivial).mono
  intro _ _ _
  refine (confined_create (allowed _ (by simp [Rig.kinds]))).mono (fun _ _ _ => ?_)
    fun _ _ => id
  exact (confined_create (allowed _ (by simp [Rig.kinds]))).mono (fun _ _ => id) fun _ _ => id

/-- Building a rig stays within the kinds of its objects. -/
theorem confined_createRig (display : NativeDisplay) (window : NativeWindow)
    (settings : GraphicsSettings) :
    (confined kinds).KeepsTask (Rig.create display window settings) t
      (fun _ _ => True) fun _ _ => True := by
  rw [keepsTask_rigCreate]
  refine ⟨trivial, fun loaded _ _ => ?_⟩
  by_cases loaded : loaded = true
  · rw [if_pos loaded]
    apply (confined_answers.wanted settings trivial).mono
    intro validation _ _
    refine (confined_createInstance allowed ..).mono (fun apiInstance _ _ => ?_) fun _ _ => id
    have messenger : (confined kinds).Keeps
        (if validation then Diagnostics.attach else .done none) t fun _ _ => True := by
      by_cases validation : validation = true
      · rw [if_pos validation]
        exact confined_attach allowed
      · rw [if_neg validation]
        exact trivial
    apply messenger.mono
    intro messenger _ _
    exact (confined_putUp allowed ..).mono (fun _ _ _ => id) fun _ scaffold _ _ =>
      confined_releases.takeDown scaffold
        (fun kind mem => allowed kind (List.mem_cons_of_mem _ mem)) trivial
  · rw [if_neg loaded]
    exact trivial

end Rig

/-! ## The sampler -/

/-- Making a sampler makes objects of no other kind. -/
theorem confined_createSampler (allowed : kinds .sampler) (rig : Rig) :
    (confined kinds).KeepsTask (createSampler rig) t (fun _ _ => True) fun _ _ => True := by
  unfold createSampler
  simp only [keepsTask_bind, keepsTask_driverLog, keepsTask_pure]
  exact (confined_create allowed).mono (fun _ _ _ => trivial) fun _ _ => id

end PaintPresenter.Vulkan
