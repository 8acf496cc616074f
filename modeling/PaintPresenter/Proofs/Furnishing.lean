import PaintPresenter.Proofs.OrderlyDriver

/-!
# What a rebuild leaves

A rebuild that succeeds leaves a screen with one view and one framebuffer for each image and a gate
whose three objects are there. This is proved once, for every driver: `Furnishes` says what is
needed of one, which errors it may cause, and what is known of the images that were reported last.
-/

namespace PaintPresenter.Vulkan

open Contract

/-- Nothing of a gate is missing. -/
structure FrameGate.Whole (gate : FrameGate) : Prop where
  imageAvailable : gate.imageAvailable ≠ .null
  renderFinished : gate.renderFinished ≠ .null
  inFlight : gate.inFlight ≠ .null

/-- A set of targets has a view and a framebuffer for each of a number of images. -/
structure TargetSet.Covers (targets : TargetSet) (images : Nat) : Prop where
  renderPass : targets.renderPass ≠ .null
  views : targets.views.length = images
  framebuffers : targets.framebuffers.length = images

/-- A screen has a swapchain and all that is needed to draw into its images. -/
structure Screen.Whole (screen : Screen) : Prop where
  swapchain : screen.swapchain ≠ .null
  targets : screen.targets.Covers screen.images.length

/-- The call belongs to taking a screen down or putting it up, and reports no images. -/
def DriverCall.Furnishes : DriverCall → Prop
  | .create _ | .release _ | .surfaceLimits _ _ | .surfaceFormats _ _ | .perform .deviceIdle => True
  | _ => False

/-- What a driver is relied on for in a rebuild: `Counts n` is known while the swapchain in use has
`n` images, and every failure is one of the errors in `Bad`. -/
structure Furnishes {γ : Type} (W : Program.World Driver γ) (Counts : Nat → γ → Prop)
    (Bad : GraphicsError → Prop) : Prop where
  keeps : ∀ {n s c reply t}, W.step s c reply t → c.Furnishes → Counts n s → Counts n t
  real : ∀ {s request made t}, W.step s (.create request) (.ok made) t → made ≠ .null
  reports : ∀ {n s swapchain images t}, Counts n s →
    W.step s (.swapchainImages swapchain) (.ok images) t → Counts images.length t
  fails : ∀ {s} {c : DriverCall} {reply t result}, W.step s c reply t →
    c.failure? reply = some result → ¬c.Waits → ¬c.Swaps → ∀ function,
      Bad (.ofResult function result)
  noFormat : ∀ {s device surface formats t},
    W.step s (.surfaceFormats device surface) (.ok formats) t → chooseFormat? formats = none →
      Bad (.driver "vkGetPhysicalDeviceSurfaceFormatsKHR" .formatNotSupported)

/-- An orderly driver is reliable in that its failures are grave. -/
theorem furnishes_orderly : Furnishes orderly (fun _ _ => True) Grave where
  keeps _ _ _ := trivial
  real step := by
    obtain ⟨u, v, -, effect, -⟩ := step.2.2
    exact effect.1
  reports _ _ := trivial
  fails step failed waits swaps function := step.1.grave failed waits (fun _ => swaps) function
  noFormat _ _ := rfl

namespace Furnishes

variable {γ : Type} {W : Program.World Driver γ} {Counts : Nat → γ → Prop}
  {Bad : GraphicsError → Prop} {n : Nat} {s : γ} {rig : Rig}

/-! ## Calls -/

private theorem create (furnishes : Furnishes W Counts Bad) (h : Counts n s) (request : Creation) :
    (free W).KeepsTask (Driver.create request) s (fun made t => made ≠ .null ∧ Counts n t)
      fun e _ => Bad e :=
  (Contract.keepsTask_create request).mpr ⟨trivial,
    fun _ _ step => ⟨furnishes.real step, furnishes.keeps step trivial h⟩,
    fun _ _ step => furnishes.fails step rfl id id _⟩

private theorem deviceIdle (furnishes : Furnishes W Counts Bad) (h : Counts n s) :
    (free W).KeepsTask Driver.deviceIdle s (fun _ t => Counts n t) fun e _ => Bad e :=
  (keepsTask_perform _).mpr ⟨trivial, fun _ step => furnishes.keeps step trivial h,
    fun _ _ step => furnishes.fails step rfl id id _⟩

private theorem releases (furnishes : Furnishes W Counts Bad) (n : Nat) :
    (free W).Releases (fun _ => True) (Counts n) :=
  fun _ _ _ h => ⟨trivial, fun _ step => furnishes.keeps step trivial h⟩

/-! ## Targets -/

private theorem addViews (furnishes : Furnishes W Counts Bad) (h : Counts n s)
    (images : List (Handle .image)) (format : Format) :
    ((free W).behind TargetCall.onDriver).KeepsOp (images.forM (TargetSet.addView format)) {} s
      (fun _ set t => set.views.length = images.length ∧ set.framebuffers = [] ∧ Counts n t)
      fun e _ _ => Bad e := by
  let Left (later : List (Handle .image)) (set : TargetSet) (t : γ) : Prop :=
    set.views.length + later.length = images.length ∧ set.framebuffers = [] ∧ Counts n t
  refine keepsOp_forM Left ?_ ⟨by simp, rfl, h⟩
  rintro image later set t ⟨count, none, h⟩
  rw [keepsOp_addView]
  refine (furnishes.create h _).mono (fun view u made => ?_) fun _ _ => id
  refine ⟨?_, none, made.2⟩
  simp only [List.length_append, List.length_cons, List.length_nil] at count ⊢
  omega

private theorem addFramebuffers (furnishes : Furnishes W Counts Bad) (h : Counts n s)
    (extent : Extent) (set : TargetSet) (pass : set.renderPass ≠ .null)
    (none : set.framebuffers = []) :
    ((free W).behind TargetCall.onDriver).KeepsOp
      (set.views.forM (TargetSet.addFramebuffer extent)) set s
      (fun _ made t => made.Covers set.views.length ∧ Counts n t) fun e _ _ => Bad e := by
  let Left (later : List (Handle .view)) (made : TargetSet) (t : γ) : Prop :=
    made.renderPass ≠ .null ∧ made.views = set.views ∧
      made.framebuffers.length + later.length = set.views.length ∧ Counts n t
  have loop : ((free W).behind TargetCall.onDriver).KeepsOp
      (set.views.forM (TargetSet.addFramebuffer extent)) set s (fun _ made t => Left [] made t)
      fun e _ _ => Bad e := by
    refine keepsOp_forM Left ?_ ⟨pass, rfl, by simp [none], h⟩
    rintro view later made t ⟨pass, views, count, h⟩
    rw [keepsOp_addFramebuffer]
    refine (furnishes.create h _).mono (fun framebuffer u added => ?_) fun _ _ => id
    refine ⟨pass, views, ?_, added.2⟩
    simp only [List.length_append, List.length_cons, List.length_nil] at count ⊢
    omega
  refine loop.mono (fun _ made t left => ?_) fun _ _ _ => id
  obtain ⟨pass, views, count, h⟩ := left
  exact ⟨⟨pass, congrArg List.length views, count⟩, h⟩

private theorem buildTargets (furnishes : Furnishes W Counts Bad) (h : Counts n s)
    (images : List (Handle .image)) (format : Format) (extent : Extent) :
    (free W).KeepsTask
      (ExceptT.mk ((TargetSet.build images format extent).run.embed TargetCall.onDriver)) s
      (fun targets t => targets.Covers images.length ∧ Counts n t) fun e _ => Bad e := by
  rw [keepsTask_build, keepsOp_fillTargets]
  have undone {made : TargetSet} {t : γ} {e : GraphicsError} (bad : Bad e) :
      ((free W).behind TargetCall.onDriver).Keeps (TargetSet.destroy made) t fun _ _ => Bad e :=
    keeps_embed.mp (keeps_free fun _ _ => bad)
  refine (furnishes.addViews h images format).mono (fun _ set t left => ?_) fun _ _ _ => undone
  obtain ⟨count, none, h⟩ := left
  refine (furnishes.create h _).mono (fun renderPass u made => ?_) fun _ _ => undone
  rw [← count]
  have added := furnishes.addFramebuffers made.2 extent { set with renderPass } made.1 none
  exact added.mono (fun _ _ _ => id) fun _ _ _ => undone

/-! ## The screen -/

private theorem settle (furnishes : Furnishes W Counts Bad) (h : Counts n s) (requested : Extent)
    (screen : Screen) :
    (free W).KeepsOp (Screen.settle rig requested) screen s (fun _ _ t => Counts n t)
      fun e _ _ => Bad e := by
  rw [keepsOp_settle, keepsTask_surfaceLimits]
  refine ⟨trivial, fun limits t step => ?_, fun _ _ step => furnishes.fails step rfl id id _⟩
  have h := furnishes.keeps step trivial h
  rw [keepsTask_surfaceFormats]
  refine ⟨trivial, fun formats u step => ?_, fun _ _ step => furnishes.fails step rfl id id _⟩
  have h := furnishes.keeps step trivial h
  cases chosen : chooseFormat? formats with
  | none => exact furnishes.noFormat step chosen
  | some format => exact fun extent _ minImages _ => h

private theorem fillScreen (furnishes : Furnishes W Counts Bad) (h : Counts n s)
    (requested : Extent) (screen : Screen) :
    (free W).KeepsOp (Screen.fill rig requested) screen s
      (fun _ made t => made.Whole ∧ Counts made.images.length t) fun e _ _ => Bad e := by
  rw [keepsOp_screenFill]
  refine (furnishes.settle h requested screen).mono (fun request screen t h => ?_) fun _ _ _ => id
  refine (furnishes.create h _).mono (fun swapchain u made => ?_) fun _ _ => id
  rw [keepsTask_swapchainImages]
  refine ⟨trivial, fun images v step => ?_, fun _ _ step => furnishes.fails step rfl id id _⟩
  have h := furnishes.reports made.2 step
  refine (furnishes.buildTargets h images _ _).mono (fun targets w built => ?_) fun _ _ => id
  exact ⟨⟨made.1, built.1⟩, built.2⟩

/-- A screen that is filled is whole. -/
theorem fillOrDestroyScreen (furnishes : Furnishes W Counts Bad) (h : Counts n s)
    (requested : Extent) (screen : Screen) :
    (free W).KeepsOp (Screen.fillOrDestroy rig requested) screen s
      (fun _ made t => made.Whole ∧ Counts made.images.length t) fun e _ _ => Bad e := by
  rw [keepsOp_screenFillOrDestroy]
  exact (furnishes.fillScreen h requested screen).mono (fun _ _ _ => id)
    fun _ _ _ bad => keeps_free fun _ _ => bad

/-! ## The gate -/

/-- A gate that is filled is whole, and all that a new fence brings is true of its fence. -/
theorem fillOrDestroyGate (furnishes : Furnishes W Counts Bad) (h : Counts n s)
    {Ready : Handle .fence → γ → Prop}
    (ready : ∀ {s made t}, W.step s (.create (.fence true)) (.ok made) t → Ready made t)
    (gate : FrameGate) :
    ((free W).behind GateCall.onDriver).KeepsOp FrameGate.fillOrDestroy gate s
      (fun _ made t => made.Whole ∧ Ready made.inFlight t ∧ Counts n t) fun e _ _ => Bad e := by
  have undone {made : FrameGate} {t : γ} {e : GraphicsError} (bad : Bad e) :
      ((free W).behind GateCall.onDriver).Keeps (FrameGate.destroy made) t fun _ _ => Bad e :=
    keeps_embed.mp (keeps_free fun _ _ => bad)
  rw [Contract.keepsOp_fillOrDestroy, Contract.keepsOp_fill]
  refine (furnishes.create h _).mono (fun imageAvailable t first => ?_) fun _ _ => undone
  refine (furnishes.create first.2 _).mono (fun renderFinished u second => ?_) fun _ _ => undone
  refine (Contract.keepsTask_create _).mpr ⟨trivial, fun inFlight v step => ?_, fun _ _ step =>
    undone (furnishes.fails step rfl id id _)⟩
  exact ⟨⟨first.1, second.1, furnishes.real step⟩, ready step,
    furnishes.keeps step trivial second.2⟩

/-! ## The rebuild -/

/-- A rebuild that succeeds leaves nothing undone. -/
theorem rebuild (furnishes : Furnishes W Counts Bad) (h : Counts n s)
    {Ready : Handle .fence → γ → Prop}
    (ready : ∀ {s made t}, W.step s (.create (.fence true)) (.ok made) t → Ready made t)
    (extent : Extent) (stack : Stack) :
    (free W).KeepsOp (Stack.rebuild extent) stack s
      (fun _ after t => after.screen.Whole ∧ after.gate.Whole ∧ Ready after.gate.inFlight t ∧
        Counts after.screen.images.length t)
      fun e _ _ => Bad e := by
  unfold Stack.rebuild
  simp only [keepsOp_bind, keepsOp_ofTask, keepsOp_get, Stack.onScreen, Stack.onGate,
    keepsOp_onPart, keepsOp_onDriver, keepsOp_screenRebuild, Contract.keepsOp_rearm]
  refine (furnishes.deviceIdle h).mono (fun _ t h => ?_) fun _ _ => id
  apply ((furnishes.releases n).screenDestroy stack.screen (fun _ _ => trivial) h).mono
  intro out t h
  refine (furnishes.fillOrDestroyScreen h extent out.2).mono (fun _ screen u filled => ?_)
    fun _ _ _ => id
  obtain ⟨whole, h⟩ := filled
  apply ((furnishes.releases _).gateDestroy stack.gate (fun _ _ => trivial) h).mono
  rintro out v ⟨-, h⟩
  refine (furnishes.fillOrDestroyGate h ready out.2).mono (fun _ gate w armed => ?_) fun _ _ _ => id
  exact ⟨whole, armed⟩

end Furnishes

end PaintPresenter.Vulkan
