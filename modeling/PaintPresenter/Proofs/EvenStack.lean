import PaintPresenter.Proofs.Confined
import PaintPresenter.Proofs.EvenDriver
import PaintPresenter.Proofs.Upkeep

/-!
# A stack on an even driver

What each call to a stack leads to while the driver is even: an acquire and a present end as the
script says, a rebuild takes the size that it is made at, and everything else succeeds.
-/

namespace PaintPresenter.Extent

/-- The size with a pixel at least on each side. -/
def shown (e : Extent) : Extent :=
  ⟨if e.width = 0 then 1 else e.width, if e.height = 0 then 1 else e.height⟩

/-- A size that is shown always has pixels. -/
theorem shown_isEmpty (e : Extent) : e.shown.isEmpty = false := by
  have pixel (side : UInt32) : (if side = 0 then 1 else side) ≠ 0 := by
    split
    · decide
    · assumption
  simp [isEmpty, shown, pixel]

/-- A size that has pixels is shown as it is. -/
theorem shown_of_isEmpty {e : Extent} (pixels : e.isEmpty = false) : e.shown = e := by
  obtain ⟨width, height⟩ : e.width ≠ 0 ∧ e.height ≠ 0 := by simpa [isEmpty] using pixels
  simp [shown, width, height]

end PaintPresenter.Extent

namespace PaintPresenter.Vulkan

open Contract QueueState

variable {table : MemoryTable} {s t : QueueState × DriverScript} {stack : Stack}
  {Known : QueueState × DriverScript → Prop} {fence : Handle .fence}

/-! ## Calls that cannot fail -/

section Unfailing

variable {bad : GraphicsError → QueueState × DriverScript → Prop}

private theorem even_create {request : Creation}
    {good : Handle request.kind → QueueState × DriverScript → Prop}
    (kept : ∀ made t, (even table).step s (.create request) (.ok made) t → good made t) :
    (free (even table)).KeepsTask (Driver.create request) s good bad :=
  (Contract.keepsTask_create _).mpr ⟨trivial, kept, fun _ _ step =>
    absurd (step.2.1 id) (by simp [DriverCall.failure?])⟩

private theorem even_perform {operation : Operation}
    {good : Unit → QueueState × DriverScript → Prop}
    (kept : ∀ t, (even table).step s (.perform operation) (.ok ()) t → good () t) :
    (free (even table)).KeepsTask (Driver.perform operation) s good bad :=
  (keepsTask_perform _).mpr ⟨trivial, kept, fun _ _ step =>
    absurd (step.2.1 id) (by simp [DriverCall.failure?])⟩

end Unfailing

/-! ## Calls beside the swapchain -/

/-- The call has nothing to do with swapchains and leaves fences alone. -/
def Aside : DriverCall → Prop
  | .create request => request.kind ≠ .swapchain ∧ request.kind ≠ .fence
  | .release o => o.kind ≠ .fence
  | .perform (.resetFence _) | .acquire _ _ _ | .present _ _ _ _ => False
  | _ => True

/-- What such calls keep true. -/
def Undisturbed (table : MemoryTable) (Known : QueueState × DriverScript → Prop) : Prop :=
  ∀ s c reply t, (even table).step s c reply t → Aside c → Known s → Known t

private theorem Undisturbed.and {Known' : QueueState × DriverScript → Prop}
    (first : Undisturbed table Known) (second : Undisturbed table Known') :
    Undisturbed table fun s => Known s ∧ Known' s :=
  fun s c reply t step aside h =>
    ⟨first s c reply t step aside h.1, second s c reply t step aside h.2⟩

private theorem script_undisturbed (table : MemoryTable) (script : DriverScript) :
    Undisturbed table (·.2 = script) := by
  rintro s c reply t ⟨-, -, -, -, after⟩ aside rfl
  rw [after]
  cases c with
  | create request =>
    cases request with
    | swapchain request => exact absurd rfl aside.1
    | _ => rfl
  | acquire swapchain timeoutNs semaphore => exact aside.elim
  | present queue wait swapchain image => exact aside.elim
  | _ => rfl

private theorem waitable_undisturbed (fence : Handle .fence) :
    Undisturbed table (·.1.Waitable fence) := by
  intro s c reply t step aside h
  refine waitable_step step.1 ?_ ?_ h
  · cases c with
    | create request =>
      cases request with
      | fence signaled => exact absurd rfl aside.2
      | _ => trivial
    | perform operation =>
      cases operation with
      | resetFence fence => exact aside.elim
      | _ => trivial
    | _ => trivial
  · rintro rfl
    exact aside rfl

/-- The script stays the same, and a fence that can be waited for goes on to be so. -/
def Spared (s : QueueState × DriverScript) (fence : Handle .fence)
    (t : QueueState × DriverScript) : Prop :=
  t.2 = s.2 ∧ (s.1.Waitable fence → t.1.Waitable fence)

/-- A state spares itself. -/
theorem Spared.refl (s : QueueState × DriverScript) (fence : Handle .fence) : Spared s fence s :=
  ⟨rfl, id⟩

/-- Being spared since some state is left undisturbed. -/
theorem spared_undisturbed (table : MemoryTable) (s : QueueState × DriverScript)
    (fence : Handle .fence) :
    Undisturbed table (Spared s fence) :=
  (script_undisturbed table s.2).and fun _ _ _ _ step aside h waitable =>
    waitable_undisturbed fence _ _ _ _ step aside (h waitable)

namespace Undisturbed

variable (kept : Undisturbed table Known)

include kept

private theorem create (h : Known s) {request : Creation}
    (other : request.kind ≠ .swapchain ∧ request.kind ≠ .fence) :
    (free (even table)).KeepsTask (Driver.create request) s (fun _ t => Known t)
      fun _ _ => False :=
  even_create fun _ _ step => kept _ _ _ _ step other h

/-- Operations aside from fences and swapchains succeed and disturb nothing. -/
theorem perform (h : Known s) (operation : Operation) (aside : Aside (.perform operation)) :
    (free (even table)).KeepsTask (Driver.perform operation) s (fun _ t => Known t)
      fun _ _ => False :=
  even_perform fun _ step => kept _ _ _ _ step aside h

private theorem releases : (free (even table)).Releases (· ≠ .fence) Known :=
  fun _ _ other h => ⟨trivial, fun _ step => kept _ _ _ _ step other h⟩

private theorem record (h : Known s) (buffer : Handle .commandBuffer) (command : Command) :
    (free (even table)).Keeps (Driver.record buffer command) s fun _ t => Known t :=
  (keeps_record ..).mpr ⟨trivial, fun _ step => kept _ _ _ _ step trivial h⟩

/-! ## Uploads -/

private theorem allocate (h : Known s) {rig : Rig} (memory : rig.memory = table)
    {needs : MemoryRequirements} {flags : MemoryFlags}
    (found : (table.typeFor? needs.typeBits flags).isSome) :
    (free (even table)).KeepsTask (allocate rig needs flags) s (fun _ t => Known t)
      fun _ _ => False := by
  obtain ⟨type, found⟩ := Option.isSome_iff_exists.mp found
  unfold Vulkan.allocate
  rw [memory, found]
  exact kept.create h (by simp)

private theorem ofPixels (h : Known s) {rig : Rig} (memory : rig.memory = table)
    (pixels : PixelBuffer) :
    (free (even table)).KeepsTask (StagingBuffer.ofPixels rig pixels) s (fun _ t => Known t)
      fun _ _ => False := by
  unfold StagingBuffer.ofPixels StagingBuffer.create StagingBuffer.fill
  simp only [keepsTask_bind, keepsTask_undoing, keepsTask_liftM, keepsTask_pure]
  refine (kept.create h (by simp)).mono (fun buffer t h => ?_) fun _ _ => id
  refine (keeps_bufferNeeds ..).mpr ⟨trivial, fun needs t step => ?_⟩
  have h := kept _ _ _ _ step trivial h
  refine (kept.allocate h memory step.2.2.2.1.1).mono (fun place t h => ?_) fun _ _ => False.elim
  refine (kept.perform h (.bindBuffer ..) trivial).mono (fun _ t h => ?_) fun _ _ => False.elim
  refine (kept.perform h (.mapMemory ..) trivial).mono (fun _ t h => ?_) fun _ _ => False.elim
  refine (keeps_store ..).mpr ⟨trivial, fun t step => ?_⟩
  have h := kept _ _ _ _ step trivial h
  exact (keeps_unmap ..).mpr ⟨trivial, fun t step => kept _ _ _ _ step trivial h⟩

private theorem createBare (h : Known s) {rig : Rig} (memory : rig.memory = table)
    (extent : Extent) :
    (free (even table)).KeepsTask (SampledImage.createBare rig extent) s (fun _ t => Known t)
      fun _ _ => False := by
  unfold SampledImage.createBare
  simp only [keepsTask_bind, keepsTask_undoing, keepsTask_liftM, keepsTask_pure]
  refine (kept.create h (by simp)).mono (fun image t h => ?_) fun _ _ => id
  refine (keeps_imageNeeds ..).mpr ⟨trivial, fun needs t step => ?_⟩
  have h := kept _ _ _ _ step trivial h
  refine (kept.allocate h memory step.2.2.2.1.2).mono (fun place t h => ?_) fun _ _ => False.elim
  exact (kept.perform h (.bindImage ..) trivial).mono (fun _ _ h => h) fun _ _ => False.elim

private theorem copyIntoImage (h : Known s) (rig : Rig) (staging : StagingBuffer)
    (image : Handle .image) (extent : Extent) {old : ImageLayout}
    (start : old = .undefined ∨ old = .shaderReadOnly) :
    (free (even table)).KeepsTask (copyIntoImage rig staging image extent old) s
      (fun _ t => Known t) fun _ _ => False := by
  have toTarget : ∃ change, LayoutChange.between? old .transferTarget = some change := by
    obtain rfl | rfl := start
    · exact ⟨_, rfl⟩
    · exact ⟨_, rfl⟩
  obtain ⟨change, toTarget⟩ := toTarget
  have toSampled : ∃ change,
      LayoutChange.between? .transferTarget .shaderReadOnly = some change := ⟨_, rfl⟩
  obtain ⟨change', toSampled⟩ := toSampled
  unfold Vulkan.copyIntoImage recordCopy changeLayout
  simp only [toTarget, toSampled, keepsTask_bind, keepsTask_closing, keepsTask_liftM]
  refine (kept.create h (by simp)).mono (fun commands t h => ?_) fun _ _ => id
  refine (kept.perform h (.beginCommands _) trivial).mono (fun _ t h => ?_) fun _ _ => False.elim
  refine (kept.record h _ _).mono fun _ t h => (kept.record h _ _).mono fun _ t h =>
    (kept.record h _ _).mono fun _ t h => ?_
  refine (kept.perform h (.endCommands _) trivial).mono (fun _ t h => ?_) fun _ _ => False.elim
  refine (kept.perform h (.submit ..) trivial).mono (fun _ t h => ?_) fun _ _ => False.elim
  refine (kept.perform h (.queueIdle _) trivial).mono (fun _ t h => ?_) fun _ _ => False.elim
  exact (keeps_freeCommands ..).mpr ⟨trivial, fun t step => kept _ _ _ _ step trivial h⟩

private theorem stagingRelease (h : Known s) (staging : StagingBuffer) :
    (free (even table)).Keeps staging.release s fun _ t => Known t := by
  unfold StagingBuffer.release
  rw [keeps_bind]
  exact (kept.releases.release _ (by simp) h).mono fun _ t h =>
    kept.releases.release _ (by simp) h

/-- A new texture has the size of its pixels. -/
theorem createTexture (h : Known s) {rig : Rig} (memory : rig.memory = table)
    (pixels : PixelBuffer) :
    (free (even table)).KeepsTask (SampledImage.create rig pixels) s
      (fun texture t => texture.extent = pixels.extent ∧ Known t) fun _ _ => False := by
  unfold SampledImage.create
  simp only [keepsTask_bind, keepsTask_undoing, keepsTask_closing, keepsTask_driverLog,
    keepsTask_pure]
  refine (kept.ofPixels h memory pixels).mono (fun staging t h => ?_) fun _ _ => id
  refine (kept.createBare h memory _).mono (fun bare t h => ?_) fun _ _ => False.elim
  refine (kept.copyIntoImage h rig staging _ _ (.inl rfl)).mono (fun _ t h => ?_)
    fun _ _ => False.elim
  refine (kept.stagingRelease h staging).mono fun _ t h => ?_
  exact (kept.create h (by simp)).mono (fun _ _ h => ⟨trivial, h⟩) fun _ _ => False.elim

/-- A texture is overwritten without a failure. -/
theorem updateTexture (h : Known s) {rig : Rig} (memory : rig.memory = table)
    {texture : SampledImage} {pixels : PixelBuffer} (same : texture.extent = pixels.extent) :
    (free (even table)).KeepsTask (SampledImage.update rig texture pixels) s
      (fun _ t => Known t) fun _ _ => False := by
  unfold SampledImage.update
  rw [if_neg (by simp [same])]
  simp only [keepsTask_bind, keepsTask_closing]
  refine (kept.ofPixels h memory pixels).mono (fun staging t h => ?_) fun _ _ => id
  exact (kept.copyIntoImage h rig staging _ _ (.inr rfl)).mono
    (fun _ t h => kept.stagingRelease h staging) fun _ _ => False.elim

/-- A texture is released without disturbing anything. -/
theorem releaseTexture (h : Known s) (texture : SampledImage) :
    (free (even table)).Keeps texture.release s fun _ t => Known t := by
  unfold SampledImage.release
  simp only [keeps_bind, keeps_log]
  refine (kept.releases.release _ (by simp) h).mono fun _ t h => ?_
  refine (kept.releases.release _ (by simp) h).mono fun _ t h => ?_
  exact kept.releases.release _ (by simp) h

/-! ## Frames -/

/-- A pass into an image that there is begins without a failure. -/
theorem beginPass (h : Known s) {image : UInt32} (clear : Color)
    (there : image.toNat < stack.screen.targets.framebuffers.length) :
    (free (even table)).KeepsOp (Stack.beginPass image clear) stack s
      (fun _ after t => after = stack ∧ Known t) fun _ _ _ => False := by
  rw [Stack.beginPass, keepsOp_bind, keepsOp_get, TargetSet.framebuffer?,
    List.getElem?_eq_getElem there]
  simp only [keepsOp_bind, keepsOp_ofTask, keepsOp_ofProgram, keepsOp_pure]
  refine (kept.perform h (.resetCommands _) trivial).mono (fun _ t h => ?_) fun _ _ => id
  refine (kept.perform h (.beginCommands _) trivial).mono (fun _ t h => ?_) fun _ _ => id
  exact (kept.record h _ _).mono fun _ _ h => ⟨trivial, h⟩

/-- A pass ends without a failure. -/
theorem endPass (h : Known s) :
    (free (even table)).KeepsOp Stack.endPass stack s (fun _ after t => after = stack ∧ Known t)
      fun _ _ _ => False := by
  rw [Stack.endPass, keepsOp_bind, keepsOp_get]
  simp only [keepsOp_bind, keepsOp_ofProgram, keepsOp_ofTask]
  refine (kept.record h _ _).mono fun _ t h => ?_
  exact (kept.perform h (.endCommands _) trivial).mono (fun _ _ h => ⟨trivial, h⟩) fun _ _ => id

end Undisturbed

/-! ## Swapchain and fence -/

/-- The wait for the previous frame succeeds. -/
theorem even_waitForPrevious :
    (free (even table)).KeepsOp Stack.waitForPrevious stack s
      (fun _ after t => after = stack ∧ t.2 = s.2) fun _ _ _ => False := by
  rw [Stack.waitForPrevious, keepsOp_bind, keepsOp_get, keepsOp_ofTask, FrameGate.waitForPrevious,
    keepsTask_bind]
  refine even_perform fun t waited => even_perform fun u reset => ?_
  exact ⟨rfl, reset.2.2.2.2.trans waited.2.2.2.2⟩

private theorem made_fresh {q u : QueueState} {request : Creation}
    {made : Handle request.kind} (step : orderly.step q (.create request) (.ok made) u) :
    made.object ∉ q.live := by
  obtain ⟨v, w, first, effect, -⟩ := step.2.2
  rw [← live_progress first]
  exact effect.2.1

/-- An acquire takes the image whose turn it is, or fails and brings a fence that can be waited
for. -/
theorem even_acquire (live : stack.gate.inFlight.object ∈ s.1.live) :
    (free (even table)).KeepsOp Stack.acquire stack s
      (fun image after t => s.2.failures = [] ∧ image = ⟨.ofNat s.2.turn, false⟩ ∧ after = stack ∧
        t.2 = { s.2 with turn := (s.2.turn + 1) % DriverScript.images })
      fun e after t => ∃ result later fresh, s.2.failures = result :: later ∧
        e = .ofResult "vkAcquireNextImageKHR" result ∧
        after = { stack with gate := { stack.gate with inFlight := fresh } } ∧
        t.2 = { s.2 with failures := later } ∧ t.1.Waitable fresh := by
  rw [Stack.acquire, keepsOp_bind, keepsOp_get, Stack.onGate, keepsOp_onPart, FrameGate.acquire,
    keepsOp_bind, keepsOp_get, keepsOp_bind, keepsOp_ofProgram, keeps_ask]
  refine ⟨trivial, fun reply t step => ?_⟩
  obtain ⟨order, -, -, told, after⟩ := step
  change reply = s.2.acquired at told
  unfold DriverScript.acquired at told
  split at told
  · next result later failures =>
    obtain rfl := told
    have live := live_step order live DriverCall.noConfusion ObjectKind.noConfusion
    simp only [keepsOp_bind, keepsOp_onDriver, keepsOp_replaceFence, keepsOp_throw]
    refine even_create fun fresh u step => ?_
    have other : fresh.object ≠ stack.gate.inFlight.object := by
      intro same
      exact made_fresh step.1 (same ▸ live)
    have script : u.2 = { s.2 with failures := later } := by
      rw [step.2.2.2.2, after]
      simp [DriverScript.after, failures]
    have ready := waitable_made step.1
    unfold Rig.releaseUnlessNull
    by_cases null : stack.gate.inFlight.isNull = true
    · rw [if_pos null]
      exact ⟨result, later, fresh, failures, rfl, rfl, script, ready⟩
    · rw [if_neg null]
      refine (keeps_release ..).mpr ⟨trivial, fun v step => ?_⟩
      refine ⟨result, later, fresh, failures, rfl, rfl, step.2.2.2.2.trans script, ?_⟩
      have kept := fun same => other (DriverCall.release.inj same).symm
      exact waitable_step step.1 trivial kept ready
  · next failures =>
    obtain rfl := told
    exact ⟨failures, rfl, rfl, after⟩

/-- A present ends as the script says, and its submission will signal the fence. -/
theorem even_present (live : stack.gate.inFlight.object ∈ s.1.live) (image : UInt32) :
    (free (even table)).KeepsOp (Stack.present image) stack s
      (fun outcome after t => outcome = s.2.outcomes.headD .presented ∧ after = stack ∧
        t.2 = { s.2 with outcomes := s.2.outcomes.tail } ∧ t.1.Waitable stack.gate.inFlight)
      fun _ _ _ => False := by
  rw [Stack.present, keepsOp_bind, keepsOp_get, keepsOp_ofTask, FrameGate.submitAndPresent,
    keepsTask_bind]
  refine even_perform fun t step => ?_
  have submitted : t.1.Waitable stack.gate.inFlight :=
    ⟨live_step step.1 live DriverCall.noConfusion ObjectKind.noConfusion,
      willSignal_submitted step.1⟩
  have script : t.2 = s.2 := step.2.2.2.2
  rw [keepsTask_bind, keepsTask_lift, keeps_ask]
  refine ⟨trivial, fun reply u step => ?_⟩
  have ready := waitable_step step.1 trivial DriverCall.noConfusion submitted
  obtain ⟨-, -, -, told, after⟩ := step
  change reply = t.2.presented at told
  change u.2 = { t.2 with outcomes := t.2.outcomes.tail } at after
  rw [script] at told after
  unfold DriverScript.presented at told
  split at told
  · next outcome =>
    obtain rfl := told
    exact ⟨outcome.symm, rfl, after, ready⟩
  · next outcome =>
    obtain rfl := told
    exact ⟨outcome.symm, rfl, after, ready⟩
  · next outcome =>
    obtain rfl := told
    exact ⟨outcome.symm, rfl, after, ready⟩

/-! ## Screens and gates -/

/-- A surface that leaves the size open gives every side a pixel at least. -/
theorem SurfaceLimits.Open.extentFor {limits : SurfaceLimits} (open_ : limits.Open)
    (requested : Extent) : limits.extentFor? requested = some requested.shown := by
  have clamped (side : UInt32) :
      clamp? 1 0xffffffff side = some (if side = 0 then 1 else side) := by
    have less : side < 1 ↔ side = 0 := by
      rw [UInt32.lt_iff_toNat_lt, ← UInt32.toNat_inj]
      exact Nat.lt_one_iff
    have most : ¬0xffffffff < side := by
      rw [UInt32.lt_iff_toNat_lt]
      exact Nat.not_lt.mpr (Nat.le_of_lt_succ side.toNat_lt)
    unfold clamp?
    simp only [less, if_neg most]
    exact if_pos (by decide)
  unfold extentFor?
  rw [if_neg (by simp [open_.current]), open_.least, open_.most]
  simp [clamped, Extent.shown]

-- What is needed of an even driver in a rebuild; swapchains that are made start from the first
-- image.
private theorem furnishes_even (table : MemoryTable) (Knows : DriverScript → Prop)
    (restart : ∀ script, Knows script → Knows { script with turn := 0 }) :
    Furnishes (even table) (fun n s => n = DriverScript.images ∧ Knows s.2) fun _ => False where
  keeps {_ s c reply t} step furnishes h := by
    refine ⟨h.1, ?_⟩
    rw [step.2.2.2.2]
    cases c with
    | create request =>
      cases request with
      | swapchain request =>
        cases reply with
        | ok made => exact restart _ h.2
        | error result => exact h.2
      | _ => exact h.2
    | acquire swapchain timeoutNs semaphore => exact furnishes.elim
    | present queue wait swapchain image => exact furnishes.elim
    | _ => exact h.2
  real step := step.2.2.1
  reports h step := ⟨step.2.2.2.1, step.2.2.2.2 ▸ h.2⟩
  fails step failed _ swaps _ := absurd (failed.symm.trans (step.2.1 swaps)) (by simp)
  noFormat step chosen := absurd chosen (chooseFormat?_ne_none step.2.2.1)

-- Where no swapchain is made, nothing happens to the script.
private theorem script_of_confined {α : Type} {p : Program Driver α} {post : α → Unit → Prop}
    (kept : (confined (· ≠ .swapchain)).Keeps p () post) :
    (free (even table)).Keeps p s fun _ t => t.2 = s.2 := by
  refine (keeps_of_confined (·.2 = s.2) (fun u c same confined => ?_) kept rfl).mono
    fun _ _ h => h.1
  refine ⟨trivial, fun reply t step => ?_⟩
  rw [step.2.2.2.2, ← same]
  cases c with
  | create request =>
    cases request with
    | swapchain request => exact absurd rfl confined
    | _ => rfl
  | acquire swapchain timeoutNs semaphore => exact confined.elim
  | present queue wait swapchain image => exact confined.elim
  | _ => rfl

private theorem script_releases (table : MemoryTable) (script : DriverScript) :
    (free (even table)).Releases (fun _ => True) (·.2 = script) :=
  fun _ _ _ same => ⟨trivial, fun _ step => step.2.2.2.2.trans same⟩

private theorem size_fillScreen (rig : Rig) (requested : Extent) (screen : Screen) :
    (free (even table)).KeepsOp (Screen.fill rig requested) screen s
      (fun _ made t => made.extent = requested.shown ∧ t.2 = { s.2 with turn := 0 })
      fun _ _ _ => True := by
  rw [keepsOp_screenFill, keepsOp_settle, keepsTask_surfaceLimits]
  refine ⟨trivial, fun limits t step => ?_, fun _ _ _ => trivial⟩
  have open_ : limits.Open := step.2.2.2.1
  have same : t.2 = s.2 := step.2.2.2.2
  refine (keepsTask_surfaceFormats ..).mpr ⟨trivial, fun formats u step => ?_, fun _ _ _ => trivial⟩
  have same : u.2 = s.2 := step.2.2.2.2.trans same
  cases chooseFormat? formats with
  | none => trivial
  | some format =>
    intro extent settled minImages _
    obtain rfl : requested.shown = extent :=
      Option.some.inj ((open_.extentFor requested).symm.trans settled)
    refine (Contract.keepsTask_create _).mpr ⟨trivial, fun swapchain v step => ?_,
      fun _ _ _ => trivial⟩
    have restarted : v.2 = { s.2 with turn := 0 } := by
      rw [step.2.2.2.2, same]
      rfl
    refine (keepsTask_swapchainImages _).mpr ⟨trivial, fun images w step => ?_,
      fun _ _ _ => trivial⟩
    have restarted : w.2 = { s.2 with turn := 0 } := step.2.2.2.2.trans restarted
    have kinds : ∀ kind ∈ TargetSet.kinds, kind ≠ .swapchain := by simp [TargetSet.kinds]
    refine (script_of_confined (confined_buildTargets kinds images _ _)).mono ?_
    rintro (_ | targets) x script
    · trivial
    · exact ⟨rfl, script.trans restarted⟩

private theorem even_fillOrDestroy (rig : Rig) (requested : Extent) (screen : Screen) :
    (free (even table)).KeepsOp (Screen.fillOrDestroy rig requested) screen s
      (fun _ made t => made.extent = requested.shown ∧
        made.targets.framebuffers.length = DriverScript.images ∧ t.2 = { s.2 with turn := 0 })
      fun _ _ _ => False := by
  have sized : (free (even table)).KeepsOp (Screen.fillOrDestroy rig requested) screen s
      (fun _ made t => made.extent = requested.shown ∧ t.2 = { s.2 with turn := 0 })
      fun _ _ _ => True := by
    rw [keepsOp_screenFillOrDestroy]
    exact (size_fillScreen rig requested screen).mono (fun _ _ _ => id)
      fun _ _ _ _ => keeps_free fun _ _ => trivial
  have furnishes := furnishes_even table (fun _ => True) fun _ _ => trivial
  refine (Keeps.and (furnishes.fillOrDestroyScreen (n := DriverScript.images) ⟨rfl, trivial⟩
    requested screen) sized).mono ?_
  rintro ⟨_ | _, made⟩ t ⟨whole, sized⟩
  · exact whole
  · exact ⟨sized.1, whole.1.targets.framebuffers.trans whole.2.1, sized.2⟩

private theorem even_fillGate (start : s.2.turn = 0) (gate : FrameGate) :
    ((free (even table)).behind GateCall.onDriver).KeepsOp FrameGate.fillOrDestroy gate s
      (fun _ made t => t.1.Waitable made.inFlight ∧ t.2 = s.2) fun _ _ _ => False := by
  have furnishes := furnishes_even table (· = s.2) fun script same => by rw [same, ← start]
  have ready {u v : QueueState × DriverScript} {fence : Handle .fence}
      (step : (even table).step u (.create (.fence true)) (.ok fence) v) : v.1.Waitable fence :=
    waitable_made step.1
  refine (furnishes.fillOrDestroyGate (n := DriverScript.images) ⟨rfl, rfl⟩ ready gate).mono
    (fun _ _ _ made => ⟨made.2.1, made.2.2.2⟩) fun _ _ _ => id

/-- What uploads and frames need of a stack. -/
structure Stack.Stocked (table : MemoryTable) (stack : Stack) : Prop where
  memory : stack.rig.memory = table
  framebuffers : stack.screen.targets.framebuffers.length = DriverScript.images

/-- A stack with a new swapchain and a new gate. -/
structure Stack.Renewed (table : MemoryTable) (size : Extent) (stack : Stack)
    (s : QueueState × DriverScript) : Prop extends stack.Stocked table where
  extent : stack.screen.extent = size.shown
  ready : s.1.Waitable stack.gate.inFlight

/-- A rebuild takes the size that it is made at and starts from the first image. -/
theorem even_rebuild (memory : stack.rig.memory = table) (extent : Extent) :
    (free (even table)).KeepsOp (Stack.rebuild extent) stack s
      (fun _ after t => after.Renewed table extent t ∧ t.2 = { s.2 with turn := 0 })
      fun _ _ _ => False := by
  unfold Stack.rebuild
  simp only [keepsOp_bind, keepsOp_ofTask, keepsOp_get, Stack.onScreen, Stack.onGate,
    keepsOp_onPart, keepsOp_onDriver, keepsOp_screenRebuild, Contract.keepsOp_rearm]
  refine even_perform fun t step => ?_
  have same : t.2 = s.2 := step.2.2.2.2
  rw [← same]
  refine ((script_releases table t.2).screenDestroy stack.screen (fun _ _ => trivial) rfl).mono
    fun out u same => ?_
  rw [← same]
  refine (even_fillOrDestroy _ extent out.2).mono (fun _ screen v filled => ?_) fun _ _ _ => id
  obtain ⟨sized, framebuffers, restarted⟩ := filled
  refine ((script_releases table v.2).gateDestroy stack.gate (fun _ _ => trivial) rfl).mono
    fun out w same => ?_
  have restarted : w.2 = { u.2 with turn := 0 } := same.2.trans restarted
  refine (even_fillGate (by rw [restarted]) out.2).mono (fun _ gate x armed => ?_) fun _ _ _ => id
  exact ⟨⟨⟨memory, framebuffers⟩, sized, armed.1⟩, armed.2.trans restarted⟩

/-! ## Taking the stack down -/

/-- Nothing of the script is needed to take a stack down. -/
theorem even_tearDown :
    (free (even table)).Keeps (Stack.tearDown stack) s fun _ t => t.2 = s.2 := by
  have releases := script_releases table s.2
  rw [keeps_stackTearDown]
  by_cases tornDown : stack.tornDown = true
  · rw [if_pos tornDown]
  rw [if_neg tornDown]
  refine (keeps_freeCommands ..).mpr ⟨trivial, fun t step => ?_⟩
  refine (releases.unlessNull _ trivial step.2.2.2.2).mono fun _ t same => ?_
  rw [keeps_destroyOnDriver]
  refine (releases.gateDestroy _ (fun _ _ => trivial) same).mono fun out t same => ?_
  refine (releases.screenDestroy _ (fun _ _ => trivial) same.2).mono fun out t same => ?_
  exact releases.rigDestroy _ (fun _ _ => trivial) same

/-! ## A new stack -/

private theorem even_createRig (display : NativeDisplay) (window : NativeWindow)
    (settings : GraphicsSettings) :
    (free (even table)).KeepsTask (Rig.create display window settings) s
      (fun rig t => rig.memory = table ∧ t.2 = s.2) fun _ _ => True := by
  have asked : (free (even table)).KeepsTask (Rig.create display window settings) s
      (fun rig _ => rig.memory = table) fun _ _ => True := by
    have putUp (scaffold : Rig.Scaffold) (u : QueueState × DriverScript) :
        (free (even table)).KeepsOp (Rig.putUp display window settings) scaffold u
          (fun rig _ _ => rig.memory = table) fun _ _ _ => True := by
      unfold Rig.putUp
      simp only [keepsOp_bind, keepsOp_ofTask, keepsOp_modify, keepsOp_ofProgram, keepsOp_log,
        keepsOp_get, keepsOp_pure]
      refine keepsTask_free (fun surface t => ?_) fun _ _ => trivial
      refine keepsTask_free (fun offer t => ?_) fun _ _ => trivial
      refine keeps_free fun properties t => keeps_free fun anisotropy t => ?_
      refine (keeps_ask _ _).mpr ⟨trivial, fun memory t step => ?_⟩
      have told : memory = table := step.2.2.2.1
      refine keepsTask_free (fun device t => ?_) fun _ _ => trivial
      refine keeps_free fun queue t => keepsTask_free (fun pool t => ?_) fun _ _ => trivial
      exact keepsTask_free (fun _ _ => told) fun _ _ => trivial
    rw [keepsTask_rigCreate]
    refine ⟨trivial, fun loaded t _ => ?_⟩
    by_cases loaded : loaded = true
    · rw [if_pos loaded]
      refine keeps_free fun validation t => keepsTask_free (fun apiInstance t => ?_)
        fun _ _ => trivial
      refine keeps_free fun messenger t => (putUp _ t).mono (fun _ _ _ => id)
        fun _ _ _ _ => keeps_free fun _ _ => trivial
    · rw [if_neg loaded]
      trivial
  have kinds : ∀ kind ∈ Rig.kinds, kind ≠ .swapchain := by simp [Rig.kinds]
  refine (Keeps.and asked
    (script_of_confined (confined_createRig kinds display window settings))).mono ?_
  rintro (_ | rig) t ⟨memory, script⟩
  · trivial
  · exact ⟨memory, script⟩

private theorem even_buildOn {rig : Rig} (memory : rig.memory = table)
    (settings : GraphicsSettings) :
    (free (even table)).KeepsTask (Stack.buildOn rig settings) s
      (fun stack t => stack.Renewed table settings.extent t ∧ t.2 = { s.2 with turn := 0 })
      fun _ _ => False := by
  have undone {p : Program Driver Unit} {t : QueueState × DriverScript} (impossible : False) :
      (free (even table)).Keeps p t fun _ _ => False := impossible.elim
  unfold Stack.buildOn
  rw [keepsTask_bind, keepsTask_screenCreate]
  refine (even_fillOrDestroy rig settings.extent _).mono (fun _ screen t filled => ?_)
    fun _ _ _ => id
  obtain ⟨sized, framebuffers, restarted⟩ := filled
  rw [keepsTask_undoing, keepsTask_bind, keepsTask_createOnDriver]
  refine (even_fillGate (by rw [restarted]) {}).mono (fun _ gate u armed => ?_)
    fun _ _ _ => undone
  rw [keepsTask_undoing, keepsTask_bind, createSampler]
  simp only [keepsTask_bind, keepsTask_driverLog, keepsTask_pure]
  have aside := (waitable_undisturbed gate.inFlight).and (script_undisturbed table t.2)
  refine (aside.create armed (by simp)).mono (fun sampler v armed => ?_) fun _ _ => False.elim
  rw [keepsTask_undoing, keepsTask_bind]
  refine (aside.create armed (by simp)).mono (fun commands w armed => ?_) fun _ _ => False.elim
  exact ⟨⟨⟨memory, framebuffers⟩, sized, armed.1⟩, armed.2.trans restarted⟩

/-- A new stack has the size that was asked for. -/
theorem even_createStack (handles : NativeHandles) (settings : GraphicsSettings) :
    (free (even table)).KeepsTask (Stack.create handles settings) s
      (fun stack t => stack.Renewed table settings.extent t ∧ t.2 = { s.2 with turn := 0 })
      fun _ _ => True := by
  rw [keepsTask_stackCreate]
  cases handles.display with
  | error fault => trivial
  | ok display =>
    cases handles.window with
    | error fault => trivial
    | ok window =>
      refine (even_createRig display window settings).mono (fun rig t made => ?_) fun _ _ => id
      rw [← made.2]
      exact (even_buildOn made.1 settings).mono (fun _ _ => id) fun _ _ => False.elim

/-! ## Replies to every call -/

/-- A call comes to its end unless it waits for the fence in vain. -/
theorem even_delivers (suits : table.Suits 0xffffffff) {call : GraphicsCall SampledImage}
    {post : call.Reply Recording × Stack → QueueState × DriverScript → Prop}
    (ready : call = .waitForPrevious → s.1.Waitable stack.gate.inFlight)
    (kept : (free (even table)).Keeps (Stack.answer call stack) s post) :
    (Stack.answer call stack).Delivers (even table) s post := by
  have answered (u : QueueState × DriverScript) (c : DriverCall) (unfenced : c.Unfenced) :=
    exists_even_reply suits u (ready_of_unfenced unfenced u.1.drained)
  by_cases waits : call = .waitForPrevious
  · subst waits
    refine ⟨exists_even_reply suits s ((ready rfl).ready _), fun reply t step => ?_⟩
    have kept := kept.2 reply t step
    cases reply with
    | error result => exact absurd (step.2.1 id) (by simp [DriverCall.failure?])
    | ok =>
      refine ⟨answered t _ trivial, fun reply u step => ?_⟩
      have kept := kept.2 reply u step
      cases reply with
      | error result => exact kept
      | ok => exact kept
  · exact (stackAnswer_unfenced stack waits).delivers (fun _ _ _ _ step => step.2.2.1) answered kept

end PaintPresenter.Vulkan
