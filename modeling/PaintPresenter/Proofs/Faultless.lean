import PaintPresenter.Proofs.FullFrame
import PaintPresenter.Proofs.SmoothDriver

/-!
# A stack that meets no fault

A stack answers every call without a fault as long as the driver's reports make sense. Only the
surface's limits matter: a screen is settled by clamping a size and by counting images, and both
stop the program where the limits contradict themselves. And only one call waits for the fence.
-/

namespace PaintPresenter.Vulkan

open Contract Stateful

variable {α : Type} {good : (c : DriverCall) → c.Reply → Prop}

-- No fault is in reach of a program, whatever the replies.
private abbrev Steady {I : Interface} (p : Program I α) : Prop :=
  p.Completes (fun _ => True) fun _ _ => True

/-- The call waits for no fence. -/
def DriverCall.Unfenced : DriverCall → Prop
  | .perform (.waitForFence _ _) => False
  | _ => True

-- No fence is waited for by a program, and no fault in its reach, while the driver's replies are
-- good ones.
private abbrev SureIf (good : (c : DriverCall) → c.Reply → Prop) (p : Program Driver α) : Prop :=
  p.Completes DriverCall.Unfenced good

-- The same while they make sense.
private abbrev Sure (p : Program Driver α) : Prop := SureIf DriverCall.Sensible p

-- The same of an operation that keeps a state and may fail.
private abbrev SureOp {σ : Type} (op : Stateful σ Driver GraphicsError α) : Prop :=
  op.Completes DriverCall.Unfenced DriverCall.Sensible

private theorem steady_ask {I : Interface} {c : I.Call} : Steady (Program.call c .done) :=
  Program.completes_ask trivial

private theorem sure_checked {function : String} {p : Program Driver (Except ResultCode α)}
    (sure : SureIf good p) : SureIf good (Driver.checked function p).run :=
  sure.bind fun _ => trivial

private theorem sure_create (request : Creation) : SureIf good (Driver.create request).run :=
  sure_checked (Program.completes_ask trivial)

private theorem sure_perform {operation : Operation}
    (unfenced : (DriverCall.perform operation).Unfenced) :
    SureIf good (Driver.perform operation).run :=
  sure_checked (Program.completes_ask unfenced)

private theorem sure_release {kind : ObjectKind} (handle : Handle kind) :
    SureIf good (Driver.release handle) := Program.completes_ask trivial

private theorem sure_record (buffer : Handle .commandBuffer) (command : Command) :
    SureIf good (Driver.record buffer command) := Program.completes_ask trivial

/-! ## The gate -/

private theorem sure_onGate (c : GateCall) : Sure c.onDriver := by
  cases c with
  | newSemaphore | newSignaledFence => exact sure_create _
  | dropSemaphore semaphore | dropFence fence => exact sure_release _

-- An operation on a gate has no fault of its own.
private abbrev SteadyGate (task : FrameGate.Task α) : Prop :=
  task.Completes (fun _ => True) fun _ _ => True

private theorem steady_newSemaphore : SteadyGate FrameGate.newSemaphore :=
  completes_ofTask steady_ask

private theorem steady_newSignaledFence : SteadyGate FrameGate.newSignaledFence :=
  completes_ofTask steady_ask

private theorem steady_dropFence (fence : Handle .fence) : Steady (FrameGate.dropFence fence) :=
  Program.completes_unless steady_ask _

private theorem steady_gateDestroy (gate : FrameGate) : Steady (FrameGate.destroy gate) :=
  (Program.completes_unless steady_ask _).bind fun _ =>
    (Program.completes_unless steady_ask _).bind fun _ =>
      (steady_dropFence _).bind fun _ => trivial

private theorem steady_rearm : SteadyGate FrameGate.rearm := by
  have filled : SteadyGate FrameGate.fill :=
    Completes.bind steady_newSemaphore fun _ => Completes.bind (completes_modify _) fun _ =>
      Completes.bind steady_newSemaphore fun _ => Completes.bind (completes_modify _) fun _ =>
        Completes.bind steady_newSignaledFence fun _ => completes_modify _
  refine Completes.bind (completes_log _ _) fun _ =>
    Completes.bind (completes_ofAction steady_gateDestroy) fun _ =>
      Completes.bind filled.attempt fun outcome => ?_
  cases outcome with
  | error e =>
    exact Completes.bind (completes_ofAction steady_gateDestroy) fun _ => completes_throw e
  | ok _ => exact completes_pure _

private theorem steady_replaceFence : SteadyGate FrameGate.replaceFence :=
  Completes.bind (completes_log _ _) fun _ => Completes.bind steady_newSignaledFence fun _ =>
    Completes.bind completes_get fun _ =>
      Completes.bind (completes_ofProgram (steady_dropFence _)) fun _ => completes_modify _

private theorem sure_onDriver {task : FrameGate.Task α} (steady : SteadyGate task) :
    SureOp (FrameGate.onDriver task) :=
  fun x => (steady x).embed fun c _ => sure_onGate c

/-! ## The screen -/

private theorem sure_onTargets (c : TargetCall) : Sure c.onDriver := by
  cases c with
  | newView image format => exact sure_create _
  | newRenderPass format => exact sure_create _
  | newFramebuffer renderPass view extent => exact sure_create _
  | dropView view | dropRenderPass renderPass | dropFramebuffer framebuffer => exact sure_release _

private theorem steady_targetsDestroy (set : TargetSet) : Steady (TargetSet.destroy set) :=
  (Program.completes_forM (fun _ => steady_ask) _).bind fun _ =>
    (Program.completes_unless steady_ask _).bind fun _ =>
      (Program.completes_forM (fun _ => steady_ask) _).bind fun _ => trivial

private theorem steady_build (images : List (Handle .image)) (format : Format) (extent : Extent) :
    Steady (TargetSet.build images format extent).run := by
  have filled : (TargetSet.fill images format extent).Completes (fun _ => True) fun _ _ => True :=
    Completes.bind (completes_forM (fun _ => Completes.bind (completes_ofTask steady_ask)
        fun _ => completes_modify _) _) fun _ =>
      Completes.bind (completes_ofTask steady_ask) fun _ => Completes.bind (completes_modify _)
        fun _ => Completes.bind completes_get fun _ =>
          completes_forM (fun _ => Completes.bind completes_get fun _ =>
            Completes.bind (completes_ofTask steady_ask) fun _ => completes_modify _) _
  refine (filled {}).bind ?_
  rintro ⟨_ | _, set⟩
  · exact (steady_targetsDestroy set).bind fun _ => trivial
  · trivial

private theorem sure_screenDestroy (screen : Screen) : Sure (Screen.destroy screen) :=
  ((steady_targetsDestroy screen.targets).embed fun c _ => sure_onTargets c).bind fun _ =>
    (Program.completes_unless (sure_release screen.swapchain) _).bind fun _ => trivial

private theorem sure_limits {σ : Type} {device : Handle .physicalDevice}
    {surface : Handle .surface} {f : SurfaceLimits → Stateful σ Driver GraphicsError α}
    (then_ : ∀ limits : SurfaceLimits, limits.Valid → SureOp (f limits)) :
    SureOp (.ofTask (Driver.surfaceLimits device surface) >>= f) := by
  -- `Completes.bind` would forget what the reply is like, and the rest relies on it.
  refine fun x => ⟨trivial, fun reply sensible => ?_⟩
  cases reply with
  | error result => trivial
  | ok limits => exact then_ limits sensible x

private theorem sure_require {fault : Fault} {found : Option α} (there : ∃ a, found = some a) :
    Sure (.require fault found) := by
  obtain ⟨a, rfl⟩ := there
  trivial

private theorem sure_settle (rig : Rig) (requested : Extent) :
    SureOp (Screen.settle rig requested) := by
  refine sure_limits fun limits valid => Completes.bind
    (completes_ofTask (sure_checked (Program.completes_ask trivial))) fun formats => ?_
  cases chooseFormat? formats with
  | none => exact completes_throw _
  | some format =>
    exact Completes.bind (completes_modify _) fun _ =>
      Completes.bind (completes_ofProgram (sure_require (valid.extentFor requested))) fun _ =>
        Completes.bind (completes_modify _) fun _ =>
          Completes.bind (completes_ofProgram (sure_require valid.imageCount)) fun _ =>
            Completes.bind (completes_modify _) fun _ => completes_pure _

private theorem sure_fill (rig : Rig) (requested : Extent) : SureOp (Screen.fill rig requested) :=
  Completes.bind (sure_settle rig requested) fun _ =>
    Completes.bind (completes_ofTask (sure_create _)) fun _ =>
      Completes.bind (completes_modify _) fun _ =>
        Completes.bind (completes_ofTask (sure_checked (Program.completes_ask trivial)))
          fun images => Completes.bind (completes_modify _) fun _ =>
            Completes.bind (completes_log _ _) fun _ => Completes.bind (completes_ofTask
              ((steady_build images _ _).embed fun c _ => sure_onTargets c)) fun _ =>
                completes_modify _

private theorem sure_screenRebuild (rig : Rig) (requested : Extent) :
    SureOp (Screen.rebuild rig requested) := by
  refine Completes.bind (completes_log _ _) fun _ =>
    Completes.bind (completes_ofAction sure_screenDestroy) fun _ =>
      Completes.bind (sure_fill rig requested).attempt fun outcome => ?_
  cases outcome with
  | error e =>
    exact Completes.bind (completes_ofAction sure_screenDestroy) fun _ => completes_throw e
  | ok _ => exact completes_pure _

/-! ## The stack -/

private theorem sure_acquire : SureOp Stack.acquire := by
  refine Completes.bind completes_get fun stack => Completes.onPart (Completes.bind completes_get
    fun gate => Completes.bind (completes_ofProgram (Program.completes_ask trivial))
      fun taken => ?_) _ _
  cases taken with
  | ok image => exact completes_pure _
  | error result =>
    exact Completes.bind (sure_onDriver steady_replaceFence) fun _ => completes_throw _

private theorem sure_beginPass (image : UInt32) (clear : Color) :
    SureOp (Stack.beginPass image clear) := by
  refine Completes.bind completes_get fun stack => ?_
  cases stack.screen.targets.framebuffer? image.toNat with
  | none => exact completes_throw _
  | some framebuffer =>
    exact Completes.bind (completes_ofTask (sure_perform trivial)) fun _ =>
      Completes.bind (completes_ofTask (sure_perform trivial)) fun _ =>
        Completes.bind (completes_ofProgram (sure_record _ _)) fun _ => completes_pure _

private theorem sure_endPass : SureOp Stack.endPass :=
  Completes.bind completes_get fun _ => Completes.bind (completes_ofProgram (sure_record _ _))
    fun _ => completes_ofTask (sure_perform trivial)

private theorem sure_present (image : UInt32) : SureOp (Stack.present image) := by
  refine Completes.bind completes_get fun stack => completes_ofTask
    (ExceptT.completes_bind (sure_perform trivial) fun _ => ExceptT.completes_bind
      ((Program.completes_ask trivial).bind fun _ => trivial) fun outcome => ?_)
  cases outcome with
  | ok suboptimal => trivial
  | error result =>
    dsimp only
    split
    · trivial
    · trivial

private theorem sure_rebuild (extent : Extent) : SureOp (Stack.rebuild extent) :=
  Completes.bind (completes_ofTask (sure_perform trivial)) fun _ => Completes.bind completes_get
    fun _ => Completes.bind ((sure_screenRebuild _ extent).onPart _ _) fun _ =>
      (sure_onDriver steady_rearm).onPart _ _

/-! ## Uploads -/

-- Nothing in an upload depends on what the driver replies, so `good` stays open here.

private theorem sure_undoing {undo : Program Driver Unit} {task : Driver.Task α}
    (undone : SureIf good undo) (sure : SureIf good task.run) :
    SureIf good (Driver.undoing undo task).run := by
  refine sure.bind ?_
  rintro (_ | _)
  · exact undone.bind fun _ => trivial
  · trivial

private theorem sure_closing {close : Program Driver Unit} {task : Driver.Task α}
    (closed : SureIf good close) (sure : SureIf good task.run) :
    SureIf good (Driver.closing close task).run :=
  sure.bind fun _ => closed.bind fun _ => trivial

private theorem sure_lift {p : Program Driver α} (sure : SureIf good p) :
    SureIf good (ExceptT.lift p : Driver.Task α).run := by
  rw [ExceptT.run_lift, ← bind_pure_comp]
  exact sure.bind fun _ => trivial

private theorem sure_allocate (rig : Rig) (needs : MemoryRequirements) (flags : MemoryFlags) :
    SureIf good (allocate rig needs flags).run := by
  unfold allocate
  cases rig.memory.typeFor? needs.typeBits flags with
  | none => trivial
  | some type => exact sure_create _

private theorem sure_stagingRelease (staging : StagingBuffer) : SureIf good staging.release :=
  (sure_release _).bind fun _ => sure_release _

private theorem sure_ofPixels (rig : Rig) (pixels : PixelBuffer) :
    SureIf good (StagingBuffer.ofPixels rig pixels).run := by
  have made : SureIf good (StagingBuffer.create rig pixels.length).run :=
    ExceptT.completes_bind (sure_create _) fun _ =>
      ExceptT.completes_bind (sure_lift (Program.completes_ask trivial)) fun _ =>
        ExceptT.completes_bind (sure_undoing (sure_release _) (sure_allocate ..)) fun _ =>
          ExceptT.completes_bind (sure_undoing (sure_stagingRelease _) (sure_perform trivial))
            fun _ => trivial
  have filled (staging : StagingBuffer) : SureIf good (staging.fill pixels).run :=
    ExceptT.completes_bind (sure_perform trivial) fun _ =>
      ExceptT.completes_bind (sure_lift (Program.completes_ask trivial)) fun _ =>
        sure_lift (Program.completes_ask trivial)
  exact ExceptT.completes_bind made fun staging => ExceptT.completes_bind
    (sure_undoing (sure_stagingRelease _) (filled staging)) fun _ => trivial

private theorem sure_releaseBare (image : Handle .image) (memory : Handle .memory) :
    SureIf good (SampledImage.releaseBare image memory) :=
  (sure_release _).bind fun _ => sure_release _

private theorem sure_createBare (rig : Rig) (extent : Extent) :
    SureIf good (SampledImage.createBare rig extent).run :=
  ExceptT.completes_bind (sure_create _) fun _ =>
    ExceptT.completes_bind (sure_lift (Program.completes_ask trivial)) fun _ =>
      ExceptT.completes_bind (sure_undoing (sure_release _) (sure_allocate ..)) fun _ =>
        ExceptT.completes_bind (sure_undoing (sure_releaseBare _ _) (sure_perform trivial))
          fun _ => trivial

private theorem sure_changeLayout (commands : Handle .commandBuffer) (image : Handle .image)
    (old new : ImageLayout) : SureIf good (changeLayout commands image old new).run := by
  unfold changeLayout
  cases LayoutChange.between? old new with
  | none => trivial
  | some change => exact sure_lift (sure_record _ _)

private theorem sure_copyIntoImage (rig : Rig) (staging : StagingBuffer) (image : Handle .image)
    (extent : Extent) (old : ImageLayout) :
    SureIf good (copyIntoImage rig staging image extent old).run := by
  refine ExceptT.completes_bind (sure_create _) fun commands =>
    sure_closing (Program.completes_ask trivial) ?_
  have recorded : SureIf good (recordCopy commands staging image extent old).run :=
    ExceptT.completes_bind (sure_perform trivial) fun _ =>
      ExceptT.completes_bind (sure_changeLayout ..) fun _ =>
        ExceptT.completes_bind (sure_lift (sure_record _ _)) fun _ =>
          ExceptT.completes_bind (sure_changeLayout ..) fun _ => sure_perform trivial
  exact ExceptT.completes_bind recorded fun _ =>
    ExceptT.completes_bind (sure_perform trivial) fun _ => sure_perform trivial

/-- Making a texture comes to an end without waiting for a fence. -/
theorem createTexture_completes (rig : Rig) (pixels : PixelBuffer) :
    (SampledImage.create rig pixels).run.Completes DriverCall.Unfenced good := by
  refine ExceptT.completes_bind (sure_ofPixels ..) fun staging => ExceptT.completes_bind
    (sure_undoing (sure_stagingRelease _) (sure_createBare ..)) fun bare => ?_
  have viewed : SureIf good (do
      Driver.closing staging.release
        (copyIntoImage rig staging bare.1 pixels.extent .undefined)
      Driver.create (.view { image := bare.1, format := textureFormat }) : Driver.Task _).run :=
    ExceptT.completes_bind (sure_closing (sure_stagingRelease _) (sure_copyIntoImage ..)) fun _ =>
      sure_create _
  exact ExceptT.completes_bind (sure_undoing (sure_releaseBare _ _) viewed) fun _ =>
    ExceptT.completes_bind (sure_lift (Program.completes_log _ _)) fun _ => trivial

/-- So does overwriting one. -/
theorem updateTexture_completes (rig : Rig) (texture : SampledImage) (pixels : PixelBuffer) :
    (SampledImage.update rig texture pixels).run.Completes DriverCall.Unfenced good := by
  have copied : SureIf good (do
      let staging ← StagingBuffer.ofPixels rig pixels
      Driver.closing staging.release (copyIntoImage rig staging texture.image texture.extent
        .shaderReadOnly) : Driver.Task Unit).run :=
    ExceptT.completes_bind (sure_ofPixels ..) fun _ =>
      sure_closing (sure_stagingRelease _) (sure_copyIntoImage ..)
  unfold SampledImage.update
  by_cases same : pixels.extent ≠ texture.extent
  · rw [if_pos same]
    trivial
  · rw [if_neg same]
    exact copied

private theorem sure_releaseTexture (texture : SampledImage) : Sure texture.release :=
  (sure_release _).bind fun _ => (sure_release _).bind fun _ => (sure_release _).bind fun _ =>
    Program.completes_log _ _

/-! ## Taking the stack down -/

private theorem sure_unlessNull {kind : ObjectKind} (handle : Handle kind) :
    Sure (Rig.releaseUnlessNull handle) := Program.completes_unless (sure_release handle) _

private theorem sure_ifAny {kind : ObjectKind} (handle : Option (Handle kind)) :
    Sure (Rig.releaseIfAny handle) := by
  cases handle with
  | none => trivial
  | some handle => exact sure_release handle

private theorem sure_tearDown (stack : Stack) : Sure (Stack.tearDown stack) := by
  have rig : Sure stack.rig.destroy :=
    (Program.completes_log _ _).bind fun _ => (sure_release _).bind fun _ =>
      (sure_release _).bind fun _ => (sure_release _).bind fun _ => (sure_ifAny _).bind fun _ =>
        (sure_release _).bind fun _ => (sure_release _).bind fun _ => trivial
  have gate : Sure stack.gate.destroyOnDriver :=
    ((steady_gateDestroy stack.gate).embed fun c _ => sure_onGate c).bind fun _ => trivial
  unfold Stack.tearDown
  by_cases tornDown : stack.tornDown = true
  · rw [if_pos tornDown]
    trivial
  · rw [if_neg tornDown]
    exact Program.Completes.bind (Program.completes_ask trivial) fun _ =>
      (sure_unlessNull _).bind fun _ => gate.bind fun _ => (sure_screenDestroy _).bind fun _ =>
        rig.bind fun _ => (Program.completes_log _ _).bind fun _ => trivial

/-! ## Every call -/

/-- No call but one waits for a fence or meets a fault while the driver's replies make sense. -/
theorem stackAnswer_unfenced (stack : Stack) {call : GraphicsCall SampledImage}
    (other : call ≠ .waitForPrevious) :
    (Stack.answer call stack).Completes DriverCall.Unfenced DriverCall.Sensible := by
  cases call with
  | extent | binding texture => trivial
  | waitForPrevious => exact absurd rfl other
  | acquire => exact sure_acquire stack
  | beginPass image clear => exact sure_beginPass image clear stack
  | endPass => exact sure_endPass stack
  | present image => exact sure_present image stack
  | rebuild extent => exact sure_rebuild extent stack
  | createTexture pixels => exact (createTexture_completes ..).bind fun _ => trivial
  | updateTexture texture pixels => exact (updateTexture_completes ..).bind fun _ => trivial
  | releaseTexture texture => exact (sure_releaseTexture texture).bind fun _ => trivial
  | waitIdle => exact Program.Completes.bind (sure_perform trivial) fun _ => trivial
  | tearDown => exact sure_tearDown stack

private theorem waitForPrevious_completes (stack : Stack) :
    (Stack.answer .waitForPrevious stack).Completes (fun _ => True) DriverCall.Sensible := by
  have performs (operation : Operation) :
      (Driver.perform operation).run.Completes (fun _ => True) DriverCall.Sensible :=
    Program.Completes.bind (Program.completes_ask trivial) fun _ => trivial
  exact Completes.bind completes_get
    (fun _ => completes_ofTask (ExceptT.completes_bind (performs _) fun _ => performs _)) stack

/-- No call of a frame meets a fault while the driver's replies make sense. -/
theorem stackAnswer_completes (stack : Stack) {call : GraphicsCall SampledImage}
    (inTurn : FrameCall.InTurn (.graphics call : FrameCall SampledImage Recording)) :
    (Stack.answer call stack).Completes (fun _ => True) DriverCall.Sensible := by
  cases call with
  | waitForPrevious => exact waitForPrevious_completes stack
  | createTexture _ | updateTexture _ _ | releaseTexture _ | waitIdle | tearDown =>
    exact inTurn.elim
  | _ => exact (stackAnswer_unfenced stack (by simp)).mono fun _ _ => trivial

end PaintPresenter.Vulkan
