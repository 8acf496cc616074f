import Mathlib.Tactic.CongrExclamation
import PaintPresenter.Graphics.Renderer
import PaintPresenter.Proofs.World

/-!
# What a renderer asks of its stack

One rule for each call to a graphics stack and one for each operation of a renderer: to keep a
contract is to make the operation's calls in its order, and to answer for every reply. The rules
say all that the operations do, so that no later proof looks into them again.
-/

namespace PaintPresenter

/-- A stack that replies what it likes. -/
def anyStack (τ ρ : Type) : Program.World (Graphics τ ρ) Unit where
  step _ _ _ _ := True

namespace Contract

variable {τ ρ α γ : Type} {C : Contract (Graphics τ ρ) γ} {s : γ}

/-! ## Calls -/

/-- Asking for the size is one call. -/
@[simp] theorem keeps_extent (post : Extent → γ → Prop) :
    C.Keeps Graphics.extent s post ↔
      C.permits s .extent ∧ ∀ extent t, C.step s .extent extent t → post extent t := Iff.rfl

/-- Releasing a texture is one call. -/
@[simp] theorem keeps_releaseTexture (texture : τ) (post : Unit → γ → Prop) :
    C.Keeps (Graphics.releaseTexture texture) s post ↔
      C.permits s (.releaseTexture texture) ∧
        ∀ t, C.step s (.releaseTexture texture) () t → post () t :=
  and_congr_right fun _ => ⟨fun h t => h () t, fun h _ t => h t⟩

/-- Asking how to sample a texture is one call. -/
@[simp] theorem keeps_binding (texture : τ) (post : TextureBinding → γ → Prop) :
    C.Keeps (Graphics.binding texture) s post ↔
      C.permits s (.binding texture) ∧
        ∀ binding t, C.step s (.binding texture) binding t → post binding t := Iff.rfl

/-- Tearing the stack down is one call. -/
@[simp] theorem keeps_tearDown (post : Unit → γ → Prop) :
    C.Keeps Graphics.tearDown s post ↔
      C.permits s .tearDown ∧ ∀ t, C.step s .tearDown () t → post () t :=
  and_congr_right fun _ => ⟨fun h t => h () t, fun h _ t => h t⟩

section Fallible

variable {bad : GraphicsError → γ → Prop}

/-- Waiting for the previous frame is one call, which may fail. -/
@[simp] theorem keepsTask_waitForPrevious {good : Unit → γ → Prop} :
    C.KeepsTask Graphics.waitForPrevious s good bad ↔
      C.permits s .waitForPrevious ∧
        (∀ t, C.step s .waitForPrevious (.ok ()) t → good () t) ∧
          ∀ e t, C.step s .waitForPrevious (.error e) t → bad e t :=
  and_congr_right fun _ => forall_except_unit

/-- Acquiring an image is one call, which may fail. -/
@[simp] theorem keepsTask_acquire {good : AcquiredImage → γ → Prop} :
    C.KeepsTask Graphics.acquire s good bad ↔
      C.permits s .acquire ∧
        (∀ image t, C.step s .acquire (.ok image) t → good image t) ∧
          ∀ e t, C.step s .acquire (.error e) t → bad e t :=
  and_congr_right fun _ => forall_except

/-- Beginning a render pass is one call, which may fail. -/
@[simp] theorem keepsTask_beginPass {good : ρ → γ → Prop} (image : UInt32) (clear : Color) :
    C.KeepsTask (Graphics.beginPass image clear) s good bad ↔
      C.permits s (.beginPass image clear) ∧
        (∀ recording t, C.step s (.beginPass image clear) (.ok recording) t → good recording t) ∧
          ∀ e t, C.step s (.beginPass image clear) (.error e) t → bad e t :=
  and_congr_right fun _ => forall_except

/-- Ending a render pass is one call, which may fail. -/
@[simp] theorem keepsTask_endPass {good : Unit → γ → Prop} :
    C.KeepsTask Graphics.endPass s good bad ↔
      C.permits s .endPass ∧
        (∀ t, C.step s .endPass (.ok ()) t → good () t) ∧
          ∀ e t, C.step s .endPass (.error e) t → bad e t :=
  and_congr_right fun _ => forall_except_unit

/-- Presenting an image is one call, which may fail. -/
@[simp] theorem keepsTask_present {good : PresentOutcome → γ → Prop} (image : UInt32) :
    C.KeepsTask (Graphics.present image) s good bad ↔
      C.permits s (.present image) ∧
        (∀ outcome t, C.step s (.present image) (.ok outcome) t → good outcome t) ∧
          ∀ e t, C.step s (.present image) (.error e) t → bad e t :=
  and_congr_right fun _ => forall_except

/-- Rebuilding for a size is one call, which may fail. -/
@[simp] theorem keepsTask_rebuild {good : Unit → γ → Prop} (extent : Extent) :
    C.KeepsTask (Graphics.rebuild extent) s good bad ↔
      C.permits s (.rebuild extent) ∧
        (∀ t, C.step s (.rebuild extent) (.ok ()) t → good () t) ∧
          ∀ e t, C.step s (.rebuild extent) (.error e) t → bad e t :=
  and_congr_right fun _ => forall_except_unit

/-- Making a texture is one call, which may fail. -/
@[simp] theorem keepsTask_createTexture {good : τ → γ → Prop} (pixels : PixelBuffer) :
    C.KeepsTask (Graphics.createTexture pixels) s good bad ↔
      C.permits s (.createTexture pixels) ∧
        (∀ texture t, C.step s (.createTexture pixels) (.ok texture) t → good texture t) ∧
          ∀ e t, C.step s (.createTexture pixels) (.error e) t → bad e t :=
  and_congr_right fun _ => forall_except

/-- Overwriting a texture is one call, which may fail. -/
@[simp] theorem keepsTask_updateTexture {good : Unit → γ → Prop} (texture : τ)
    (pixels : PixelBuffer) :
    C.KeepsTask (Graphics.updateTexture texture pixels) s good bad ↔
      C.permits s (.updateTexture texture pixels) ∧
        (∀ t, C.step s (.updateTexture texture pixels) (.ok ()) t → good () t) ∧
          ∀ e t, C.step s (.updateTexture texture pixels) (.error e) t → bad e t :=
  and_congr_right fun _ => forall_except_unit

/-- Waiting until the device is idle is one call, which may fail. -/
@[simp] theorem keepsTask_waitIdle {good : Unit → γ → Prop} :
    C.KeepsTask Graphics.waitIdle s good bad ↔
      C.permits s .waitIdle ∧
        (∀ t, C.step s .waitIdle (.ok ()) t → good () t) ∧
          ∀ e t, C.step s .waitIdle (.error e) t → bad e t :=
  and_congr_right fun _ => forall_except_unit

end Fallible

/-! ## The held texture -/

section HeldTexture

variable {held : HeldTexture τ} {bad : GraphicsError → HeldTexture τ → γ → Prop}

/-- An upload creates, overwrites or replaces, as the sizes say. -/
theorem keepsOp_heldUpload {good : UploadOutcome → HeldTexture τ → γ → Prop}
    (pixels : PixelBuffer) :
    C.KeepsOp (HeldTexture.upload pixels) held s good bad ↔
      match held.current with
      | none =>
        C.KeepsTask (Graphics.createTexture pixels) s
          (fun texture => good .created ⟨some (texture, pixels.extent)⟩) fun e => bad e held
      | some (texture, size) =>
        if size = pixels.extent then
          C.KeepsTask (Graphics.updateTexture texture pixels) s
            (fun _ => good .updated held) fun e => bad e held
        else
          C.KeepsTask Graphics.waitIdle s
            (fun _ t => C.Keeps (Graphics.releaseTexture texture) t fun _ u =>
              C.KeepsTask (Graphics.createTexture pixels) u
                (fun texture => good .recreated ⟨some (texture, pixels.extent)⟩) fun e =>
                  bad e ⟨none⟩)
            fun e => bad e held := by
  unfold HeldTexture.upload HeldTexture.place
  rw [keepsOp_bind, keepsOp_get]
  cases held.current with
  | none => simp
  | some current =>
    obtain ⟨texture, size⟩ := current
    simp only
    split <;> simp

/-- Clearing the slot releases the texture in it, if any. -/
theorem keeps_clear {post : Unit × HeldTexture τ → γ → Prop} :
    C.Keeps (HeldTexture.clear held) s post ↔
      match held.current with
      | none => post ((), ⟨none⟩) s
      | some (texture, _) =>
        C.Keeps (Graphics.releaseTexture texture) s fun _ => post ((), ⟨none⟩) := by
  obtain ⟨_ | ⟨texture, size⟩⟩ := held
  · rfl
  · exact keeps_bind ..

end HeldTexture

/-! ## Operations of a renderer -/

section Renderer

variable {r : Renderer τ} {bad : GraphicsError → Renderer τ → γ → Prop}

/-- A request for the size in use drops the pending one; any other takes its place. -/
theorem keeps_requestSize {post : Unit × Renderer τ → γ → Prop} (extent : Extent) :
    C.Keeps (Renderer.requestSize extent r) s post ↔
      C.Keeps Graphics.extent s fun current =>
        post ((), { r with pendingSize := if extent = current then none else some extent }) := by
  unfold Renderer.requestSize
  simp

/-- A pending size is rebuilt for first; failing that, an owed rebuild is made for the size in
use. -/
theorem keepsOp_settleRebuild {good : Unit → Renderer τ → γ → Prop} :
    C.KeepsOp Renderer.settleRebuild r s good bad ↔
      match r.pendingSize with
      | some extent =>
        C.KeepsTask (Graphics.rebuild extent) s
          (fun _ => good () { r with pendingSize := none, rebuildOwed := false }) fun e => bad e r
      | none =>
        if r.rebuildOwed then
          C.Keeps Graphics.extent s fun extent t =>
            C.KeepsTask (Graphics.rebuild extent) t
              (fun _ => good () { r with rebuildOwed := false }) fun e => bad e r
        else good () r s := by
  unfold Renderer.settleRebuild
  rw [keepsOp_bind, keepsOp_get]
  cases pending : r.pendingSize with
  | none =>
    by_cases owed : r.rebuildOwed = true
    · simp [owed, pending]
    · simp [owed]
  | some extent => simp

/-- A suboptimal image owes a rebuild whatever follows; a render pass that begins makes its image
the active one. -/
theorem keepsOp_record {good : FrameStatus ρ → Renderer τ → γ → Prop} (image : AcquiredImage) :
    C.KeepsOp (Renderer.record image) r s good bad ↔
      C.KeepsTask (Graphics.beginPass image.index r.clearColor) s
        (fun recording t => C.Keeps Graphics.extent t fun extent =>
          good (.ready ⟨recording, image.index, extent⟩)
            { r with rebuildOwed := image.suboptimal || r.rebuildOwed, active := some image.index })
        fun e => bad e { r with rebuildOwed := image.suboptimal || r.rebuildOwed } := by
  unfold Renderer.record
  cases h : image.suboptimal with
  | true => simp
  | false => simp

/-- The two refusals, the skipped frame of a minimized window, and the rebuild, wait and acquire
of a frame that begins. -/
theorem keepsOp_beginFrame {good : FrameStatus ρ → Renderer τ → γ → Prop} :
    C.KeepsOp Renderer.beginFrame r s good bad ↔
      if r.closed then bad (.frameOrder "begin_frame after shutdown") r s
      else if r.active.isSome then bad (.frameOrder "begin_frame while a frame is active") r s
      else if r.minimized then good .skipped r s
      else C.KeepsOp Renderer.settleRebuild r s
        (fun _ r t => C.KeepsTask Graphics.waitForPrevious t
          (fun _ u => C.KeepsTask Graphics.acquire u
            (fun image v => C.KeepsOp (Renderer.record image) r v good bad)
            fun e v =>
              if e = .outOfDate then
                C.Keeps Graphics.extent v fun extent w =>
                  C.KeepsTask (Graphics.rebuild extent) w (fun _ => good .skipped r) fun e =>
                    bad e r
              else bad e r v)
          fun e => bad e r)
        bad := by
  unfold Renderer.beginFrame
  rw [keepsOp_bind, keepsOp_get]
  by_cases closed : r.closed = true
  · simp [closed]
  · by_cases active : r.active.isSome = true
    · simp [closed, active]
    · by_cases minimized : r.minimized = true
      · simp [closed, active, minimized]
      · simp only [closed, active, minimized, Bool.false_eq_true, if_false, keepsOp_bind,
          keepsOp_ofTask, keepsOp_attempt]
        congr! 10 with _ y _ _ e t
        cases e with
        | outOfDate => simp only [if_true, keepsOp_bind, keepsOp_log, keepsOp_ofProgram,
            keepsOp_ofTask, keepsOp_pure]
        | _ => simp only [reduceCtorEq, if_false, keepsOp_throw]

/-- The active frame ends whatever becomes of it; a presented one is counted. -/
theorem keepsOp_endFrame {good : Unit → Renderer τ → γ → Prop} :
    C.KeepsOp Renderer.endFrame r s good bad ↔
      match r.active with
      | none => bad (.frameOrder "end_frame without an active frame") r s
      | some image =>
        C.KeepsTask Graphics.endPass s
          (fun _ t => C.KeepsTask (Graphics.present image) t
            (fun outcome => good () { r with
              active := none
              presented := if outcome = .outOfDate then r.presented else r.presented + 1
              rebuildOwed := decide (outcome ≠ .presented) || r.rebuildOwed })
            fun e => bad e { r with active := none })
          fun e => bad e { r with active := none } := by
  unfold Renderer.endFrame
  rw [keepsOp_bind, keepsOp_get]
  cases r.active with
  | none => rfl
  | some image =>
    simp only [keepsOp_bind, keepsOp_modify, keepsOp_ofTask]
    congr! 6 with _ _ outcome t
    cases outcome with
    | presented => simp
    | suboptimal => simp
    | outOfDate => simp

/-- The two refusals, and the upload into the slot. -/
theorem keepsOp_upload {good : UploadOutcome → Renderer τ → γ → Prop} (pixels : PixelBuffer) :
    C.KeepsOp (Renderer.upload pixels) r s good bad ↔
      if r.closed then bad (.frameOrder "upload after shutdown") r s
      else if r.active.isSome then bad (.frameOrder "upload while a frame is active") r s
      else C.KeepsOp (HeldTexture.upload pixels) r.texture s
        (fun outcome texture => good outcome { r with texture })
        fun e texture => bad e { r with texture } := by
  unfold Renderer.upload Renderer.onTexture
  rw [keepsOp_bind, keepsOp_get]
  by_cases closed : r.closed = true
  · simp [closed]
  · by_cases active : r.active.isSome = true
    · simp [closed, active]
    · simp [closed, active]

/-- Only a slot with a texture asks for its binding. -/
theorem keeps_renderer_binding {post : Option TextureBinding × Renderer τ → γ → Prop} :
    C.Keeps (Renderer.binding? r) s post ↔
      match r.texture.current with
      | none => post (none, r) s
      | some (texture, _) =>
        C.Keeps (Graphics.binding texture) s fun binding => post (some binding, r) := by
  unfold Renderer.binding? HeldTexture.texture?
  cases r.texture.current with
  | none => rfl
  | some current => exact keeps_bind ..

/-- The first shutdown waits, clears the slot and tears the stack down, also when the wait fails;
any later one does nothing. -/
theorem keepsOp_shutdown {good : Unit → Renderer τ → γ → Prop} :
    C.KeepsOp Renderer.shutdown r s good bad ↔
      if r.closed then good () r s
      else C.KeepsTask Graphics.waitIdle s
        (fun _ t => C.Keeps (HeldTexture.clear r.texture) t fun _ u =>
          C.Keeps Graphics.tearDown u fun _ =>
            good () { r with closed := true, active := none, texture := ⟨none⟩ })
        fun e t => C.Keeps (HeldTexture.clear r.texture) t fun _ u =>
          C.Keeps Graphics.tearDown u fun _ =>
            bad e { r with closed := true, active := none, texture := ⟨none⟩ } := by
  unfold Renderer.shutdown Renderer.onTexture
  rw [keepsOp_bind, keepsOp_get]
  by_cases closed : r.closed = true
  · simp [closed]
  · simp only [closed, Bool.false_eq_true, if_false, keepsOp_bind, keepsOp_modify, keepsOp_get,
      keepsOp_attempt, keepsOp_ofTask, keepsOp_onPart, keepsOp_ofAction, keepsOp_ofProgram,
      keepsOp_log, keepsOp_ofResult, keeps_clear]

/-- Closing is a shutdown whose failure goes unheard. -/
theorem keeps_close {post : Unit × Renderer τ → γ → Prop} :
    C.Keeps (Renderer.close r) s post ↔
      C.KeepsOp Renderer.shutdown r s (fun _ r => post ((), r)) fun _ r => post ((), r) := by
  unfold Renderer.close KeepsOp
  rw [keeps_bind]
  congr! 2 with result t
  obtain ⟨_ | _, r⟩ := result
  · rfl
  · rfl

end Renderer

end Contract

end PaintPresenter
