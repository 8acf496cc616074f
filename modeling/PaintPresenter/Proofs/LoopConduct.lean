import PaintPresenter.Graphics.FrameLoop
import PaintPresenter.Proofs.Conduct

/-!
# What a turn of the frame loop asks for

A turn keeps a contract when its parts keep it: the calls to the stack in the contract's part for
the stack, and the drawing between them.
-/

namespace PaintPresenter

variable {τ ρ α γ : Type}

/-- The decision that an error leads to. -/
def LoopControl.after (e : GraphicsError) : LoopControl :=
  if e.isRecoverable then .proceed else .exit

/-- A stack together with drawing, which leaves the stack as it is. -/
def Program.World.drawing (W : Program.World (Graphics τ ρ) γ) :
    Program.World (FrameLoop τ ρ) γ where
  step
    | s, .graphics c, reply, t => W.step s c reply t
    | s, .draw _ _, _, t => t = s

namespace Contract

variable {C : Contract (FrameLoop τ ρ) γ} {s : γ}

/-- The part of a contract that is about the stack. -/
def onStack (C : Contract (FrameLoop τ ρ) γ) : Contract (Graphics τ ρ) γ where
  step s call := C.step s (.graphics call)
  permits s call := C.permits s (.graphics call)

/-- A contract with a stack, together with drawing, which is free. -/
def drawing (C : Contract (Graphics τ ρ) γ) : Contract (FrameLoop τ ρ) γ where
  toWorld := C.toWorld.drawing
  permits
    | s, .graphics call => C.permits s call
    | _, .draw _ _ => True

/-- Drawing aside, the contract is the one with the stack. -/
@[simp] theorem onStack_drawing (C : Contract (Graphics τ ρ) γ) : C.drawing.onStack = C := rfl

/-- The stack is called as the contract permits. -/
@[simp] theorem onStack_permits {call : GraphicsCall τ} :
    C.onStack.permits s call ↔ C.permits s (.graphics call) := Iff.rfl

/-- The stack steps as the contract does. -/
@[simp] theorem onStack_step {call : GraphicsCall τ} {reply : call.Reply ρ} {t : γ} :
    C.onStack.step s call reply t ↔ C.step s (.graphics call) reply t := Iff.rfl

/-- A program over the stack is judged by the part of the contract that is about the stack. -/
theorem keeps_onGraphics {p : Program (Graphics τ ρ) α} {post : α → γ → Prop} :
    C.Keeps (FrameLoop.onGraphics p) s post ↔ C.onStack.Keeps p s post := by
  induction p generalizing s with
  | done a => rfl
  | abort fault => rfl
  | note r p ih => exact ih
  | call c k ih => exact and_congr_right fun _ => forall₃_congr fun reply t _ => ih reply

private theorem keeps_controlFor {e : GraphicsError} {post : LoopControl → γ → Prop} :
    C.Keeps (FrameLoop.controlFor e) s post ↔ post (.after e) s := by
  unfold FrameLoop.controlFor LoopControl.after
  cases e.isRecoverable with
  | true => rfl
  | false => rfl

-- How a turn ends: the result of its last part becomes a decision.
private theorem keeps_decide {p : Program (Graphics τ ρ) (Except GraphicsError Unit × Renderer τ)}
    {post : LoopControl × Renderer τ → γ → Prop} :
    C.Keeps (do
        let (ended, r) ← FrameLoop.onGraphics p
        match ended with
        | .error e => return (← FrameLoop.controlFor e, r)
        | .ok () => return (.proceed, r)) s post ↔
      C.onStack.Keeps p s fun
        | (.ok (), r), t => post (.proceed, r) t
        | (.error e, r), t => post (.after e, r) t := by
  rw [keeps_bind, keeps_onGraphics]
  congr! 2 with out
  obtain ⟨_ | _, r⟩ := out
  · funext t
    exact propext ((keeps_bind ..).trans keeps_controlFor)
  · rfl

/-- Driving begins a frame, draws it with the binding, and ends it; failures decide whether the
loop goes on. -/
theorem keeps_driveFrame {r : Renderer τ} {post : LoopControl × Renderer τ → γ → Prop} :
    C.Keeps (driveFrame r) s post ↔
      C.onStack.KeepsOp Renderer.beginFrame r s
        (fun status r t => match status with
          | .skipped => post (.proceed, r) t
          | .ready frame => C.onStack.Keeps (Renderer.binding? r) t fun out u =>
            C.permits u (.draw frame out.1) ∧ ∀ v, C.step u (.draw frame out.1) () v →
              C.onStack.KeepsOp Renderer.endFrame out.2 v (fun _ r => post (.proceed, r))
                fun e r => post (.after e, r))
        fun e r => post (.after e, r) := by
  unfold driveFrame
  rw [keeps_bind, keeps_onGraphics, keeps_run]
  congr! 3 with status r e r
  · cases status with
    | skipped => rfl
    | ready frame =>
      funext t
      apply propext
      apply (keeps_bind ..).trans
      rw [keeps_onGraphics]
      congr! 2 with out
      funext u
      apply propext
      apply (keeps_bind ..).trans
      apply and_congr_right
      intro _
      constructor
      · intro h v step
        exact keeps_run.mp (keeps_decide.mp (h () v step))
      · intro h _ v step
        exact keeps_decide.mpr (keeps_run.mpr (h v step))
  · funext t
    exact propext ((keeps_bind ..).trans keeps_controlFor)

end Contract

/-! ## Frames do not touch the texture -/

/-- The call is not about a texture. -/
def GraphicsCall.Spares : GraphicsCall τ → Prop
  | .createTexture _ | .updateTexture _ _ | .releaseTexture _ | .binding _ => False
  | _ => True

/-- The renderer holds the same texture and was not shut down in between. -/
def Renderer.SameTexture (r after : Renderer τ) : Prop :=
  after.texture = r.texture ∧ after.closed = r.closed

private theorem Renderer.SameTexture.trans {r between after : Renderer τ}
    (first : r.SameTexture between) (second : between.SameTexture after) : r.SameTexture after :=
  ⟨second.1.trans first.1, second.2.trans first.2⟩

namespace Contract

variable {C : Contract (Graphics τ ρ) γ} {I : γ → Prop} {r : Renderer τ} {s : γ}

/-- Calls that are not about a texture are permitted, and `I` is true after each of them. -/
def Ignores (C : Contract (Graphics τ ρ) γ) (I : γ → Prop) : Prop :=
  ∀ s call, I s → call.Spares →
    C.permits s call ∧ ∀ reply t, C.step s call reply t → I t

private theorem settleRebuild_ignores (ignores : C.Ignores I) (start : I s) :
    C.KeepsOp Renderer.settleRebuild r s
      (fun _ after t => I t ∧ r.SameTexture after ∧ after.active = r.active)
      fun _ after t => I t ∧ after = r := by
  have rebuild (t : γ) (before : I t) (extent : Extent) :=
    ignores t (.rebuild extent) before trivial
  rw [keepsOp_settleRebuild]
  cases r.pendingSize with
  | some extent =>
    obtain ⟨permitted, next⟩ := rebuild s start extent
    refine (keepsTask_rebuild extent).mpr ⟨permitted, fun t step => ?_, fun e t step => ?_⟩
    · exact ⟨next _ t step, ⟨rfl, rfl⟩, rfl⟩
    · exact ⟨next _ t step, rfl⟩
  | none =>
    by_cases owed : r.rebuildOwed = true
    · rw [if_pos owed]
      obtain ⟨asked, answered⟩ := ignores s .extent start trivial
      refine (keeps_extent _).mpr ⟨asked, fun extent t step => ?_⟩
      obtain ⟨permitted, next⟩ := rebuild t (answered extent t step) extent
      refine (keepsTask_rebuild extent).mpr ⟨permitted, fun u step => ?_, fun e u step => ?_⟩
      · exact ⟨next _ u step, ⟨rfl, rfl⟩, rfl⟩
      · exact ⟨next _ u step, rfl⟩
    · rw [if_neg owed]
      exact ⟨start, ⟨rfl, rfl⟩, rfl⟩

private theorem record_ignores (ignores : C.Ignores I) (start : I s) (inactive : r.active = none)
    (image : AcquiredImage) :
    C.KeepsOp (Renderer.record image) r s
      (fun status after t => I t ∧ r.SameTexture after ∧ (status = .skipped → after.active = none))
      fun _ after t => I t ∧ r.SameTexture after ∧ after.active = none := by
  rw [keepsOp_record]
  obtain ⟨permitted, next⟩ := ignores s (.beginPass image.index r.clearColor) start trivial
  refine (keepsTask_beginPass ..).mpr ⟨permitted, fun recording t step => ?_, fun e t step => ?_⟩
  · obtain ⟨asked, answered⟩ := ignores t .extent (next _ t step) trivial
    refine (keeps_extent _).mpr ⟨asked, fun extent u step => ?_⟩
    exact ⟨answered _ u step, ⟨rfl, rfl⟩, fun skipped => nomatch skipped⟩
  · exact ⟨next _ t step, ⟨rfl, rfl⟩, inactive⟩

private theorem acquire_ignores (ignores : C.Ignores I) (start : I s) (inactive : r.active = none) :
    C.KeepsTask Graphics.acquire s
      (fun image t => C.KeepsOp (Renderer.record image) r t
        (fun status after t =>
          I t ∧ r.SameTexture after ∧ (status = .skipped → after.active = none))
        fun _ after t => I t ∧ r.SameTexture after ∧ after.active = none)
      fun e t =>
        if e = .outOfDate then
          C.Keeps Graphics.extent t fun extent u =>
            C.KeepsTask (Graphics.rebuild extent) u (fun _ => I) fun _ => I
        else I t := by
  obtain ⟨permitted, next⟩ := ignores s .acquire start trivial
  refine keepsTask_acquire.mpr ⟨permitted, fun image t step => ?_, fun e t step => ?_⟩
  · exact record_ignores ignores (next _ t step) inactive image
  · by_cases late : e = .outOfDate
    · rw [if_pos late]
      obtain ⟨asked, answered⟩ := ignores t .extent (next _ t step) trivial
      refine (keeps_extent _).mpr ⟨asked, fun extent u step => ?_⟩
      obtain ⟨permitted, next⟩ := ignores u (.rebuild extent) (answered _ u step) trivial
      exact (keepsTask_rebuild extent).mpr ⟨permitted, next _, fun e => next _⟩
    · rw [if_neg late]
      exact next _ t step

/-- A frame that is skipped or fails to begin leaves no frame active. -/
theorem beginFrame_ignores (ignores : C.Ignores I) (start : I s) (inactive : r.active = none) :
    C.KeepsOp Renderer.beginFrame r s
      (fun status after t => r.closed = false ∧
        I t ∧ r.SameTexture after ∧ (status = .skipped → after.active = none))
      fun _ after t => I t ∧ r.SameTexture after ∧ after.active = none := by
  rw [keepsOp_beginFrame]
  by_cases closed : r.closed = true
  · rw [if_pos closed]
    exact ⟨start, ⟨rfl, rfl⟩, inactive⟩
  have open_ : r.closed = false := by simpa using closed
  rw [if_neg closed, if_neg (by simp [inactive])]
  by_cases minimized : r.minimized = true
  · rw [if_pos minimized]
    exact ⟨open_, start, ⟨rfl, rfl⟩, fun _ => inactive⟩
  rw [if_neg minimized]
  apply (settleRebuild_ignores ignores start).mono
  · rintro - r' t ⟨settled, same, active⟩
    have inactive : r'.active = none := active.trans inactive
    obtain ⟨permitted, next⟩ := ignores t .waitForPrevious settled trivial
    refine keepsTask_waitForPrevious.mpr ⟨permitted, fun u step => ?_, fun e u step => ?_⟩
    · apply (acquire_ignores ignores (next _ u step) inactive).mono
      · intro image v recorded
        exact recorded.mono (fun _ _ _ h => ⟨open_, h.1, same.trans h.2.1, h.2.2⟩)
          fun _ _ _ h => ⟨h.1, same.trans h.2.1, h.2.2⟩
      · intro e v handled
        by_cases late : e = .outOfDate
        · rw [if_pos late] at handled ⊢
          apply handled.mono
          intro extent w rebuilt
          exact rebuilt.mono (fun _ _ h => ⟨open_, h, same, fun _ => inactive⟩)
            fun _ _ h => ⟨h, same, inactive⟩
        · rw [if_neg late] at handled ⊢
          exact ⟨handled, same, inactive⟩
    · exact ⟨next _ u step, same, inactive⟩
  · rintro e r' t ⟨settled, rfl⟩
    exact ⟨settled, ⟨rfl, rfl⟩, inactive⟩

private theorem endFrame_ignores (ignores : C.Ignores I) (start : I s) :
    C.KeepsOp Renderer.endFrame r s
      (fun _ after t => I t ∧ r.SameTexture after ∧ after.active = none)
      fun _ after t => I t ∧ r.SameTexture after ∧ after.active = none := by
  rw [keepsOp_endFrame]
  cases active : r.active with
  | none => exact ⟨start, ⟨rfl, rfl⟩, rfl⟩
  | some image =>
    obtain ⟨permitted, next⟩ := ignores s .endPass start trivial
    refine keepsTask_endPass.mpr ⟨permitted, fun t step => ?_, fun e t step => ?_⟩
    · obtain ⟨permitted, next⟩ := ignores t (.present image) (next _ t step) trivial
      refine (keepsTask_present image).mpr ⟨permitted, fun outcome u step => ?_, fun e u step => ?_⟩
      · exact ⟨next _ u step, ⟨rfl, rfl⟩, rfl⟩
      · exact ⟨next _ u step, ⟨rfl, rfl⟩, rfl⟩
    · exact ⟨next _ t step, ⟨rfl, rfl⟩, rfl⟩

/-- A turn asks about the texture once, before it draws. -/
theorem driveFrame_ignores {C : Contract (FrameLoop τ ρ) γ} (ignores : C.onStack.Ignores I)
    (start : I s) (inactive : r.active = none)
    (draws : ∀ r' frame t, r.closed = false → r.SameTexture r' → I t →
      C.onStack.Keeps (Renderer.binding? r') t fun out u => out.2 = r' ∧
        C.permits u (.draw frame out.1) ∧ ∀ v, C.step u (.draw frame out.1) () v → I v) :
    C.Keeps (driveFrame r) s fun out t =>
      I t ∧ r.SameTexture out.2 ∧ out.2.active = none := by
  rw [keeps_driveFrame]
  apply (beginFrame_ignores ignores start inactive).mono
  · rintro status r' t ⟨open_, kept, same, skipped⟩
    cases status with
    | skipped => exact ⟨kept, same, skipped rfl⟩
    | ready frame =>
      apply (draws r' frame t open_ same kept).mono
      rintro ⟨binding, _⟩ u ⟨rfl, permitted, next⟩
      refine ⟨permitted, fun v step => ?_⟩
      exact (endFrame_ignores ignores (next v step)).mono
        (fun _ _ _ h => ⟨h.1, same.trans h.2.1, h.2.2⟩)
        fun _ _ _ h => ⟨h.1, same.trans h.2.1, h.2.2⟩
  · exact fun _ _ _ h => h

end Contract

end PaintPresenter
