import PaintPresenter.Proofs.Completion
import PaintPresenter.Proofs.LoopConduct
import PaintPresenter.Proofs.Protocol

/-!
# A turn in which everything succeeds

A turn of the frame loop that meets no failure draws once and presents once, whether or not it has
a rebuild to make first. It makes the calls of a frame only, and has no fault of its own.
-/

namespace PaintPresenter

variable {τ ρ : Type}

/-- The call belongs to a turn of the frame loop. -/
def FrameCall.InTurn : FrameCall τ ρ → Prop
  | .graphics (.createTexture _) | .graphics (.updateTexture _ _) | .graphics (.releaseTexture _)
  | .graphics .waitIdle | .graphics .tearDown => False
  | _ => True

/-- What a stack offers and what was done with it. -/
structure Tally where
  /-- Number of images that can be drawn into. -/
  images : Nat
  drawings : Nat := 0
  presents : Nat := 0

namespace Tally

/-- Calls of a frame may be made, with images that there are. -/
def Allows (s : Tally) (c : FrameCall τ ρ) : Prop :=
  c.InTurn ∧ ∀ image clear, c = .graphics (.beginPass image clear) → image.toNat < s.images

/-- What a call does that succeeds. -/
def Step (s : Tally) : (c : FrameCall τ ρ) → c.Reply → Tally → Prop
  | .draw _ _, _, t => t = { s with drawings := s.drawings + 1 }
  | .graphics .acquire, .ok image, t => image.index.toNat < s.images ∧ t = s
  | .graphics (.present _), .ok outcome, t =>
    outcome ≠ .outOfDate ∧ t = { s with presents := s.presents + 1 }
  | .graphics (.rebuild _), .ok (), t => ∃ images, t = { s with images }
  | .graphics .waitForPrevious, .error _, _ | .graphics .acquire, .error _, _
  | .graphics (.beginPass _ _), .error _, _ | .graphics .endPass, .error _, _
  | .graphics (.present _), .error _, _ | .graphics (.rebuild _), .error _, _ => False
  | _, _, t => t = s

end Tally

/-- A stack on which everything succeeds, together with drawing. -/
def fortunate (τ ρ : Type) : Contract (FrameLoop τ ρ) Tally where
  step := Tally.Step
  permits := Tally.Allows

namespace Contract

variable {r : Renderer τ} {s t : Tally}

/-- The contract permits the calls that the state allows. -/
@[simp] theorem fortunate_permits (c : FrameCall τ ρ) :
    (fortunate τ ρ).permits s c ↔ s.Allows c := Iff.rfl

/-- The contract steps as the state does. -/
@[simp] theorem fortunate_step (c : FrameCall τ ρ) (reply : c.Reply) :
    (fortunate τ ρ).step s c reply t ↔ s.Step c reply t := Iff.rfl

private theorem settleRebuild_fortunate (idle : r.Idle) :
    (fortunate τ ρ).onStack.KeepsOp Renderer.settleRebuild r s
      (fun _ r' t => r'.Idle ∧ r'.presented = r.presented ∧
        ∃ images, t = { s with images })
      fun _ _ _ => False := by
  obtain ⟨open_, inactive⟩ := idle
  rw [keepsOp_settleRebuild]
  cases r.pendingSize with
  | some extent =>
    simp [Tally.Allows, Tally.Step, FrameCall.InTurn, Renderer.Idle, open_, inactive]
  | none =>
    by_cases owed : r.rebuildOwed = true
    · simp [owed, Tally.Allows, Tally.Step, FrameCall.InTurn, Renderer.Idle, open_, inactive]
    · rw [if_neg owed]
      exact ⟨⟨open_, inactive⟩, rfl, s.images, rfl⟩

private theorem beginFrame_fortunate (idle : r.Idle) (shown : r.minimized = false) :
    (fortunate τ ρ).onStack.KeepsOp Renderer.beginFrame r s
      (fun status r' t => ∃ frame, status = .ready frame ∧ r'.active.isSome ∧
        r'.presented = r.presented ∧ ∃ images, t = { s with images })
      fun _ _ _ => False := by
  rw [keepsOp_beginFrame, if_neg (by simp [idle.1]), if_neg (by simp [idle.2]),
    if_neg (by simp [shown])]
  refine (settleRebuild_fortunate idle).mono (fun _ r' t settled => ?_) fun _ _ _ => id
  obtain ⟨idle, presented, images, rfl⟩ := settled
  refine keepsTask_waitForPrevious.mpr ⟨⟨trivial, nofun⟩, ?_, fun _ _ => id⟩
  rintro _ rfl
  refine keepsTask_acquire.mpr ⟨⟨trivial, nofun⟩, ?_, fun _ _ step => absurd step id⟩
  rintro image _ ⟨taken, rfl⟩
  rw [keepsOp_record]
  refine (keepsTask_beginPass ..).mpr ⟨⟨trivial, ?_⟩, ?_, fun _ _ => id⟩
  · rintro _ _ ⟨⟩
    exact taken
  · rintro recording _ rfl
    refine (keeps_extent _).mpr ⟨⟨trivial, nofun⟩, ?_⟩
    rintro extent _ rfl
    exact ⟨_, rfl, rfl, presented, images, rfl⟩

private theorem endFrame_fortunate (active : r.active.isSome) :
    (fortunate τ ρ).onStack.KeepsOp Renderer.endFrame r s
      (fun _ r' t => r'.presented = r.presented + 1 ∧ t = { s with presents := s.presents + 1 })
      fun _ _ _ => False := by
  obtain ⟨image, active⟩ := Option.isSome_iff_exists.mp active
  rw [keepsOp_endFrame, active]
  refine keepsTask_endPass.mpr ⟨⟨trivial, nofun⟩, ?_, fun _ _ => id⟩
  rintro _ rfl
  refine (keepsTask_present image).mpr ⟨⟨trivial, nofun⟩, ?_, fun _ _ => id⟩
  rintro outcome _ ⟨fits, rfl⟩
  exact ⟨if_neg fits, rfl⟩

/-- A turn in which everything succeeds draws and presents once. -/
theorem driveFrame_fortunate (idle : r.Idle) (shown : r.minimized = false) :
    (fortunate τ ρ).Keeps (driveFrame r) s fun out t =>
      out.1 = .proceed ∧ out.2.presented = r.presented + 1 ∧ t.drawings = s.drawings + 1 ∧
        t.presents = s.presents + 1 := by
  rw [keeps_driveFrame]
  refine (beginFrame_fortunate idle shown).mono (fun status r' t begun => ?_)
    fun _ _ _ => False.elim
  obtain ⟨frame, rfl, active, presented, images, rfl⟩ := begun
  have bound : (fortunate τ ρ).onStack.Keeps (Renderer.binding? r') { s with images }
      fun out t => out.2 = r' ∧ t = { s with images } := by
    rw [keeps_renderer_binding]
    cases r'.texture.current with
    | none => exact ⟨rfl, rfl⟩
    | some current => exact ⟨⟨trivial, nofun⟩, fun _ _ step => ⟨rfl, step⟩⟩
  apply bound.mono
  rintro ⟨binding, _⟩ _ ⟨rfl, rfl⟩
  refine ⟨⟨trivial, nofun⟩, ?_⟩
  rintro _ rfl
  refine (endFrame_fortunate active).mono (fun _ r' t ended => ?_) fun _ _ _ => False.elim
  obtain ⟨counted, rfl⟩ := ended
  exact ⟨rfl, counted.trans (congrArg (· + 1) presented), rfl, rfl⟩

end Contract

/-! ## A turn has no fault of its own -/

section Completion

open Stateful

private abbrev GraphicsCall.InTurn (ρ : Type) (call : GraphicsCall τ) : Prop :=
  FrameCall.InTurn (.graphics call : FrameCall τ ρ)

-- What belongs to a turn and has no fault of its own.
private abbrev Unhindered {α : Type} (op : Renderer.Task τ ρ α) : Prop :=
  op.Completes (GraphicsCall.InTurn ρ) fun _ _ => True

private theorem unhindered_settleRebuild :
    Unhindered (Renderer.settleRebuild : Renderer.Task τ ρ Unit) := by
  unfold Renderer.settleRebuild
  refine Completes.bind completes_get fun r => ?_
  have rebuild (extent : Extent) (f : Renderer τ → Renderer τ) :
      Unhindered (do
        .ofTask (Graphics.rebuild extent)
        modify f : Renderer.Task τ ρ Unit) :=
    Completes.bind (completes_ofTask (Program.completes_ask trivial)) fun _ => completes_modify f
  cases r.pendingSize with
  | some extent => exact rebuild extent _
  | none =>
    by_cases owed : r.rebuildOwed = true
    · rw [if_pos owed]
      exact Completes.bind (completes_ofProgram (Program.completes_ask trivial)) fun extent =>
        rebuild extent _
    · rw [if_neg owed]
      exact completes_pure _

private theorem unhindered_record (image : AcquiredImage) :
    Unhindered (Renderer.record image : Renderer.Task τ ρ (FrameStatus ρ)) := by
  unfold Renderer.record
  have rest : Unhindered (do
      let recording ← .ofTask (Graphics.beginPass image.index (← get).clearColor)
      modify fun r => { r with active := some image.index }
      let extent ← .ofProgram Graphics.extent
      return .ready ⟨recording, image.index, extent⟩ : Renderer.Task τ ρ (FrameStatus ρ)) :=
    Completes.bind completes_get fun _ =>
      Completes.bind (completes_ofTask (Program.completes_ask trivial)) fun _ =>
        Completes.bind (completes_modify _) fun _ =>
          Completes.bind (completes_ofProgram (Program.completes_ask trivial)) fun _ =>
            completes_pure _
  cases image.suboptimal with
  | true =>
    exact Completes.bind (completes_log _ _) fun _ =>
      Completes.bind (completes_modify _) fun _ => rest
  | false => exact rest

private theorem unhindered_beginFrame :
    Unhindered (Renderer.beginFrame : Renderer.Task τ ρ (FrameStatus ρ)) := by
  unfold Renderer.beginFrame
  refine Completes.bind completes_get fun r => ?_
  by_cases closed : r.closed = true
  · rw [if_pos closed]
    exact fun _ => trivial
  rw [if_neg closed]
  by_cases active : r.active.isSome = true
  · rw [if_pos active]
    exact fun _ => trivial
  rw [if_neg active]
  by_cases minimized : r.minimized = true
  · rw [if_pos minimized]
    exact completes_pure _
  rw [if_neg minimized]
  refine Completes.bind unhindered_settleRebuild fun _ =>
    Completes.bind (completes_ofTask (Program.completes_ask trivial)) fun _ =>
      Completes.bind (completes_ofTask (Program.completes_ask trivial)).attempt fun taken => ?_
  cases taken with
  | ok image => exact unhindered_record image
  | error e =>
    cases e with
    | outOfDate =>
      exact Completes.bind (completes_log _ _) fun _ =>
        Completes.bind (completes_ofProgram (Program.completes_ask trivial)) fun _ =>
          Completes.bind (completes_ofTask (Program.completes_ask trivial)) fun _ =>
            completes_pure _
    | _ => exact completes_throw _

private theorem unhindered_endFrame :
    Unhindered (Renderer.endFrame : Renderer.Task τ ρ Unit) := by
  unfold Renderer.endFrame
  refine Completes.bind completes_get fun r => ?_
  cases r.active with
  | none => exact completes_throw _
  | some image =>
    refine Completes.bind (completes_modify _) fun _ =>
      Completes.bind (completes_ofTask (Program.completes_ask trivial)) fun _ =>
        Completes.bind (completes_ofTask (Program.completes_ask trivial)) fun outcome => ?_
    cases outcome with
    | presented | suboptimal => exact completes_modify _
    | outOfDate => exact Completes.bind (completes_log _ _) fun _ => completes_modify _

private theorem unhindered_binding (r : Renderer τ) :
    (Renderer.binding? r : Program (Graphics τ ρ) _).Completes (GraphicsCall.InTurn ρ)
      fun _ _ => True := by
  unfold Renderer.binding?
  cases r.texture.texture? with
  | none => trivial
  | some texture => exact (Program.completes_ask trivial).bind fun _ => trivial

/-- Whatever a turn meets, it makes the calls of a frame and comes to its end. -/
theorem driveFrame_completes (r : Renderer τ) :
    (driveFrame r).Completes (FrameCall.InTurn (ρ := ρ)) fun _ _ => True := by
  have calls (c : GraphicsCall τ) (inTurn : GraphicsCall.InTurn ρ c) :
      (Program.call (I := FrameLoop τ ρ) (.graphics c) .done).Completes FrameCall.InTurn
        fun _ _ => True := Program.completes_ask inTurn
  have decides (e : GraphicsError) :
      (FrameLoop.controlFor (τ := τ) (ρ := ρ) e).Completes FrameCall.InTurn fun _ _ => True := by
    unfold FrameLoop.controlFor
    split <;> trivial
  unfold driveFrame
  refine ((unhindered_beginFrame r).embed calls).bind ?_
  rintro ⟨begun, r⟩
  match begun with
  | .error e => exact (decides e).bind fun _ => trivial
  | .ok .skipped => trivial
  | .ok (.ready frame) =>
    refine ((unhindered_binding r).embed calls).bind ?_
    rintro ⟨binding, r⟩
    refine (Program.completes_ask trivial).bind fun _ =>
      ((unhindered_endFrame r).embed calls).bind ?_
    rintro ⟨ended, r⟩
    cases ended with
    | error e => exact (decides e).bind fun _ => trivial
    | ok _ => trivial

end Completion

end PaintPresenter
