import PaintPresenter.Proofs.StackCustody
import PaintPresenter.Proofs.Upkeep

/-!
# Turns of the frame loop

Between the turns that drive a frame, a loop uploads paints and passes on sizes. As long as no turn
says that the loop is over, the renderer is between frames and its stack sound, and every object
that the stack lists is live.
-/

namespace PaintPresenter

open FrameLoop

/-- What a loop does next. -/
inductive LoopTurn
  /-- The paint that waited, if there was one, is uploaded; nobody looks at the result. -/
  | upload (paint : Option PaintFrame)
  | requestSize (extent : Extent)
  | drive

namespace LoopTurn

variable {τ ρ : Type}

/-- Takes a turn. Only driving a frame can end the loop. -/
def take : LoopTurn → StateT (Renderer τ) (Program (FrameLoop τ ρ)) LoopControl
  | .upload paint => fun r => do
    let (_, r) ← onGraphics ((Renderer.uploadCollected paint).run r)
    return (.proceed, r)
  | .requestSize extent => fun r => do
    let ((), r) ← onGraphics (Renderer.requestSize extent r)
    return (.proceed, r)
  | .drive => driveFrame

/-- Takes turns until one of them ends the loop. -/
def takeAll : List LoopTurn → StateT (Renderer τ) (Program (FrameLoop τ ρ)) LoopControl
  | [] => fun r => return (.proceed, r)
  | turn :: later => fun r => do
    let (control, r) ← turn.take r
    match control with
    | .exit => return (.exit, r)
    | .proceed => takeAll later r

end LoopTurn

namespace Contract

variable {τ ρ : Type} {r : Renderer τ}

/-! ## The protocol -/

/-- Driving a frame keeps to the protocol. -/
theorem driveFrame_follows (tidy : r.Tidy) :
    (protocol τ ρ).drawing.Keeps (driveFrame r) r.position fun out p => out.2.RestsAt p := by
  rw [keeps_driveFrame, onStack_drawing]
  refine (beginFrame_follows tidy).mono (fun status r' p rests => ?_) fun _ _ _ => id
  obtain ⟨rfl, tidy⟩ := rests
  cases status with
  | skipped => exact ⟨rfl, tidy⟩
  | ready frame =>
    apply (binding_follows tidy).mono
    rintro ⟨binding, r'⟩ p ⟨rfl, tidy⟩
    refine ⟨trivial, ?_⟩
    rintro p rfl
    exact (endFrame_follows tidy).mono (fun _ _ _ => id) fun _ _ _ => id

/-- So does uploading what was collected. -/
theorem uploadCollected_follows (tidy : r.Tidy) (paint : Option PaintFrame) :
    (protocol τ ρ).KeepsOp (Renderer.uploadCollected paint) r r.position
      (fun _ r' p => r'.RestsAt p) fun _ r' p => r'.RestsAt p := by
  cases paint with
  | none => exact ⟨rfl, tidy⟩
  | some frame =>
    rw [Renderer.uploadCollected, keepsOp_bind]
    exact (uploadPaint_follows tidy frame).mono (fun _ _ _ => id) fun _ _ _ => id

private theorem take_follows (tidy : r.Tidy) (turn : LoopTurn) :
    (protocol τ ρ).drawing.Keeps (turn.take r) r.position fun out p => out.2.RestsAt p := by
  cases turn with
  | upload paint =>
    rw [LoopTurn.take, keeps_bind, keeps_onGraphics, onStack_drawing, keeps_run]
    exact (uploadCollected_follows tidy paint).mono (fun _ _ _ => id) fun _ _ _ => id
  | requestSize extent =>
    rw [LoopTurn.take, keeps_bind, keeps_onGraphics, onStack_drawing]
    exact (perform_follows tidy (.requestSize extent)).mono fun _ _ => id
  | drive => exact driveFrame_follows tidy

/-! ## Upkeep -/

/-- The contract permits the calls that health allows. -/
@[simp] theorem upkeep_permits (h : Health) (call : GraphicsCall τ) :
    (upkeep τ ρ).permits h call ↔ h.Allows call := Iff.rfl

/-- Health goes on as the call and its reply say. -/
@[simp] theorem upkeep_step (h h' : Health) (call : GraphicsCall τ) (reply : call.Reply ρ) :
    (upkeep τ ρ).step h call reply h' ↔ h' = h.next call reply := Iff.rfl

private theorem settleRebuild_upkeep (idle : r.Idle) :
    (upkeep τ ρ).KeepsOp Renderer.settleRebuild r .sound (fun _ r' h => r'.Idle ∧ h = .sound)
      fun e r' h => r'.Idle ∧ h = .after e := by
  obtain ⟨open_, inactive⟩ := idle
  rw [keepsOp_settleRebuild]
  cases r.pendingSize with
  | some extent => simp [Health.Allows, Health.next, Renderer.Idle, open_, inactive]
  | none =>
    by_cases owed : r.rebuildOwed = true
    · simp [owed, Health.Allows, Health.next, Renderer.Idle, open_, inactive]
    · simp [owed, Renderer.Idle, open_, inactive]

-- A frame begins with a sound stack and goes on with one that is spent.
private theorem beginFrame_upkeep (idle : r.Idle) :
    (upkeep τ ρ).KeepsOp Renderer.beginFrame r .sound
      (fun status r' h => r'.closed = false ∧ match status with
        | .skipped => r'.active = none ∧ h = .sound
        | .ready _ => r'.active.isSome ∧ h = .spent)
      fun e r' h => r'.Idle ∧ h = .after e := by
  rw [keepsOp_beginFrame]
  rw [if_neg (by simp [idle.1]), if_neg (by simp [idle.2])]
  by_cases minimized : r.minimized = true
  · rw [if_pos minimized]
    exact ⟨idle.1, idle.2, rfl⟩
  rw [if_neg minimized]
  refine (settleRebuild_upkeep idle).mono (fun _ r' h settled => ?_) fun _ _ _ => id
  obtain ⟨idle, rfl⟩ := settled
  simp only [keepsTask_waitForPrevious, keepsTask_acquire, upkeep_permits, upkeep_step, forall_eq,
    Health.Allows, Health.next, true_and]
  refine ⟨⟨fun image => ?_, fun e => ?_⟩, fun e => ⟨idle, trivial⟩⟩
  · rw [keepsOp_record]
    simp [Health.Allows, Health.next, Renderer.Idle, idle.1, idle.2]
  · by_cases late : e = .outOfDate
    · simp [late, Health.Allows, Health.next, Health.after, GraphicsError.isRecoverable, idle.1,
        idle.2, idle]
    · rw [if_neg late]
      exact ⟨idle, trivial⟩

private theorem endFrame_upkeep (open_ : r.closed = false) (active : r.active.isSome) :
    (upkeep τ ρ).KeepsOp Renderer.endFrame r .spent (fun _ r' h => r'.Idle ∧ h = .sound)
      fun e r' h => r'.Idle ∧ h = .after e := by
  obtain ⟨image, active⟩ := Option.isSome_iff_exists.mp active
  rw [keepsOp_endFrame, active]
  simp [Health.Allows, Health.next, Renderer.Idle, open_]

-- A turn that goes on leaves a sound stack.
private def Rested (out : LoopControl × Renderer τ) (h : Health) : Prop :=
  out.2.Idle ∧ (out.1 = .proceed → h = .sound)

private theorem rested_of_error {e : GraphicsError} {r : Renderer τ} {h : Health}
    (left : r.Idle ∧ h = .after e) : Rested (.after e, r) h :=
  ⟨left.1, fun goesOn => left.2.trans (Health.after_of_proceed goesOn)⟩

private theorem driveFrame_upkeep (idle : r.Idle) :
    (upkeep τ ρ).drawing.Keeps (driveFrame r) .sound Rested := by
  rw [keeps_driveFrame, onStack_drawing]
  refine (beginFrame_upkeep idle).mono (fun status r' h begun => ?_) fun _ _ _ => rested_of_error
  obtain ⟨open_, begun⟩ := begun
  cases status with
  | skipped => exact ⟨⟨open_, begun.1⟩, fun _ => begun.2⟩
  | ready frame =>
    obtain ⟨active, rfl⟩ := begun
    have bound : (upkeep τ ρ).Keeps (Renderer.binding? r') .spent
        fun out h => out.2 = r' ∧ h = .spent := by
      rw [keeps_renderer_binding]
      cases r'.texture.current with
      | none => exact ⟨rfl, rfl⟩
      | some current => exact ⟨trivial, fun _ _ step => ⟨rfl, step⟩⟩
    apply bound.mono
    rintro ⟨binding, _⟩ _ ⟨rfl, rfl⟩
    refine ⟨trivial, ?_⟩
    rintro _ rfl
    exact (endFrame_upkeep open_ active).mono (fun _ _ _ ended => ⟨ended.1, fun _ => ended.2⟩)
      fun _ _ _ => rested_of_error

private theorem heldUpload_upkeep (held : HeldTexture τ) (pixels : PixelBuffer) :
    (upkeep τ ρ).KeepsOp (HeldTexture.upload pixels) held .sound (fun _ _ h => h = .sound)
      fun _ _ h => h = .sound := by
  rw [keepsOp_heldUpload]
  cases held.current with
  | none => simp [Health.Allows, Health.next]
  | some current =>
    obtain ⟨texture, size⟩ := current
    by_cases same : size = pixels.extent
    · simp [same, Health.Allows, Health.next]
    · simp [same, Health.Allows, Health.next]

private theorem uploadCollected_upkeep (idle : r.Idle) (paint : Option PaintFrame) :
    (upkeep τ ρ).KeepsOp (Renderer.uploadCollected paint) r .sound
      (fun _ r' h => r'.Idle ∧ h = .sound) fun _ r' h => r'.Idle ∧ h = .sound := by
  cases paint with
  | none => exact ⟨idle, rfl⟩
  | some frame =>
    rw [Renderer.uploadCollected, keepsOp_bind, Renderer.uploadPaint, keepsOp_bind,
      keepsOp_ofResult]
    cases frame.pixels with
    | error e => exact ⟨idle, rfl⟩
    | ok pixels =>
      simp only [keepsOp_upload, keepsOp_pure, idle.1, idle.2, Bool.false_eq_true, if_false,
        Option.isSome_none]
      exact (heldUpload_upkeep r.texture pixels).mono (fun _ _ _ sound => ⟨⟨rfl, rfl⟩, sound⟩)
        fun _ _ _ sound => ⟨⟨rfl, rfl⟩, sound⟩

private theorem take_upkeep (idle : r.Idle) (turn : LoopTurn) :
    (upkeep τ ρ).drawing.Keeps (turn.take r) .sound Rested := by
  cases turn with
  | upload paint =>
    rw [LoopTurn.take, keeps_bind, keeps_onGraphics, onStack_drawing, keeps_run]
    exact (uploadCollected_upkeep idle paint).mono (fun _ _ _ left => ⟨left.1, fun _ => left.2⟩)
      fun _ _ _ left => ⟨left.1, fun _ => left.2⟩
  | requestSize extent =>
    rw [LoopTurn.take, keeps_bind, keeps_onGraphics, onStack_drawing, keeps_requestSize]
    exact ⟨trivial, fun _ _ step => ⟨idle, fun _ => step⟩⟩
  | drive => exact driveFrame_upkeep idle

/-! ## All turns -/

/-- Between turns a renderer rests, and its stack is sound. -/
theorem takeAll_keeps (tidy : r.Tidy) (idle : r.Idle) (turns : List LoopTurn) :
    ((protocol τ ρ).drawing.both (upkeep τ ρ).drawing).Keeps (LoopTurn.takeAll turns r)
      (r.position, .sound) fun out x =>
        out.1 = .proceed → out.2.RestsAt x.1 ∧ out.2.Idle ∧ x.2 = .sound := by
  induction turns generalizing r with
  | nil => exact fun _ => ⟨⟨rfl, tidy⟩, idle, rfl⟩
  | cons turn later ih =>
    rw [LoopTurn.takeAll, keeps_bind]
    apply ((take_follows tidy turn).both (take_upkeep idle turn)).mono
    rintro ⟨control, r'⟩ ⟨p, h⟩ ⟨⟨rfl, tidy⟩, idle, goesOn⟩
    cases control with
    | exit => exact nofun
    | proceed =>
      obtain rfl := goesOn rfl
      exact ih tidy idle

end Contract

end PaintPresenter

namespace PaintPresenter.Vulkan

open Contract

variable {s t : QueueState} {stack : Stack} {easel : Easel}

/-- A frame can be drawn on a stack and presented: all that a frame uses is live, and the fence that
it waits for is signaled or will be. -/
structure Stack.Presentable (stack : Stack) (s : QueueState) : Prop where
  inFlight : stack.gate.inFlight.object ∈ s.live
  imageAvailable : stack.gate.imageAvailable.object ∈ s.live
  renderFinished : stack.gate.renderFinished.object ∈ s.live
  swapchain : stack.screen.swapchain.object ∈ s.live
  renderPass : stack.screen.targets.renderPass.object ∈ s.live
  views : ∀ view ∈ stack.screen.targets.views, view.object ∈ s.live
  framebuffers : ∀ framebuffer ∈ stack.screen.targets.framebuffers, framebuffer.object ∈ s.live
  covers : stack.screen.targets.Covers stack.screen.images.length
  armed : s.WillSignal stack.gate.inFlight

private theorem presentable_of_sound {p : Position SampledImage} {book : Holdings}
    (matched : book.Matches s) (standing : p.phase = .resting) (accounts : Accounts p stack book)
    (sound : stack.Fares s .sound) : stack.Presentable s := by
  obtain ⟨⟨gate, screen⟩, armed⟩ := sound
  rw [Accounts, standing] at accounts
  obtain ⟨-, _, ⟨_, ⟨framebuffers, made, rfl⟩, rfl⟩, holds⟩ := accounts
  have live {o : Object} (listed : o ∈ objects (stack.gate.entries ++
      (framebuffers ++ stack.screen.targets.lower stack.screen.swapchain ++
        unlessNull stack.screen.swapchain [stack.rig.surface.object]))) : o ∈ s.live := by
    rw [← matched o, holds.exists_iff]
    simp only [objects_append, List.mem_append] at listed ⊢
    exact .inr (listed.imp_right .inl)
  constructor
  case inFlight => exact live (by simp [FrameGate.entries, unlessNull_of_ne gate.inFlight])
  case imageAvailable =>
    exact live (by simp [FrameGate.entries, unlessNull_of_ne gate.imageAvailable])
  case renderFinished =>
    exact live (by simp [FrameGate.entries, unlessNull_of_ne gate.renderFinished])
  case swapchain => exact live (by simp [unlessNull_of_ne screen.swapchain])
  case renderPass =>
    exact live (by simp [TargetSet.lower, unlessNull_of_ne screen.targets.renderPass])
  case views =>
    intro view mem
    have listed : view.object ∈
        objects (stack.screen.targets.views.map (viewEntry stack.screen.swapchain)) :=
      mem_objects (List.mem_map_of_mem (f := viewEntry stack.screen.swapchain) mem)
    exact live (by simp [TargetSet.lower, listed])
  case framebuffers =>
    intro framebuffer mem
    have listed : framebuffer.object ∈ objects framebuffers := by
      rw [made.handles]
      exact List.mem_map_of_mem mem
    exact live (by simp [listed])
  case covers => exact screen.targets
  case armed => exact armed

-- The stack is in order where its renderer stands, and fares well.
private def Kept (x : Position SampledImage × Health) (easel : Easel) (s : QueueState) : Prop :=
  (∃ book : Holdings, book.Matches s ∧ Accounts x.1 easel.stack book) ∧ easel.stack.Fares s x.2

private theorem kept_answer {x : Position SampledImage × Health}
    {c : FrameCall SampledImage Recording} (kept : Kept x easel s)
    (allowed : ((protocol SampledImage Recording).drawing.both
      (upkeep SampledImage Recording).drawing).permits x c) :
    (free orderly).Keeps (Easel.answer c easel) s fun out t =>
      ∃ y, ((protocol SampledImage Recording).drawing.both
        (upkeep SampledImage Recording).drawing).step x c out.1 y ∧ Kept y out.2 t := by
  obtain ⟨⟨book, matched, accounts⟩, fares⟩ := kept
  cases c with
  | draw frame binding => exact ⟨x, ⟨rfl, rfl⟩, ⟨book, matched, accounts⟩, fares⟩
  | graphics call =>
    rw [Easel.answer, keeps_bind]
    have shown := matches_of_custody (stackAnswer_accounts accounts allowed.1) matched
    apply (shown.and (stackAnswer_fares fares allowed.2)).mono
    rintro ⟨reply, stack⟩ t ⟨shown, fares⟩
    exact ⟨(x.1.next call reply, x.2.next call reply), ⟨rfl, rfl⟩, shown, fares⟩

private theorem kept_created {handles : NativeHandles} {settings : GraphicsSettings}
    (created : (Stack.create handles settings).run.Ends orderly {} (.ok stack) s)
    (clearColor : Color) :
    Kept (Renderer.position { clearColor }, .sound) { stack } s := by
  have empty : Holdings.Matches {} {} := fun o => by simp [Holdings.Exists]
  have stands : custody.Keeps (Stack.create handles settings).run {} _ :=
    custody_createStack holds_empty handles settings
  obtain ⟨book, matched, standing, stands⟩ := (matches_of_custody stands empty).ends created
  exact ⟨⟨book, matched, standing, stands⟩,
    (sound_createStack handles settings).ends_ok (C := free orderly) created⟩

/-- As long as a loop goes on, whatever an orderly driver lets fail, a frame can be drawn on its
stack and presented. -/
theorem presentable_of_proceed {handles : NativeHandles} {settings : GraphicsSettings}
    (created : (Stack.create handles settings).run.Ends orderly {} (.ok stack) s)
    (clearColor : Color) (turns : List LoopTurn) {r : Renderer SampledImage}
    (proceeded : ((LoopTurn.takeAll turns { clearColor }).interpret Easel.answer { stack }).Ends
      orderly s ((.proceed, r), easel) t) :
    r.Idle ∧ easel.stack.Presentable t := by
  have kept := (takeAll_keeps (ρ := Recording) (Renderer.tidy_new (τ := SampledImage) clearColor)
    ⟨rfl, rfl⟩ turns).interpret Kept (D := free orderly) (fun _ _ _ _ => kept_answer)
      (kept_created created clearColor)
  obtain ⟨x, ⟨⟨book, matched, accounts⟩, fares⟩, left⟩ := kept.ends proceeded
  obtain ⟨⟨stands, -⟩, idle, sound⟩ := left rfl
  rw [sound] at fares
  refine ⟨idle, presentable_of_sound matched ?_ accounts fares⟩
  rw [stands, Renderer.position_of_idle idle]

end PaintPresenter.Vulkan
