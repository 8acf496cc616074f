import PaintPresenter.Proofs.Completion
import PaintPresenter.Proofs.FrameGrammar
import PaintPresenter.Proofs.LoopConduct
import PaintPresenter.Proofs.TextureAccount

/-!
# The end of a renderer

A renderer ends once, when its owner shuts it down or when it is dropped. `shutdown_once` states
what this comes to after anything that can be done with a renderer, over every stack: the first
time, the device is waited for, the texture released and the stack torn down, also when the wait
fails; after it, nothing reaches the stack any more but the question for its size.
-/

namespace PaintPresenter

variable {τ ρ γ : Type}

namespace Renderer

/-- What is done with a renderer. -/
inductive Use
  | ask (request : Request)
  /-- A turn of the frame loop. -/
  | drive
  /-- Its owner lets go of it. -/
  | drop

/-- The use is to end the renderer. -/
def Use.ends : Use → Bool
  | .ask .shutdown | .drop => true
  | _ => false

/-- Makes use of a renderer. -/
def use : Use → StateT (Renderer τ) (Program (FrameLoop τ ρ)) Unit
  | .ask request => fun r => FrameLoop.onGraphics (perform request r)
  | .drive => fun r => do
    let (_, r) ← driveFrame r
    return ((), r)
  | .drop => fun r => FrameLoop.onGraphics (close r)

/-- Makes use of a renderer time and again. -/
def useAll : List Use → StateT (Renderer τ) (Program (FrameLoop τ ρ)) Unit
  | [] => fun r => return ((), r)
  | first :: later => fun r => do
    let ((), r) ← use first r
    useAll later r

/-- Nothing is left of a renderer. -/
def Final (r : Renderer τ) : Prop :=
  r.closed = true ∧ r.active = none ∧ r.texture.current = none

/-- The exchanges that take a renderer down, latest first, when the wait for the device ended with
`idle`. -/
def TakenDown (r : Renderer τ) (idle : Except GraphicsError Unit)
    (own : List (Exchange (FrameLoop τ ρ) γ)) : Prop :=
  ∃ waited released tornDown, own = ⟨.graphics .tearDown, (), tornDown⟩ ::
    ((r.texture.texture?.map fun texture =>
      ⟨.graphics (.releaseTexture texture), (), released⟩).toList ++
        [⟨.graphics .waitIdle, idle, waited⟩])

end Renderer

namespace Contract

open Renderer

variable {r : Renderer τ}

/-! ## A renderer is open until it is ended -/

section Open

variable {W : Program.World (Graphics τ ρ) γ} {s : γ}

private theorem settleRebuild_open (open_ : r.closed = false) :
    (free W).KeepsOp settleRebuild r s (fun _ r' _ => r'.closed = false)
      fun _ r' _ => r'.closed = false := by
  rw [keepsOp_settleRebuild]
  cases r.pendingSize with
  | some extent => simp [free, open_]
  | none =>
    by_cases owed : r.rebuildOwed = true
    · simp [owed, free, open_]
    · simp [owed, open_]

private theorem beginFrame_open (open_ : r.closed = false) :
    (free W).KeepsOp beginFrame r s (fun _ r' _ => r'.closed = false)
      fun _ r' _ => r'.closed = false := by
  rw [keepsOp_beginFrame]
  by_cases busy : r.active.isSome = true
  · simp [open_, busy]
  by_cases minimized : r.minimized = true
  · simp [open_, busy, minimized]
  rw [if_neg (by simp [open_]), if_neg busy, if_neg minimized]
  apply (settleRebuild_open open_).mono
  · intro _ r' t open_
    simp [keepsOp_record, free, open_]
  · exact fun _ _ _ => id

private theorem endFrame_open (open_ : r.closed = false) :
    (free W).KeepsOp endFrame r s (fun _ r' _ => r'.closed = false)
      fun _ r' _ => r'.closed = false := by
  rw [keepsOp_endFrame]
  cases r.active with
  | none => exact open_
  | some image => simp [free, open_]

private theorem upload_open (open_ : r.closed = false) (pixels : PixelBuffer) :
    (free W).KeepsOp (upload pixels) r s (fun _ r' _ => r'.closed = false)
      fun _ r' _ => r'.closed = false := by
  rw [keepsOp_upload, if_neg (by simp [open_])]
  by_cases busy : r.active.isSome = true
  · rw [if_pos busy]
    exact open_
  · rw [if_neg busy]
    exact keepsOp_free (fun _ _ _ => open_) fun _ _ _ => open_

private theorem binding_same :
    (free W).Keeps (binding? r) s fun out _ => out.2 = r := by
  rw [keeps_renderer_binding]
  cases r.texture.current with
  | none => rfl
  | some current => exact ⟨trivial, fun _ _ _ => rfl⟩

private theorem perform_open (open_ : r.closed = false) {request : Request}
    (goesOn : (Use.ask request).ends = false) :
    (free W).Keeps (perform request r) s fun out _ => out.2.closed = false := by
  cases request with
  | requestSize extent =>
    rw [perform, keeps_requestSize]
    exact ⟨trivial, fun _ _ _ => open_⟩
  | beginFrame => exact keeps_ignoring.mpr (beginFrame_open open_)
  | endFrame => exact keeps_ignoring.mpr (endFrame_open open_)
  | upload pixels => exact keeps_ignoring.mpr (upload_open open_ pixels)
  | uploadPaint frame =>
    rw [perform, keeps_ignoring, uploadPaint, keepsOp_bind, keepsOp_ofResult]
    cases frame.pixels with
    | ok pixels => exact upload_open open_ pixels
    | error e => exact open_
  | setClearColor color => exact open_
  | binding =>
    rw [perform, keeps_bind]
    apply binding_same.mono
    rintro ⟨_, _⟩ _ rfl
    exact open_
  | shutdown => exact absurd goesOn.symm Bool.false_ne_true

end Open

variable {W : Program.World (FrameLoop τ ρ) γ} {s : γ}

private theorem driveFrame_open (open_ : r.closed = false) :
    (free W).Keeps (driveFrame r) s fun out _ => out.2.closed = false := by
  rw [keeps_driveFrame]
  apply (beginFrame_open open_).mono
  · intro status r' t open_
    cases status with
    | skipped => exact open_
    | ready frame =>
      apply binding_same.mono
      rintro ⟨binding, _⟩ u rfl
      exact ⟨trivial, fun v _ => endFrame_open open_⟩
  · exact fun _ _ _ => id

private theorem use_open (open_ : r.closed = false) {kind : Use} (goesOn : kind.ends = false) :
    (free W).Keeps (use kind r) s fun out _ => out.2.closed = false := by
  cases kind with
  | ask request => exact keeps_onGraphics.mpr (perform_open open_ goesOn)
  | drive =>
    rw [use, keeps_bind]
    exact driveFrame_open open_
  | drop => exact absurd goesOn.symm Bool.false_ne_true

/-! ## How it ends -/

private theorem shutdown_final (open_ : r.closed = false) :
    (free W).onStack.KeepsOp shutdown r s (fun _ r' _ => r'.Final) fun _ r' _ => r'.Final := by
  rw [keepsOp_shutdown, if_neg (by simp [open_])]
  simp only [keeps_clear]
  cases r.texture.current with
  | none => simp [free, Final]
  | some current => simp [free, Final]

private theorem use_ends (open_ : r.closed = false) {kind : Use} (last : kind.ends = true) :
    (free W).Keeps (use kind r) s fun out _ => out.2.Final := by
  cases kind with
  | ask request =>
    rw [use, keeps_onGraphics]
    cases request with
    | shutdown => exact keeps_ignoring.mpr (shutdown_final open_)
    | _ => exact absurd last Bool.false_ne_true
  | drive => exact absurd last Bool.false_ne_true
  | drop =>
    rw [use, keeps_onGraphics, keeps_close]
    exact shutdown_final open_

-- The first shutdown: what it makes of the stack, and that it hands on what the wait ended with.
private theorem shutdown_takesDown (open_ : r.closed = false) :
    (free W.recorded).onStack.KeepsOp shutdown r (s, [])
      (fun _ _ x => r.TakenDown (.ok ()) x.2) fun e _ x => r.TakenDown (.error e) x.2 := by
  rw [keepsOp_shutdown, if_neg (by simp [open_])]
  simp only [keeps_clear, TakenDown, HeldTexture.texture?]
  cases r.texture.current with
  | none =>
    simp only [keepsTask_waitIdle, keeps_tearDown, free, onStack, Program.World.recorded]
    exact ⟨trivial, fun t waited => ⟨trivial, fun u tornDown =>
        ⟨t.1, t.1, u.1, by rw [tornDown.2, waited.2]; rfl⟩⟩,
      fun e t waited => ⟨trivial, fun u tornDown =>
        ⟨t.1, t.1, u.1, by rw [tornDown.2, waited.2]; rfl⟩⟩⟩
  | some current => simp [free, Program.World.recorded]

/-! ## After the end -/

private def sizeOnly (W : Program.World (FrameLoop τ ρ) γ) : Contract (FrameLoop τ ρ) γ where
  toWorld := W
  permits _ call := call = .graphics .extent

private theorem perform_after_end (final : r.Final) (request : Request) :
    (sizeOnly W).onStack.Keeps (perform request r) s fun out _ => out.2.Final := by
  have upload_after (pixels : PixelBuffer) :
      (sizeOnly W).onStack.KeepsOp (upload pixels) r s (fun _ r' _ => r'.Final)
        fun _ r' _ => r'.Final := by
    rw [keepsOp_upload, if_pos final.1]
    exact final
  cases request with
  | requestSize extent =>
    rw [perform, keeps_requestSize]
    exact ⟨rfl, fun _ _ _ => final⟩
  | beginFrame =>
    rw [perform, keeps_ignoring, keepsOp_beginFrame, if_pos final.1]
    exact final
  | endFrame =>
    rw [perform, keeps_ignoring, keepsOp_endFrame, final.2.1]
    exact final
  | upload pixels => exact keeps_ignoring.mpr (upload_after pixels)
  | uploadPaint frame =>
    rw [perform, keeps_ignoring, uploadPaint, keepsOp_bind, keepsOp_ofResult]
    cases frame.pixels with
    | ok pixels => exact upload_after pixels
    | error e => exact final
  | setClearColor color => exact final
  | binding =>
    rw [perform, keeps_bind, keeps_renderer_binding, final.2.2]
    exact final
  | shutdown =>
    rw [perform, keeps_ignoring, keepsOp_shutdown, if_pos final.1]
    exact final

private theorem use_after_end (final : r.Final) (kind : Use) :
    (sizeOnly W).Keeps (use kind r) s fun out _ => out.2.Final := by
  cases kind with
  | ask request => exact keeps_onGraphics.mpr (perform_after_end final request)
  | drive =>
    rw [use, keeps_bind, keeps_driveFrame, keepsOp_beginFrame, if_pos final.1]
    exact final
  | drop =>
    rw [use, keeps_onGraphics, keeps_close, keepsOp_shutdown, if_pos final.1]
    exact final

private theorem useAll_after_end (final : r.Final) (uses : List Use) :
    (sizeOnly W).Keeps (useAll uses r) s fun out _ => out.2.Final := by
  induction uses generalizing r s with
  | nil => exact final
  | cons first later ih =>
    rw [useAll, keeps_bind]
    exact (use_after_end final first).mono fun _ _ final => ih final

-- Uses leave a renderer open until one of them is to end it, which is final.
private theorem useAll_keeps (open_ : r.closed = false) (uses : List Use) :
    (free W).Keeps (useAll uses r) s fun out _ =>
      if uses.any Use.ends then out.2.Final else out.2.closed = false := by
  induction uses generalizing r s with
  | nil => exact open_
  | cons first later ih =>
    rw [useAll, keeps_bind, List.any_cons]
    cases last : first.ends with
    | true =>
      apply (use_ends open_ last).mono
      intro out t final
      exact keeps_iff.mpr ⟨fun _ _ _ => trivial,
        fun _ _ ends => (useAll_after_end (W := W) final later).ends ends⟩
    | false => exact (use_open open_ last).mono fun _ _ open_ => ih open_

end Contract

/-! ## The first shutdown ends -/

namespace Renderer

private theorem completes_clear {held : HeldTexture τ} :
    (HeldTexture.clear held : Program (Graphics τ ρ) _).Completes (fun _ => True)
      fun _ _ => True := by
  unfold HeldTexture.clear
  cases held.current with
  | none => trivial
  | some current => exact ⟨trivial, fun _ _ => trivial⟩

private theorem completes_shutdown :
    (shutdown : Task τ ρ Unit).Completes (fun _ => True) fun _ _ => True := by
  unfold shutdown
  refine Stateful.Completes.bind Stateful.completes_get fun r => ?_
  by_cases closed : r.closed = true
  · rw [if_pos closed]
    exact Stateful.completes_pure _
  rw [if_neg closed]
  have rest (idle : Except GraphicsError Unit) : (do
      onTexture (.ofAction HeldTexture.clear)
      .ofProgram Graphics.tearDown
      let frames := (← get).presented
      Stateful.log .info s!"renderer shut down after {frames} frames"
      .ofResult idle : Task τ ρ Unit).Completes (fun _ => True) fun _ _ => True :=
    ((Stateful.completes_ofAction fun _ => completes_clear).onPart _ _).bind fun _ =>
      (Stateful.completes_ofProgram (Program.completes_ask trivial)).bind fun _ =>
        Stateful.completes_get.bind fun _ => (Stateful.completes_log _ _).bind fun _ _ => trivial
  refine (Stateful.completes_modify _).bind fun _ =>
    (Stateful.completes_ofTask (Program.completes_ask trivial)).attempt.bind fun idle => ?_
  cases idle with
  | ok _ => exact rest _
  | error e => exact (Stateful.completes_log _ _).bind fun _ => rest _

private theorem completes_close (r : Renderer τ) :
    (close r : Program (Graphics τ ρ) _).Completes (fun _ => True) fun _ _ => True := by
  unfold close
  apply (completes_shutdown r).bind
  rintro ⟨_ | _, r⟩
  · trivial
  · trivial

private theorem surely_onGraphics {α : Type} {W : Program.World (FrameLoop τ ρ) γ}
    {p : Program (Graphics τ ρ) α} {s : γ} {post : α → γ → Prop}
    (completes : p.Completes (fun _ => True) fun _ _ => True)
    (kept : (Contract.free W).onStack.Keeps p s post) :
    (FrameLoop.onGraphics p).Surely W s post := by
  have completes : (FrameLoop.onGraphics p).Completes (fun _ => True) fun _ _ => True :=
    completes.embed fun _ _ => Program.completes_ask trivial
  exact completes.surely (fun _ _ _ _ _ => trivial) (Contract.keeps_onGraphics.mpr kept)

/-! ## Refusals -/

variable {r : Renderer τ}

private theorem refuses_beginFrame_of_closed (closed : r.closed = true) :
    Refuses (beginFrame : Task τ ρ _) r := by
  unfold Refuses beginFrame
  rw [run_get_bind, closed]
  exact ⟨_, rfl⟩

private theorem refuses_upload_of_closed (closed : r.closed = true) (pixels : PixelBuffer) :
    Refuses (upload pixels : Task τ ρ _) r := by
  unfold Refuses upload
  rw [run_get_bind, closed]
  exact ⟨_, rfl⟩

private theorem shutdown_of_closed (closed : r.closed = true) :
    (shutdown : Task τ ρ _).run r = .done (.ok (), r) := by
  unfold shutdown
  rw [run_get_bind, closed]
  rfl

private theorem binding_of_none (empty : r.texture.current = none) :
    (binding? r : Program (Graphics τ ρ) _) = .done (none, r) := by
  unfold binding? HeldTexture.texture?
  rw [empty]
  rfl

end Renderer

open Renderer in
/-- A renderer ends once and for good. After any uses, over any stack: as long as none of them was
to end it, a shutdown waits for the device, releases the texture and tears the stack down, and hands
on what the wait ended with, and so does dropping it. From then on, whatever else is done with it,
frames and uploads are refused, another shutdown succeeds, there is no texture to sample, and
nothing but its size is asked of the stack. -/
theorem shutdown_once {W : Program.World (FrameLoop τ ρ) γ} {s t : γ} (clearColor : Color)
    (uses : List Use) {r : Renderer τ}
    (used : (useAll uses { clearColor }).Ends W s ((), r) t) :
    ((∀ kind ∈ uses, kind.ends = false) →
      ((FrameLoop.onGraphics (shutdown.run r)).Surely W.recorded (t, [])
        fun out x => r.TakenDown out.1 x.2) ∧
      (FrameLoop.onGraphics (close r)).Surely W.recorded (t, [])
        fun _ x => ∃ idle, r.TakenDown idle x.2) ∧
    ((∃ kind ∈ uses, kind.ends = true) →
      Refuses (beginFrame : Task τ ρ _) r ∧
      Refuses (endFrame : Task τ ρ _) r ∧
      (∀ pixels, Refuses (upload pixels : Task τ ρ _) r) ∧
      (shutdown : Task τ ρ _).run r = .done (.ok (), r) ∧
      (binding? r : Program (Graphics τ ρ) _) = .done (none, r) ∧
      ∀ later call u, (useAll later r).Makes W t call u → call = .graphics .extent) := by
  have left := (Contract.useAll_keeps (W := W) (r := { clearColor }) rfl uses).ends used
  constructor
  · intro goesOn
    have open_ : r.closed = false := by
      rwa [if_neg] at left
      rw [List.any_eq_true]
      rintro ⟨kind, mem, last⟩
      exact absurd last (by simp [goesOn kind mem])
    have takesDown := Contract.shutdown_takesDown (W := W) (s := t) open_
    constructor
    · apply surely_onGraphics (completes_shutdown r)
      exact Contract.keeps_run.mpr takesDown
    · apply surely_onGraphics (completes_close r)
      exact Contract.keeps_close.mpr (takesDown.mono (fun _ _ _ down => ⟨_, down⟩)
        fun _ _ _ down => ⟨_, down⟩)
  · intro ended
    rw [if_pos (List.any_eq_true.mpr ended)] at left
    have final : r.Final := left
    obtain ⟨closed, inactive, empty⟩ := left
    refine ⟨refuses_beginFrame_of_closed closed, refuses_endFrame inactive,
      refuses_upload_of_closed closed, shutdown_of_closed closed, binding_of_none empty, ?_⟩
    intro later call u makes
    exact (Contract.useAll_after_end (W := W) final later).permits makes

/-- A renderer that holds a texture and is in the middle of a frame. -/
def midFrame : Renderer Nat :=
  { clearColor := .black, texture := ⟨some (7, ⟨1, 1⟩)⟩, active := some 0 }

/-- What is left of it. -/
def afterMidFrame : Renderer Nat := { clearColor := .black, texture := ⟨none⟩, closed := true }

/-- A shutdown whose wait fails. -/
def failedShutdown : List (Exchange (FrameLoop Nat Unit) Unit) :=
  [⟨.graphics .tearDown, (), ()⟩, ⟨.graphics (.releaseTexture 7), (), ()⟩,
    ⟨.graphics .waitIdle, .error .timeout, ()⟩]

private theorem ends_midFrame :
    (Renderer.useAll [.ask (.upload onePixel), .ask .beginFrame] { clearColor := .black }).Ends
      (anyStack Nat Unit).drawing () ((), midFrame) () := by
  refine .call (.ok 7) () trivial ?_
  refine .call (.ok ()) () trivial ?_
  refine .call (.ok ⟨0, false⟩) () trivial ?_
  refine .call (.ok ()) () trivial ?_
  refine .call ⟨4, 4⟩ () trivial ?_
  exact .done

private theorem ends_afterMidFrame :
    (Renderer.useAll [.ask (.upload onePixel), .ask .beginFrame, .drop]
      { clearColor := .black }).Ends (anyStack Nat Unit).drawing () ((), afterMidFrame) () := by
  refine .call (.ok 7) () trivial ?_
  refine .call (.ok ()) () trivial ?_
  refine .call (.ok ⟨0, false⟩) () trivial ?_
  refine .call (.ok ()) () trivial ?_
  refine .call ⟨4, 4⟩ () trivial ?_
  refine .call (.error .timeout) () trivial ?_
  refine .note (.call () () trivial (.call () () trivial (.note (.note .done))))

/-- A renderer that is dropped in the middle of a frame, and whose wait fails, is taken down all
the same and only ever asked for its size again. -/
theorem shutdown_once_midFrame :
    midFrame.TakenDown (.error .timeout) failedShutdown ∧
      Renderer.Refuses (Renderer.beginFrame : Renderer.Task Nat Unit _) afterMidFrame ∧
      ∀ later call, (Renderer.useAll later afterMidFrame).Makes (anyStack Nat Unit).drawing ()
        call () → call = .graphics .extent := by
  have first := (shutdown_once .black _ ends_midFrame).1 (by decide)
  have final := (shutdown_once .black _ ends_afterMidFrame).2 ⟨.drop, by simp, rfl⟩
  refine ⟨?_, final.1, fun later call => final.2.2.2.2.2 later call ()⟩
  exact first.1 (.error .timeout) ((), failedShutdown.drop 2) ⟨trivial, rfl⟩ ()
    ((), failedShutdown.drop 1) ⟨trivial, rfl⟩ () ((), failedShutdown) ⟨trivial, rfl⟩

end PaintPresenter
