import PaintPresenter.Proofs.Faultless
import PaintPresenter.Proofs.LoopTurns

/-!
# A loop that goes on can present

As long as no turn of the frame loop says that the loop is over, a frame can be drawn on the stack
and presented: whatever failed before, one turn in which every call to the driver succeeds draws
once and presents once. The turn may have a rebuild to make first; no fault is in its way.
-/

namespace PaintPresenter.Vulkan

open Contract

/-- A stack and the drawings made on it, the last one first. -/
structure Sketchbook where
  stack : Stack
  drawings : List (Drawing Recording) := []

namespace Sketchbook

/-- The reply to a call of the frame loop; every drawing is kept. -/
def answer :
    (call : FrameCall SampledImage Recording) → StateT Sketchbook (Program Driver) call.Reply
  | .graphics call => fun book => do
    let (reply, stack) ← Stack.answer call book.stack
    return (reply, { book with stack })
  | .draw frame binding => fun book =>
    return ((), { book with drawings := ⟨frame, binding⟩ :: book.drawings })

/-- What an easel keeps of a sketchbook. -/
def easel (book : Sketchbook) : Easel := ⟨book.stack, book.drawings.head?⟩

/-- An easel answers as a sketchbook does; it only forgets older drawings. -/
theorem interpret_easel {α : Type} (p : Program (FrameLoop SampledImage Recording) α)
    (book : Sketchbook) :
    p.interpret Easel.answer book.easel =
      Prod.map id easel <$> p.interpret answer book := by
  induction p generalizing book with
  | done a => rfl
  | abort fault => rfl
  | note r p ih => exact congrArg (Program.note r) (ih book)
  | call c k ih =>
    cases c with
    | draw frame binding => exact ih () { book with drawings := ⟨frame, binding⟩ :: book.drawings }
    | graphics call =>
      simp only [Program.interpret, Easel.answer, answer, bind_assoc, pure_bind, map_bind]
      exact bind_congr fun out => ih out.1 { book with stack := out.2 }

end Sketchbook

/-! ## A smooth driver -/

variable {s : Fortune} {tally : Tally} {book : Sketchbook} {stack : Stack}

-- A tally agrees with a stack, with what was drawn on it, and with what the driver presented.
private structure Suits (tally : Tally) (book : Sketchbook) (s : Fortune) : Prop where
  framebuffers : book.stack.screen.targets.framebuffers.length = tally.images
  images : s.images = tally.images
  drawings : book.drawings.length = tally.drawings
  presents : s.presents = tally.presents

private theorem smooth_perform (operation : Operation) :
    (free smooth).KeepsTask (Driver.perform operation) s (fun _ t => t = s) fun _ _ => False :=
  (keepsTask_perform _).mpr ⟨trivial, fun _ step => step.2.2.2,
    fun result _ step => absurd step.1 (Option.some_ne_none result)⟩

private theorem smooth_record (buffer : Handle .commandBuffer) (command : Command) :
    (free smooth).Keeps (Driver.record buffer command) s fun _ t => t = s :=
  (keeps_record ..).mpr ⟨trivial, fun _ step => step.2.2.2⟩

private theorem smooth_waitForPrevious :
    (free smooth).KeepsOp Stack.waitForPrevious stack s (fun _ after t => after = stack ∧ t = s)
      fun _ _ _ => False := by
  rw [Stack.waitForPrevious, keepsOp_bind, keepsOp_get, keepsOp_ofTask, FrameGate.waitForPrevious,
    keepsTask_bind]
  refine (smooth_perform _).mono (fun _ t same => ?_) fun _ _ => id
  rw [same]
  exact (smooth_perform _).mono (fun _ u same => ⟨rfl, same⟩) fun _ _ => id

private theorem smooth_acquire :
    (free smooth).KeepsOp Stack.acquire stack s
      (fun image after t => image.index.toNat < s.images ∧ after = stack ∧ t = s)
      fun _ _ _ => False := by
  rw [Stack.acquire, keepsOp_bind, keepsOp_get, Stack.onGate, keepsOp_onPart, FrameGate.acquire,
    keepsOp_bind, keepsOp_get, keepsOp_bind, keepsOp_ofProgram, keeps_ask]
  refine ⟨trivial, fun reply t step => ?_⟩
  cases reply with
  | ok image => exact ⟨step.2.2.1, rfl, step.2.2.2⟩
  | error result => exact absurd step.1 (Option.some_ne_none result)

private theorem smooth_beginPass {image : UInt32} (clear : Color)
    (there : image.toNat < stack.screen.targets.framebuffers.length) :
    (free smooth).KeepsOp (Stack.beginPass image clear) stack s
      (fun _ after t => after = stack ∧ t = s) fun _ _ _ => False := by
  rw [Stack.beginPass, keepsOp_bind, keepsOp_get, TargetSet.framebuffer?,
    List.getElem?_eq_getElem there]
  simp only [keepsOp_bind, keepsOp_ofTask, keepsOp_ofProgram, keepsOp_pure]
  refine (smooth_perform _).mono (fun _ t same => ?_) fun _ _ => id
  refine (smooth_perform _).mono (fun _ u same' => ?_) fun _ _ => id
  rw [same', same]
  exact (smooth_record ..).mono fun _ _ same => ⟨trivial, same⟩

private theorem smooth_endPass :
    (free smooth).KeepsOp Stack.endPass stack s (fun _ after t => after = stack ∧ t = s)
      fun _ _ _ => False := by
  rw [Stack.endPass, keepsOp_bind, keepsOp_get]
  simp only [keepsOp_bind, keepsOp_ofProgram, keepsOp_ofTask]
  apply (smooth_record ..).mono
  rintro _ t rfl
  exact (smooth_perform _).mono (fun _ _ same => ⟨trivial, same⟩) fun _ _ => id

private theorem smooth_present (image : UInt32) :
    (free smooth).KeepsOp (Stack.present image) stack s
      (fun outcome after t => outcome ≠ .outOfDate ∧ after = stack ∧
        t = { s with presents := s.presents + 1 })
      fun _ _ _ => False := by
  rw [Stack.present, keepsOp_bind, keepsOp_get, keepsOp_ofTask, FrameGate.submitAndPresent,
    keepsTask_bind]
  refine (smooth_perform _).mono (fun _ t same => ?_) fun _ _ => id
  rw [same, keepsTask_bind, keepsTask_lift, keeps_ask]
  refine ⟨trivial, fun reply u step => ?_⟩
  cases reply with
  | error result => exact absurd step.1 (Option.some_ne_none result)
  | ok suboptimal =>
    refine ⟨?_, rfl, step.2.2.2⟩
    cases suboptimal with
    | true => exact PresentOutcome.noConfusion
    | false => exact PresentOutcome.noConfusion

private theorem suits_answer {c : FrameCall SampledImage Recording} (suits : Suits tally book s)
    (allowed : tally.Allows c) :
    (free smooth).Keeps (Sketchbook.answer c book) s fun out t =>
      ∃ tally', tally.Step c out.1 tally' ∧ Suits tally' out.2 t := by
  obtain ⟨inTurn, there⟩ := allowed
  cases c with
  | draw frame binding =>
    exact ⟨_, rfl, suits.framebuffers, suits.images, congrArg (· + 1) suits.drawings,
      suits.presents⟩
  | graphics call =>
    rw [Sketchbook.answer, keeps_bind]
    cases call with
    | extent | binding texture => exact ⟨tally, rfl, suits⟩
    | waitForPrevious =>
      rw [Stack.answer, keeps_run]
      refine smooth_waitForPrevious.mono ?_ fun _ _ _ => False.elim
      rintro _ _ _ ⟨rfl, rfl⟩
      exact ⟨tally, rfl, suits⟩
    | acquire =>
      rw [Stack.answer, keeps_run]
      refine smooth_acquire.mono ?_ fun _ _ _ => False.elim
      rintro image _ _ ⟨taken, rfl, rfl⟩
      exact ⟨tally, ⟨suits.images ▸ taken, rfl⟩, suits⟩
    | beginPass image clear =>
      rw [Stack.answer, keeps_run]
      refine (smooth_beginPass clear (suits.framebuffers ▸ there image clear rfl)).mono ?_
        fun _ _ _ => False.elim
      rintro _ _ _ ⟨rfl, rfl⟩
      exact ⟨tally, rfl, suits⟩
    | endPass =>
      rw [Stack.answer, keeps_run]
      refine smooth_endPass.mono ?_ fun _ _ _ => False.elim
      rintro _ _ _ ⟨rfl, rfl⟩
      exact ⟨tally, rfl, suits⟩
    | present image =>
      rw [Stack.answer, keeps_run]
      refine (smooth_present image).mono ?_ fun _ _ _ => False.elim
      rintro outcome _ _ ⟨fits, rfl, rfl⟩
      exact ⟨_, ⟨fits, rfl⟩, suits.framebuffers, suits.images, suits.drawings,
        congrArg (· + 1) suits.presents⟩
    | rebuild extent =>
      rw [Stack.answer, keeps_run]
      -- Nothing need be known of the new fence: on a smooth driver no wait fails.
      have ready {s made t} : smooth.step s (.create (.fence true)) (.ok made) t → True :=
        fun _ => trivial
      refine ((furnishes_smooth s.presents).rebuild (n := s.images) rfl ready extent
        book.stack).mono ?_ fun _ _ _ => False.elim
      rintro _ after _ ⟨whole, -, -, rfl⟩
      exact ⟨_, ⟨after.screen.images.length, rfl⟩, whole.targets.framebuffers, rfl, suits.drawings,
        suits.presents⟩
    | createTexture _ | updateTexture _ _ | releaseTexture _ | waitIdle | tearDown =>
      exact inTurn.elim

private theorem driveFrame_smooth {r : Renderer SampledImage} (idle : r.Idle)
    (shown : r.minimized = false)
    (framebuffers : stack.screen.targets.framebuffers.length = stack.screen.images.length) :
    ((driveFrame r).interpret Sketchbook.answer { stack }).Surely smooth
      { images := stack.screen.images.length } fun ((control, after), book) t =>
        control = .proceed ∧ book.drawings.length = 1 ∧ t.presents = 1 ∧
          after.presented = r.presented + 1 := by
  have answered (c : FrameCall SampledImage Recording) (book : Sketchbook) (inTurn : c.InTurn) :
      (Sketchbook.answer c book).Completes (fun _ => True) DriverCall.Sensible := by
    cases c with
    | draw frame binding => trivial
    | graphics call => exact (stackAnswer_completes book.stack inTurn).bind fun _ => trivial
  have suits : Suits { images := stack.screen.images.length } { stack }
      { images := stack.screen.images.length } := ⟨framebuffers, rfl, rfl, rfl⟩
  have kept := (driveFrame_fortunate (ρ := Recording) idle shown).interpret Suits
    (D := free smooth) (fun _ _ _ _ => suits_answer) suits
  refine ((driveFrame_completes r).interpret answered { stack }).surely
    (fun _ _ _ _ step => step.2.1) (kept.mono ?_)
  rintro ⟨⟨control, after⟩, book⟩ t ⟨tally, suits, proceeds, counted, drawn, presented⟩
  exact ⟨proceeds, suits.drawings.trans drawn, suits.presents.trans presented, counted⟩

/-- However many turns a loop has taken and whatever an orderly driver let fail in them: if none of
them ended the loop, all that a frame uses is live, its fence is signaled or will be, and no frame
is under way. So unless the window has no pixels, a turn on which the driver lets everything succeed
draws once, presents, and counts the frame. -/
theorem recovers_of_proceed {handles : NativeHandles} {settings : GraphicsSettings}
    {stack : Stack} {easel : Easel} {s t : QueueState}
    (created : (Stack.create handles settings).run.Ends orderly {} (.ok stack) s)
    (clearColor : Color) (turns : List LoopTurn) {r : Renderer SampledImage}
    (proceeded : ((LoopTurn.takeAll turns { clearColor }).interpret Easel.answer { stack }).Ends
      orderly s ((.proceed, r), easel) t) :
    easel.stack.Presentable t ∧ r.active = none ∧ (r.minimized = false →
      ((driveFrame r).interpret Sketchbook.answer { stack := easel.stack }).Surely smooth
        { images := easel.stack.screen.images.length } fun ((control, after), book) u =>
          control = .proceed ∧ book.drawings.length = 1 ∧ u.presents = 1 ∧
            after.presented = r.presented + 1) := by
  obtain ⟨idle, presentable⟩ := presentable_of_proceed created clearColor turns proceeded
  exact ⟨presentable, idle.2, fun shown =>
    driveFrame_smooth idle shown presentable.covers.framebuffers⟩

/-! ## A turn that times out -/

/-- Obliges, but lets every acquire time out until an object has a number beyond `last`. -/
def QueueState.delay (last : Nat) :
    (c : DriverCall) → QueueState → Except Fault c.Reply × QueueState
  | .acquire swapchain timeoutNs semaphore, s =>
    if s.fresh ≤ last + 1 then (.ok (.error .timeout), s)
    else s.oblige (.acquire swapchain timeoutNs semaphore)
  | c, s => s.oblige c

private theorem queueWorld_allows_delay (last : Nat) :
    queueWorld.Allows (QueueState.delay last) := by
  intro c s reply answered
  cases c with
  | acquire swapchain timeoutNs semaphore =>
    rw [QueueState.delay] at answered ⊢
    by_cases early : s.fresh ≤ last + 1
    · rw [if_pos early] at answered ⊢
      obtain rfl := Except.ok.inj answered
      exact ⟨s, s, .refl, rfl, .refl⟩
    · rw [if_neg early] at answered ⊢
      exact queueWorld_allows_oblige _ _ _ answered
  | _ => exact queueWorld_allows_oblige _ _ _ answered

/-- The driver that delays the first acquire on a new stack. -/
abbrev delaying : (c : DriverCall) → QueueState → Except Fault c.Reply × QueueState :=
  QueueState.inOrder (QueueState.delay 14)

/-- A stack made on such a driver. -/
def delayedRun : Program.Run QueueState (Except GraphicsError Stack) :=
  (Stack.create ⟨.ok .wayland, .ok .wayland⟩ {}).run.run delaying {}

/-- A turn on the stack. -/
def delayedTurn (stack : Stack) :
    Program.Run QueueState ((LoopControl × Renderer SampledImage) × Easel) :=
  ((LoopTurn.takeAll [.drive] { clearColor := .black }).interpret Easel.answer { stack }).run
    delaying delayedRun.state

/-- The stack, and how the turn ends on it. -/
def delayedEnd? : Option (Stack × (LoopControl × Renderer SampledImage) × Easel) :=
  match delayedRun.result with
  | .ok (.ok stack) =>
    match (delayedTurn stack).result with
    | .ok out => some (stack, out)
    | .error _ => none
  | _ => none

private theorem of_delayedEnd {stack : Stack}
    {out : (LoopControl × Renderer SampledImage) × Easel} (h : delayedEnd? = some (stack, out)) :
    delayedRun.result = .ok (.ok stack) ∧ (delayedTurn stack).result = .ok out := by
  unfold delayedEnd? at h
  split at h
  · next _ created =>
    split at h
    · next _ ended =>
      obtain ⟨rfl, rfl⟩ := by simpa using h
      exact ⟨created, ended⟩
    · exact absurd h (by simp)
  · exact absurd h (by simp)

/-- After an acquire that timed out, and with a new fence, the first frame is shown. -/
theorem recovers_after_timeout :
    ∃ (stack : Stack) (r : Renderer SampledImage) (easel : Easel),
      easel.stack.gate.inFlight ≠ stack.gate.inFlight ∧ r.presented = 0 ∧
        easel.stack.Presentable (delayedTurn stack).state ∧
        ((driveFrame r).interpret Sketchbook.answer { stack := easel.stack }).Surely smooth
          { images := easel.stack.screen.images.length } fun ((control, after), book) u =>
            control = .proceed ∧ book.drawings.length = 1 ∧ u.presents = 1 ∧
              after.presented = 1 := by
  have reached : delayedEnd?.map (fun (stack, (control, r), easel) =>
      (stack.gate.inFlight, easel.stack.gate.inFlight, control, r.presented, r.minimized)) =
        some (⟨12⟩, ⟨15⟩, .proceed, 0, false) := by decide +kernel
  obtain ⟨⟨stack, ⟨control, r⟩, easel⟩, found, outcome⟩ := Option.map_eq_some_iff.mp reached
  obtain ⟨first, second, rfl, counted, shown⟩ := by simpa using outcome
  obtain ⟨created, ended⟩ := of_delayedEnd found
  have allows := orderly_allows (queueWorld_allows_delay 14)
  obtain ⟨presentable, -, recovers⟩ := recovers_of_proceed (allows.ends created) .black [.drive]
    (allows.ends ended)
  refine ⟨stack, r, easel, ?_, counted, presentable, ?_⟩
  · rw [first, second]
    decide
  · simpa [counted] using recovers shown

end PaintPresenter.Vulkan
