import PaintPresenter.Proofs.SingleFrame
import PaintPresenter.Proofs.SizeRequests

/-!
# A window without pixels

The size of a stack on a driver is that of its screen, and only a rebuild touches it. So a size
without pixels that a window asks for stays pending, and frames make no call to the stack, until
another size is asked for: `minimized_stands_still`.
-/

namespace PaintPresenter.Vulkan

open Contract

variable {γ : Type} {W : Program.World Driver γ} {stack after : Stack} {s t : γ}

/-- No call but a rebuild touches the size of the screen. -/
theorem answer_keeps_size {call : GraphicsCall SampledImage}
    (other : ∀ extent, call ≠ .rebuild extent) :
    (free W).Keeps (Stack.answer call stack) s fun out _ =>
      out.2.screen.extent = stack.screen.extent := by
  cases call with
  | rebuild extent => exact absurd rfl (other extent)
  | extent => rfl
  | binding texture => rfl
  | waitForPrevious =>
    rw [Stack.answer, keeps_run, Stack.waitForPrevious, keepsOp_bind, keepsOp_get, keepsOp_ofTask]
    exact keepsTask_free (fun _ _ => rfl) fun _ _ => rfl
  | acquire =>
    rw [Stack.answer, keeps_run, Stack.acquire, keepsOp_bind, keepsOp_get, Stack.onGate,
      keepsOp_onPart]
    exact keeps_free (by rintro ⟨_ | _, gate⟩ t <;> rfl)
  | beginPass image clear =>
    rw [Stack.answer, keeps_run, Stack.beginPass, keepsOp_bind, keepsOp_get]
    cases stack.screen.targets.framebuffer? image.toNat with
    | none => rfl
    | some framebuffer =>
      simp only [keepsOp_bind, keepsOp_ofTask, keepsOp_ofProgram, keepsOp_pure]
      refine keepsTask_free (fun _ _ => ?_) fun _ _ => trivial
      refine keepsTask_free (fun _ _ => ?_) fun _ _ => trivial
      exact keeps_free fun _ _ => trivial
  | endPass =>
    rw [Stack.answer, keeps_run, Stack.endPass]
    simp only [keepsOp_bind, keepsOp_get, keepsOp_ofProgram, keepsOp_ofTask]
    refine keeps_free fun _ _ => ?_
    exact keepsTask_free (fun _ _ => trivial) fun _ _ => trivial
  | present image =>
    rw [Stack.answer, keeps_run, Stack.present, keepsOp_bind, keepsOp_get, keepsOp_ofTask]
    exact keepsTask_free (fun _ _ => rfl) fun _ _ => rfl
  | createTexture pixels =>
    rw [Stack.answer, keeps_bind]
    exact keeps_free fun _ _ => rfl
  | updateTexture texture pixels =>
    rw [Stack.answer, keeps_bind]
    exact keeps_free fun _ _ => rfl
  | releaseTexture texture =>
    rw [Stack.answer, keeps_bind]
    exact keeps_free fun _ _ => rfl
  | waitIdle =>
    rw [Stack.answer, keeps_bind]
    exact keeps_free fun _ _ => rfl
  | tearDown =>
    rw [Stack.answer, keeps_stackTearDown]
    by_cases tornDown : stack.tornDown = true
    · rw [if_pos tornDown]
    rw [if_neg tornDown]
    refine keeps_free fun _ _ => keeps_free fun _ _ => keeps_free fun _ _ => ?_
    rw [keeps_screenDestroy, ← keeps_embed]
    exact keeps_free fun _ _ => keeps_free fun _ _ => keeps_free fun _ _ => rfl

/-- Whatever the driver does, a stack reports the size of its screen and keeps it between
rebuilds. -/
theorem stack_keepsSize (W : Program.World Driver γ) :
    ((free W).through Stack.answer).KeepsSize fun x => x.1.screen.extent := by
  rintro ⟨stack, s⟩ call reply ⟨after, t⟩ ends
  cases call with
  | rebuild extent => trivial
  | extent =>
    have same : (free W).Keeps (Stack.answer .extent stack) s fun out _ =>
      out = (stack.screen.extent, stack) := rfl
    obtain ⟨rfl, rfl⟩ := Prod.mk.inj (same.ends ends)
    exact ⟨rfl, rfl⟩
  | _ => exact (answer_keeps_size (by simp)).ends ends

/-! ## A window without pixels -/

/-- Whatever renderer and stack a size without pixels comes to, and whatever the driver lets fail:
as long as only sizes without pixels are asked for, other than the one in use, frames stand
still. -/
theorem minimized_stands_still {extent : Extent} {later : List Renderer.Request}
    (shrinks : ∀ request ∈ .requestSize extent :: later, request.Shrinks stack.screen.extent)
    {r q : Renderer SampledImage}
    (served : ((Renderer.serve (.requestSize extent :: later) r).interpret Stack.answer stack).Ends
      W s (((), q), after) t) : q.StandsStill Recording := by
  have kept : (free W).Keeps
      ((Renderer.serve (.requestSize extent :: later) r).interpret Stack.answer stack) s
      fun out _ => out.1.2.minimized = true := by
    have onAnswers := minimized_of_shrinks (r := r) (s := (stack, s)) (stack_keepsSize W) shrinks
    refine keeps_interpret.mpr (keeps_iff.mpr ⟨fun _ _ _ => keeps_free fun _ _ => trivial, ?_⟩)
    exact fun _ _ ends => onAnswers.ends ends
  exact Renderer.standsStill_of_minimized (kept.ends served)

/-- Requests to a new renderer on a new stack, on a driver that obliges: the stack, and the renderer
and everything else that the requests lead to. -/
def obligedRequests (requests : List Renderer.Request) :
    Option (Stack × Renderer SampledImage × Stack × QueueState) :=
  match obligedRun.result with
  | .ok (.ok stack) =>
    let served := ((Renderer.serve requests { clearColor := .black }).interpret Stack.answer
      stack).run QueueState.oblige obligedRun.state
    match served.result with
    | .ok (((), q), after) => some (stack, q, after, served.state)
    | .error _ => none
  | _ => none

private theorem of_obligedRequests {requests : List Renderer.Request} {q : Renderer SampledImage}
    {t : QueueState} (h : obligedRequests requests = some (stack, q, after, t)) :
    (Stack.create ⟨.ok .wayland, .ok .wayland⟩ {}).run.Ends queueWorld {} (.ok stack)
      obligedRun.state ∧
    ((Renderer.serve requests { clearColor := .black }).interpret Stack.answer stack).Ends
      queueWorld obligedRun.state (((), q), after) t := by
  unfold obligedRequests at h
  split at h
  · next _ created =>
    dsimp only at h
    split at h
    · next _ _ served =>
      obtain ⟨rfl, rfl, rfl, rfl⟩ := by simpa using h
      exact ⟨queueWorld_allows_oblige.ends created, queueWorld_allows_oblige.ends served⟩
    · exact absurd h (by simp)
  · exact absurd h (by simp)

/-- A window is minimized, goes on changing one dimension, and is drawn into all the time. -/
def minimizing : List Renderer.Request :=
  [.requestSize ⟨0, 0⟩, .beginFrame, .requestSize ⟨0, 8⟩, .beginFrame]

/-- A minimized window with a pending size stands still on a driver that grants everything. -/
theorem minimized_stands_still_obliged :
    ∃ (stack after : Stack) (q : Renderer SampledImage) (s t : QueueState),
      (∀ request ∈ minimizing, request.Shrinks stack.screen.extent) ∧
      ((Renderer.serve minimizing { clearColor := .black }).interpret Stack.answer stack).Ends
        queueWorld s (((), q), after) t ∧
      q.pendingSize = some ⟨0, 8⟩ ∧ q.StandsStill Recording := by
  have reached : (obligedRequests minimizing).map (fun x => (x.1.screen.extent, x.2.1.pendingSize))
      = some (⟨1280, 720⟩, some ⟨0, 8⟩) := by decide +kernel
  obtain ⟨⟨stack, q, after, t⟩, found, sizes⟩ := Option.map_eq_some_iff.mp reached
  obtain ⟨inUse, pending⟩ : stack.screen.extent = ⟨1280, 720⟩ ∧ q.pendingSize = some ⟨0, 8⟩ := by
    simpa using sizes
  have shrinks : ∀ request ∈ minimizing, request.Shrinks stack.screen.extent := by
    simp [minimizing, inUse, Renderer.Request.Shrinks, Extent.isEmpty]
  have served := (of_obligedRequests found).2
  exact ⟨stack, after, q, _, t, shrinks, served, pending, minimized_stands_still shrinks served⟩

/-- The window is minimized while a frame is recorded. -/
def minimizingMidFrame : List Renderer.Request := [.beginFrame, .requestSize ⟨0, 0⟩]

/-- Not every frame is skipped while sizes without pixels are asked for. -/
theorem exists_unskipped_while_minimized :
    ¬∀ (stack after : Stack) (s t : QueueState) (earlier later : List Renderer.Request)
      (extent : Extent) (q : Renderer SampledImage),
      (Stack.create ⟨.ok .wayland, .ok .wayland⟩ {}).run.Ends queueWorld {} (.ok stack) s →
      ((Renderer.serve (earlier ++ .requestSize extent :: later) { clearColor := .black }).interpret
        Stack.answer stack).Ends queueWorld s (((), q), after) t →
      extent.isEmpty = true → (∀ size, .requestSize size ∈ later → size.isEmpty = true) →
      (Renderer.beginFrame : Renderer.Task SampledImage Recording _).run q =
        .done (.ok .skipped, q) := by
  intro skips
  have reached : (obligedRequests minimizingMidFrame).map (·.2.1.active) = some (some 0) := by
    decide +kernel
  obtain ⟨⟨stack, q, after, t⟩, found, busy⟩ := Option.map_eq_some_iff.mp reached
  obtain ⟨created, served⟩ := of_obligedRequests found
  have skipped := skips stack after _ t [.beginFrame] [] ⟨0, 0⟩ q created served rfl (by simp)
  obtain ⟨violation, refused⟩ := Renderer.refuses_beginFrame (ρ := Recording) busy
  rw [refused] at skipped
  injection skipped with outcome
  exact nomatch congrArg Prod.fst outcome

end PaintPresenter.Vulkan
