import PaintPresenter.Proofs.Furnishing
import PaintPresenter.Proofs.LoopConduct
import PaintPresenter.Proofs.Protocol

/-!
# Health of a stack

A stack is sound while all its parts are there and its fence is signaled or about to be. A wait
that succeeds spends the fence; a submission, a failed acquire and a rebuild make it sound again.
An error from which a loop may go on leaves the stack sound, wherever it comes from: so a turn of
the frame loop that goes on ends with a sound stack.
-/

namespace PaintPresenter

/-- How a stack fares. -/
inductive Health
  /-- A frame may begin. -/
  | sound
  /-- The fence is spent, and a frame under way. -/
  | spent
  /-- Nothing is known. -/
  | broken
  deriving DecidableEq

namespace Health

variable {τ ρ : Type}

/-- What an error leaves. -/
def after (e : GraphicsError) : Health := if e.isRecoverable then .sound else .broken

/-- The calls that a stack is fit for. -/
def Allows : Health → GraphicsCall τ → Prop
  | _, .extent | _, .binding _ => True
  | h, .waitForPrevious | h, .rebuild _ | h, .waitIdle => h = .sound
  | h, .createTexture _ | h, .updateTexture _ _ | h, .releaseTexture _ => h = .sound
  | h, .acquire | h, .beginPass _ _ | h, .endPass | h, .present _ => h = .spent
  | _, .tearDown => False

/-- What a call and its reply leave. -/
def next (h : Health) : (call : GraphicsCall τ) → call.Reply ρ → Health
  | .waitForPrevious, .ok () => .spent
  | .present _, .ok _ => .sound
  | .waitForPrevious, .error e | .acquire, .error e | .beginPass _ _, .error e
  | .endPass, .error e | .present _, .error e | .rebuild _, .error e => after e
  | _, _ => h

/-- An error after which the loop goes on leaves the stack sound. -/
theorem after_of_proceed {e : GraphicsError} (goesOn : LoopControl.after e = .proceed) :
    after e = .sound := by
  unfold LoopControl.after at goesOn
  unfold after
  cases recoverable : e.isRecoverable with
  | true => rfl
  | false => simp [recoverable] at goesOn

end Health

/-- The care of a stack as a contract. -/
def upkeep (τ ρ : Type) : Contract (Graphics τ ρ) Health where
  step h call reply h' := h' = h.next call reply
  permits := Health.Allows

end PaintPresenter

namespace PaintPresenter.Vulkan

open Contract QueueState

variable {s t : QueueState} {stack : Stack} {h : Health}

/-- A stack with all its parts. -/
structure Stack.Whole (stack : Stack) : Prop where
  gate : stack.gate.Whole
  screen : stack.screen.Whole

/-- A stack fares at least this well. -/
def Stack.Fares (stack : Stack) (s : QueueState) : Health → Prop
  | .sound => stack.Whole ∧ s.WillSignal stack.gate.inFlight
  | .spent => stack.Whole
  | .broken => True

private theorem fares_of_grave {e : GraphicsError} (grave : Grave e) :
    stack.Fares s (.after e) := by
  unfold Grave at grave
  simp [Health.after, grave, Stack.Fares]

/-! ## Operations of the stack -/

private theorem upkeep_waitForPrevious (whole : stack.Whole)
    (armed : s.WillSignal stack.gate.inFlight) :
    (free orderly).KeepsTask (stack.gate.waitForPrevious stack.timeoutNs) s (fun _ _ => True)
      fun e t => stack.Fares t (.after e) := by
  rw [FrameGate.waitForPrevious, keepsTask_bind]
  refine (keepsTask_perform _).mpr ⟨trivial, fun t step => ?_, fun result t step => ?_⟩
  · exact (keepsTask_perform _).mpr ⟨trivial, fun _ _ => trivial,
      fun _ _ step => fares_of_grave (step.1.grave rfl id (fun _ => id) _)⟩
  · have armed : t.WillSignal stack.gate.inFlight := willSignal_step step trivial armed
    unfold Health.after
    split
    · exact ⟨whole, armed⟩
    · trivial

private theorem upkeep_acquire {gate : FrameGate} (whole : gate.Whole)
    (swapchain : Handle .swapchain) (timeoutNs : Nat) :
    (free orderly).KeepsOp (FrameGate.acquire swapchain timeoutNs) gate s
      (fun _ after _ => after = gate)
      fun e after t => Grave e ∨ after.Whole ∧ t.WillSignal after.inFlight := by
  rw [FrameGate.acquire, keepsOp_bind, keepsOp_get, keepsOp_bind, keepsOp_ofProgram, keeps_ask]
  refine ⟨trivial, fun reply t _ => ?_⟩
  cases reply with
  | ok image => rfl
  | error result =>
    simp only [keepsOp_bind, keepsOp_onDriver, keepsOp_replaceFence, keepsOp_throw]
    refine (Contract.keepsTask_create _).mpr ⟨trivial, fun fresh u step => ?_, fun _ _ step =>
      .inl (step.1.grave rfl id (fun _ => id) _)⟩
    have armed := willSignal_made step
    have releases : (free orderly).Releases (fun _ => True) (·.WillSignal fresh) :=
      fun _ _ _ armed => ⟨trivial, fun _ step => willSignal_step step trivial armed⟩
    apply (releases.unlessNull _ trivial armed).mono
    intro _ v armed
    exact .inr ⟨⟨whole.1, whole.2, furnishes_orderly.real step⟩, armed⟩

private theorem grave_perform {operation : Operation}
    (waits : ¬(DriverCall.perform operation).Waits) :
    (free orderly).KeepsTask (Driver.perform operation) s (fun _ _ => True) fun e _ => Grave e :=
  (keepsTask_perform _).mpr ⟨trivial, fun _ _ => trivial,
    fun _ _ step => step.1.grave rfl waits (fun _ => id) _⟩

private theorem upkeep_beginPass (image : UInt32) (clear : Color) :
    (free orderly).KeepsOp (Stack.beginPass image clear) stack s (fun _ after _ => after = stack)
      fun e _ _ => Grave e := by
  rw [Stack.beginPass, keepsOp_bind, keepsOp_get]
  cases stack.screen.targets.framebuffer? image.toNat with
  | none => exact rfl
  | some framebuffer =>
    simp only [keepsOp_bind, keepsOp_ofTask, keepsOp_ofProgram, keepsOp_pure]
    refine (grave_perform id).mono (fun _ t _ => ?_) fun _ _ => id
    refine (grave_perform id).mono (fun _ u _ => ?_) fun _ _ => id
    exact keeps_free fun _ _ => trivial

private theorem upkeep_endPass :
    (free orderly).KeepsOp Stack.endPass stack s (fun _ after _ => after = stack)
      fun e _ _ => Grave e := by
  rw [Stack.endPass, keepsOp_bind, keepsOp_get]
  simp only [keepsOp_bind, keepsOp_ofProgram, keepsOp_ofTask]
  refine (keeps_record ..).mpr ⟨trivial, fun t _ => ?_⟩
  exact (grave_perform id).mono (fun _ _ _ => trivial) fun _ _ => id

-- What was submitted will signal the fence, whatever becomes of the image.
private theorem upkeep_submitAndPresent (gate : FrameGate) (queue : Handle .queue)
    (commands : Handle .commandBuffer) (swapchain : Handle .swapchain) (image : UInt32) :
    (free orderly).KeepsTask (gate.submitAndPresent queue commands swapchain image) s
      (fun _ t => t.WillSignal gate.inFlight) fun e _ => Grave e := by
  rw [FrameGate.submitAndPresent, keepsTask_bind]
  refine (keepsTask_perform _).mpr ⟨trivial, fun t step => ?_, fun _ _ step =>
    step.1.grave rfl id (fun _ => id) _⟩
  have armed := willSignal_submitted step
  rw [keepsTask_bind, keepsTask_lift, keeps_ask]
  refine ⟨trivial, fun reply u step => ?_⟩
  have armed := willSignal_step step trivial armed
  cases reply with
  | ok suboptimal => exact armed
  | error result =>
    by_cases late : result = .outOfDate
    · simpa [late] using armed
    · have grave : Grave (.ofResult "vkQueuePresentKHR" result) :=
        step.1.grave rfl id (fun stale => absurd stale late) _
      simpa [late] using grave

/-! ## Every call -/

private theorem sound_of_harmless {α : Type} {p : Program Driver α} {uploads : Bool}
    (kept : (harmless .null uploads).Keeps p () fun _ _ => True) (fares : stack.Fares s .sound) :
    (free orderly).Keeps p s fun _ t => stack.Fares t .sound :=
  (willSignal_of_harmless kept fares.2).mono fun _ _ armed => ⟨fares.1, armed⟩

/-- Whatever call a stack is fit for, it fares afterwards as the reply says. -/
theorem stackAnswer_fares {call : GraphicsCall SampledImage} (fares : stack.Fares s h)
    (fit : h.Allows call) :
    (free orderly).Keeps (Stack.answer call stack) s fun out t =>
      out.2.Fares t (h.next call out.1) := by
  cases call with
  | extent => exact fares
  | waitForPrevious =>
    obtain rfl := fit
    rw [Stack.answer, keeps_run, Stack.waitForPrevious, keepsOp_bind, keepsOp_get, keepsOp_ofTask]
    exact (upkeep_waitForPrevious fares.1 fares.2).mono (fun _ _ _ => fares.1) fun _ _ => id
  | acquire =>
    obtain rfl := fit
    rw [Stack.answer, keeps_run, Stack.acquire, keepsOp_bind, keepsOp_get, Stack.onGate,
      keepsOp_onPart]
    refine (upkeep_acquire fares.gate _ _).mono ?_ fun e gate t failed => ?_
    · rintro image gate t rfl
      exact fares
    · obtain grave | ⟨whole, armed⟩ := failed
      · exact fares_of_grave grave
      · change Stack.Fares _ t (.after e)
        unfold Health.after
        split
        · exact ⟨⟨whole, fares.screen⟩, armed⟩
        · trivial
  | beginPass image clear =>
    obtain rfl := fit
    rw [Stack.answer, keeps_run]
    refine (upkeep_beginPass image clear).mono ?_ fun _ _ _ => fares_of_grave
    rintro _ _ t rfl
    exact fares
  | endPass =>
    obtain rfl := fit
    rw [Stack.answer, keeps_run]
    refine upkeep_endPass.mono ?_ fun _ _ _ => fares_of_grave
    rintro _ _ t rfl
    exact fares
  | present image =>
    obtain rfl := fit
    rw [Stack.answer, keeps_run, Stack.present, keepsOp_bind, keepsOp_get, keepsOp_ofTask]
    exact (upkeep_submitAndPresent ..).mono (fun _ _ armed => ⟨fares, armed⟩)
      fun _ _ => fares_of_grave
  | rebuild extent =>
    obtain rfl := fit
    rw [Stack.answer, keeps_run]
    refine (furnishes_orderly.rebuild (n := 0) trivial willSignal_made extent stack).mono
      (fun _ after t rebuilt => ?_) fun _ _ _ => fares_of_grave
    exact ⟨⟨rebuilt.2.1, rebuilt.1⟩, rebuilt.2.2.1⟩
  | createTexture pixels =>
    obtain rfl := fit
    rw [Stack.answer, keeps_bind]
    exact sound_of_harmless (keepsTask_run.mpr (harmless_createTexture ..)) fares
  | updateTexture texture pixels =>
    obtain rfl := fit
    rw [Stack.answer, keeps_bind]
    exact sound_of_harmless (keepsTask_run.mpr (harmless_updateTexture ..)) fares
  | releaseTexture texture =>
    obtain rfl := fit
    rw [Stack.answer, keeps_bind]
    exact sound_of_harmless (harmless_releaseTexture texture) fares
  | binding texture => exact fares
  | waitIdle =>
    obtain rfl := fit
    rw [Stack.answer, keeps_bind]
    have idle : (harmless .null false).Keeps Driver.deviceIdle.run () fun _ _ => True :=
      keepsTask_run.mpr <| (keepsTask_perform _).mpr
        ⟨trivial, fun _ _ => trivial, fun _ _ _ => trivial⟩
    exact sound_of_harmless idle fares
  | tearDown => exact fit.elim

/-! ## A new stack -/

private theorem sound_buildOn (rig : Rig) (settings : GraphicsSettings) :
    (free orderly).KeepsTask (Stack.buildOn rig settings) s
      (fun stack t => stack.Fares t .sound) fun _ _ => True := by
  have failed {p : Program Driver Unit} {t : QueueState} :
      (free orderly).Keeps p t fun _ _ => True := keeps_free fun _ _ => trivial
  unfold Stack.buildOn
  rw [keepsTask_bind, keepsTask_screenCreate]
  refine (furnishes_orderly.fillOrDestroyScreen (n := 0) trivial _ _).mono
    (fun _ screen t filled => ?_) fun _ _ _ _ => trivial
  rw [keepsTask_undoing, keepsTask_bind, keepsTask_createOnDriver]
  refine (furnishes_orderly.fillOrDestroyGate (n := 0) trivial willSignal_made {}).mono
    (fun _ gate t made => ?_) fun _ _ _ _ => failed
  obtain ⟨whole, armed, -⟩ := made
  rw [keepsTask_undoing, keepsTask_bind, createSampler]
  simp only [keepsTask_bind, keepsTask_driverLog, keepsTask_pure]
  refine (Contract.keepsTask_create _).mpr ⟨trivial, fun sampler t step => ?_, fun _ _ _ =>
    keeps_free fun _ _ => failed⟩
  have armed := willSignal_step step trivial armed
  rw [keepsTask_undoing, keepsTask_bind]
  refine (Contract.keepsTask_create _).mpr ⟨trivial, fun commands t step => ?_, fun _ _ _ =>
    keeps_free fun _ _ => keeps_free fun _ _ => failed⟩
  exact ⟨⟨whole, filled.1⟩, willSignal_step step trivial armed⟩

/-- A new stack is sound. -/
theorem sound_createStack (handles : NativeHandles) (settings : GraphicsSettings) :
    (free orderly).KeepsTask (Stack.create handles settings) s
      (fun stack t => stack.Fares t .sound) fun _ _ => True := by
  rw [keepsTask_stackCreate]
  cases handles.display with
  | error fault => trivial
  | ok display =>
    cases handles.window with
    | error fault => trivial
    | ok window =>
      have rig : (free orderly).KeepsTask (Rig.create display window settings) s
          (fun _ _ => True) fun _ _ => True := keeps_free (by rintro (_ | _) _ <;> trivial)
      refine rig.mono (fun rig t _ => ?_) fun _ _ => id
      exact (sound_buildOn rig settings).mono (fun _ _ => id)
        fun _ _ _ => keeps_free fun _ _ => trivial

end PaintPresenter.Vulkan
