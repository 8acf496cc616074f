import PaintPresenter.Proofs.LoopConduct
import PaintPresenter.Simulation.Rehearsal

/-!
# A stack in memory whose calls may fail

The stack in memory says what its textures hold, so that what an upload leaves can be read off it.
Here every call to it may fail by an injected error before it changes anything. An upload then
ends in one of three ways: the texture holds the new pixels; or an injected error came before the
texture was touched; or one came after the texture was released and before there was a new one.
-/

namespace PaintPresenter

open Simulation

/-! ## Textures in memory -/

namespace Simulation.Rehearsal

variable {stack after : Rehearsal}

/-- The texture that the call names exists. -/
def Knows (stack : Rehearsal) : GraphicsCall Nat → Prop
  | .updateTexture id _ | .releaseTexture id | .binding id => (stack.texture? id).isSome
  | _ => True

/-- Where the texture is known, only a wait can find a promise broken. -/
theorem fault_of_knows {call : GraphicsCall Nat} (knows : stack.Knows call) {fault : Fault}
    (failed : (stack.answer call).1 = .error fault) : fault = .deadlock := by
  cases call with
  | waitForPrevious =>
    simp only [answer] at failed
    split at failed
    · exact absurd failed (by simp)
    · exact (Except.error.inj failed).symm
  | updateTexture id pixels =>
    obtain ⟨stored, found⟩ := Option.isSome_iff_exists.mp knows
    simp only [answer, update, found] at failed
    split at failed
    · exact absurd failed (by simp)
    · exact absurd failed (by simp)
  | releaseTexture id =>
    obtain ⟨stored, found⟩ := Option.isSome_iff_exists.mp knows
    simp [answer, release, found] at failed
  | binding id =>
    obtain ⟨stored, found⟩ := Option.isSome_iff_exists.mp knows
    simp [answer, binding, found] at failed
  | _ => simp [answer] at failed

private theorem textures_of_spares {call : GraphicsCall Nat} {reply : call.Reply Nat}
    (spares : call.Spares) (answered : stack.answer call = (.ok reply, after)) :
    after.textures = stack.textures := by
  obtain rfl : (stack.answer call).2 = after := congrArg Prod.snd answered
  cases call with
  | createTexture pixels => exact spares.elim
  | updateTexture id pixels => exact spares.elim
  | releaseTexture id => exact spares.elim
  | binding id => exact spares.elim
  | waitForPrevious =>
    simp only [answer]
    split
    · rfl
    · rfl
  | acquire =>
    simp only [answer, acquire]
    split
    · rfl
    · rfl
  | tearDown =>
    simp only [answer]
    split
    · rfl
    · rfl
  | _ => rfl

private theorem texture?_of_create {pixels : PixelBuffer} {reply : Except GraphicsError Nat}
    (answered : stack.answer (.createTexture pixels) = (.ok reply, after)) :
    ∃ id, reply = .ok id ∧ after.texture? id = some ⟨pixels.extent, pixels.rgba⟩ := by
  obtain ⟨replied, rfl⟩ := Prod.mk.inj answered
  exact ⟨stack.nextTexture, (Except.ok.inj replied).symm, by simp [texture?, write]⟩

private theorem lookup_overwritten {id : Nat} {old new : StoredTexture}
    {textures : List (Nat × StoredTexture)} (found : textures.lookup id = some old) :
    (textures.map fun entry => if entry.1 = id then (id, new) else entry).lookup id =
      some new := by
  induction textures with
  | nil => exact absurd found (by simp)
  | cons entry later ih =>
    obtain ⟨number, stored⟩ := entry
    by_cases here : number = id
    · simp [here]
    · have elsewhere : (id == number) = false := by simpa using Ne.symm here
      rw [List.lookup_cons, elsewhere] at found
      simpa [here, List.lookup_cons, elsewhere] using ih found

/-- An update that answers has stored the pixels. -/
theorem texture?_of_update {id : Nat} {pixels : PixelBuffer} {old : StoredTexture}
    {reply : Except GraphicsError Unit} (found : stack.texture? id = some old)
    (same : old.extent = pixels.extent)
    (answered : stack.answer (.updateTexture id pixels) = (.ok reply, after)) :
    reply = .ok () ∧ after.texture? id = some ⟨pixels.extent, pixels.rgba⟩ := by
  simp only [answer, update, found, same, if_true] at answered
  obtain ⟨replied, rfl⟩ := Prod.mk.inj answered
  exact ⟨(Except.ok.inj replied).symm, lookup_overwritten found⟩

private theorem extent_of_binding {id : Nat} {stored : StoredTexture} {binding : TextureBinding}
    (found : stack.texture? id = some stored)
    (answered : stack.answer (.binding id) = (.ok binding, after)) :
    binding.extent = stored.extent ∧ after = stack := by
  simp only [answer, Rehearsal.binding, found, Prod.mk.injEq, Except.ok.injEq] at answered
  obtain ⟨rfl, rfl⟩ := answered
  exact ⟨rfl, rfl⟩

end Simulation.Rehearsal

/-! ## Injected errors -/

/-- A stack in memory and the errors that were injected into it, latest first. -/
structure RiggedStack where
  stack : Rehearsal := {}
  injected : List GraphicsError := []

/-- Every call reaches the stack, or fails by an injected error. What the next acquires and presents
report may be told to the stack before any call. -/
def rigged : Program.World (Graphics Nat Nat) RiggedStack where
  step s call reply t :=
    (∃ acquireErrors presentOutcomes,
      { s.stack with acquireErrors, presentOutcomes }.answer call = (.ok reply, t.stack) ∧
        t.injected = s.injected) ∨
    ∃ e, failureReply? e call = some reply ∧ t = { s with injected := e :: s.injected }

namespace RiggedStack

variable {s t : RiggedStack}

private theorem step_cases {call : GraphicsCall Nat} {reply : call.Reply Nat}
    (step : rigged.step s call reply t) :
    (∃ stack : Rehearsal, stack.textures = s.stack.textures ∧
      stack.answer call = (.ok reply, t.stack) ∧ t.injected = s.injected) ∨
    ∃ e, failureReply? e call = some reply ∧ t = { s with injected := e :: s.injected } := by
  obtain ⟨errors, outcomes, answered, kept⟩ | failed := step
  · let told := { s.stack with acquireErrors := errors, presentOutcomes := outcomes }
    exact .inl ⟨told, rfl, answered, kept⟩
  · exact .inr failed

/-- Calls that spare textures leave them as they are. -/
theorem textures_of_spares {call : GraphicsCall Nat} {reply : call.Reply Nat}
    (spares : call.Spares) (step : rigged.step s call reply t) :
    t.stack.textures = s.stack.textures := by
  obtain ⟨stack, same, answered, -⟩ | ⟨e, -, rfl⟩ := step_cases step
  · rw [← same]
    exact Rehearsal.textures_of_spares spares answered
  · rfl

private theorem created {pixels : PixelBuffer} {id : Nat}
    (step : rigged.step s (.createTexture pixels) (.ok id) t) :
    t.injected = s.injected ∧ t.stack.texture? id = some ⟨pixels.extent, pixels.rgba⟩ := by
  obtain ⟨stack, -, answered, kept⟩ | ⟨e, failed, -⟩ := step_cases step
  · obtain ⟨_, replied, stored⟩ := Rehearsal.texture?_of_create answered
    obtain rfl := Except.ok.inj replied
    exact ⟨kept, stored⟩
  · simp [failureReply?] at failed

private theorem notCreated {pixels : PixelBuffer} {e : GraphicsError}
    (step : rigged.step s (.createTexture pixels) (.error e) t) :
    t = { s with injected := e :: s.injected } := by
  obtain ⟨stack, -, answered, -⟩ | ⟨e', failed, after⟩ := step_cases step
  · obtain ⟨_, replied, -⟩ := Rehearsal.texture?_of_create answered
    exact absurd replied (by simp)
  · simp only [failureReply?, Option.some.injEq, Except.error.injEq] at failed
    rwa [failed] at after

private theorem updated {id : Nat} {pixels : PixelBuffer} {old : StoredTexture}
    (found : s.stack.texture? id = some old) (same : old.extent = pixels.extent)
    (step : rigged.step s (.updateTexture id pixels) (.ok ()) t) :
    t.injected = s.injected ∧ t.stack.texture? id = some ⟨pixels.extent, pixels.rgba⟩ := by
  obtain ⟨stack, textures, answered, kept⟩ | ⟨e, failed, -⟩ := step_cases step
  · rw [Rehearsal.texture?, ← textures] at found
    exact ⟨kept, (Rehearsal.texture?_of_update found same answered).2⟩
  · simp [failureReply?] at failed

private theorem notUpdated {id : Nat} {pixels : PixelBuffer} {old : StoredTexture}
    {e : GraphicsError} (found : s.stack.texture? id = some old) (same : old.extent = pixels.extent)
    (step : rigged.step s (.updateTexture id pixels) (.error e) t) :
    t = { s with injected := e :: s.injected } := by
  obtain ⟨stack, textures, answered, -⟩ | ⟨e', failed, after⟩ := step_cases step
  · rw [Rehearsal.texture?, ← textures] at found
    exact absurd (Rehearsal.texture?_of_update found same answered).1 (by simp)
  · simp only [failureReply?, Option.some.injEq, Except.error.injEq] at failed
    rwa [failed] at after

private theorem waited (step : rigged.step s .waitIdle (.ok ()) t) : t.injected = s.injected := by
  obtain ⟨stack, -, -, kept⟩ | ⟨e, failed, -⟩ := step_cases step
  · exact kept
  · simp [failureReply?] at failed

private theorem notWaited {e : GraphicsError} (step : rigged.step s .waitIdle (.error e) t) :
    t = { s with injected := e :: s.injected } := by
  obtain ⟨stack, -, answered, -⟩ | ⟨e', failed, after⟩ := step_cases step
  · exact absurd (Prod.mk.inj answered).1 (by simp)
  · simp only [failureReply?, Option.some.injEq, Except.error.injEq] at failed
    rwa [failed] at after

private theorem released {id : Nat} (step : rigged.step s (.releaseTexture id) () t) :
    t.injected = s.injected := by
  obtain ⟨stack, -, -, kept⟩ | ⟨e, failed, -⟩ := step_cases step
  · exact kept
  · simp [failureReply?] at failed

/-- A binding has the size of its texture and changes none. -/
theorem bound {id : Nat} {stored : StoredTexture} {binding : TextureBinding}
    (found : s.stack.texture? id = some stored) (step : rigged.step s (.binding id) binding t) :
    binding.extent = stored.extent ∧ t.stack.textures = s.stack.textures := by
  obtain ⟨stack, textures, answered, -⟩ | ⟨e, failed, -⟩ := step_cases step
  · rw [Rehearsal.texture?, ← textures] at found
    obtain ⟨extent, after⟩ := Rehearsal.extent_of_binding found answered
    exact ⟨extent, after ▸ textures⟩
  · simp [failureReply?] at failed

end RiggedStack

/-! ## Uploads -/

/-- The texture was released, and creating another one failed. -/
def losesTexture : List (Exchange (Graphics Nat Nat) RiggedStack) → Bool
  | ⟨.createTexture _, .error _, _⟩ :: ⟨.releaseTexture _, _, _⟩ :: _ => true
  | _ => false

/-- The texture that is held exists and has the size that is written down. -/
def HeldTexture.Exists (held : HeldTexture Nat) (stack : Rehearsal) : Prop :=
  ∀ id size, held.current = some (id, size) →
    ∃ stored, stack.texture? id = some stored ∧ stored.extent = size

/-- An upload leaves the pixels in the texture, or the texture as it was, or none; and every error
that it returns was injected. -/
theorem Contract.upload_rigged {held : HeldTexture Nat} {s : RiggedStack}
    (exists_ : held.Exists s.stack) (pixels : PixelBuffer) :
    (watched rigged fun s _ => s.stack.Knows).KeepsOp (HeldTexture.upload pixels) held (s, [])
      (fun _ after t => ∃ id, after.current = some (id, pixels.extent) ∧
        t.1.stack.texture? id = some ⟨pixels.extent, pixels.rgba⟩)
      fun e after t => t.1.injected = e :: s.injected ∧
        (losesTexture t.2 = true ∧ after.current = none ∨
          losesTexture t.2 = false ∧ after = held ∧ t.1.stack.textures = s.stack.textures) := by
  rw [keepsOp_heldUpload]
  obtain ⟨_ | ⟨id, size⟩⟩ := held
  · simp only [keepsTask_createTexture, watched_permits, Prod.forall, watched_step, and_imp,
      forall_eq]
    refine ⟨trivial, fun id t step => ⟨id, rfl, (RiggedStack.created step).2⟩, fun e t step => ?_⟩
    obtain rfl := RiggedStack.notCreated step
    exact ⟨rfl, .inr ⟨rfl, trivial, rfl⟩⟩
  · obtain ⟨old, found, size_⟩ := exists_ id size rfl
    have known : (s.stack.texture? id).isSome := Option.isSome_iff_exists.mpr ⟨old, found⟩
    by_cases same : size = pixels.extent
    · subst same
      simp only [if_true, keepsTask_updateTexture, watched_permits, Prod.forall, watched_step,
        and_imp, forall_eq]
      refine ⟨known, fun t step => ?_, fun e t step => ?_⟩
      · exact ⟨id, rfl, (RiggedStack.updated found size_ step).2⟩
      · obtain rfl := RiggedStack.notUpdated found size_ step
        exact ⟨rfl, .inr ⟨rfl, trivial, rfl⟩⟩
    · simp only [if_neg same, keepsTask_waitIdle, keeps_releaseTexture, keepsTask_createTexture,
        watched_permits, Prod.forall, watched_step, and_imp, forall_eq]
      refine ⟨trivial, fun t idle => ?_, fun e t step => ?_⟩
      · have spares : GraphicsCall.Spares (τ := Nat) .waitIdle := trivial
        have textures := RiggedStack.textures_of_spares spares idle
        refine ⟨by rwa [Rehearsal.Knows, Rehearsal.texture?, textures], fun u release => ?_⟩
        refine ⟨trivial, fun new v step => ⟨new, rfl, (RiggedStack.created step).2⟩, ?_⟩
        intro e v step
        obtain rfl := RiggedStack.notCreated step
        have injected := (RiggedStack.released release).trans (RiggedStack.waited idle)
        exact ⟨congrArg (e :: ·) injected, .inl ⟨rfl, trivial⟩⟩
      · obtain rfl := RiggedStack.notWaited step
        exact ⟨rfl, .inr ⟨rfl, trivial, rfl⟩⟩

end PaintPresenter
