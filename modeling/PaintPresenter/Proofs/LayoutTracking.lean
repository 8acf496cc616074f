import PaintPresenter.Proofs.LayoutUploads
import PaintPresenter.Proofs.Protocol
import PaintPresenter.Proofs.Queue
import PaintPresenter.Proofs.TextureAccount

/-!
# The layout of the texture

Between two requests the texture of a renderer is in the layout that it is sampled in and every copy
is done, whatever was uploaded and drawn before and whatever failed: uploads keep this at every step
(`Sampleable`), and frames change no layout. So each layout change starts from the layout that its
image is in, each frame finds the texture as its binding says, and no upload asks for a change that
there is not.
-/

namespace PaintPresenter

namespace Vulkan

open Contract

variable {Known : LayoutState → Prop} {sampled : Option (Handle .image × ImageLayout)}
  {frames : Option (Handle .commandBuffer)} {bound : Option (Handle .image)}
  {commands : Handle .commandBuffer} {list : List Command} {events : List QueueEvent}
  {s t : LayoutState} {stack : Stack}

/-! ## Frames -/

private theorem orderly_of_passes (passes : ∀ command ∈ list, command.IsPass)
    (copied : ∀ image : Handle .image, image.DoneCopying events) :
    Orderly events list ∧ ∀ image : Handle .image, image.DoneCopying (extendBy events list) ∧
      image.layout? (extendBy events list) = image.layout? events := by
  induction list generalizing events with
  | nil => exact ⟨trivial, fun image => ⟨copied image, rfl⟩⟩
  | cons command later ih =>
    obtain ⟨pass, rest⟩ := List.forall_mem_cons.mp passes
    have step : extendBy events (command :: later) =
        extendBy (.command command :: events) later := by
      simp [extendBy]
    rw [step]
    cases command with
    | barrier change => exact pass.elim
    | copy region => exact pass.elim
    | beginPass begun =>
      obtain ⟨orderly, kept⟩ : Orderly (.command (.beginPass begun) :: events) later ∧ _ :=
        ih rest copied
      exact ⟨⟨copied, orderly⟩, kept⟩
    | endPass =>
      obtain ⟨orderly, kept⟩ : Orderly (.command .endPass :: events) later ∧ _ := ih rest copied
      exact ⟨⟨trivial, orderly⟩, kept⟩

private theorem Sampleable.rerecord (h : Sampleable (some commands) bound s)
    (passes : ∀ command ∈ list, command.IsPass) :
    Sampleable (some commands) bound (s.rerecord commands list) where
  copied := h.copied
  framed own frame := by
    obtain rfl := Option.some.inj frame
    refine ⟨(h.framed commands rfl).1, ?_⟩
    change ∀ command ∈ Function.update s.recorded commands list commands, _
    rwa [Function.update_self]
  shown := h.shown

private theorem Sampleable.record (h : Sampleable (some commands) bound s) (command : Command)
    (pass : command.IsPass) :
    (tracked sampled).Keeps (Driver.record commands command) s fun _ t =>
      Sampleable (some commands) bound t := by
  rw [keeps_record]
  refine ⟨trivial, fun t step => ?_⟩
  obtain rfl : t = _ := step
  refine h.rerecord fun other mem => ?_
  obtain mem | mem := List.mem_append.mp mem
  · exact (h.framed commands rfl).2 other mem
  · exact List.mem_singleton.mp mem ▸ pass

private theorem Sampleable.restart (h : Sampleable (some commands) bound s)
    {operation : Operation}
    (starts : operation = .resetCommands commands ∨ operation = .beginCommands commands) :
    (tracked sampled).KeepsTask (Driver.perform operation) s
      (fun _ t => Sampleable (some commands) bound t)
      fun _ t => Sampleable (some commands) bound t := by
  rw [keepsTask_perform]
  obtain rfl | rfl := starts
  all_goals
    refine ⟨trivial, fun t step => ?_, fun e t step => ?_⟩
    · obtain rfl : t = _ := step
      exact h.rerecord nofun
    · obtain rfl : t = s := step
      exact h

private theorem Sampleable.beginPass (h : Sampleable (some stack.commands) bound s)
    (image : UInt32) (clear : Color) :
    (tracked sampled).KeepsOp (Stack.beginPass image clear) stack s
      (fun _ after t => after = stack ∧ Sampleable (some stack.commands) bound t)
      fun _ after t => after = stack ∧ Sampleable (some stack.commands) bound t := by
  unfold Stack.beginPass
  rw [keepsOp_bind, keepsOp_get]
  cases stack.screen.targets.framebuffer? image.toNat with
  | none => exact ⟨rfl, h⟩
  | some framebuffer =>
    simp only [keepsOp_bind, keepsOp_ofTask, keepsOp_ofProgram, keepsOp_pure]
    refine (h.restart (.inl rfl)).mono (fun _ t h => ?_) fun _ _ h => ⟨trivial, h⟩
    refine (h.restart (.inr rfl)).mono (fun _ t h => ?_) fun _ _ h => ⟨trivial, h⟩
    exact (h.record (.beginPass _) trivial).mono fun _ _ h => ⟨trivial, h⟩

private theorem Sampleable.endPass (h : Sampleable (some stack.commands) bound s) :
    (tracked sampled).KeepsOp Stack.endPass stack s
      (fun _ after t => after = stack ∧ Sampleable (some stack.commands) bound t)
      fun _ after t => after = stack ∧ Sampleable (some stack.commands) bound t := by
  unfold Stack.endPass
  simp only [keepsOp_bind, keepsOp_get, keepsOp_ofProgram, keepsOp_ofTask]
  refine (h.record .endPass trivial).mono fun _ t h => ?_
  exact (sampleable_lasts.perform h (.endCommands stack.commands) trivial).mono
    (fun _ _ h => ⟨trivial, h⟩) fun _ _ failed => ⟨trivial, failed.1⟩

private theorem Sampleable.present (h : Sampleable (some commands) bound s)
    (asked : ∀ image layout, sampled = some (image, layout) →
      bound = some image ∧ layout = .shaderReadOnly)
    (queue : Handle .queue) (swapchain : Handle .swapchain) (image : UInt32) (gate : FrameGate) :
    (tracked sampled).KeepsTask (gate.submitAndPresent queue commands swapchain image) s
      (fun _ t => Sampleable (some commands) bound t)
      fun _ t => Sampleable (some commands) bound t := by
  have handed (work : Submission) (own : work.commands = [commands]) :
      s.commandsOf work = s.recorded commands := by
    simp [LayoutState.commandsOf, own]
  obtain ⟨orderly, kept⟩ := orderly_of_passes (h.framed commands rfl).2 h.copied
  unfold FrameGate.submitAndPresent
  rw [keepsTask_bind, keepsTask_perform]
  refine ⟨⟨?_, ?_⟩, fun t step => ?_, fun e t step => ?_⟩
  · rwa [handed _ rfl]
  · intro image layout demanded
    obtain ⟨own, rfl⟩ := asked image layout demanded
    exact (h.shown image own).2
  · obtain rfl : t = _ := step
    have later : Sampleable (some commands) bound
        { s with events := extendBy s.events (s.recorded commands) } :=
      ⟨fun image => (kept image).1, h.framed, fun image own =>
        ⟨(h.shown image own).1, (kept image).2.trans (h.shown image own).2⟩⟩
    rw [handed _ rfl, keepsTask_bind, keepsTask_lift]
    obtain ⟨permits, stays⟩ := sampleable_lasts.call
      (c := .present queue gate.renderFinished swapchain image) later trivial
    refine ⟨permits, fun reply u step => ?_⟩
    have known := stays reply u step
    cases reply with
    | ok suboptimal => exact known
    | error result => by_cases late : result = .outOfDate <;> simpa [late] using known
  · obtain rfl : t = s := step
    exact h

/-! ## The gate and the screen -/

private theorem Lasts.waitForPrevious (lasts : Lasts Known) (h : Known s) (timeoutNs : Nat)
    (gate : FrameGate) :
    (tracked sampled).KeepsTask (gate.waitForPrevious timeoutNs) s (fun _ t => Known t)
      fun _ t => Known t := by
  unfold FrameGate.waitForPrevious
  rw [keepsTask_bind]
  refine (lasts.perform h (.waitForFence ..) trivial).mono (fun _ t h => ?_) fun _ _ h => h.1
  exact (lasts.perform h (.resetFence ..) trivial).mono (fun _ _ => id) fun _ _ h => h.1

private abbrev others (kind : ObjectKind) : Prop := kind ≠ .image ∧ kind ≠ .commandBuffer

private theorem Lasts.confinedTask {α : Type} {task : Driver.Task α} (lasts : Lasts Known)
    (kept : (Vulkan.confined others).KeepsTask task () (fun _ _ => True) fun _ _ => True)
    (h : Known s) :
    (tracked sampled).KeepsTask task s (fun _ t => Known t) fun _ t => Known t :=
  (lasts.confined kept h).mono fun result _ known => by cases result <;> exact known

private theorem Lasts.confinedOp {α σ : Type} {op : Stateful σ Driver GraphicsError α} {x : σ}
    (lasts : Lasts Known)
    (kept : (Vulkan.confined others).KeepsOp op x () (fun _ _ _ => True) fun _ _ _ => True)
    (h : Known s) :
    (tracked sampled).KeepsOp op x s (fun _ _ t => Known t) fun _ _ t => Known t :=
  (lasts.confined kept h).mono fun out _ known => by obtain ⟨_ | _, _⟩ := out <;> exact known

private theorem Lasts.acquire (lasts : Lasts Known) (h : Known s) (swapchain : Handle .swapchain)
    (timeoutNs : Nat) (gate : FrameGate) :
    (tracked sampled).KeepsOp (FrameGate.acquire swapchain timeoutNs) gate s
      (fun _ _ t => Known t) fun _ _ t => Known t := by
  unfold FrameGate.acquire
  rw [keepsOp_bind, keepsOp_get, keepsOp_bind, keepsOp_ofProgram, keeps_ask]
  obtain ⟨permits, stays⟩ := lasts.call
    (c := .acquire swapchain timeoutNs gate.imageAvailable) h trivial
  refine ⟨permits, fun reply t step => ?_⟩
  have known := stays reply t step
  cases reply with
  | ok image => exact known
  | error result =>
    rw [keepsOp_bind]
    exact (lasts.confinedOp (confined_replaceFence (by decide) gate) known).mono
      (fun _ _ _ => id) fun _ _ _ => id

private theorem Sampleable.rebuild (h : Sampleable (some stack.commands) bound s)
    (extent : Extent) :
    (tracked sampled).KeepsOp (Stack.rebuild extent) stack s
      (fun _ after t => after.commands = stack.commands ∧
        Sampleable (some stack.commands) bound t)
      fun _ after t => after.commands = stack.commands ∧
        Sampleable (some stack.commands) bound t := by
  unfold Stack.rebuild
  simp only [keepsOp_bind, keepsOp_ofTask, keepsOp_get, Stack.onScreen, Stack.onGate,
    keepsOp_onPart]
  refine (sampleable_lasts.perform h .deviceIdle trivial).mono (fun _ t h => ?_)
    fun _ _ h => ⟨trivial, h.1⟩
  refine (sampleable_lasts.confinedOp (confined_rebuildScreen (by decide) _ extent _) h).mono
    (fun _ _ t h => ?_) fun _ _ _ h => ⟨trivial, h⟩
  exact (sampleable_lasts.confinedOp (confined_rearm (by decide) _) h).mono
    (fun _ _ _ h => ⟨trivial, h⟩) fun _ _ _ h => ⟨trivial, h⟩

/-! ## Building and taking down -/

private theorem Sampleable.tearDown (h : Sampleable (some stack.commands) none s) :
    (tracked sampled).Keeps (Stack.tearDown stack) s fun _ t => Sampleable none none t := by
  have unframed : Sampleable none none s := ⟨h.copied, nofun, nofun⟩
  have lasts : Lasts (Sampleable none none) := sampleable_lasts
  rw [keeps_stackTearDown]
  by_cases tornDown : stack.tornDown = true
  · rw [if_pos tornDown]
    exact unframed
  rw [if_neg tornDown, keeps_freeCommands]
  refine ⟨trivial, fun t step => ?_⟩
  obtain rfl : t = _ := step
  refine (lasts.releases.unlessNull _ (by decide) (unframed.drop nofun nofun)).mono fun _ t h => ?_
  rw [keeps_destroyOnDriver]
  refine (lasts.releases.gateDestroy _ (by decide) h).mono fun _ t h => ?_
  refine (lasts.releases.screenDestroy _ (by decide) h.2).mono fun _ t h => ?_
  exact lasts.releases.rigDestroy _ (by decide) h

-- The frame's command buffer is made last and holds nothing.
private theorem Sampleable.createFrame (h : Sampleable none none s) (pool : Handle .commandPool) :
    (tracked sampled).KeepsTask (Driver.create (.commandBuffer pool)) s
      (fun commands t => Sampleable (some commands) none t)
      fun _ t => Sampleable none none t := by
  rw [Contract.keepsTask_create]
  refine ⟨trivial, fun commands t step => ?_, fun _ t step => ?_⟩
  · obtain ⟨-, -, rfl⟩ := step
    refine ⟨h.copied, fun own frame => ?_, nofun⟩
    obtain rfl := Option.some.inj frame
    refine ⟨List.mem_cons_self, ?_⟩
    change ∀ command ∈ Function.update s.recorded commands [] commands, _
    rw [Function.update_self]
    exact nofun
  · obtain rfl : t = s := step
    exact h

private theorem Sampleable.buildOn (h : Sampleable none none s) (rig : Rig)
    (settings : GraphicsSettings) :
    (tracked sampled).KeepsTask (Stack.buildOn rig settings) s
      (fun stack t => Sampleable (some stack.commands) none t)
      fun _ t => Sampleable none none t := by
  have lasts : Lasts (Sampleable none none) := sampleable_lasts
  unfold Stack.buildOn
  rw [keepsTask_bind]
  refine (sampleable_lasts.confinedTask (confined_createScreen (by decide) rig _) h).mono
    (fun screen t h => ?_) fun _ _ => id
  have dropScreen {t : LayoutState} (h : Sampleable none none t) :
      (tracked sampled).Keeps (do let _ ← Screen.destroy screen) t
        fun _ t => Sampleable none none t := by
    rw [keeps_bind]
    exact lasts.releases.screenDestroy screen (by decide) h
  rw [keepsTask_undoing, keepsTask_bind]
  refine (sampleable_lasts.confinedTask (confined_createGate (by decide)) h).mono
    (fun gate t h => ?_) fun _ t h => dropScreen h
  have dropGate {t : LayoutState} (h : Sampleable none none t) :
      (tracked sampled).Keeps (do let _ ← gate.destroyOnDriver) t
        fun _ t => Sampleable none none t := by
    rw [keeps_bind, keeps_destroyOnDriver]
    exact (lasts.releases.gateDestroy gate (by decide) h).mono fun _ _ h => h.2
  rw [keepsTask_undoing, keepsTask_bind]
  refine (sampleable_lasts.confinedTask (confined_createSampler (by decide) rig) h).mono
    (fun sampler t h => ?_) fun _ t h => (dropGate h).mono fun _ _ h => dropScreen h
  rw [keepsTask_undoing, keepsTask_bind]
  refine (h.createFrame rig.commandPool).mono (fun _ _ => id) fun _ t h => ?_
  refine (lasts.releases.release sampler (by decide) h).mono fun _ t h => ?_
  exact (dropGate h).mono fun _ _ h => dropScreen h

private theorem Sampleable.create (h : Sampleable none none s) (handles : NativeHandles)
    (settings : GraphicsSettings) :
    (tracked sampled).KeepsTask (Stack.create handles settings) s
      (fun stack t => Sampleable (some stack.commands) none t) fun _ _ => True := by
  rw [keepsTask_stackCreate]
  cases handles.display with
  | error fault => exact trivial
  | ok display =>
    cases handles.window with
    | error fault => exact trivial
    | ok window =>
      refine (sampleable_lasts.confinedTask (confined_createRig (by decide) display window settings)
        h).mono (fun rig t h => ?_) fun _ _ _ => trivial
      refine (h.buildOn rig settings).mono (fun _ _ => id) fun _ t h => ?_
      exact (sampleable_lasts.releases.rigDestroy rig (by decide) h).mono fun _ _ _ => trivial

/-! ## Every call -/

-- What is known of a stack in a position of its renderer: until it is torn down, its frames and the
-- texture that is held are in order.
private def Keeping (frames : Handle .commandBuffer) (p : Position SampledImage) (stack : Stack)
    (s : LayoutState) : Prop :=
  p.phase = .gone ∨
    stack.commands = frames ∧ Sampleable (some frames) (p.held.map (·.1.image)) s

-- An upload that fails does not do so for a layout change that there is not.
private def Possible : (call : GraphicsCall SampledImage) → call.Reply Recording → Prop
  | .createTexture _, .error e | .updateTexture _ _, .error e | .waitIdle, .error e =>
    ¬ImpossibleChange e
  | _, _ => True

-- Only the image that is held is looked at, and only when a frame is under way.
private def Asks (p : Position SampledImage) (image : Handle .image) (layout : ImageLayout) :
    Prop :=
  (∃ index, p.phase = .recording index ∨ p.phase = .recorded index) ∧
    p.held.map (·.1.image) = some image ∧ layout = .shaderReadOnly

private theorem held_of_waitIdle (p : Position SampledImage) (reply : Except GraphicsError Unit) :
    (p.next (ρ := Recording) .waitIdle reply).held = p.held := by
  obtain ⟨phase, held, owed⟩ := p
  cases phase <;> rfl

private theorem stackAnswer_keeps {frames : Handle .commandBuffer} {p : Position SampledImage}
    {call : GraphicsCall SampledImage} (keeping : Keeping frames p stack s)
    (asked : ∀ image layout, sampled = some (image, layout) → Asks p image layout)
    (allowed : p.Allows call) :
    (tracked sampled).Keeps (Stack.answer call stack) s fun out t =>
      Keeping frames (p.next call out.1) out.2 t ∧ Possible call out.1 := by
  obtain ⟨phase, held, owed⟩ := p
  obtain rfl | ⟨rfl, h⟩ := keeping
  · cases call <;> simp [Position.Allows] at allowed
    exact ⟨.inl rfl, trivial⟩
  -- Between frames nothing is looked at.
  have unasked (resting : phase = .resting) : sampled = none := by
    cases sampled with
    | none => rfl
    | some demand =>
      obtain ⟨⟨index, during⟩, -⟩ := asked demand.1 demand.2 rfl
      simp [resting] at during
  cases call with
  | extent => exact ⟨.inr ⟨rfl, h⟩, trivial⟩
  | waitForPrevious =>
    rw [Stack.answer, keeps_run, Stack.waitForPrevious, keepsOp_bind, keepsOp_get, keepsOp_ofTask]
    exact (sampleable_lasts.waitForPrevious h _ _).mono
      (fun _ t h => ⟨.inr ⟨rfl, h⟩, trivial⟩) fun _ t h => ⟨.inr ⟨rfl, h⟩, trivial⟩
  | acquire =>
    rw [Stack.answer, keeps_run, Stack.acquire, keepsOp_bind, keepsOp_get, Stack.onGate,
      keepsOp_onPart]
    exact (sampleable_lasts.acquire h _ _ _).mono
      (fun _ _ t h => ⟨.inr ⟨rfl, h⟩, trivial⟩) fun _ _ t h => ⟨.inr ⟨rfl, h⟩, trivial⟩
  | beginPass image clear =>
    rw [Stack.answer, keeps_run]
    apply (h.beginPass image clear).mono
    · rintro _ _ t ⟨rfl, h⟩
      exact ⟨.inr ⟨rfl, h⟩, trivial⟩
    · rintro _ _ t ⟨rfl, h⟩
      exact ⟨.inr ⟨rfl, h⟩, trivial⟩
  | endPass =>
    obtain ⟨image, rfl⟩ := allowed
    rw [Stack.answer, keeps_run]
    apply h.endPass.mono
    · rintro _ _ t ⟨rfl, h⟩
      exact ⟨.inr ⟨rfl, h⟩, trivial⟩
    · rintro _ _ t ⟨rfl, h⟩
      exact ⟨.inr ⟨rfl, h⟩, trivial⟩
  | present image =>
    rw [Stack.answer, keeps_run, Stack.present, keepsOp_bind, keepsOp_get, keepsOp_ofTask]
    exact (h.present (fun image layout demanded => (asked image layout demanded).2) _ _ _ _).mono
      (fun _ t h => ⟨.inr ⟨rfl, h⟩, trivial⟩) fun _ t h => ⟨.inr ⟨rfl, h⟩, trivial⟩
  | rebuild extent =>
    rw [Stack.answer, keeps_run]
    exact (h.rebuild extent).mono (fun _ _ t h => ⟨.inr h, trivial⟩)
      fun _ _ t h => ⟨.inr h, trivial⟩
  | createTexture pixels =>
    obtain ⟨resting, rfl⟩ := allowed
    obtain rfl := unasked resting
    rw [Stack.answer, keeps_bind, keepsTask_run]
    exact (h.createTexture pixels).mono (fun _ t h => ⟨.inr ⟨rfl, h⟩, trivial⟩)
      fun _ t failed => ⟨.inr ⟨rfl, failed.1⟩, failed.2⟩
  | updateTexture texture pixels =>
    obtain ⟨resting, rfl⟩ := allowed
    obtain rfl := unasked resting
    rw [Stack.answer, keeps_bind, keepsTask_run]
    exact (h.updateTexture pixels).mono (fun _ t h => ⟨.inr ⟨rfl, h⟩, trivial⟩)
      fun _ t failed => ⟨.inr ⟨rfl, failed.1⟩, failed.2⟩
  | releaseTexture texture =>
    rw [Stack.answer, keeps_bind]
    exact (h.releaseTexture texture).mono fun _ t h => ⟨.inr ⟨rfl, h⟩, trivial⟩
  | binding texture => exact ⟨.inr ⟨rfl, h⟩, trivial⟩
  | waitIdle =>
    rw [Stack.answer, keeps_bind, keepsTask_run, keepsTask_deviceIdle]
    refine (sampleable_lasts.perform h .deviceIdle trivial).mono (fun _ t h => ?_)
      fun _ t failed => ?_
    · exact ⟨.inr ⟨rfl, by rwa [held_of_waitIdle]⟩, trivial⟩
    · exact ⟨.inr ⟨rfl, by simpa only [held_of_waitIdle] using failed.1⟩, failed.2⟩
  | tearDown =>
    obtain ⟨-, rfl⟩ := allowed
    exact h.tearDown.mono fun _ t _ => ⟨.inl rfl, trivial⟩

/-! ## Every run -/

section Renderer

variable {τ ρ : Type} {r : Renderer SampledImage}

private def uploads : Contract (Graphics SampledImage Recording) (Position SampledImage) where
  step p call reply q := q = p.next call reply ∧ Possible call reply
  permits := Position.Allows

private theorem upload_possible (r : Renderer SampledImage) (pixels : PixelBuffer) :
    uploads.KeepsOp (Renderer.upload pixels) r r.position (fun _ _ _ => True)
      fun e _ _ => ¬ImpossibleChange e := by
  rw [keepsOp_upload]
  by_cases closed : r.closed = true
  · rw [if_pos closed]
    exact id
  by_cases active : r.active.isSome = true
  · rw [if_neg closed, if_pos active]
    exact id
  have idle : r.Idle := ⟨by simpa using closed, by simpa using active⟩
  rw [if_neg closed, if_neg active, Renderer.position_of_idle idle, keepsOp_heldUpload]
  cases r.texture.current with
  | none =>
    rw [keepsTask_createTexture]
    exact ⟨⟨rfl, rfl⟩, fun _ _ _ => trivial, fun e _ step => step.2⟩
  | some current =>
    obtain ⟨texture, size⟩ := current
    by_cases same : size = pixels.extent
    · simp only [if_pos same, keepsTask_updateTexture]
      exact ⟨⟨rfl, same ▸ rfl⟩, fun _ _ => trivial, fun e _ step => step.2⟩
    · simp only [if_neg same, keepsTask_waitIdle, keeps_releaseTexture, keepsTask_createTexture]
      refine ⟨.inl rfl, ?_, fun e _ step => step.2⟩
      rintro _ ⟨rfl, -⟩
      refine ⟨⟨.inl rfl, size, rfl⟩, ?_⟩
      rintro _ ⟨rfl, -⟩
      exact ⟨⟨rfl, rfl⟩, fun _ _ _ => trivial, fun e _ step => step.2⟩

private def drawing (texture : SampledImage) :
    Contract (Graphics SampledImage Recording) (Position SampledImage) :=
  { protocol SampledImage Recording with
    permits := fun p call => p.Allows call ∧ Asks p texture.image .shaderReadOnly }

private theorem endFrame_draws (tidy : r.Tidy) {texture : SampledImage}
    (held : r.texture.texture? = some texture) :
    (drawing texture).KeepsOp Renderer.endFrame r r.position (fun _ _ _ => True)
      fun _ _ _ => True := by
  have image : r.texture.current.map (·.1.image) = some texture.image := by
    obtain ⟨current, here, rfl⟩ := Option.map_eq_some_iff.mp held
    rw [here, Option.map_some]
  rw [keepsOp_endFrame]
  cases active : r.active with
  | none => exact trivial
  | some index =>
    rw [Renderer.position_of_active (Renderer.open_of_active tidy active) active]
    simp only [keepsTask_endPass, keepsTask_present]
    refine ⟨⟨⟨index, rfl⟩, ⟨index, .inl rfl⟩, image, rfl⟩, ?_, fun _ _ _ => trivial⟩
    rintro _ rfl
    exact ⟨⟨rfl, ⟨index, .inr rfl⟩, image, rfl⟩, fun _ _ _ => trivial, fun _ _ _ => trivial⟩

private theorem Keeping.endFrame {frames : Handle .commandBuffer}
    (keeping : Keeping frames r.position stack s) (tidy : r.Tidy) {texture : SampledImage}
    (held : r.texture.texture? = some texture) :
    (tracked (some (texture.image, .shaderReadOnly))).Keeps
      ((Renderer.endFrame.run r).interpret Stack.answer stack) s fun _ _ => True := by
  refine ((endFrame_draws tidy held).interpret (Keeping frames)
    (fun p stack t call keeping allowed => ?_) keeping).mono fun _ _ _ => trivial
  refine (stackAnswer_keeps keeping ?_ allowed.1).mono fun out u known => ⟨_, rfl, known.1⟩
  rintro _ _ ⟨rfl, rfl⟩
  exact allowed.2

private theorem unasked {p : Position SampledImage} (image : Handle .image)
    (layout : ImageLayout) (demanded : none = some (image, layout)) : Asks p image layout :=
  nomatch demanded

private theorem Keeping.upload {frames : Handle .commandBuffer}
    (keeping : Keeping frames r.position stack s) (pixels : PixelBuffer) :
    (tracked none).Keeps (((Renderer.upload pixels).run r).interpret Stack.answer stack) s
      fun out _ => ∀ e, out.1.1 = .error e → ¬ImpossibleChange e := by
  refine ((upload_possible r pixels).interpret (Keeping frames)
    (fun p stack t call keeping allowed => ?_) keeping).mono ?_
  · exact (stackAnswer_keeps keeping unasked allowed).mono fun out u known =>
      ⟨_, ⟨rfl, known.2⟩, known.1⟩
  · rintro ⟨⟨_ | e, r'⟩, stack'⟩ t ⟨p, -, possible⟩
    · rintro _ ⟨⟩
      exact possible
    · nofun

end Renderer

/-- Whatever is asked of a renderer on a new stack, and whatever the driver lets fail: what is
handed over is in order; a frame finds the texture of the renderer in the layout of its binding; and
no upload asks for a layout change that there is not. -/
theorem layouts_tracked {handles : NativeHandles} {settings : GraphicsSettings}
    (created : (Stack.create handles settings).run.Ends layoutWorld {} (.ok stack) s)
    (clearColor : Color) (requests : List Renderer.Request) :
    let served := (Renderer.serve requests { clearColor }).interpret Stack.answer stack
    (∀ queue work t, served.Makes layoutWorld s (.perform (.submit queue work)) t →
      Orderly t.events (t.commandsOf work)) ∧
    ∀ r later t, served.Ends layoutWorld s (((), r), later) t →
      (∀ texture queue work u, r.texture.texture? = some texture →
        ((Renderer.endFrame.run r).interpret Stack.answer later).Makes layoutWorld t
          (.perform (.submit queue work)) u →
        texture.image.layout? u.events = some (later.binding texture).layout) ∧
      ∀ pixels e r' later' u,
        (((Renderer.upload pixels).run r).interpret Stack.answer later).Ends layoutWorld t
          ((.error e, r'), later') u → ¬ImpossibleChange e := by
  intro served
  have empty : Sampleable none none {} := ⟨fun _ => trivial, nofun, nofun⟩
  have built : (tracked none).KeepsTask (Stack.create handles settings) {}
      (fun stack t => Sampleable (some stack.commands) none t) fun _ _ => True :=
    empty.create handles settings
  have start : Keeping stack.commands ⟨.resting, none, false⟩ stack s :=
    .inr ⟨rfl, built.ends_ok created⟩
  have follows := serve_follows (ρ := Recording)
    (Renderer.tidy_new (τ := SampledImage) clearColor) requests
  have kept : (tracked none).Keeps served s fun out t =>
      ∃ p, Keeping stack.commands p out.2 t ∧ out.1.2.RestsAt p := by
    refine follows.interpret (Keeping stack.commands) (fun p stack t call keeping allowed => ?_)
      start
    exact (stackAnswer_keeps keeping unasked allowed).mono fun out u known =>
      ⟨_, rfl, known.1⟩
  refine ⟨fun queue work t makes => ?_, fun r later t ends => ?_⟩
  · have permitted : t.Tracks none _ := kept.permits makes
    exact permitted.1
  obtain ⟨p, keeping, rfl, tidy⟩ := kept.ends ends
  refine ⟨fun texture queue work u held makes => ?_, fun pixels e r' later' u ends => ?_⟩
  · have permitted : u.Tracks _ _ := (keeping.endFrame tidy held).permits makes
    exact permitted.2 _ _ rfl
  · exact (keeping.upload pixels).ends ends e rfl

/-! ## A driver that obliges -/

/-- Lets everything succeed. -/
def LayoutState.oblige : (c : DriverCall) → LayoutState → Except Fault c.Reply × LayoutState
  | .create request, s =>
    let made : Handle request.kind := ⟨QueueState.fresh { live := s.live }⟩
    (.ok (.ok made), s.make request made)
  | .release o, s => (.ok (), s.drop o)
  | .freeCommands _ commands, s => (.ok (), s.drop commands.object)
  | .perform (.resetCommands commands), s => (.ok (.ok ()), s.rerecord commands [])
  | .perform (.beginCommands commands), s => (.ok (.ok ()), s.rerecord commands [])
  | .perform (.submit _ work), s =>
    (.ok (.ok ()), { s with events := extendBy s.events (s.commandsOf work) })
  | .record commands command, s =>
    (.ok (), s.rerecord commands (s.recorded commands ++ [command]))
  | c, s => (.ok (c.granted 1), s)

private theorem layoutWorld_allows_oblige : layoutWorld.Allows LayoutState.oblige := by
  intro c s reply answered
  cases c with
  | create request =>
    obtain rfl := Except.ok.inj answered
    refine ⟨by simp [Handle.null, QueueState.fresh], fun live => ?_, rfl⟩
    exact absurd (QueueState.number_lt_fresh (s := { live := s.live }) live) (Nat.lt_irrefl _)
  | perform operation =>
    cases operation <;> obtain rfl := Except.ok.inj answered <;> exact rfl
  | _ =>
    obtain rfl := Except.ok.inj answered
    exact rfl

private def laidStack : Program.Run LayoutState (Except GraphicsError Stack) :=
  (Stack.create ⟨.ok .wayland, .ok .wayland⟩ {}).run.run LayoutState.oblige {}

private def laidCalls (stack : Stack) : List (DriverCall × LayoutState) :=
  let served := Renderer.serve [.upload onePixel, .beginFrame, .endFrame, .upload onePixel]
    { clearColor := .black }
  (served.interpret Stack.answer stack).calls LayoutState.oblige laidStack.state

private def overwriting? : Option (Stack × Handle .queue × Submission × LayoutState) :=
  match laidStack.result with
  | .ok (.ok stack) =>
    match (laidCalls stack)[46]? with
    | some (DriverCall.perform (.submit queue work), t) => some (stack, queue, work, t)
    | _ => none
  | _ => none

private theorem of_overwriting {queue : Handle .queue} {work : Submission}
    (h : overwriting? = some (stack, queue, work, t)) :
    laidStack.result = .ok (.ok stack) ∧ (.perform (.submit queue work), t) ∈ laidCalls stack := by
  unfold overwriting? at h
  split at h
  · next _ created =>
    split at h
    · next reached =>
      obtain ⟨rfl, rfl, rfl, rfl⟩ := by simpa using h
      exact ⟨created, List.mem_of_getElem? reached⟩
    · exact absurd h (by simp)
  · exact absurd h (by simp)

/-- Between which layouts commands change images. -/
def layoutChanges (commands : List Command) : List (ImageLayout × ImageLayout) :=
  commands.filterMap fun
    | .barrier b => some (b.old, b.new)
    | _ => none

/-- A texture that was drawn is overwritten in order. -/
theorem layouts_tracked_while_overwriting :
    ∃ (work : Submission) (t : LayoutState),
      layoutChanges (t.commandsOf work) =
        [(.shaderReadOnly, .transferTarget), (.transferTarget, .shaderReadOnly)] ∧
      Orderly t.events (t.commandsOf work) := by
  have reached : overwriting?.map (fun x => layoutChanges (x.2.2.2.commandsOf x.2.2.1)) =
      some [(.shaderReadOnly, .transferTarget), (.transferTarget, .shaderReadOnly)] := by
    decide +kernel
  obtain ⟨⟨stack, queue, work, t⟩, found, changes⟩ := Option.map_eq_some_iff.mp reached
  obtain ⟨created, made⟩ := of_overwriting found
  have tracked := layouts_tracked (layoutWorld_allows_oblige.ends created) .black
    [.upload onePixel, .beginFrame, .endFrame, .upload onePixel]
  exact ⟨work, t, changes, tracked.1 queue work t (layoutWorld_allows_oblige.makes made)⟩

end Vulkan

end PaintPresenter
