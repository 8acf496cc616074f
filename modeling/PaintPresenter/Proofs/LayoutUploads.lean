import PaintPresenter.Proofs.Confined
import PaintPresenter.Proofs.ImageLayouts

/-!
# Layouts during an upload

Nothing keeps the layout of an image: to create one and to overwrite one each assume a layout to
start from. That they are right is an invariant, whatever fails: work is either not accepted, and
the image stays as it was, or it is, and the image goes from the layout that it was made in or
sampled in to the one that it is sampled in.
-/

namespace PaintPresenter

namespace Vulkan

open Contract

/-- A command of a frame. -/
def Command.IsPass : Command → Prop
  | .beginPass _ | .endPass => True
  | .barrier _ | .copy _ => False

/-- The error of an upload that asks for a layout change which there is not. -/
def ImpossibleChange : GraphicsError → Prop
  | .driver function _ => function = "vkCmdPipelineBarrier"
  | _ => False

/-- What is handed over is in order, and an image that is to be sampled is found in its layout. -/
def LayoutState.Tracks (s : LayoutState) (sampled : Option (Handle .image × ImageLayout)) :
    DriverCall → Prop
  | .perform (.submit _ work) => Orderly s.events (s.commandsOf work) ∧
    ∀ image layout, sampled = some (image, layout) → image.layout? s.events = some layout
  | _ => True

/-! ## What stays as it is -/

/-- Calls that have nothing to do with images, recordings and submissions. -/
def Bland : DriverCall → Prop
  | .create request => request.kind ≠ .image ∧ request.kind ≠ .commandBuffer
  | .release o => o.kind ≠ .image ∧ o.kind ≠ .commandBuffer
  | .freeCommands _ _ | .record _ _ | .perform (.resetCommands _) | .perform (.beginCommands _)
  | .perform (.submit _ _) => False
  | _ => True

/-- Events and recordings are the same, and no image or command buffer is lost. -/
structure Unmoved (s t : LayoutState) : Prop where
  events : t.events = s.events
  recorded : t.recorded = s.recorded
  live : ∀ o ∈ s.live, o.kind = .image ∨ o.kind = .commandBuffer → o ∈ t.live

/-- What is not about other objects goes on to hold. -/
def Lasts (Known : LayoutState → Prop) : Prop := ∀ s t, Known s → Unmoved s t → Known t

variable {Known : LayoutState → Prop} {sampled : Option (Handle .image × ImageLayout)}
  {frames : Option (Handle .commandBuffer)} {bound : Option (Handle .image)}
  {α : Type} {s t : LayoutState} {rig : Rig}

/-- The driver as a world in which layouts have to be right. -/
def tracked (sampled : Option (Handle .image × ImageLayout)) :
    Contract Driver LayoutState :=
  { layoutWorld with permits := fun s => s.Tracks sampled }

private theorem unmoved_make {request : Creation} {made : Handle request.kind}
    (bland : request.kind ≠ .image ∧ request.kind ≠ .commandBuffer) :
    Unmoved s (s.make request made) := by
  cases request with
  | image request => exact absurd rfl bland.1
  | commandBuffer pool => exact absurd rfl bland.2
  | _ => exact ⟨rfl, rfl, fun o mem _ => List.mem_cons_of_mem _ mem⟩

private theorem unmoved_drop {o : Object} (bland : o.kind ≠ .image ∧ o.kind ≠ .commandBuffer) :
    Unmoved s (s.drop o) := by
  refine ⟨rfl, rfl, fun other mem kind => List.mem_filter.mpr ⟨mem, ?_⟩⟩
  have apart : other ≠ o := by
    rintro rfl
    exact kind.elim bland.1 bland.2
  simpa using apart

private theorem unmoved_effect {c : DriverCall} {reply : c.Reply} (bland : Bland c)
    (effect : s.Effect c reply t) : Unmoved s t := by
  have same (still : t = s) : Unmoved s t := still ▸ ⟨rfl, rfl, fun _ mem _ => mem⟩
  cases c with
  | create request =>
    cases reply with
    | error result => exact same effect
    | ok made =>
      obtain ⟨-, -, rfl⟩ := effect
      exact unmoved_make bland
  | release o =>
    obtain rfl : t = _ := effect
    exact unmoved_drop bland
  | freeCommands pool buffer => exact bland.elim
  | record buffer command => exact bland.elim
  | perform operation =>
    cases reply with
    | error result => exact same (by cases operation <;> exact effect)
    | ok =>
      cases operation with
      | submit queue work => exact bland.elim
      | resetCommands commands => exact bland.elim
      | beginCommands commands => exact bland.elim
      | _ => exact same effect
  | _ => exact same effect

private theorem tracks_of_bland {c : DriverCall} (bland : Bland c) : s.Tracks sampled c := by
  cases c with
  | perform operation =>
    cases operation with
    | submit queue work => exact bland.elim
    | _ => exact trivial
  | _ => exact trivial

/-- A bland call may be made, and what lasts is known after it. -/
theorem Lasts.call (lasts : Lasts Known) (h : Known s) {c : DriverCall} (bland : Bland c) :
    (tracked sampled).permits s c ∧ ∀ reply t, (tracked sampled).step s c reply t → Known t :=
  ⟨tracks_of_bland bland, fun _ t step => lasts s t h (unmoved_effect bland step)⟩

private theorem Lasts.answers (lasts : Lasts Known) : (tracked sampled).Answers Known := by
  intro s c query h
  refine lasts.call h ?_
  cases c with
  | create request => exact query.elim
  | release o => exact query.elim
  | perform operation => exact query.elim
  | record buffer command => exact query.elim
  | freeCommands pool buffer => exact query.elim
  | _ => exact trivial

/-- What lasts outlives releases of anything but images and command buffers. -/
theorem Lasts.releases (lasts : Lasts Known) :
    (tracked sampled).Releases (fun kind => kind ≠ .image ∧ kind ≠ .commandBuffer) Known := by
  intro s o bland h
  obtain ⟨permits, later⟩ := lasts.call (c := .release o) h bland
  exact ⟨permits, later ()⟩

/-- What lasts outlives programs confined to other kinds of objects. -/
theorem Lasts.confined (lasts : Lasts Known) {p : Program Driver α}
    {post : α → Unit → Prop}
    (kept : (confined fun kind => kind ≠ .image ∧ kind ≠ .commandBuffer).Keeps p () post)
    (h : Known s) : (tracked sampled).Keeps p s fun _ t => Known t := by
  refine (keeps_of_confined Known (fun s c h confined => lasts.call h ?_) kept h).mono
    fun _ _ h => h.1
  cases c with
  | perform operation => exact confined.elim
  | record buffer command => exact confined.elim
  | freeCommands pool buffer => exact confined.elim
  | create request => exact confined
  | release o => exact confined
  | _ => exact trivial

/-! ## Bland calls of an upload -/

/-- What is known after a failure. -/
def Failed (Known : LayoutState → Prop) (e : GraphicsError) (s : LayoutState) : Prop :=
  Known s ∧ ¬ImpossibleChange e

private theorem possible_ofResult {function : String} (other : function ≠ "vkCmdPipelineBarrier")
    (result : ResultCode) : ¬ImpossibleChange (.ofResult function result) := by
  unfold GraphicsError.ofResult
  split
  · exact id
  · split
    · exact id
    · exact other

private theorem possible_operation (operation : Operation) (result : ResultCode) :
    ¬ImpossibleChange (.ofResult operation.function result) :=
  possible_ofResult (by cases operation <;> simp [Operation.function]) result

private theorem possible_creation (request : Creation) (result : ResultCode) :
    ¬ImpossibleChange (.ofResult request.errorName result) :=
  possible_ofResult (by cases request <;> simp [Creation.errorName, Creation.function]) result

private theorem Lasts.create (lasts : Lasts Known) (h : Known s) {request : Creation}
    (bland : request.kind ≠ .image ∧ request.kind ≠ .commandBuffer) :
    (tracked sampled).KeepsTask (Driver.create request) s (fun _ t => Known t) (Failed Known) := by
  obtain ⟨permits, later⟩ := lasts.call (c := .create request) h bland
  rw [Contract.keepsTask_create]
  exact ⟨permits, fun made t step => later _ t step, fun e t step =>
    ⟨later _ t step, possible_creation request e⟩⟩

/-- What lasts outlives bland operations; none fails over a layout. -/
theorem Lasts.perform (lasts : Lasts Known) (h : Known s) (operation : Operation)
    (bland : Bland (.perform operation)) :
    (tracked sampled).KeepsTask (Driver.perform operation) s (fun _ t => Known t)
      (Failed Known) := by
  obtain ⟨permits, later⟩ := lasts.call (c := .perform operation) h bland
  rw [keepsTask_perform]
  exact ⟨permits, fun t step => later _ t step, fun e t step =>
    ⟨later _ t step, possible_operation operation e⟩⟩

private theorem Lasts.release (lasts : Lasts Known) (h : Known s) {kind : ObjectKind}
    (handle : Handle kind) (bland : kind ≠ .image ∧ kind ≠ .commandBuffer) :
    (tracked sampled).Keeps (Driver.release handle) s fun _ t => Known t :=
  lasts.releases.release handle bland h

private theorem Lasts.allocate (lasts : Lasts Known) (h : Known s) (needs : MemoryRequirements)
    (flags : MemoryFlags) :
    (tracked sampled).KeepsTask (allocate rig needs flags) s (fun _ t => Known t)
      (Failed Known) := by
  unfold Vulkan.allocate
  cases rig.memory.typeFor? needs.typeBits flags with
  | none => exact ⟨h, id⟩
  | some type => exact lasts.create h (by simp)

private theorem Lasts.stagingRelease (lasts : Lasts Known) (h : Known s)
    (staging : StagingBuffer) :
    (tracked sampled).Keeps staging.release s fun _ t => Known t := by
  unfold StagingBuffer.release
  rw [keeps_bind]
  exact (lasts.release h _ (by simp)).mono fun _ t h => lasts.release h _ (by simp)

private theorem Failed.undo {undo : Program Driver Unit} {e : GraphicsError}
    (failed : Failed Known e s)
    (undone : Known s → (tracked sampled).Keeps undo s fun _ t => Known t) :
    (tracked sampled).Keeps undo s fun _ t => Failed Known e t :=
  (undone failed.1).mono fun _ _ h => ⟨h, failed.2⟩

private theorem Lasts.ofPixels (lasts : Lasts Known) (h : Known s) (p : PixelBuffer) :
    (tracked sampled).KeepsTask (StagingBuffer.ofPixels rig p) s (fun _ t => Known t)
      (Failed Known) := by
  unfold StagingBuffer.ofPixels StagingBuffer.create StagingBuffer.fill
  simp only [keepsTask_bind, keepsTask_undoing, keepsTask_liftM, keepsTask_pure]
  refine (lasts.create h (by simp)).mono (fun buffer t h => ?_) fun _ _ => id
  refine (lasts.answers.ask (c := .bufferNeeds buffer) trivial h).mono fun needs t h => ?_
  refine (lasts.allocate h needs _).mono (fun memory t h => ?_) fun _ _ failed =>
    failed.undo fun h => lasts.release h _ (by simp)
  refine (lasts.perform h (.bindBuffer ..) trivial).mono (fun _ t h => ?_) fun _ _ failed =>
    failed.undo fun h => lasts.stagingRelease h _
  refine (lasts.perform h (.mapMemory ..) trivial).mono (fun _ t h => ?_) fun _ _ failed =>
    failed.undo fun h => lasts.stagingRelease h _
  obtain ⟨permits, stored⟩ := lasts.call (c := .store memory p.rgba) h trivial
  rw [keeps_store]
  refine ⟨permits, fun t step => ?_⟩
  obtain ⟨permits, unmapped⟩ := lasts.call (c := .unmap memory) (stored () t step) trivial
  rw [keeps_unmap]
  exact ⟨permits, unmapped ()⟩

/-! ## Between uploads -/

/-- All copies are done. The frame's command buffer, if there is one, holds nothing but a pass, and
the image that is bound, if there is one, is ready to be sampled. -/
structure Sampleable (frames : Option (Handle .commandBuffer)) (bound : Option (Handle .image))
    (s : LayoutState) : Prop where
  copied : ∀ image : Handle .image, image.DoneCopying s.events
  framed : ∀ commands, frames = some commands →
    commands.object ∈ s.live ∧ ∀ command ∈ s.recorded commands, command.IsPass
  shown : ∀ image, bound = some image →
    image.object ∈ s.live ∧ image.layout? s.events = some .shaderReadOnly

/-- That the bound image can be sampled lasts. -/
theorem sampleable_lasts : Lasts (Sampleable frames bound) := by
  rintro s t ⟨copied, framed, shown⟩ ⟨events, recorded, live⟩
  rw [← events] at copied shown
  rw [← recorded] at framed
  exact ⟨copied, fun commands own =>
    ⟨live _ (framed commands own).1 (.inr rfl), (framed commands own).2⟩, fun image own =>
    ⟨live _ (shown image own).1 (.inl rfl), (shown image own).2⟩⟩

-- An image may be copied into that is in layout `old`: the one that is bound, or a fresh one while
-- none is bound.
private structure Ready (frames : Option (Handle .commandBuffer)) (bound : Option (Handle .image))
    (image : Handle .image) (old : ImageLayout) (s : LayoutState) : Prop
    extends Sampleable frames bound s where
  only : ∀ other, bound = some other → other = image
  live : image.object ∈ s.live
  layout : image.layout? s.events = some old
  fresh : old = .undefined → image.Fresh s.events ∧ image.DoneSampling s.events

variable {image : Handle .image} {old : ImageLayout} {commands : Handle .commandBuffer}
  {list : List Command}

private theorem ready_lasts : Lasts (Ready frames bound image old) := by
  rintro s t h same
  have steady := sampleable_lasts s t h.toSampleable same
  obtain ⟨events, -, live⟩ := same
  refine ⟨steady, h.only, live _ h.live (.inl rfl), ?_, ?_⟩
  · exact events ▸ h.layout
  · exact events ▸ h.fresh

-- Some commands of an upload are recorded.
private structure Recorded (frames : Option (Handle .commandBuffer))
    (bound : Option (Handle .image)) (image : Handle .image) (old : ImageLayout)
    (commands : Handle .commandBuffer) (list : List Command) (s : LayoutState) : Prop
    extends Ready frames bound image old s where
  apart : frames ≠ some commands
  recorded : s.recorded commands = list

private theorem recorded_lasts : Lasts (Recorded frames bound image old commands list) :=
  fun s t h same => ⟨ready_lasts s t h.toReady same, h.apart, same.recorded ▸ h.recorded⟩

private theorem Recorded.rerecord (h : Recorded frames bound image old commands list s)
    (list' : List Command) :
    Recorded frames bound image old commands list' (s.rerecord commands list') where
  copied := h.copied
  framed own frame := by
    have other : own ≠ commands := by
      rintro rfl
      exact h.apart frame
    obtain ⟨live, kept⟩ := h.framed own frame
    refine ⟨live, ?_⟩
    change ∀ command ∈ Function.update s.recorded commands list' own, _
    rwa [Function.update_of_ne other]
  shown := h.shown
  only := h.only
  live := h.live
  layout := h.layout
  fresh := h.fresh
  apart := h.apart
  recorded := Function.update_self ..

/-! ## Copies -/

private def copyCommands (staging : StagingBuffer) (image : Handle .image) (extent : Extent)
    (old : ImageLayout) (change : LayoutChange) : List Command :=
  [.barrier { image, old, new := .transferTarget, change },
    .copy { buffer := staging.buffer, image, layout := .transferTarget, extent },
    .barrier { image, old := .transferTarget, new := .shaderReadOnly,
               change := ⟨.transferWrite, .shaderRead, .transfer, .fragmentShader⟩ }]

private theorem change_of_start (start : old = .undefined ∨ old = .shaderReadOnly) :
    ∃ change, LayoutChange.between? old .transferTarget = some change ∧
      (old ≠ .undefined → change.AfterSampling) := by
  obtain rfl | rfl := start
  · exact ⟨_, rfl, fun other => absurd rfl other⟩
  · exact ⟨_, rfl, fun _ => by simp [LayoutChange.AfterSampling, LayoutChange.Orders]; decide⟩

private theorem Ready.orderly (h : Ready frames bound image old s) (staging : StagingBuffer)
    (extent : Extent) {change : LayoutChange} (after : old ≠ .undefined → change.AfterSampling) :
    Orderly s.events (copyCommands staging image extent old change) := by
  have sampled : image.DoneSampling
      (.command (.barrier { image, old, new := .transferTarget, change }) :: s.events) := by
    by_cases fresh : old = .undefined
    · exact .inr (h.fresh fresh).2
    · exact .inl ⟨rfl, after fresh⟩
  refine ⟨⟨rfl, h.layout, fun fresh => (h.fresh fresh).1⟩, ⟨rfl, if_pos rfl, sampled⟩, ?_, trivial⟩
  exact ⟨rfl, if_pos rfl, nofun⟩

private theorem Ready.copied_sampleable (h : Ready frames bound image old s)
    (staging : StagingBuffer) (extent : Extent) {change : LayoutChange} :
    Sampleable frames (some image)
      { s with events := extendBy s.events (copyCommands staging image extent old change) } where
  copied other := by
    by_cases same : image = other
    · exact .inl ⟨same, by simp [LayoutChange.BeforeSampling, LayoutChange.Orders]; decide⟩
    · exact .inr ⟨same, .inr (h.copied other)⟩
  framed := h.framed
  shown other own := by
    obtain rfl := Option.some.inj own
    exact ⟨h.live, if_pos rfl⟩

private theorem Recorded.record (h : Recorded frames bound image old commands list s)
    (command : Command) :
    (tracked sampled).Keeps (Driver.record commands command) s fun _ t =>
      Recorded frames bound image old commands (list ++ [command]) t := by
  rw [keeps_record]
  refine ⟨trivial, fun t step => ?_⟩
  obtain rfl : t = _ := step
  rw [h.recorded]
  exact h.rerecord _

private theorem Recorded.changeLayout (h : Recorded frames bound image old commands list s)
    {start target : ImageLayout} {change : LayoutChange}
    (possible : LayoutChange.between? start target = some change) :
    (tracked sampled).KeepsTask (changeLayout commands image start target) s
      (fun _ t => Recorded frames bound image old commands
        (list ++ [.barrier { image, old := start, new := target, change }]) t)
      (Failed (Sampleable frames bound)) := by
  unfold Vulkan.changeLayout
  rw [possible, keepsTask_liftM]
  exact h.record _

private theorem Recorded.begin (h : Recorded frames bound image old commands list s) :
    (tracked sampled).KeepsTask (Driver.perform (.beginCommands commands)) s
      (fun _ t => Recorded frames bound image old commands [] t)
      (Failed (Sampleable frames bound)) := by
  rw [keepsTask_perform]
  refine ⟨trivial, fun t step => ?_, fun e t step => ?_⟩
  · obtain rfl : t = _ := step
    exact h.rerecord []
  · obtain rfl : t = s := step
    exact ⟨h.toSampleable, possible_operation _ e⟩

private theorem Recorded.recordCopy (h : Recorded frames bound image old commands list s)
    (staging : StagingBuffer) (extent : Extent) {change : LayoutChange}
    (possible : LayoutChange.between? old .transferTarget = some change) :
    (tracked sampled).KeepsTask (recordCopy commands staging image extent old) s
      (fun _ t => Recorded frames bound image old commands
        (copyCommands staging image extent old change) t)
      (Failed (Sampleable frames bound)) := by
  simp only [Vulkan.recordCopy, keepsTask_bind, keepsTask_liftM]
  refine h.begin.mono (fun _ t h => ?_) fun _ _ => id
  refine (h.changeLayout possible).mono (fun _ t h => ?_) fun _ _ => id
  refine (h.record _).mono fun _ t h => ?_
  refine (h.changeLayout rfl).mono (fun _ t h => ?_) fun _ _ => id
  exact (recorded_lasts.perform h (.endCommands commands) trivial).mono (fun _ _ => id)
    fun _ _ failed => ⟨failed.1.toSampleable, failed.2⟩

-- The copy is in order. It takes the image to the layout that it is sampled in, or is not accepted.
private theorem Recorded.submit {staging : StagingBuffer} {extent : Extent}
    {change : LayoutChange}
    (h : Recorded frames bound image old commands
      (copyCommands staging image extent old change) s)
    (after : old ≠ .undefined → change.AfterSampling) (queue : Handle .queue) :
    (tracked none).KeepsTask (Driver.perform (.submit queue { commands := [commands] })) s
      (fun _ t => Sampleable frames (some image) t) (Failed (Sampleable frames bound)) := by
  have handed : s.commandsOf { commands := [commands] } =
      copyCommands staging image extent old change := by
    simp [LayoutState.commandsOf, h.recorded]
  rw [keepsTask_perform]
  refine ⟨⟨?_, nofun⟩, fun t step => ?_, fun e t step => ?_⟩
  · rw [handed]
    exact h.orderly staging extent after
  · obtain rfl : t = _ := step
    rw [handed]
    exact h.copied_sampleable staging extent
  · obtain rfl : t = s := step
    exact ⟨h.toSampleable, possible_operation _ e⟩

/-- What goes away is neither what frames are recorded into nor the image that is bound. -/
theorem Sampleable.drop (h : Sampleable frames bound s) {o : Object}
    (unframed : ∀ commands, frames = some commands → commands.object ≠ o)
    (unbound : ∀ image, bound = some image → image.object ≠ o) :
    Sampleable frames bound (s.drop o) where
  copied := h.copied
  framed own frame := by
    obtain ⟨live, passes⟩ := h.framed own frame
    exact ⟨List.mem_filter.mpr ⟨live, by simpa using unframed own frame⟩, passes⟩
  shown own shown := by
    obtain ⟨live, layout⟩ := h.shown own shown
    exact ⟨List.mem_filter.mpr ⟨live, by simpa using unbound own shown⟩, layout⟩

/-- Objects of different kinds are not the same. -/
theorem object_ne_of_kind {kind kind' : ObjectKind} (apart : kind ≠ kind') (one : Handle kind)
    (other : Handle kind') : one.object ≠ other.object :=
  fun same => apart (congrArg Object.kind same)

private theorem Sampleable.freeCommands (h : Sampleable frames bound s)
    (apart : frames ≠ some commands) (pool : Handle .commandPool) :
    (tracked sampled).Keeps (Driver.freeCommands pool commands) s fun _ t =>
      Sampleable frames bound t := by
  rw [keeps_freeCommands]
  refine ⟨trivial, fun t step => ?_⟩
  obtain rfl : t = _ := step
  refine h.drop (fun own frame same => apart ?_) fun own _ =>
    object_ne_of_kind (by simp) own commands
  rw [frame, Handle.object_inj.mp same]

private theorem Ready.createCommands (h : Ready frames bound image old s)
    (pool : Handle .commandPool) :
    (tracked sampled).KeepsTask (Driver.create (.commandBuffer pool)) s
      (fun commands t => Recorded frames bound image old commands [] t)
      (Failed (Sampleable frames bound)) := by
  rw [Contract.keepsTask_create]
  refine ⟨trivial, fun commands t step => ?_, fun e t step => ?_⟩
  · obtain ⟨-, fresh, rfl⟩ := step
    have apart : frames ≠ some commands := fun frame => fresh (h.framed commands frame).1
    have ready := ready_lasts s { s with live := commands.object :: s.live } h
      ⟨rfl, rfl, fun _ mem _ => List.mem_cons_of_mem _ mem⟩
    exact Recorded.rerecord ⟨ready, apart, rfl⟩ []
  · obtain rfl : t = s := step
    exact ⟨h.toSampleable, possible_creation _ e⟩

-- What is known of the image after a copy is what was known of the one that is bound.
private theorem Ready.bind (h : Ready frames bound image old s)
    (copied : Sampleable frames (some image) t) : Sampleable frames bound t where
  copied := copied.copied
  framed := copied.framed
  shown own shown := copied.shown own (congrArg some (h.only own shown).symm)

private theorem Ready.copyIntoImage (h : Ready frames bound image old s)
    (start : old = .undefined ∨ old = .shaderReadOnly) (staging : StagingBuffer)
    (extent : Extent) :
    (tracked none).KeepsTask (copyIntoImage rig staging image extent old) s
      (fun _ t => Sampleable frames (some image) t) (Failed (Sampleable frames bound)) := by
  obtain ⟨change, possible, after⟩ := change_of_start start
  unfold Vulkan.copyIntoImage
  rw [keepsTask_bind]
  refine (h.createCommands _).mono (fun commands t recorded => ?_) fun _ _ => id
  simp only [keepsTask_closing, keepsTask_bind]
  have freed {e : GraphicsError} {u : LayoutState} (failed : Failed (Sampleable frames bound) e u) :
      (tracked none).Keeps (Driver.freeCommands rig.commandPool commands) u
        fun _ => Failed (Sampleable frames bound) e :=
    failed.undo fun known => known.freeCommands recorded.apart _
  refine (recorded.recordCopy staging extent possible).mono (fun _ u done => ?_)
    fun _ _ => freed
  refine (done.submit after rig.queue).mono (fun _ u copied => ?_) fun _ _ => freed
  refine (sampleable_lasts.perform copied (.queueIdle rig.queue) trivial).mono
    (fun _ u copied => copied.freeCommands recorded.apart _) fun _ _ failed => ?_
  exact freed ⟨h.bind failed.1, failed.2⟩

/-! ## Textures -/

private theorem Sampleable.releaseImage (h : Sampleable frames none s) (image : Handle .image) :
    (tracked sampled).Keeps (Driver.release image) s fun _ t => Sampleable frames none t := by
  rw [keeps_release]
  refine ⟨trivial, fun t step => ?_⟩
  obtain rfl : t = _ := step
  exact h.drop (fun own _ => object_ne_of_kind (by simp) own image) nofun

private theorem Sampleable.releaseBare (h : Sampleable frames none s) (image : Handle .image)
    (memory : Handle .memory) :
    (tracked sampled).Keeps (SampledImage.releaseBare image memory) s fun _ t =>
      Sampleable frames none t := by
  unfold SampledImage.releaseBare
  rw [keeps_bind]
  exact (h.releaseImage image).mono fun _ t h => sampleable_lasts.release h memory (by simp)

private theorem Sampleable.createImage (h : Sampleable frames none s) (request : ImageRequest) :
    (tracked sampled).KeepsTask (Driver.create (.image request)) s
      (fun image t => Ready frames none image .undefined t)
      (Failed (Sampleable frames none)) := by
  rw [Contract.keepsTask_create]
  refine ⟨trivial, fun image t step => ?_, fun e t step => ?_⟩
  · obtain ⟨-, -, rfl⟩ := step
    exact {
      copied := fun other => .inr (h.copied other)
      framed := fun own frame =>
        ⟨List.mem_cons_of_mem _ (h.framed own frame).1, (h.framed own frame).2⟩
      shown := nofun
      only := nofun
      live := List.mem_cons_self
      layout := if_pos rfl
      fresh := fun _ => ⟨.inl rfl, .inl rfl⟩ }
  · obtain rfl : t = s := step
    exact ⟨h, possible_creation _ e⟩

private theorem Sampleable.createBare (h : Sampleable frames none s) (extent : Extent) :
    (tracked sampled).KeepsTask (SampledImage.createBare rig extent) s
      (fun made t => Ready frames none made.1 .undefined t) (Failed (Sampleable frames none)) := by
  unfold SampledImage.createBare
  simp only [keepsTask_bind, keepsTask_undoing, keepsTask_liftM, keepsTask_pure]
  refine (h.createImage _).mono (fun image t ready => ?_) fun _ _ => id
  refine (ready_lasts.answers.ask (c := .imageNeeds image) trivial ready).mono
    fun needs t ready => ?_
  refine (ready_lasts.allocate ready needs _).mono (fun memory t ready => ?_) fun _ _ failed => ?_
  · refine (ready_lasts.perform ready (.bindImage ..) trivial).mono (fun _ _ => id)
      fun _ _ failed => ?_
    exact Failed.undo ⟨failed.1.toSampleable, failed.2⟩ fun known => known.releaseBare ..
  · exact Failed.undo ⟨failed.1.toSampleable, failed.2⟩ fun known => known.releaseImage _

/-- A new texture is ready to be sampled. -/
theorem Sampleable.createTexture (h : Sampleable frames none s) (pixels : PixelBuffer) :
    (tracked none).KeepsTask (SampledImage.create rig pixels) s
      (fun texture t => Sampleable frames (some texture.image) t)
      (Failed (Sampleable frames none)) := by
  unfold SampledImage.create
  simp only [keepsTask_bind, keepsTask_undoing, keepsTask_closing, keepsTask_driverLog,
    keepsTask_pure]
  refine (sampleable_lasts.ofPixels h pixels).mono (fun staging t h => ?_) fun _ _ => id
  refine (h.createBare _).mono (fun made t ready => ?_) fun _ _ failed =>
    failed.undo fun h => sampleable_lasts.stagingRelease h staging
  obtain ⟨image, memory⟩ := made
  refine (ready.copyIntoImage (.inl rfl) staging _).mono (fun _ t copied => ?_)
    fun _ _ failed => ?_
  · refine (sampleable_lasts.stagingRelease copied staging).mono fun _ t copied => ?_
    refine (sampleable_lasts.create copied (by simp)).mono (fun _ _ => id) fun _ _ failed => ?_
    exact Failed.undo ⟨ready.bind failed.1, failed.2⟩ fun known => known.releaseBare ..
  · refine (failed.undo fun h => sampleable_lasts.stagingRelease h staging).mono
      fun _ t failed => ?_
    exact failed.undo fun known => known.releaseBare ..

/-- A texture that is overwritten stays ready to be sampled, also when that fails. -/
theorem Sampleable.updateTexture {texture : SampledImage}
    (h : Sampleable frames (some texture.image) s) (pixels : PixelBuffer) :
    (tracked none).KeepsTask (SampledImage.update rig texture pixels) s
      (fun _ t => Sampleable frames (some texture.image) t)
      (Failed (Sampleable frames (some texture.image))) := by
  unfold SampledImage.update
  by_cases other : pixels.extent ≠ texture.extent
  · rw [if_pos other]
    exact ⟨h, id⟩
  rw [if_neg other]
  simp only [keepsTask_bind, keepsTask_closing]
  refine (sampleable_lasts.ofPixels h pixels).mono (fun staging t h => ?_) fun _ _ => id
  obtain ⟨live, layout⟩ := h.shown _ rfl
  have ready : Ready frames (some texture.image) texture.image .shaderReadOnly t :=
    { h with
      only := fun _ own => (Option.some.inj own).symm
      live, layout
      fresh := fun same => absurd same (by decide) }
  refine (ready.copyIntoImage (.inr rfl) staging _).mono
    (fun _ t copied => sampleable_lasts.stagingRelease copied staging) fun _ _ failed => ?_
  exact failed.undo fun h => sampleable_lasts.stagingRelease h staging

/-- After a texture is released no image is bound. -/
theorem Sampleable.releaseTexture (h : Sampleable frames bound s) (texture : SampledImage) :
    (tracked sampled).Keeps texture.release s fun _ t => Sampleable frames none t := by
  have unbound : Sampleable frames none s := ⟨h.copied, h.framed, nofun⟩
  unfold SampledImage.release
  simp only [keeps_bind, keeps_log]
  refine (sampleable_lasts.release unbound texture.view (by simp)).mono fun _ t h => ?_
  refine (h.releaseImage texture.image).mono fun _ t h => ?_
  exact sampleable_lasts.release h texture.memory (by simp)

end Vulkan

end PaintPresenter
