import PaintPresenter.Proofs.Occupancy
import PaintPresenter.Proofs.StoredPixels

/-!
# The pixels of an upload

The number of bytes of an upload is worked out in four places: for the buffer, for what is mapped of
its memory, for what is written and for what the copy reads. Here they agree, and a texture that was
created or overwritten holds the pixels that were asked for, whatever was uploaded before and
whatever failed, also when an earlier copy is executed late.
-/

namespace PaintPresenter.Vulkan

/-! ## What an upload knows -/

private structure Fact where
  object : Object
  about : Thing → Prop

private def Fact.Holds (f : Fact) (s : PixelState) : Prop :=
  ∃ thing, s.things f.object = some thing ∧ f.about thing

-- Each fact is about an object of its own. The queue is idle if an image is known to show a
-- picture.
private structure Knows (facts : List Fact) (shown : List (Handle .image × PixelBuffer))
    (s : PixelState) : Prop where
  holds : ∀ f ∈ facts, f.Holds s
  apart : (facts.map Fact.object).Nodup
  shows : ∀ e ∈ shown, s.queued = [] ∧ s.Pictures e.1 e.2

variable {facts facts' : List Fact} {shown : List (Handle .image × PixelBuffer)}
  {α : Type} {s t : PixelState} {n : Nat} {rig : Rig}

open Contract

private def tight (n : Nat) : Contract Driver PixelState :=
  { pixelWorld with permits := fun s => s.Moves n }

private theorem Knows.perm (h : Knows facts shown s) (same : facts.Perm facts') :
    Knows facts' shown s :=
  ⟨fun f mem => h.holds f (same.mem_iff.mpr mem), (same.map _).nodup_iff.mp h.apart, h.shows⟩

private theorem Knows.unshown (h : Knows facts shown s) : Knows facts [] s :=
  ⟨h.holds, h.apart, List.forall_mem_nil _⟩

private theorem Knows.tail {f : Fact} (h : Knows (f :: facts) shown s) : Knows facts shown s :=
  ⟨fun g mem => h.holds g (List.mem_cons_of_mem _ mem), (List.nodup_cons.mp h.apart).2, h.shows⟩

private theorem Knows.resubmitted (h : Knows facts [] s) (queued : List Command) :
    Knows facts [] { s with queued } :=
  ⟨h.holds, h.apart, List.forall_mem_nil _⟩

private theorem Knows.weaken {o : Object} {P Q : Thing → Prop}
    (h : Knows (⟨o, P⟩ :: facts) shown s) (weaker : ∀ thing, P thing → Q thing) :
    Knows (⟨o, Q⟩ :: facts) shown s := by
  obtain ⟨⟨thing, here, known⟩, rest⟩ := List.forall_mem_cons.mp h.holds
  exact ⟨List.forall_mem_cons.mpr ⟨⟨thing, here, weaker thing known⟩, rest⟩, h.apart, h.shows⟩

-- What is known of an image that shows a picture is part of that.
private theorem Knows.execute (h : Knows facts shown s) (execute : s.Execute t) :
    Knows facts shown t := by
  have unseen : ∀ e ∈ shown, t.queued = [] ∧ t.Pictures e.1 e.2 := by
    intro e mem
    have idle := (h.shows e mem).1
    cases execute with
    | copy _ next => exact absurd (idle.symm.trans next) (by simp)
    | other next => exact absurd (idle.symm.trans next) (by simp)
  cases execute <;> exact ⟨h.holds, h.apart, unseen⟩

private theorem Knows.progress (h : Knows facts shown s) (progress : s.Progress t) :
    Knows facts shown t := by
  induction progress with
  | refl => exact h
  | tail _ execute ih => exact ih.execute execute

-- Whatever is executed around a call, it is enough to look at what the call does.
private theorem Knows.step (h : Knows facts shown s) {c : DriverCall} {reply : c.Reply}
    (step : (tight n).step s c reply t) {shown' : List (Handle .image × PixelBuffer)}
    (effect : ∀ u v, Knows facts shown u → u.Effect c reply v → Knows facts' shown' v) :
    Knows facts' shown' t := by
  obtain ⟨u, v, first, does, later⟩ := step
  exact (effect u v (h.progress first) does).progress later

private theorem Knows.still (h : Knows facts shown s) {c : DriverCall} {reply : c.Reply}
    (step : (tight n).step s c reply t) (nothing : ∀ u v : PixelState, u.Effect c reply v → v = u) :
    Knows facts shown t :=
  h.step step fun u v h effect => nothing u v effect ▸ h

private theorem Knows.elsewhere (h : Knows facts shown s) {o : Object}
    (others : ∀ f ∈ facts, f.object ≠ o) (unshown : ∀ e ∈ shown, e.1.object ≠ o)
    (thing : Option Thing) :
    Knows facts shown { s with things := Function.update s.things o thing } := by
  refine ⟨fun f mem => ?_, h.apart, fun e mem => ⟨(h.shows e mem).1, ?_, (h.shows e mem).2.2⟩⟩
  · obtain ⟨known, here, about⟩ := h.holds f mem
    exact ⟨known, (Function.update_of_ne (others f mem) ..).trans here, about⟩
  · exact (Function.update_of_ne (unshown e mem) ..).trans (h.shows e mem).2.1

private theorem Knows.put (h : Knows facts shown s) {o : Object}
    (others : ∀ f ∈ facts, f.object ≠ o) (unshown : ∀ e ∈ shown, e.1.object ≠ o)
    {about : Thing → Prop} {thing : Thing} (known : about thing) :
    Knows (⟨o, about⟩ :: facts) shown (s.put o thing) := by
  have rest := h.elsewhere others unshown (some thing)
  refine ⟨?_, List.nodup_cons.mpr ⟨?_, rest.apart⟩, rest.shows⟩
  · rintro f mem
    obtain rfl | mem := List.mem_cons.mp mem
    · exact ⟨thing, Function.update_self .., known⟩
    · exact rest.holds f mem
  · rw [List.mem_map]
    rintro ⟨f, mem, same⟩
    exact others f mem same

private theorem Knows.others {f : Fact} (h : Knows (f :: facts) shown s) :
    ∀ g ∈ facts, g.object ≠ f.object := fun g mem same =>
  (List.nodup_cons.mp h.apart).1 (List.mem_map.mpr ⟨g, mem, same⟩)

private theorem Knows.fresh (h : Knows facts shown s) {o : Object} (gone : s.things o = none) :
    (∀ f ∈ facts, f.object ≠ o) ∧ ∀ e ∈ shown, e.1.object ≠ o := by
  constructor
  · rintro f mem rfl
    obtain ⟨thing, here, -⟩ := h.holds f mem
    exact absurd (gone.symm.trans here) (by simp)
  · rintro e mem rfl
    exact absurd (gone.symm.trans (h.shows e mem).2.1) (by simp)

private theorem unshown_of_kind {o : Object} (bare : o.kind ≠ .image) :
    ∀ e ∈ shown, e.1.object ≠ o := fun _ _ same => bare (same ▸ rfl)

private theorem Knows.turn {o : Object} {about about' : Thing → Prop}
    (h : Knows (⟨o, about⟩ :: facts) shown s) (bare : o.kind ≠ .image)
    {becomes : Thing → Thing → Prop} (follows : ∀ old new, about old → becomes old new → about' new)
    (turns : s.Turns o becomes t) : Knows (⟨o, about'⟩ :: facts) shown t := by
  obtain ⟨known, here, holds⟩ := h.holds _ List.mem_cons_self
  obtain ⟨gone, -⟩ | ⟨old, new, there, change, rfl⟩ := turns
  · exact absurd (gone.symm.trans here) (by simp)
  · obtain rfl := Option.some.inj (there.symm.trans here)
    exact h.tail.put h.others (unshown_of_kind bare) (follows _ _ holds change)

/-! ## Calls of an upload -/

private theorem Knows.create (h : Knows facts shown s) (request : Creation)
    (moves : s.Moves n (.create request)) :
    (tight n).KeepsTask (Driver.create request) s
      (fun made t => Knows (⟨made.object, request.Makes⟩ :: facts) shown t)
      fun _ t => Knows facts shown t := by
  rw [Contract.keepsTask_create]
  refine ⟨moves, fun made t step => ?_, fun e t step => h.still step fun _ _ => id⟩
  apply h.step step
  rintro u _ h ⟨gone, thing, makes, rfl⟩
  exact h.put (h.fresh gone).1 (h.fresh gone).2 makes

private theorem Knows.releaseOther (h : Knows facts shown s) {kind : ObjectKind}
    (handle : Handle kind) (others : ∀ f ∈ facts, f.object ≠ handle.object)
    (unshown : ∀ e ∈ shown, e.1.object ≠ handle.object) :
    (tight n).Keeps (Driver.release handle) s fun _ t => Knows facts shown t := by
  rw [keeps_release]
  refine ⟨trivial, fun t step => h.step step ?_⟩
  rintro u _ h rfl
  exact h.elsewhere others unshown none

private theorem Knows.release {kind : ObjectKind} {handle : Handle kind} {P : Thing → Prop}
    (h : Knows (⟨handle.object, P⟩ :: facts) shown s)
    (unshown : ∀ e ∈ shown, e.1.object ≠ handle.object) :
    (tight n).Keeps (Driver.release handle) s fun _ t => Knows facts shown t :=
  h.tail.releaseOther handle h.others unshown

private theorem Knows.freeCommands {commands : Handle .commandBuffer} {about : Thing → Prop}
    (h : Knows (⟨commands.object, about⟩ :: facts) shown s) (pool : Handle .commandPool) :
    (tight n).Keeps (Driver.freeCommands pool commands) s fun _ t => Knows facts shown t := by
  rw [keeps_freeCommands]
  refine ⟨trivial, fun t step => h.step step ?_⟩
  rintro u _ h rfl
  exact h.tail.elsewhere h.others (unshown_of_kind (by simp [Handle.object])) none

private theorem Knows.perform {o : Object} {P : Thing → Prop}
    (h : Knows (⟨o, P⟩ :: facts) shown s) (bare : o.kind ≠ .image) (operation : Operation)
    (moves : s.Moves n (.perform operation)) {becomes : Thing → Thing → Prop} (Q : Thing → Prop)
    (follows : ∀ old new, P old → becomes old new → Q new)
    (does : ∀ u v : PixelState, u.Effect (.perform operation) (.ok ()) v → u.Turns o becomes v)
    (fails : ∀ e, ∀ u v : PixelState, u.Effect (.perform operation) (.error e) v → v = u) :
    (tight n).KeepsTask (Driver.perform operation) s
      (fun _ t => Knows (⟨o, Q⟩ :: facts) shown t) fun _ t => Knows (⟨o, P⟩ :: facts) shown t := by
  rw [keepsTask_perform]
  refine ⟨moves, fun t step => ?_, fun e t step => h.still step (fails e)⟩
  exact h.step step fun u v h effect => h.turn bare follows (does u v effect)

/-! ## Staging -/

private def holding (memory : Handle .memory) (known : (Nat → UInt8) → Prop)
    (mapped : Option (Nat × Nat) → Prop) : Fact :=
  ⟨memory.object, fun thing => ∃ contents window,
    thing = .memory contents window ∧ known contents ∧ mapped window⟩

private abbrev allocated (memory : Handle .memory) : Fact :=
  holding memory (fun _ => True) fun _ => True

private abbrev housed (buffer : Handle .buffer) (bytes : Nat) (memory : Handle .memory) : Fact :=
  ⟨buffer.object, (· = .buffer bytes (some (memory, 0)))⟩

private abbrev filled (memory : Handle .memory) (p : PixelBuffer) : Fact :=
  holding memory (fun contents => ∀ k < p.length, contents k = Bytes.byteAt p.rgba k) fun _ => True

private theorem Knows.allocate (h : Knows facts shown s) (needs : MemoryRequirements)
    (flags : MemoryFlags) :
    (tight n).KeepsTask (allocate rig needs flags) s
      (fun memory t => Knows (allocated memory :: facts) shown t)
      fun _ t => Knows facts shown t := by
  unfold Vulkan.allocate
  cases rig.memory.typeFor? needs.typeBits flags with
  | none => exact h
  | some type =>
    refine (h.create (.memory { bytes := needs.bytes, type }) trivial).mono (fun memory t h => ?_)
      fun _ _ => id
    refine h.weaken fun thing => ?_
    rintro ⟨contents, rfl⟩
    exact ⟨contents, none, rfl, trivial, trivial⟩

private theorem Knows.stagingRelease (staging : StagingBuffer) {P Q : Thing → Prop}
    (h : Knows (⟨staging.memory.object, P⟩ :: ⟨staging.buffer.object, Q⟩ :: facts) shown s) :
    (tight n).Keeps staging.release s fun _ t => Knows facts shown t := by
  unfold StagingBuffer.release
  rw [keeps_bind]
  apply ((h.perm (.swap ..)).release (unshown_of_kind (by simp [Handle.object]))).mono
  exact fun _ t h => h.release (unshown_of_kind (by simp [Handle.object]))

private theorem Knows.stagingCreate (h : Knows facts shown s) :
    (tight n).KeepsTask (StagingBuffer.create rig n) s
      (fun staging t => staging.bytes = n ∧
        Knows (allocated staging.memory :: housed staging.buffer n staging.memory :: facts) shown t)
      fun _ t => Knows facts shown t := by
  unfold StagingBuffer.create
  rw [keepsTask_bind]
  refine (h.create (.buffer { bytes := n }) rfl).mono (fun buffer t h => ?_) fun _ _ => id
  rw [keepsTask_bind, keepsTask_liftM, keeps_bufferNeeds]
  refine ⟨trivial, fun needs t step => ?_⟩
  have h := h.still step fun _ _ => id
  rw [keepsTask_bind, keepsTask_undoing]
  apply (h.allocate needs _).mono
  · intro memory t h
    rw [keepsTask_bind, keepsTask_undoing]
    refine ((h.perm (.swap ..)).perform (by simp [Handle.object]) (.bindBuffer buffer memory 0)
      trivial (housed buffer n memory).about ?_ (fun _ _ => id) fun _ _ _ => id).mono ?_ ?_
    · rintro old new rfl rfl
      rfl
    · exact fun _ u h => ⟨rfl, h.perm (.swap ..)⟩
    · exact fun e u h => (h.perm (.swap ..)).stagingRelease ⟨buffer, memory, n⟩
  · exact fun e t h => h.release (unshown_of_kind (by simp [Handle.object]))

private theorem Knows.fill (p : PixelBuffer) {staging : StagingBuffer}
    (bytes : staging.bytes = p.length)
    (h : Knows (allocated staging.memory :: facts) shown s) :
    (tight p.length).KeepsTask (staging.fill p) s
      (fun _ t => Knows (filled staging.memory p :: facts) shown t)
      fun _ t => Knows (allocated staging.memory :: facts) shown t := by
  unfold StagingBuffer.fill
  rw [keepsTask_bind, bytes]
  refine (h.perform (by simp [Handle.object]) (.mapMemory staging.memory 0 p.length) ⟨rfl, rfl⟩
    (holding staging.memory (fun _ => True) fun window =>
      ∃ length, p.length ≤ length ∧ window = some (0, length)).about ?_ (fun _ _ => id)
    fun _ _ _ => id).mono ?_ fun _ _ => id
  · rintro _ new ⟨contents, window, rfl, -⟩ ⟨length, long, rfl⟩
    exact ⟨contents, _, rfl, trivial, length, long, rfl⟩
  · intro _ t h
    simp only [keepsTask_bind, keepsTask_liftM, keeps_store]
    refine ⟨⟨p.size_rgba, ?_⟩, fun u step => ?_⟩
    · obtain ⟨_, here, contents, _, rfl, -, length, long, rfl⟩ := h.holds _ List.mem_cons_self
      exact ⟨contents, 0, length, here, long⟩
    · have h : Knows (filled staging.memory p :: facts) shown u := by
        refine h.step step fun v w h turns => h.turn (by simp [Handle.object]) ?_ turns
        rintro _ new ⟨old, _, rfl, -, length, long, rfl⟩ ⟨contents, rfl, written⟩
        refine ⟨contents, _, rfl, fun k below => ?_, trivial⟩
        rw [written (p.size_rgba ▸ long), if_pos ⟨Nat.zero_le k, by simpa using below⟩,
          Nat.sub_zero]
      rw [keeps_unmap]
      refine ⟨trivial, fun v step => h.step step fun v w h turns => ?_⟩
      refine h.turn (by simp [Handle.object]) ?_ turns
      rintro _ _ ⟨contents, window, rfl, known, -⟩ rfl
      exact ⟨contents, none, rfl, known, trivial⟩

private theorem Knows.ofPixels (h : Knows facts shown s) (p : PixelBuffer) :
    (tight p.length).KeepsTask (StagingBuffer.ofPixels rig p) s
      (fun staging t => Knows (filled staging.memory p ::
        housed staging.buffer p.length staging.memory :: facts) shown t)
      fun _ t => Knows facts shown t := by
  unfold StagingBuffer.ofPixels
  rw [keepsTask_bind]
  refine h.stagingCreate.mono (fun staging t ⟨bytes, h⟩ => ?_) fun _ _ => id
  rw [keepsTask_bind, keepsTask_undoing]
  exact (h.fill p bytes).mono (fun _ u h => h) fun e u h => h.stagingRelease staging

/-! ## The image -/

private abbrev pictured (image : Handle .image) (extent : Extent) : Fact :=
  ⟨image.object, (· = .image textureFormat extent)⟩

private theorem Knows.releaseBare {image : Handle .image} {memory : Handle .memory}
    {P Q : Thing → Prop} (h : Knows (⟨memory.object, P⟩ :: ⟨image.object, Q⟩ :: facts) [] s) :
    (tight n).Keeps (SampledImage.releaseBare image memory) s fun _ t => Knows facts [] t := by
  unfold SampledImage.releaseBare
  rw [keeps_bind]
  apply ((h.perm (.swap ..)).release (by simp)).mono
  exact fun _ t h => h.release (by simp)

private theorem Knows.createBare (h : Knows facts [] s) (extent : Extent) :
    (tight n).KeepsTask (SampledImage.createBare rig extent) s
      (fun made t => Knows (allocated made.2 :: pictured made.1 extent :: facts) [] t)
      fun _ t => Knows facts [] t := by
  unfold SampledImage.createBare
  rw [keepsTask_bind]
  refine (h.create (.image { format := textureFormat, extent }) trivial).mono
    (fun image t h => ?_) fun _ _ => id
  rw [keepsTask_bind, keepsTask_liftM, keeps_imageNeeds]
  refine ⟨trivial, fun needs t step => ?_⟩
  have h := h.still step fun _ _ => id
  rw [keepsTask_bind, keepsTask_undoing]
  apply (h.allocate needs _).mono
  · intro memory t h
    rw [keepsTask_bind, keepsTask_undoing, keepsTask_perform]
    exact ⟨trivial, fun u step => h.still step fun _ _ => id, fun e u step =>
      (h.still step fun _ _ => id).releaseBare⟩
  · exact fun e t h => h.release (by simp)

/-! ## The copy -/

private abbrev wholeCopy (staging : StagingBuffer) (image : Handle .image) (extent : Extent) :
    BufferCopy :=
  { buffer := staging.buffer, image, layout := .transferTarget, extent }

private abbrev recording (commands : Handle .commandBuffer) (known : List Command → Prop) : Fact :=
  ⟨commands.object, fun thing => ∃ recorded, thing = .commands recorded ∧ known recorded⟩

private theorem Knows.record {commands : Handle .commandBuffer} {P Q : List Command → Prop}
    (h : Knows (recording commands P :: facts) shown s) (command : Command)
    (moves : s.Moves n (.record commands command))
    (follows : ∀ recorded, P recorded → Q (recorded ++ [command])) :
    (tight n).Keeps (Driver.record commands command) s fun _ t =>
      Knows (recording commands Q :: facts) shown t := by
  rw [keeps_record]
  refine ⟨moves, fun t step => h.step step fun u v h turns => ?_⟩
  refine h.turn (by simp [Handle.object]) ?_ turns
  rintro _ _ ⟨recorded, rfl, known⟩ rfl
  exact ⟨_, rfl, follows _ known⟩

private theorem Knows.changeLayout {commands : Handle .commandBuffer} {P Q : List Command → Prop}
    (h : Knows (recording commands P :: facts) shown s) (image : Handle .image)
    (old new : ImageLayout)
    (follows : ∀ recorded change, P recorded → Q (recorded ++ [.barrier change])) :
    (tight n).KeepsTask (changeLayout commands image old new) s
      (fun _ t => Knows (recording commands Q :: facts) shown t)
      fun _ t => Knows (recording commands P :: facts) shown t := by
  unfold Vulkan.changeLayout
  cases LayoutChange.between? old new with
  | none => exact h
  | some change =>
    rw [keepsTask_liftM]
    exact h.record _ trivial fun recorded => follows recorded _

-- A recording of one copy between two layout changes.
private def Wraps (region : BufferCopy) (recorded : List Command) : Prop :=
  ∃ before after, recorded = [.barrier before, .copy region, .barrier after]

private theorem Knows.recordCopy {commands : Handle .commandBuffer} {staging : StagingBuffer}
    {p : PixelBuffer} (image : Handle .image) {P : List Command → Prop}
    (h : Knows (recording commands P :: facts) shown s)
    (staged : housed staging.buffer p.length staging.memory ∈ facts) (old : ImageLayout) :
    (tight p.length).KeepsTask (recordCopy commands staging image p.extent old) s
      (fun _ t => Knows
        (recording commands (Wraps (wholeCopy staging image p.extent)) :: facts) shown t)
      fun _ t => Knows (recording commands (fun _ => True) :: facts) shown t := by
  have any {P : List Command → Prop} {t : PixelState}
      (h : Knows (recording commands P :: facts) shown t) :
      Knows (recording commands (fun _ => True) :: facts) shown t :=
    h.weaken fun _ ⟨recorded, same, _⟩ => ⟨recorded, same, trivial⟩
  simp only [Vulkan.recordCopy, keepsTask_bind, keepsTask_liftM]
  refine (h.perform (by simp [Handle.object]) (.beginCommands commands) trivial
    (recording commands (· = [])).about ?_ (fun _ _ => id) fun _ _ _ => id).mono ?_
    fun _ _ => any
  · rintro _ _ ⟨recorded, rfl, -⟩ rfl
    exact ⟨[], rfl, rfl⟩
  intro _ t h
  refine (h.changeLayout (Q := fun recorded => ∃ before, recorded = [.barrier before]) image old
    .transferTarget ?_).mono ?_ fun _ _ => any
  · rintro _ change rfl
    exact ⟨change, rfl⟩
  intro _ t h
  apply (h.record (Q := fun recorded => ∃ before, recorded =
    [.barrier before, .copy (wholeCopy staging image p.extent)]) _ ?_ ?_).mono
  · intro _ t h
    refine (h.changeLayout (Q := Wraps (wholeCopy staging image p.extent)) image .transferTarget
      .shaderReadOnly ?_).mono ?_ fun _ _ => any
    · rintro _ after ⟨before, rfl⟩
      exact ⟨before, after, rfl⟩
    · intro _ t h
      rw [keepsTask_perform]
      exact ⟨trivial, fun u step => h.still step fun _ _ => id, fun e u step =>
        any (h.still step fun _ _ => id)⟩
  · obtain ⟨_, here, rfl⟩ := h.holds _ (List.mem_cons_of_mem _ staged)
    refine ⟨fun k => ?_, _, here⟩
    rw [BufferCopy.reads_iff rfl rfl, PixelBuffer.length, p.size_bytes]
  · rintro _ ⟨before, rfl⟩
    exact ⟨before, rfl⟩

/-! ## The queue -/

-- A copy is waited for as the last one of the queue, or no copy is and its image shows what was
-- asked for.
private def Due (region : BufferCopy) (p : PixelBuffer) (s : PixelState) : Prop :=
  (∃ older after, s.queued = older ++ [.copy region, .barrier after]) ∨
    (∀ later, Command.copy later ∉ s.queued) ∧
      ∀ x y, region.Covers x y → s.texels region.image x y = p.color x y

private abbrev staged (staging : StagingBuffer) (image : Handle .image) (p : PixelBuffer) :
    List Fact :=
  [filled staging.memory p, housed staging.buffer p.length staging.memory, pictured image p.extent]

section Queue

variable {staging : StagingBuffer} {image : Handle .image} {p : PixelBuffer}

private theorem Knows.sound (h : Knows facts shown s) (ready : staged staging image p ⊆ facts) :
    ∃ contents, s.Sound (wholeCopy staging image p.extent) contents 0 ∧
      ∀ k < p.length, contents k = Bytes.byteAt p.rgba k := by
  obtain ⟨_, memory, contents, window, rfl, known, -⟩ :=
    h.holds (filled staging.memory p) (ready (by simp))
  obtain ⟨_, buffer, rfl⟩ :=
    h.holds (housed staging.buffer p.length staging.memory) (ready (by simp))
  obtain ⟨_, target, rfl⟩ := h.holds (pictured image p.extent) (ready (by simp))
  refine ⟨contents, ⟨⟨p.length, staging.memory, window, buffer, memory, fun k => ?_⟩, p.extent,
    target, UInt32.le_refl _, UInt32.le_refl _⟩, known⟩
  rw [BufferCopy.reads_iff rfl rfl, PixelBuffer.length, p.size_bytes]
  exact id

private theorem ofBytes_start {contents : Nat → UInt8}
    (known : ∀ k < p.length, contents k = Bytes.byteAt p.rgba k) {x y : Nat}
    (covers : (wholeCopy staging image p.extent).Covers x y) :
    Texel.ofBytes contents (0 + (wholeCopy staging image p.extent).start x y) = p.color x y := by
  have inside := Extent.index_lt_area covers.1 covers.2
  have size : p.length = p.extent.area * 4 := p.size_bytes
  rw [← p.ofBytes_rgba covers.1 covers.2]
  have place : 0 + (wholeCopy staging image p.extent).start x y = 4 * p.pixelIndex x y := by
    simp [BufferCopy.start, BufferCopy.pitch, PixelBuffer.pixelIndex]
  have index : p.pixelIndex x y < p.extent.area := inside
  rw [place, Texel.ofBytes, Texel.ofBytes, known _ (by omega), known _ (by omega),
    known _ (by omega), known _ (by omega)]

private theorem Knows.due_execute (h : Knows facts shown s)
    (ready : staged staging image p ⊆ facts)
    (due : Due (wholeCopy staging image p.extent) p s) (execute : s.Execute t) :
    Due (wholeCopy staging image p.extent) p t := by
  obtain ⟨older, after, queued⟩ | ⟨none, shows⟩ := due
  · cases older with
    | nil =>
      cases execute with
      | copy picture next filled kept =>
        obtain ⟨here, rfl⟩ := List.cons.inj (queued.symm.trans next)
        obtain rfl := Command.copy.inj here
        obtain ⟨contents, sound, known⟩ := h.sound ready
        refine .inr ⟨by simp, fun x y covers => ?_⟩
        change Function.update s.texels image picture image x y = _
        rw [Function.update_self, filled contents 0 sound x y covers]
        exact ofBytes_start known covers
      | other next different =>
        exact absurd (List.cons.inj (queued.symm.trans next)).1.symm (different _)
    | cons command older =>
      refine .inl ⟨older, after, ?_⟩
      cases execute with
      | copy _ next => exact (List.cons.inj (next.symm.trans queued)).2
      | other next => exact (List.cons.inj (next.symm.trans queued)).2
  · cases execute with
    | copy _ next => exact absurd (next ▸ List.mem_cons_self) (none _)
    | other next =>
      exact .inr ⟨fun later mem => none later (next ▸ List.mem_cons_of_mem _ mem), shows⟩

private theorem Knows.due_progress (h : Knows facts shown s)
    (ready : staged staging image p ⊆ facts)
    (due : Due (wholeCopy staging image p.extent) p s) (progress : s.Progress t) :
    Due (wholeCopy staging image p.extent) p t := by
  induction progress with
  | refl => exact due
  | tail before execute ih => exact (h.progress before).due_execute ready ih execute

-- Work that was accepted ends with the copy, behind whatever was handed over before.
private theorem Knows.submit {commands : Handle .commandBuffer}
    (h : Knows (recording commands (Wraps (wholeCopy staging image p.extent)) :: facts) [] s)
    (ready : staged staging image p ⊆ facts) (queue : Handle .queue) :
    (tight n).KeepsTask (Driver.perform (.submit queue { commands := [commands] })) s
      (fun _ t => Knows (recording commands (fun _ => True) :: facts) [] t ∧
        Due (wholeCopy staging image p.extent) p t)
      fun _ t => Knows (recording commands (fun _ => True) :: facts) [] t := by
  have any {t : PixelState}
      (h : Knows (recording commands (Wraps (wholeCopy staging image p.extent)) :: facts) [] t) :
      Knows (recording commands (fun _ => True) :: facts) [] t :=
    h.weaken fun _ ⟨recorded, same, _⟩ => ⟨recorded, same, trivial⟩
  rw [keepsTask_perform]
  refine ⟨trivial, ?_, fun e t step => any (h.still step fun _ _ => id)⟩
  rintro t ⟨u, _, first, rfl, later⟩
  have h := h.progress first
  obtain ⟨_, here, _, rfl, before, after, rfl⟩ := h.holds _ List.mem_cons_self
  have recorded : u.recorded commands =
      [.barrier before, .copy (wholeCopy staging image p.extent), .barrier after] := by
    rw [PixelState.recorded, here]
  have due : Due (wholeCopy staging image p.extent) p
      { u with queued := u.queued ++ [commands].flatMap u.recorded } :=
    .inl ⟨u.queued ++ [.barrier before], after, by simp [recorded]⟩
  have h := any (h.resubmitted (u.queued ++ [commands].flatMap u.recorded))
  refine ⟨h.progress later, h.due_progress ?_ due later⟩
  exact List.Subset.trans ready (List.subset_cons_self ..)

private theorem Knows.queueIdle (h : Knows facts [] s) (ready : staged staging image p ⊆ facts)
    (due : Due (wholeCopy staging image p.extent) p s) (queue : Handle .queue) :
    (tight n).KeepsTask (Driver.perform (.queueIdle queue)) s
      (fun _ t => Knows facts [(image, p)] t) fun _ t => Knows facts [] t := by
  rw [keepsTask_perform]
  refine ⟨trivial, ?_, fun e t step => h.still step fun _ _ => id⟩
  rintro t ⟨_, u, first, ⟨idle, rfl⟩, later⟩
  have known := h.progress first
  obtain ⟨older, after, queued⟩ | ⟨-, shows⟩ := h.due_progress ready due first
  · exact absurd (idle.symm.trans queued) (by simp)
  · obtain ⟨_, here, rfl⟩ := known.holds (pictured image p.extent) (ready (by simp))
    have pictures : u.Pictures image p := ⟨here, fun x y column row => shows x y ⟨column, row⟩⟩
    have known : Knows facts [(image, p)] u :=
      ⟨known.holds, known.apart, by simpa using ⟨idle, pictures⟩⟩
    exact known.progress later

end Queue

private theorem Knows.copyIntoImage {staging : StagingBuffer} {image : Handle .image}
    {p : PixelBuffer} (h : Knows facts [] s) (ready : staged staging image p ⊆ facts)
    (old : ImageLayout) :
    (tight p.length).KeepsTask (copyIntoImage rig staging image p.extent old) s
      (fun _ t => Knows facts [(image, p)] t) fun _ t => Knows facts [] t := by
  unfold Vulkan.copyIntoImage
  rw [keepsTask_bind]
  refine (h.create (.commandBuffer rig.commandPool) trivial).mono (fun commands t h => ?_)
    fun _ _ => id
  have h : Knows (recording commands (fun _ => True) :: facts) [] t :=
    h.weaken fun _ made => ⟨[], made, trivial⟩
  rw [keepsTask_closing, keepsTask_bind]
  refine (h.recordCopy image (ready (by simp)) old).mono (fun _ t h => ?_) fun _ t h =>
    h.freeCommands rig.commandPool
  rw [keepsTask_bind]
  refine (h.submit ready rig.queue).mono (fun _ t ⟨h, due⟩ => ?_) fun _ t h =>
    h.freeCommands rig.commandPool
  refine (h.queueIdle (List.Subset.trans ready (List.subset_cons_self ..)) due rig.queue).mono ?_ ?_
  · exact fun _ t h => h.freeCommands rig.commandPool
  · exact fun _ t h => h.freeCommands rig.commandPool

/-! ## Uploads -/

private theorem Knows.update {texture : SampledImage} (h : Knows facts [] s)
    (there : pictured texture.image texture.extent ∈ facts) (p : PixelBuffer) :
    (tight p.length).KeepsTask (SampledImage.update rig texture p) s
      (fun _ t => Knows facts [(texture.image, p)] t) fun _ t => Knows facts [] t := by
  unfold SampledImage.update
  by_cases other : p.extent ≠ texture.extent
  · simpa only [if_pos other, keepsTask_bind, keepsTask_throw] using h
  have same : texture.extent = p.extent := (Decidable.not_not.mp other).symm
  rw [same] at there ⊢
  simp only [ne_eq, not_true_eq_false, if_false, keepsTask_bind, keepsTask_closing]
  refine (h.ofPixels p).mono (fun staging t h => ?_) fun _ _ => id
  have ready : staged staging texture.image p ⊆ filled staging.memory p ::
      housed staging.buffer p.length staging.memory :: facts := by
    simp [there]
  refine (h.copyIntoImage ready .shaderReadOnly).mono ?_ ?_
  · exact fun _ t h => h.stagingRelease staging
  · exact fun _ t h => h.stagingRelease staging

private theorem Knows.createTexture (h : Knows facts [] s) (p : PixelBuffer) :
    (tight p.length).KeepsTask (SampledImage.create rig p) s
      (fun texture t => texture.extent = p.extent ∧
        Knows (pictured texture.image p.extent :: facts) [(texture.image, p)] t)
      fun _ t => Knows facts [] t := by
  unfold SampledImage.create
  rw [keepsTask_bind]
  refine (h.ofPixels p).mono (fun staging t h => ?_) fun _ _ => id
  rw [keepsTask_bind, keepsTask_undoing]
  refine (h.createBare p.extent).mono ?_ fun _ t h => h.stagingRelease staging
  rintro ⟨image, memory⟩ t h
  have ready : staged staging image p ⊆ allocated memory :: pictured image p.extent ::
      filled staging.memory p :: housed staging.buffer p.length staging.memory :: facts := by
    simp
  have released {shown : List (Handle .image × PixelBuffer)} {u : PixelState}
      (h : Knows (allocated memory :: pictured image p.extent :: filled staging.memory p ::
        housed staging.buffer p.length staging.memory :: facts) shown u) :
      (tight p.length).Keeps staging.release u fun _ v =>
        Knows (allocated memory :: pictured image p.extent :: facts) shown v :=
    (h.perm (List.perm_append_comm_assoc [_, _] [_, _] facts)).stagingRelease staging
  rw [keepsTask_bind, keepsTask_undoing, keepsTask_bind, keepsTask_closing]
  refine (h.copyIntoImage ready .undefined).mono ?_ ?_
  · intro _ u h
    refine (released h).mono fun _ v h => ?_
    refine (h.create (.view { image, format := textureFormat }) trivial).mono ?_ ?_
    · intro view w h
      rw [keepsTask_bind, keepsTask_driverLog]
      exact ⟨rfl, h.tail.tail⟩
    · exact fun _ w h => h.unshown.releaseBare
  · exact fun _ u h => (released h).mono fun _ v h => h.releaseBare

private abbrev kept (texture : SampledImage) : Fact := pictured texture.image texture.extent

private theorem Knows.releaseTexture {texture : SampledImage} {textures : List SampledImage}
    (h : Knows (kept texture :: textures.map kept) [] s) :
    (tight n).Keeps texture.release s fun _ t => Knows (textures.map kept) [] t := by
  have apart {textures : List SampledImage} {kind : ObjectKind} (handle : Handle kind)
      (bare : kind ≠ .image) : ∀ f ∈ textures.map kept, f.object ≠ handle.object := by
    rintro _ mem same
    obtain ⟨texture, -, rfl⟩ := List.mem_map.mp mem
    exact bare (congrArg Object.kind same).symm
  unfold SampledImage.release
  rw [keeps_bind]
  have all : Knows ((texture :: textures).map kept) [] s := h
  apply (all.releaseOther texture.view (apart _ (by decide)) (by simp)).mono
  intro _ t h
  rw [keeps_bind]
  apply (h.release (by simp)).mono
  intro _ u h
  rw [keeps_bind]
  exact (h.releaseOther texture.memory (apart _ (by decide)) (by simp)).mono fun _ _ h => h

/-! ## Histories -/

/-- The pixels of an upload. -/
def Upload.pixels : Upload → PixelBuffer
  | .create pixels => pixels
  | .update _ pixels => pixels

/-- Makes an upload and returns the texture that holds its pixels then. -/
def Upload.task (rig : Rig) : Upload → Driver.Task SampledImage
  | .create pixels => SampledImage.create rig pixels
  | .update texture pixels => do
    SampledImage.update rig texture pixels
    return texture

/-- An upload goes to a new texture or to one of those that there are. -/
def Upload.Meets (textures : List SampledImage) : Upload → Prop
  | .create _ => True
  | .update texture _ => texture ∈ textures

/-- The textures that there are after an upload. -/
def Upload.leaves (textures : List SampledImage) :
    Upload → Except GraphicsError SampledImage → List SampledImage
  | .create _, .ok texture => texture :: textures
  | _, _ => textures

/-- Uploads are made one after the other, started in `start`, and textures may be released. -/
inductive Uploaded (rig : Rig) (start : PixelState) : List SampledImage → PixelState → Prop
  | nothing : Uploaded rig start [] start
  | upload {textures : List SampledImage} {s t : PixelState}
      {result : Except GraphicsError SampledImage} (earlier : Uploaded rig start textures s)
      (upload : Upload) (meets : upload.Meets textures)
      (ends : (upload.task rig).run.Ends pixelWorld s result t) :
      Uploaded rig start (upload.leaves textures result) t
  | release {texture : SampledImage} {textures : List SampledImage} {s t : PixelState}
      (earlier : Uploaded rig start textures s) (mem : texture ∈ textures)
      (ends : texture.release.Ends pixelWorld s () t) :
      Uploaded rig start (textures.erase texture) t

private theorem Knows.upload {textures : List SampledImage} (h : Knows (textures.map kept) [] s)
    (rig : Rig) (upload : Upload) (meets : upload.Meets textures) :
    (tight upload.pixels.length).KeepsTask (upload.task rig) s
      (fun texture t => Knows ((upload.leaves textures (.ok texture)).map kept)
        [(texture.image, upload.pixels)] t)
      fun e t => Knows ((upload.leaves textures (.error e)).map kept) [] t := by
  cases upload with
  | create pixels =>
    refine (h.createTexture pixels).mono ?_ fun _ _ => id
    rintro texture t ⟨extent, h⟩
    rwa [← extent] at h
  | update texture pixels =>
    rw [Upload.task, keepsTask_bind]
    exact h.update (List.mem_map_of_mem meets) pixels

private theorem Uploaded.knows {start : PixelState} {textures : List SampledImage}
    (uploaded : Uploaded rig start textures s) : Knows (textures.map kept) [] s := by
  induction uploaded with
  | nothing => exact ⟨List.forall_mem_nil _, List.nodup_nil, List.forall_mem_nil _⟩
  | @upload textures s t result _ upload meets ends ih =>
    have kept := ih.upload rig upload meets
    cases result with
    | ok texture => exact (kept.ends_ok ends).unshown
    | error e => exact kept.ends_error ends
  | release _ mem ends ih =>
    have first := ih.perm ((List.perm_cons_erase mem).map kept)
    exact (first.releaseTexture (n := 0)).ends ends

/-- Whatever was uploaded before and whatever failed: a further upload asks for, maps, writes and
reads exactly four bytes for each of its pixels, and if it succeeds, every texel of its texture has
the color of its pixel. -/
theorem uploads_picture_pixels {start : PixelState} {textures : List SampledImage}
    (earlier : Uploaded rig start textures s) (upload : Upload) (meets : upload.Meets textures) :
    (∀ c t, (upload.task rig).run.Makes pixelWorld s c t →
      t.Moves (upload.pixels.extent.area * 4) c) ∧
    ∀ texture t, (upload.task rig).run.Ends pixelWorld s (.ok texture) t →
      t.Pictures texture.image upload.pixels := by
  have kept := earlier.knows.upload rig upload meets
  rw [← upload.pixels.size_bytes]
  exact ⟨fun c t makes => kept.permits makes, fun texture t ends =>
    ((kept.ends_ok ends).shows _ List.mem_cons_self).2⟩

/-- One pixel as a painter hands it out. -/
def paintedPixel : PixelBuffer := { onePixel with order := .bgra }

private theorem ends_later {c : DriverCall} {k : c.Reply → Program Driver α} {a : α}
    {s u : PixelState} (reply : c.Reply) (effect : s.Effect c reply u)
    (later : ∃ t, (k reply).Ends pixelWorld u a t) :
    ∃ t, (Program.call (I := Driver) c k).Ends pixelWorld s a t := by
  obtain ⟨t, later⟩ := later
  exact ⟨t, .call reply u ⟨s, u, .refl, effect, .refl⟩ later⟩

private theorem ends_afterIdle {queue : Handle .queue}
    {k : Except ResultCode Unit → Program Driver α} {a : α} {s : PixelState}
    (later : ∀ u : PixelState, u.things = s.things → ∃ t, (k (.ok ())).Ends pixelWorld u a t) :
    ∃ t, (Program.call (I := Driver) (.perform (.queueIdle queue)) k).Ends pixelWorld s a t := by
  obtain ⟨u, progress, idle, same⟩ := s.exists_idle
  obtain ⟨t, later⟩ := later u same
  exact ⟨t, .call (.ok ()) u ⟨u, u, progress, ⟨idle, rfl⟩, .refl⟩ later⟩

/-- The texture made by the first upload that succeeds. -/
def firstTexture : SampledImage := ⟨⟨3⟩, ⟨4⟩, ⟨6⟩, ⟨1, 1⟩⟩

private theorem ends_first (s : PixelState) (nothing : s.things = fun _ => none) :
    ∃ t,
      (SampledImage.create plainRig paintedPixel).run.Ends pixelWorld s (.ok firstTexture) t := by
  obtain ⟨_, texels, queued⟩ := s
  obtain rfl := nothing
  refine ends_later (.ok ⟨1⟩) ⟨rfl, _, rfl, rfl⟩ ?_
  refine ends_later ⟨4, 1⟩ rfl ?_
  refine ends_later (.ok ⟨2⟩) ⟨rfl, _, ⟨fun _ => 0, rfl⟩, rfl⟩ ?_
  refine ends_later (.ok ()) (.inr ⟨_, _, rfl, rfl, rfl⟩) ?_
  refine ends_later (.ok ()) (.inr ⟨_, _, rfl, ⟨_, Nat.le_refl _, rfl⟩, rfl⟩) ?_
  refine ends_later () (.inr ⟨_, _, rfl, ⟨_, rfl, fun _ k => rfl⟩, rfl⟩) ?_
  refine ends_later () (.inr ⟨_, _, rfl, rfl, rfl⟩) ?_
  refine ends_later (.ok ⟨3⟩) ⟨rfl, _, rfl, rfl⟩ ?_
  refine ends_later ⟨4, 1⟩ rfl ?_
  refine ends_later (.ok ⟨4⟩) ⟨rfl, _, ⟨fun _ => 0, rfl⟩, rfl⟩ ?_
  refine ends_later (.ok ()) rfl ?_
  refine ends_later (.ok ⟨5⟩) ⟨rfl, _, rfl, rfl⟩ ?_
  refine ends_later (.ok ()) (.inr ⟨_, _, rfl, rfl, rfl⟩) ?_
  refine ends_later () (.inr ⟨_, _, rfl, rfl, rfl⟩) ?_
  refine ends_later () (.inr ⟨_, _, rfl, rfl, rfl⟩) ?_
  refine ends_later () (.inr ⟨_, _, rfl, rfl, rfl⟩) ?_
  refine ends_later (.ok ()) rfl ?_
  refine ends_later (.ok ()) rfl ?_
  refine ends_afterIdle ?_
  rintro ⟨_, texels, queued⟩ rfl
  refine ends_later () rfl ?_
  refine ends_later () rfl ?_
  refine ends_later () rfl ?_
  refine ends_later (.ok ⟨6⟩) ⟨rfl, _, rfl, rfl⟩ ?_
  exact ⟨_, .note .done⟩

/-- After an upload that failed at once, one that succeeds. -/
theorem uploads_picture_paintedPixel :
    ∃ t, (SampledImage.create plainRig paintedPixel).run.Ends pixelWorld
        { texels := fun _ _ _ => ⟨0, 0, 0, 0⟩ } (.ok firstTexture) t ∧
      t.texels firstTexture.image 0 0 = ⟨3, 2, 1, 4⟩ := by
  let start : PixelState := { texels := fun _ _ _ => ⟨0, 0, 0, 0⟩ }
  have failed : (SampledImage.create plainRig onePixel).run.Ends pixelWorld start
      (.error (.ofResult "vkCreateBuffer" .outOfDate)) start :=
    .call (.error .outOfDate) start ⟨start, start, .refl, rfl, .refl⟩ .done
  obtain ⟨t, ends⟩ := ends_first start rfl
  obtain ⟨-, pictures⟩ :=
    uploads_picture_pixels (.upload .nothing (.create onePixel) trivial failed)
      (.create paintedPixel) trivial
  exact ⟨t, ends, (pictures firstTexture t ends).2 0 0 (by decide) (by decide)⟩

end PaintPresenter.Vulkan
