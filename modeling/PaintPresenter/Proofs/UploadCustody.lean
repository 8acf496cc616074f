import PaintPresenter.Proofs.Custody

/-!
# Custody of uploads

Whatever fails in an upload, its staging buffer and its command buffer are gone when it ends, and a
texture is either there with view, image and memory or not at all.
-/

namespace PaintPresenter.Vulkan

open Contract

variable {s t : Holdings} {l a b c : List Entry} {rig : Rig}

/-- A buffer and the memory bound to it. -/
def StagingBuffer.entries (staging : StagingBuffer) : List Entry :=
  [⟨staging.buffer.object, [staging.memory.object]⟩, ⟨staging.memory.object, []⟩]

/-- An image and the memory bound to it. -/
def SampledImage.bareEntries (image : Handle .image) (memory : Handle .memory) : List Entry :=
  [⟨image.object, [memory.object]⟩, ⟨memory.object, []⟩]

/-- A texture: its view, its image, and the memory of the image. -/
def SampledImage.entries (texture : SampledImage) : List Entry :=
  ⟨texture.view.object, [texture.image.object]⟩ :: bareEntries texture.image texture.memory

/-! ## Memory -/

private theorem custody_allocate (h : Holds s l) (equipped : Equipped l)
    (needs : MemoryRequirements) (flags : MemoryFlags) :
    custody.KeepsTask (allocate rig needs flags) s
      (fun memory t => Holds t (⟨memory.object, []⟩ :: l)) fun _ t => Holds t l := by
  unfold allocate
  cases rig.memory.typeFor? needs.typeBits flags with
  | none => exact h
  | some type =>
    exact (h.createAlone equipped rfl (by simp)).mono (fun _ _ h => h.2) fun _ _ => id

-- Before memory is bound to it, an object may be released first.
private theorem Holds.unbound {o : Object} {memory : Handle .memory}
    (h : Holds s (⟨memory.object, []⟩ :: ⟨o, []⟩ :: l))
    (upper : o.kind ≠ .apiInstance ∧ o.kind ≠ .device) :
    Holds s (⟨o, []⟩ :: ⟨memory.object, []⟩ :: l) := by
  have swapped := Holds.swap (a := [⟨memory.object, []⟩]) (b := [⟨o, []⟩]) h ?_ ?_
  · exact swapped
  · simp [WithinParts]
  · simpa [Upper] using upper

private theorem custody_bind {o : Object} {memory : Handle .memory} {operation : Operation}
    (h : Holds s (⟨memory.object, []⟩ :: ⟨o, []⟩ :: l))
    (upper : o.kind ≠ .apiInstance ∧ o.kind ≠ .device)
    (proper : s.Exists o → s.Exists memory.object → s.Proper (.perform operation))
    (binds : ∀ t, s.Effect (.perform operation) (.ok ()) t → t = s.bind o memory)
    (fails : ∀ e t, s.Effect (.perform operation) (.error e) t → t = s) :
    custody.KeepsTask (Driver.perform operation) s
      (fun _ t => Holds t (⟨o, [memory.object]⟩ :: ⟨memory.object, []⟩ :: l))
      fun _ t => Holds t (⟨o, []⟩ :: ⟨memory.object, []⟩ :: l) := by
  rw [keepsTask_perform]
  have object : s.Exists o := h.exists_iff.mpr (by simp)
  have bound : s.Exists memory.object := h.exists_iff.mpr (by simp)
  refine ⟨proper object bound, fun t step => ?_, fun e t step => ?_⟩
  · rw [binds t step]
    exact h.bind upper
  · rw [fails e t step]
    exact h.unbound upper

/-! ## Staging buffers -/

private theorem custody_stagingRelease {staging : StagingBuffer} {needs : List Object}
    (h : Holds s (⟨staging.buffer.object, needs⟩ :: ⟨staging.memory.object, []⟩ :: l)) :
    custody.Keeps staging.release s fun _ t => Holds t l := by
  unfold StagingBuffer.release
  rw [keeps_bind]
  exact (h.release (by simp)).mono fun _ t h => h.release (by simp)

private theorem custody_stagingCreate (h : Holds s l) (equipped : Equipped l) (bytes : Nat) :
    custody.KeepsTask (StagingBuffer.create rig bytes) s
      (fun staging t => Holds t (staging.entries ++ l)) fun _ t => Holds t l := by
  unfold StagingBuffer.create
  rw [keepsTask_bind]
  refine (h.createAlone equipped rfl (by simp)).mono (fun buffer t ⟨_, h⟩ => ?_) fun _ _ => id
  have equipped := equipped.cons ⟨buffer.object, []⟩
  rw [keepsTask_bind, keepsTask_liftM, keeps_bufferNeeds]
  refine ⟨trivial, ?_⟩
  rintro needs t rfl
  rw [keepsTask_bind, keepsTask_undoing]
  apply (custody_allocate h equipped ..).mono
  · intro memory t h
    rw [keepsTask_bind, keepsTask_undoing]
    have upper : buffer.object.kind ≠ .apiInstance ∧ buffer.object.kind ≠ .device := by
      simp [Handle.object]
    apply (custody_bind h upper And.intro (fun _ => id) fun _ _ => id).mono
    · exact fun _ t h => h
    · intro _ t h
      exact custody_stagingRelease h
  · intro _ t h
    exact h.release (by simp)

-- A mapping ends before anything can fail.
private theorem custody_fill {staging : StagingBuffer} (h : Holds s l)
    (present : staging.memory.object ∈ objects l) (pixels : PixelBuffer) :
    custody.KeepsTask (staging.fill pixels) s (fun _ t => Holds t l) fun _ t => Holds t l := by
  unfold StagingBuffer.fill
  rw [keepsTask_bind, keepsTask_perform]
  refine ⟨⟨h.exists_iff.mpr present, by simp [h.unmapped]⟩, ?_, ?_⟩
  · rintro mapped rfl
    simp only [keepsTask_bind, keepsTask_liftM, keeps_store, keeps_unmap]
    refine ⟨List.mem_cons_self, ?_⟩
    rintro t rfl
    refine ⟨List.mem_cons_self, ?_⟩
    rintro t rfl
    simpa using h
  · rintro _ t rfl
    exact h

private theorem custody_ofPixels (h : Holds s l) (equipped : Equipped l) (pixels : PixelBuffer) :
    custody.KeepsTask (StagingBuffer.ofPixels rig pixels) s
      (fun staging t => Holds t (staging.entries ++ l)) fun _ t => Holds t l := by
  unfold StagingBuffer.ofPixels
  rw [keepsTask_bind]
  refine (custody_stagingCreate h equipped _).mono (fun staging t h => ?_) fun _ _ => id
  rw [keepsTask_bind, keepsTask_undoing]
  have present : staging.memory.object ∈ objects (staging.entries ++ l) := by
    simp [StagingBuffer.entries]
  apply (custody_fill h present pixels).mono (fun _ t h => h)
  intro _ t h
  exact custody_stagingRelease h

/-! ## Images -/

private theorem custody_releaseBare {image : Handle .image} {memory : Handle .memory}
    {needs : List Object} (h : Holds s (⟨image.object, needs⟩ :: ⟨memory.object, []⟩ :: l)) :
    custody.Keeps (SampledImage.releaseBare image memory) s fun _ t => Holds t l := by
  unfold SampledImage.releaseBare
  rw [keeps_bind]
  exact (h.release (by simp)).mono fun _ t h => h.release (by simp)

private theorem custody_createBare (h : Holds s l) (equipped : Equipped l) (extent : Extent) :
    custody.KeepsTask (SampledImage.createBare rig extent) s
      (fun made t => Holds t (SampledImage.bareEntries made.1 made.2 ++ l))
      fun _ t => Holds t l := by
  unfold SampledImage.createBare
  rw [keepsTask_bind]
  refine (h.createAlone equipped rfl (by simp)).mono (fun image t ⟨_, h⟩ => ?_) fun _ _ => id
  have equipped := equipped.cons ⟨image.object, []⟩
  rw [keepsTask_bind, keepsTask_liftM, keeps_imageNeeds]
  refine ⟨trivial, ?_⟩
  rintro needs t rfl
  rw [keepsTask_bind, keepsTask_undoing]
  apply (custody_allocate h equipped ..).mono
  · intro memory t h
    rw [keepsTask_bind, keepsTask_undoing]
    have upper : image.object.kind ≠ .apiInstance ∧ image.object.kind ≠ .device := by
      simp [Handle.object]
    apply (custody_bind h upper And.intro (fun _ => id) fun _ _ => id).mono
    · exact fun _ t h => h
    · intro _ t h
      exact custody_releaseBare h
  · intro _ t h
    exact h.release (by simp)

/-! ## Copies -/

private theorem custody_changeLayout (h : Holds s l) (commands : Handle .commandBuffer)
    (image : Handle .image) (old new : ImageLayout) :
    custody.KeepsTask (changeLayout commands image old new) s (fun _ t => Holds t l)
      fun _ t => Holds t l := by
  unfold changeLayout
  cases LayoutChange.between? old new with
  | none => exact h
  | some change =>
    rw [keepsTask_liftM]
    exact h.record ..

private theorem custody_recordCopy (h : Holds s l) (commands : Handle .commandBuffer)
    (staging : StagingBuffer) (image : Handle .image) (extent : Extent) (old : ImageLayout) :
    custody.KeepsTask (recordCopy commands staging image extent old) s (fun _ t => Holds t l)
      fun _ t => Holds t l := by
  simp only [recordCopy, keepsTask_bind, keepsTask_liftM]
  refine (h.perform (by trivial)).mono (fun _ t h => ?_) fun _ _ => id
  refine (custody_changeLayout h ..).mono (fun _ t h => ?_) fun _ _ => id
  apply (h.record ..).mono
  intro _ t h
  refine (custody_changeLayout h ..).mono (fun _ t h => ?_) fun _ _ => id
  exact h.perform trivial

private theorem custody_copyIntoImage (h : Holds s l) (equipped : Equipped l)
    (pool : rig.commandPool.object ∈ objects l) (staging : StagingBuffer) (image : Handle .image)
    (extent : Extent) (old : ImageLayout) :
    custody.KeepsTask (copyIntoImage rig staging image extent old) s (fun _ t => Holds t l)
      fun _ t => Holds t l := by
  unfold copyIntoImage
  rw [keepsTask_bind]
  have made_from : s.needs (.commandBuffer rig.commandPool) = [rig.commandPool.object] := rfl
  have created := h.createOnDevice equipped made_from (by simpa using pool) (by simp)
  refine created.mono (fun commands t ⟨_, _, h⟩ => ?_) ?_
  · have freed {t : Holdings} (h : Holds t (⟨commands.object, [rig.commandPool.object]⟩ :: l)) :
        custody.Keeps (Driver.freeCommands rig.commandPool commands) t fun _ t => Holds t l :=
      h.freeCommands
    rw [keepsTask_closing, keepsTask_bind]
    refine (custody_recordCopy h ..).mono (fun _ t h => ?_) fun _ t h => freed h
    rw [keepsTask_bind]
    refine (h.perform (by trivial)).mono (fun _ t h => ?_) fun _ t h => freed h
    exact (h.perform (by trivial)).mono (fun _ t h => freed h) fun _ t h => freed h
  · rintro _ t rfl
    exact h

/-! ## Textures -/

-- A staging buffer may be released before the image that it was copied into.
private theorem bare_last {image : Handle .image} {memory : Handle .memory}
    {staging : StagingBuffer}
    (h : Holds s (SampledImage.bareEntries image memory ++ (staging.entries ++ l))) :
    Holds s (staging.entries ++ (SampledImage.bareEntries image memory ++ l)) := by
  apply h.swap
  · simp [WithinParts, SampledImage.bareEntries]
  · simp [Upper, StagingBuffer.entries, Handle.object]

private theorem custody_viewTexture {image : Handle .image} {memory : Handle .memory}
    (h : Holds s (SampledImage.bareEntries image memory ++ l)) (equipped : Equipped l) :
    custody.KeepsTask (Driver.create (.view { image, format := textureFormat })) s
      (fun view t => Holds t
        (⟨view.object, [image.object]⟩ :: (SampledImage.bareEntries image memory ++ l)))
      fun _ t => Holds t (SampledImage.bareEntries image memory ++ l) := by
  have present : image.object ∈ objects (SampledImage.bareEntries image memory ++ l) := by
    simp [SampledImage.bareEntries]
  have made_from : s.needs (.view { image, format := textureFormat }) = [image.object] := by
    rw [Holdings.needs, Holdings.home, if_pos (h.exists_iff.mpr present)]
  have created := h.createOnDevice (equipped.append _) made_from (by simpa using present) (by simp)
  apply created.mono (fun view t ⟨_, _, h⟩ => h)
  rintro _ t rfl
  exact h

/-- A texture that cannot be made leaves nothing. -/
theorem custody_createTexture (h : Holds s l) (equipped : Equipped l)
    (pool : rig.commandPool.object ∈ objects l) (pixels : PixelBuffer) :
    custody.KeepsTask (SampledImage.create rig pixels) s
      (fun texture t => Holds t (texture.entries ++ l)) fun _ t => Holds t l := by
  unfold SampledImage.create
  rw [keepsTask_bind]
  refine (custody_ofPixels h equipped pixels).mono (fun staging t h => ?_) fun _ _ => id
  have base := equipped
  have equipped := equipped.append staging.entries
  rw [keepsTask_bind, keepsTask_undoing]
  apply (custody_createBare h equipped _).mono
  · rintro ⟨image, memory⟩ t h
    have equipped := equipped.append (SampledImage.bareEntries image memory)
    have pool : rig.commandPool.object ∈
        objects (SampledImage.bareEntries image memory ++ (staging.entries ++ l)) := by simp [pool]
    rw [keepsTask_bind, keepsTask_undoing, keepsTask_bind, keepsTask_closing]
    have copied := custody_copyIntoImage h equipped pool staging image pixels.extent .undefined
    apply copied.mono
    · intro _ t h
      apply (custody_stagingRelease (bare_last h)).mono
      intro _ t h
      have viewed := custody_viewTexture h base
      refine viewed.mono (fun view t h => ?_) fun _ t h => custody_releaseBare h
      rw [keepsTask_bind, keepsTask_driverLog]
      exact h
    · intro _ t h
      apply (custody_stagingRelease (bare_last h)).mono
      intro _ t h
      exact custody_releaseBare h
  · intro _ t h
    exact custody_stagingRelease h

/-- An update leaves the objects that there are. -/
theorem custody_updateTexture (h : Holds s l) (equipped : Equipped l)
    (pool : rig.commandPool.object ∈ objects l) (texture : SampledImage) (pixels : PixelBuffer) :
    custody.KeepsTask (SampledImage.update rig texture pixels) s (fun _ t => Holds t l)
      fun _ t => Holds t l := by
  unfold SampledImage.update
  by_cases other : pixels.extent ≠ texture.extent
  · simpa [other] using h
  · simp only [if_neg other, keepsTask_bind, keepsTask_closing]
    refine (custody_ofPixels h equipped pixels).mono (fun staging t h => ?_) fun _ _ => id
    have pool : rig.commandPool.object ∈ objects (staging.entries ++ l) := by simp [pool]
    have copied := custody_copyIntoImage h (equipped.append _) pool staging texture.image
      texture.extent .shaderReadOnly
    exact copied.mono (fun _ t h => custody_stagingRelease h) fun _ t h => custody_stagingRelease h

/-- A texture that is released leaves nothing. -/
theorem custody_releaseTexture {texture : SampledImage} (h : Holds s (texture.entries ++ l)) :
    custody.Keeps texture.release s fun _ t => Holds t l := by
  unfold SampledImage.release
  simp only [keeps_bind, keeps_log]
  apply (Holds.release h (by simp)).mono
  intro _ t h
  apply (Holds.release h (by simp)).mono
  intro _ t h
  exact h.release (by simp)

end PaintPresenter.Vulkan
