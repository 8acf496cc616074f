import PaintPresenter.Proofs.DriverConduct

/-!
# Swapchains within the limits of their surface

What a driver may report about a surface, and what is chosen from it. A size is always chosen, and
one that the surface allows. A number of images is chosen unless the surface asks for as many as a
word can count: then one more than the smallest number leaves the word before it can be cut to the
largest one.
-/

namespace PaintPresenter.Vulkan

open Contract

namespace SurfaceLimits

variable {limits : SurfaceLimits} {requested extent : Extent} {count : UInt32}

/-! ## Reports -/

/-- What a surface reports as its size when it leaves the size open. -/
def anySize : Extent := ⟨0xffffffff, 0xffffffff⟩

/-- The surface allows swapchains of a size. -/
structure AllowsExtent (limits : SurfaceLimits) (e : Extent) : Prop where
  minWidth : limits.minExtent.width ≤ e.width
  maxWidth : e.width ≤ limits.maxExtent.width
  minHeight : limits.minExtent.height ≤ e.height
  maxHeight : e.height ≤ limits.maxExtent.height

/-- The surface allows swapchains with a number of images. -/
structure AllowsCount (limits : SurfaceLimits) (count : UInt32) : Prop where
  min : limits.minImages ≤ count
  max : limits.maxImages ≠ 0 → count ≤ limits.maxImages

/-- What a driver may report. -/
structure Lawful (limits : SurfaceLimits) : Prop where
  someImages : 1 ≤ limits.minImages
  images : limits.maxImages = 0 ∨ limits.minImages ≤ limits.maxImages
  widths : limits.minExtent.width ≤ limits.maxExtent.width
  heights : limits.minExtent.height ≤ limits.maxExtent.height
  current : limits.current = anySize ∨ limits.AllowsExtent limits.current

/-! ## The number of images -/

/-- The count overflows for one minimum only, the largest number there is. -/
theorem imageCount?_eq_none_iff : limits.imageCount? = none ↔ limits.minImages = 0xffffffff := by
  have word := limits.minImages.toNat_lt
  have full : limits.minImages = 0xffffffff ↔ limits.minImages.toNat = 4294967295 :=
    UInt32.toNat_inj.symm
  rw [imageCount?, full]
  simp only [UInt32.size, ite_eq_right_iff, reduceCtorEq, imp_false]
  omega

/-- The number chosen is one more than the smallest one, cut to the largest one if there is one. -/
theorem imageCount_cases (chosen : limits.imageCount? = some count) :
    limits.minImages.toNat + 1 < UInt32.size ∧
      (limits.maxImages = 0 ∧ count.toNat = limits.minImages.toNat + 1 ∨
        limits.maxImages ≠ 0 ∧
          count.toNat = min (limits.minImages.toNat + 1) limits.maxImages.toNat) := by
  obtain ⟨fits, chosen⟩ := Option.ite_none_right_eq_some.mp chosen
  have next : (UInt32.ofNat (limits.minImages.toNat + 1)).toNat = limits.minImages.toNat + 1 :=
    UInt32.toNat_ofNat_of_lt fits
  rw [Option.some.injEq] at chosen
  refine ⟨fits, ?_⟩
  by_cases limited : 0 < limits.maxImages
  · refine .inr ⟨(UInt32.ne_of_lt limited).symm, ?_⟩
    rw [if_pos limited] at chosen
    change (if _ ≤ limits.maxImages then _ else _) = count at chosen
    rw [← chosen, apply_ite UInt32.toNat, Nat.min_def, next]
    simp only [UInt32.le_iff_toNat_le, next]
  · rw [if_neg limited] at chosen
    exact .inl ⟨UInt32.le_zero_iff.mp (UInt32.not_lt.mp limited), by rw [← chosen, next]⟩

private theorem allowsCount_of_imageCount (lawful : limits.Lawful)
    (chosen : limits.imageCount? = some count) : limits.AllowsCount count := by
  have room : limits.maxImages ≠ 0 → limits.minImages.toNat ≤ limits.maxImages.toNat :=
    fun limited => UInt32.le_iff_toNat_le.mp (lawful.images.resolve_left limited)
  obtain ⟨-, ⟨unlimited, size⟩ | ⟨limited, size⟩⟩ := imageCount_cases chosen
  · exact ⟨UInt32.le_iff_toNat_le.mpr (by omega), fun limited => absurd unlimited limited⟩
  · have room := room limited
    exact ⟨UInt32.le_iff_toNat_le.mpr (by omega), fun _ => UInt32.le_iff_toNat_le.mpr (by omega)⟩

/-- Where the surface allows a number above the smallest one, such a number is chosen. -/
theorem lt_imageCount {larger : UInt32} (above : limits.minImages < larger)
    (allowed : limits.AllowsCount larger) (chosen : limits.imageCount? = some count) :
    limits.minImages < count := by
  rw [UInt32.lt_iff_toNat_lt] at above ⊢
  obtain ⟨-, ⟨-, size⟩ | ⟨limited, size⟩⟩ := imageCount_cases chosen
  · omega
  · have within := UInt32.le_iff_toNat_le.mp (allowed.max limited)
    omega

/-! ## The size -/

/-- A word between the bounds is the nearest one to itself. -/
theorem clamp?_of_between {low high value : UInt32} (above : low ≤ value) (below : value ≤ high) :
    clamp? low high value = some value := by
  rw [clamp?, if_pos (UInt32.le_trans above below), if_neg (UInt32.not_lt.mpr above),
    if_neg (UInt32.not_lt.mpr below)]

/-- Between bounds that are not crossed there is a nearest word. -/
theorem exists_clamp {low high : UInt32} (ordered : low ≤ high) (value : UInt32) :
    ∃ nearest, clamp? low high value = some nearest ∧ low ≤ nearest ∧ nearest ≤ high := by
  refine ⟨_, if_pos ordered, ?_⟩
  by_cases short : value < low
  · rw [if_pos short]
    exact ⟨UInt32.le_refl low, ordered⟩
  · rw [if_neg short]
    by_cases long : high < value
    · rw [if_pos long]
      exact ⟨ordered, UInt32.le_refl high⟩
    · rw [if_neg long]
      exact ⟨UInt32.not_lt.mp short, UInt32.not_lt.mp long⟩

private theorem extentFor?_of_dictated (dictated : limits.current.width ≠ 0xffffffff)
    (requested : Extent) : limits.extentFor? requested = some limits.current :=
  if_pos dictated

private theorem extentFor?_of_allowed (free : limits.current.width = 0xffffffff)
    (allowed : limits.AllowsExtent requested) :
    limits.extentFor? requested = some requested := by
  rw [extentFor?, if_neg (not_not_intro free),
    clamp?_of_between allowed.minWidth allowed.maxWidth,
    clamp?_of_between allowed.minHeight allowed.maxHeight]
  rfl

/-- A size is always chosen, and one that the surface allows. -/
theorem exists_extentFor (lawful : limits.Lawful) (requested : Extent) :
    ∃ extent, limits.extentFor? requested = some extent ∧ limits.AllowsExtent extent := by
  by_cases free : limits.current.width = 0xffffffff
  · obtain ⟨width, nearestWidth, minWidth, maxWidth⟩ :=
      exists_clamp lawful.widths requested.width
    obtain ⟨height, nearestHeight, minHeight, maxHeight⟩ :=
      exists_clamp lawful.heights requested.height
    refine ⟨⟨width, height⟩, ?_, minWidth, maxWidth, minHeight, maxHeight⟩
    rw [extentFor?, if_neg (not_not_intro free), nearestWidth, nearestHeight]
    rfl
  · have dictated : limits.current ≠ anySize := fun any => free (congrArg Extent.width any)
    exact ⟨limits.current, extentFor?_of_dictated free requested,
      lawful.current.resolve_left dictated⟩

/-- To ask for the size that was chosen is to get it again. -/
theorem extentFor?_again (lawful : limits.Lawful)
    (chosen : limits.extentFor? requested = some extent) :
    limits.extentFor? extent = some extent := by
  by_cases free : limits.current.width = 0xffffffff
  · obtain ⟨_, same, allowed⟩ := exists_extentFor lawful requested
    obtain rfl := Option.some.inj (chosen.symm.trans same)
    exact extentFor?_of_allowed free allowed
  · rw [extentFor?_of_dictated free] at chosen ⊢
    exact chosen

/-! ## Both -/

/-- From every lawful report, and whatever size was asked for: a number of images is chosen unless
the surface asks for as many as a word can count, and a size is chosen in any case. The number is
one that the surface allows, and above the smallest one where the surface allows that. The size is
one that the surface allows; it is the size asked for if the surface allows it and leaves the size
open, and asking for what was chosen changes nothing. -/
theorem choices_within_limits (lawful : limits.Lawful) (requested : Extent) :
    (limits.imageCount? = none ↔ limits.minImages = 0xffffffff) ∧
    (∀ count, limits.imageCount? = some count → limits.AllowsCount count ∧
      ((∃ larger, limits.minImages < larger ∧ limits.AllowsCount larger) →
        limits.minImages < count)) ∧
    ∃ extent, limits.extentFor? requested = some extent ∧ limits.AllowsExtent extent ∧
      (limits.current = anySize → limits.AllowsExtent requested → extent = requested) ∧
      limits.extentFor? extent = some extent := by
  refine ⟨imageCount?_eq_none_iff, fun count chosen => ?_, ?_⟩
  · exact ⟨allowsCount_of_imageCount lawful chosen,
      fun ⟨_, above, allowed⟩ => lt_imageCount above allowed chosen⟩
  · obtain ⟨extent, chosen, within⟩ := exists_extentFor lawful requested
    refine ⟨extent, chosen, within, fun any allowed => ?_, extentFor?_again lawful chosen⟩
    have free : limits.current.width = 0xffffffff := congrArg Extent.width any
    exact Option.some.inj (chosen.symm.trans (extentFor?_of_allowed free allowed))

/-- The limits of a surface that is satisfied with two or three images of one size. -/
def fixedSize : SurfaceLimits where
  minImages := 2
  maxImages := 3
  current := ⟨640, 480⟩

private theorem lawful_fixedSize : fixedSize.Lawful where
  someImages := by decide
  images := .inr (by decide)
  widths := by decide
  heights := by decide
  current := .inr ⟨by decide, by decide, by decide, by decide⟩

/-- A surface with a size of its own gets that size, whatever is asked for. -/
theorem choices_within_limits_fixedSize :
    fixedSize.Lawful ∧ fixedSize.imageCount? = some 3 ∧ fixedSize.AllowsCount 3 ∧
      ∃ extent, fixedSize.extentFor? ⟨1280, 720⟩ = some extent ∧ extent = ⟨640, 480⟩ ∧
        fixedSize.AllowsExtent extent ∧ fixedSize.extentFor? extent = some extent := by
  have three : fixedSize.imageCount? = some 3 := by decide
  obtain ⟨-, counts, extent, chosen, within, -, again⟩ :=
    choices_within_limits lawful_fixedSize ⟨1280, 720⟩
  refine ⟨lawful_fixedSize, three, (counts 3 three).1, extent, chosen, ?_, within, again⟩
  exact Option.some.inj (chosen.symm.trans (by decide))

/-- A surface may ask for as many images as a word can count, and for no more; but then no number is
chosen. -/
theorem exists_overflowing_count : ∃ limits : SurfaceLimits, limits.Lawful ∧
    limits.AllowsCount 0xffffffff ∧ limits.imageCount? = none :=
  ⟨{ minImages := 0xffffffff, maxImages := 0xffffffff },
    ⟨by decide, .inr (by decide), by decide, by decide, .inl rfl⟩, ⟨by decide, fun _ => by decide⟩,
    by decide⟩

end SurfaceLimits

/-! ## What a screen asks for -/

/-- As long as a surface reports the same lawful limits, every swapchain that a screen settles on is
within them. -/
theorem settles_within_limits {γ : Type} {W : Program.World Driver γ} {limits : SurfaceLimits}
    (lawful : limits.Lawful)
    (reported : ∀ s device surface reply t,
      W.step s (.surfaceLimits device surface) (.ok reply) t → reply = limits)
    (rig : Rig) (requested : Extent) (screen : Screen) (s : γ) :
    (free W).KeepsOp (Screen.settle rig requested) screen s
      (fun request _ _ => limits.AllowsCount request.minImages ∧ limits.AllowsExtent request.extent)
      fun _ _ _ => True := by
  rw [keepsOp_settle, keepsTask_surfaceLimits]
  refine ⟨trivial, fun reply t step => ?_, fun _ _ _ => trivial⟩
  obtain rfl := reported _ _ _ _ _ step
  rw [keepsTask_surfaceFormats]
  refine ⟨trivial, fun formats u _ => ?_, fun _ _ _ => trivial⟩
  cases chooseFormat? formats with
  | none => trivial
  | some format =>
    intro extent chosen minImages counted
    obtain ⟨_, same, within⟩ := SurfaceLimits.exists_extentFor lawful requested
    obtain rfl := Option.some.inj (chosen.symm.trans same)
    exact ⟨SurfaceLimits.allowsCount_of_imageCount lawful counted, within⟩

end PaintPresenter.Vulkan
