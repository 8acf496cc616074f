import PaintPresenter.Proofs.Completion
import PaintPresenter.Proofs.Furnishing

/-!
# A driver that lets everything succeed

On a smooth driver no call fails, its reports make sense, and an acquire takes an image that there
is. Every call of a frame that is made on it succeeds in turn, and a rebuild meets no fault: what
the surface reports can be settled on.
-/

namespace PaintPresenter.Vulkan

open Contract

/-! ## Reports -/

/-- What a surface reports about its swapchains can be satisfied. -/
structure SurfaceLimits.Valid (limits : SurfaceLimits) : Prop where
  count : limits.minImages.toNat + 1 < UInt32.size
  extents : limits.current.width = 0xffffffff →
    limits.minExtent.width ≤ limits.maxExtent.width ∧
      limits.minExtent.height ≤ limits.maxExtent.height

namespace SurfaceLimits

variable {limits : SurfaceLimits}

/-- Valid limits always leave a number of images to choose. -/
theorem Valid.imageCount (valid : limits.Valid) : ∃ count, limits.imageCount? = some count := by
  unfold imageCount?
  rw [if_pos valid.count]
  exact ⟨_, rfl⟩

/-- They always leave a size, whatever is asked for. -/
theorem Valid.extentFor (valid : limits.Valid) (requested : Extent) :
    ∃ extent, limits.extentFor? requested = some extent := by
  unfold extentFor?
  by_cases open_ : limits.current.width = 0xffffffff
  · obtain ⟨width, height⟩ := valid.extents open_
    rw [if_neg (by simp [open_])]
    simp [clamp?, width, height]
  · rw [if_pos open_]
    exact ⟨_, rfl⟩

end SurfaceLimits

/-- Where a format is offered, one is chosen. -/
theorem chooseFormat?_ne_none {formats : List SurfaceFormat} (offered : formats ≠ []) :
    chooseFormat? formats ≠ none := by
  unfold chooseFormat?
  split
  · exact Option.some_ne_none _
  · exact fun none => offered (List.head?_eq_none_iff.mp none)

/-- What a call reports makes sense. -/
def DriverCall.Sensible : (c : DriverCall) → c.Reply → Prop
  | .create _, .ok made => made ≠ .null
  | .surfaceLimits _ _, .ok limits => limits.Valid
  | .surfaceFormats _ _, .ok formats => formats ≠ []
  | _, _ => True

/-! ## The driver -/

/-- What is known of a driver on which everything succeeds. -/
structure Fortune where
  /-- Number of images of the swapchain in use. -/
  images : Nat
  /-- Number of images presented so far. -/
  presents : Nat := 0

namespace Fortune

/-- An image that is taken is one of those that there are. -/
def Offers (s : Fortune) : (c : DriverCall) → c.Reply → Prop
  | .acquire _ _ _, .ok image => image.index.toNat < s.images
  | _, _ => True

/-- What is known after a call. -/
def after (s : Fortune) : (c : DriverCall) → c.Reply → Fortune
  | .swapchainImages _, .ok images => { s with images := images.length }
  | .present _ _ _ _, .ok _ => { s with presents := s.presents + 1 }
  | _, _ => s

end Fortune

/-- The driver on which everything succeeds. -/
def smooth : Program.World Driver Fortune where
  step s c reply t :=
    c.failure? reply = none ∧ c.Sensible reply ∧ s.Offers c reply ∧ t = s.after c reply

/-- As long as there is an image to take, there is a smooth reply to every call. -/
theorem exists_smooth_reply (s : Fortune) (there : 0 < s.images) (c : DriverCall) :
    ∃ reply t, smooth.step s c reply t := by
  refine ⟨c.granted 1, _, ?_, ?_, ?_, rfl⟩
  · cases c <;> rfl
  · cases c with
    | create request => simp [DriverCall.granted, DriverCall.Sensible, Handle.null]
    | surfaceLimits device surface => exact ⟨by decide, by decide⟩
    | surfaceFormats device surface => exact List.cons_ne_nil _ _
    | _ => trivial
  · cases c with
    | acquire swapchain timeoutNs semaphore => exact there
    | _ => trivial

private theorem after_of_furnishes {s : Fortune} {c : DriverCall} {reply : c.Reply}
    (furnishes : c.Furnishes) : s.after c reply = s := by
  cases c with
  | swapchainImages swapchain => exact furnishes.elim
  | present queue wait swapchain image => exact furnishes.elim
  | _ => rfl

/-- The smooth driver makes whatever is asked for and presents nothing meanwhile. -/
theorem furnishes_smooth (presents : Nat) :
    Furnishes smooth (fun images s => s = ⟨images, presents⟩) fun _ => False where
  keeps step furnishes h := by
    rw [step.2.2.2, after_of_furnishes furnishes, h]
  real step := step.2.1
  reports h step := by
    rw [step.2.2.2, h]
    rfl
  fails step failed _ _ _ := by
    have failed := failed.symm.trans step.1
    exact absurd failed (by simp)
  noFormat step chosen := absurd chosen (chooseFormat?_ne_none step.2.1)

end PaintPresenter.Vulkan
