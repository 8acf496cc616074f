/-!
# Sizes in pixels

Widths and heights are 32-bit words, as window systems and drivers report them.
-/

namespace PaintPresenter

/-- A width and a height in pixels. -/
structure Extent where
  width : UInt32
  height : UInt32
  deriving DecidableEq, Repr, Inhabited

namespace Extent

/-- No pixel fits: one of the two sides is zero. -/
def isEmpty (e : Extent) : Bool := e.width == 0 || e.height == 0

/-- An extent is empty exactly when a side is zero. -/
theorem isEmpty_iff (e : Extent) : e.isEmpty = true ↔ e.width = 0 ∨ e.height = 0 := by
  simp [isEmpty]

/-- Number of pixels. -/
def area (e : Extent) : Nat := e.width.toNat * e.height.toNat

/-- An extent without pixels is an empty one. -/
theorem area_eq_zero_iff (e : Extent) : e.area = 0 ↔ e.isEmpty = true := by
  rw [area, Nat.mul_eq_zero, isEmpty_iff, ← UInt32.toNat_inj, ← UInt32.toNat_inj]
  rfl

/-- The extent as `width`x`height`. -/
def text (e : Extent) : String := s!"{e.width}x{e.height}"

end Extent

end PaintPresenter
