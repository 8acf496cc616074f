import PaintPresenter.Base.Binary32

/-!
# Background colors

A color has four linear components; images are stored in an sRGB format, so the display hardware
does the encoding. Colors are given either linearly or as sRGB bytes.
-/

namespace PaintPresenter

/-- A straight-alpha color with linear components. -/
structure Color where
  red : Float32
  green : Float32
  blue : Float32
  alpha : Float32

namespace Color

/-- The four components in order. -/
def components (c : Color) : List Float32 := [c.red, c.green, c.blue, c.alpha]

/-- Applies one function to every component. -/
def map (f : Float32 → Float32) (c : Color) : Color :=
  ⟨f c.red, f c.green, f c.blue, f c.alpha⟩

/-- All components zero. -/
def zero : Color := ⟨0.0, 0.0, 0.0, 0.0⟩

/-- Opaque black. -/
def black : Color := ⟨0.0, 0.0, 0.0, 1.0⟩

/-- Componentwise comparison of numbers: both zeros are equal and a NaN equals nothing. -/
instance : BEq Color where
  beq a b := a.red == b.red && a.green == b.green && a.blue == b.blue && a.alpha == b.alpha

/-- Decodes one sRGB component in the unit interval. -/
def linearOfSrgb (c : Float32) : Float32 :=
  if c ≤ 0.04045 then c / 12.92 else ((c + 0.055) / 1.055) ^ (2.4 : Float32)

/-- The linear color of sRGB bytes; alpha is a plain fraction. -/
def ofSrgbBytes (red green blue alpha : UInt8) : Color :=
  let unit (byte : UInt8) : Float32 := byte.toFloat32 / 255.0
  ⟨linearOfSrgb (unit red), linearOfSrgb (unit green), linearOfSrgb (unit blue), unit alpha⟩

/-- The nearest number of the unit interval; a NaN stays. -/
def clampUnit (c : Float32) : Float32 :=
  if c < 0.0 then 0.0 else if c > 1.0 then 1.0 else c

/-- The color with every component in the unit interval, as a render pass clears to it. -/
def clamped (c : Color) : Color := c.map clampUnit

/-- The bits of the four components. -/
def bitsText (c : Color) : String :=
  ",".intercalate (c.components.map Binary32.bitsText)

end Color

end PaintPresenter
