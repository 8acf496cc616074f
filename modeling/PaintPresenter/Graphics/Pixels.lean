import PaintPresenter.Base.Bytes
import PaintPresenter.Graphics.Error

/-!
# Pixel buffers

A pixel buffer is a dense, row-major image of four bytes a pixel together with the order of its
channels. Building one checks that the bytes describe an image of the given size, so every later
step may rely on it. Textures store red, green, blue, alpha; buffers from a painter start with
blue.
-/

namespace PaintPresenter

/-- Bytes of a `width` by `height` image of four bytes a pixel, if a 64-bit word can count them. -/
def byteLength? (width height : UInt32) : Option Nat :=
  let length := width.toNat * height.toNat * 4
  if length < UInt64.size then some length else none

/-- The count is the plain product whenever there is one. -/
theorem byteLength?_eq_some_iff (width height : UInt32) (n : Nat) :
    byteLength? width height = some n ↔ n = width.toNat * height.toNat * 4 ∧ n < UInt64.size := by
  simp only [byteLength?, Option.ite_none_right_eq_some, Option.some.injEq]
  constructor
  · rintro ⟨h, rfl⟩
    exact ⟨rfl, h⟩
  · rintro ⟨rfl, h⟩
    exact ⟨h, rfl⟩

/-- Order of the channels within a pixel. -/
inductive ChannelOrder
  /-- Blue, green, red, alpha: what a painter hands out. -/
  | bgra
  /-- Red, green, blue, alpha: what a texture stores. -/
  | rgba
  deriving DecidableEq, Repr

/-- Where, within a source pixel, the byte of a stored channel is found. -/
def ChannelOrder.source : ChannelOrder → Nat → Nat
  | .rgba, channel => channel
  | .bgra, 0 => 2
  | .bgra, 2 => 0
  | .bgra, channel => channel

/-- An image whose bytes match its size. -/
structure PixelBuffer where
  extent : Extent
  order : ChannelOrder
  bytes : ByteArray
  extent_nonempty : extent.isEmpty = false
  size_bytes : bytes.size = extent.area * 4

namespace PixelBuffer

/-- Checks that `bytes` is exactly a non-empty image of the given size. -/
def ofBytes (extent : Extent) (order : ChannelOrder) (bytes : ByteArray) :
    Except GraphicsError PixelBuffer :=
  if h : extent.isEmpty = false ∧ byteLength? extent.width extent.height = some bytes.size then
    .ok ⟨extent, order, bytes, h.1, ((byteLength?_eq_some_iff ..).1 h.2).1⟩
  else
    .error (.invalidPixels extent.width extent.height bytes.size)

/-- Number of bytes, also the size of the memory that an upload goes through. -/
def length (p : PixelBuffer) : Nat := p.bytes.size

/-- Where in the buffer the byte at `i` of the stored image comes from. -/
def sourceIndex (p : PixelBuffer) (i : Nat) : Nat := 4 * (i / 4) + p.order.source (i % 4)

/-- The image as a texture stores it. -/
def rgba (p : PixelBuffer) : ByteArray :=
  Bytes.tabulate p.length fun i => Bytes.byteAt p.bytes (p.sourceIndex i)

/-- Conversion keeps the number of bytes. -/
@[simp] theorem size_rgba (p : PixelBuffer) : p.rgba.size = p.length := by
  simp [rgba]

/-- Writes the stored image over the start of `destination`, which has to be long enough. -/
def writeRgba? (p : PixelBuffer) (destination : ByteArray) : Option ByteArray :=
  if p.length ≤ destination.size then
    some (p.rgba ++ destination.extract p.length destination.size)
  else none

end PixelBuffer

end PaintPresenter
