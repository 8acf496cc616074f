import PaintPresenter.Base.Bytes

/-!
# Texts of single-precision numbers

A number is shown either by its bits or, for reading, in decimal: with as few places as tell it
apart from every other number, but at least one. The decimal search works in exact natural
arithmetic on the number `m / 2 ^ k`.
-/

namespace PaintPresenter.Binary32

/-- The bits of a number in hexadecimal, or `nan`. -/
def bitsText (x : Float32) : String :=
  if x.isNaN then "nan" else Bytes.hexWord 8 x.toBits.toNat

/-- `c / 10 ^ places` rounds to `m / 2 ^ k`, a number with a 24-bit mantissa: it lies between the
midpoints to the two neighbours, ends included when the mantissa is even. The lower neighbour of
a power of two is half as far away. -/
def readsBack (m k places c : Nat) : Bool :=
  let below := if m = 0x800000 then 1 else 2
  let low := (4 * m - below) * Nat.pow 10 places
  let high := (4 * m + 2) * Nat.pow 10 places
  let candidate := c * 4 * Nat.pow 2 k
  if m % 2 = 0 then low ≤ candidate && candidate ≤ high
  else low < candidate && candidate < high

/-- Of the two decimals with this many places around `m / 2 ^ k`, the nearer one that reads back,
and the greater one if they are equally near. -/
def withPlaces? (m k places : Nat) : Option Nat :=
  let scaled := m * Nat.pow 10 places
  let unit := Nat.pow 2 k
  let floor := scaled / unit
  let nearer := if 2 * (scaled % unit) < unit then [floor, floor + 1] else [floor + 1, floor]
  nearer.find? (readsBack m k places)

/-- The number `c / 10 ^ places` in positional notation. -/
def positional (places c : Nat) : String :=
  let unit := Nat.pow 10 places
  let whole := c / unit
  let digits := toString (c % unit)
  let fraction := String.ofList (List.replicate (places - digits.length) '0') ++ digits
  s!"{whole}.{fraction}"

/-- The decimal of a number from 1 up to 2 ^ 23 with the fewest places that reads back. -/
def decimalText (x : Float32) : String :=
  let bits := x.toBits.toNat
  let m := 0x800000 + bits % 0x800000
  let k := 150 - bits / 0x800000
  let shortest := (List.range (k + 1)).findSome? fun i =>
    (withPlaces? m k (i + 1)).map (positional (i + 1))
  shortest.getD (positional 1 (m * 10 / Nat.pow 2 k))

end PaintPresenter.Binary32
