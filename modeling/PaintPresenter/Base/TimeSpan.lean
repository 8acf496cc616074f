import PaintPresenter.Base.Program

/-!
# Spans of time

Spans are whole seconds and nanoseconds; every use rounds a span down to a coarser unit. Seconds
are counted in a 64-bit word.
-/

namespace PaintPresenter

/-- A span of time. -/
structure TimeSpan where
  seconds : Nat
  nanoseconds : Nat
  deriving DecidableEq, Repr

namespace TimeSpan

/-- The span of so many seconds and nanoseconds; nanoseconds carry over into seconds, whose count
may not leave its word. -/
def ofParts (seconds nanoseconds : Nat) : Except Fault TimeSpan :=
  let whole := seconds + nanoseconds / 1000000000
  if whole < UInt64.size then .ok ⟨whole, nanoseconds % 1000000000⟩ else .error .overflow

/-- Length in nanoseconds; a nanosecond part of a second or more carries over. -/
def inNanoseconds (t : TimeSpan) : Nat := t.seconds * 1000000000 + t.nanoseconds

/-- Whole milliseconds. -/
def inMilliseconds (t : TimeSpan) : Nat := t.inNanoseconds / 1000000

/-- A whole number of milliseconds. -/
def ofMilliseconds (n : Nat) : TimeSpan := ⟨n / 1000, n % 1000 * 1000000⟩

/-- A whole number of seconds. -/
def ofSeconds (n : Nat) : TimeSpan := ⟨n, 0⟩

end TimeSpan

end PaintPresenter
