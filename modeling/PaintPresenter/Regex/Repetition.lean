import PaintPresenter.Regex.Reader

/-!
# Repetitions

A part is repeated as a sign or a count between braces says. A question mark after it, which asks
for as few repetitions as possible, makes no difference to whether there is a match.
-/

namespace PaintPresenter.Regex

open Reading

/-- A decimal number; what is wrong with it is told later. -/
def decimal : Reading (Except Complaint Nat) := do
  let _ ← takeWhile Text.isBlank bump
  let first ← here
  let digits ← takeWhile Char.isDigit advance
  let span ← since first
  let _ ← takeWhile Text.isBlank advance
  if digits.isEmpty then return .error ⟨.countEmpty, span, none⟩
  let n := digits.foldl (fun n c => 10 * n + (c.toNat - 48)) 0
  return if n < UInt32.size then .ok n else .error ⟨.decimalInvalid, span, none⟩

/-- The numbers between the braces of a counted repetition. -/
def counts (start : Place) : Reading (Nat × Option Nat) := do
  let least ← decimal
  refuseEnd .countUnclosed (since start)
  if ← sees ',' then
    advance
    refuseEnd .countUnclosed (since start)
    if ← sees '}' then return (← least, none)
    let least ← least
    let most ← decimal
    return (least, some (← most))
  let n ← least
  return (n, some n)

/-- A counted repetition, from its brace on. -/
def counted (body : Tree) : Reading Tree := do
  let start ← here
  advance
  refuseEnd .countUnclosed (since start)
  let (least, most) ← counts start
  if !(← sees '}') then fail .countUnclosed (← since start)
  advance
  if ← sees '?' then bump
  if most.any (· < least) then fail .countRangeInvalid (← since start)
  return .repeated ⟨body.span.first, ← here⟩ least most body

/-- A repetition that is written as one sign. -/
def uncounted (least : Nat) (most : Option Nat) (body : Tree) : Reading Tree := do
  bump
  if ← sees '?' then bump
  return .repeated ⟨body.span.first, ← here⟩ least most body

end PaintPresenter.Regex
