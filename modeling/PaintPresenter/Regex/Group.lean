import PaintPresenter.Base.CharSet.Letters
import PaintPresenter.Regex.Reader

/-!
# Beginnings of groups

A parenthesis opens a group, which may have a name or switches of its own, or sets switches for the
rest of the group around it.
-/

namespace PaintPresenter.Regex

open Reading

/-- A switch with the part it makes up; a hyphen, which turns the following ones off, is none. -/
abbrev SwitchItem := Option Switch × Span

/-- One letter or hyphen of a list of switches, after those read already. -/
def switchItem (before : List SwitchItem) : Reading SwitchItem := do
  let span ← charSpan
  let kind ← if ← sees '-' then pure none else
    match (← peek?).bind Switch.ofChar? with
    | some switch => pure (some switch)
    | none => fail .flagUnknown span
  if let some earlier := before.lookup kind then
    fail (if kind.isNone then .flagNegationRepeated else .flagDuplicate) span (some earlier)
  bump
  refuseEnd .flagUnfinished spot
  return (kind, span)

/-- Switches up to the sign that ends their list, latest first. -/
def switchItems : Nat → List SwitchItem → Reading (List SwitchItem)
  | 0, before => return before
  | steps + 1, before => do
    if (← sees ':') || (← sees ')') then return before
    switchItems steps ((← switchItem before) :: before)

/-- The switches of a group. -/
def switches : Reading Switches := do
  let items ← switchItems ((← get).rest.length + 1) []
  if let (none, span) :: _ := items then fail .flagDangling span
  let kinds := items.reverse.map Prod.fst
  let on := kinds.takeWhile (·.isSome)
  let off := kinds.dropWhile (·.isSome)
  return (on.filterMap id).map (·, true) ++ (off.filterMap id).map (·, false)

/-- Characters that a name of a group consists of. -/
def isNameCharacter (first : Bool) (c : Char) : Bool :=
  c == '_' || CharSet.letters.contains c ||
    (!first && (c ∈ ['.', '[', ']'] || CharSet.numerals.contains c))

/-- The name of a group. -/
def groupName : Reading Unit := do
  refuseEnd .groupNameUnfinished spot
  let start ← here
  let name ← many do
    match ← peek? with
    | none | some '>' => return none
    | some c =>
      if !isNameCharacter ((← here) == start) c then fail .groupNameInvalid (← charSpan)
      bump
      return some c
  let span ← since start
  refuseEnd .groupNameUnfinished spot
  bump
  if name.isEmpty then fail .groupNameEmpty (.atPlace start)
  let name := String.ofList name
  let names := (← get).names
  if let some earlier := names.lookup name then fail .groupNameDuplicate span (some earlier)
  modify fun c => { c with names := (name, span) :: names }

/-- What a parenthesis opens. -/
inductive Opened
  /-- Switches for the rest of the group around it. -/
  | setting (switches : Switches)
  | group (switches : Switches) (captures : Bool)

/-- The beginning of a group, after its parenthesis. -/
def groupHead (opening : Span) : Reading Opened := do
  skip
  for sign in ["?=", "?!", "?<=", "?<!"] do
    if ← accept sign then fail .lookAround (← since opening.first)
  let inner ← spot
  if (← accept "?P<") || (← accept "?<") then
    groupName
    return .group [] true
  if !(← accept "?") then return .group [] true
  refuseEnd .groupUnclosed (pure opening)
  let set ← switches
  let ends ← sees ')'
  bump
  if !ends then return .group set false
  if set.isEmpty then fail .nothingToRepeat inner
  return .setting set

end PaintPresenter.Regex
