import PaintPresenter.Regex.Escape

/-!
# Classes in brackets

A class lists characters, ranges of them and other classes, and can be combined with another one by
an operator. Inside a class every item takes at least one character, so the number of characters
bounds the number of steps.
-/

namespace PaintPresenter.Regex

open Reading

/-- A class with a name, such as `[:alpha:]`; something else after a bracket is left alone. -/
def named? : Reading (Option ClassTree) := attempt? do
  let start ← here
  bump
  if !(← accept ":") then return none
  let negated ← accept "^"
  let name ← takeWhile (· != ':') bump
  if !(← accept ":]") then return none
  match CharSet.named.lookup (String.ofList name) with
  | some set => return some (.named (← since start) negated set)
  | none => return none

/-- One item of a class. -/
def classPrimitive : Reading Primitive := do
  let span ← charSpan
  match ← peek? with
  | some '\\' => escape
  | c => bump; return .literal { span, char := c.getD ' ' }

/-- An item of a class, or a range of them; a hyphen before the end of the class, or before another
one, makes no range. `opening` is pointed at if the class does not end. -/
def classRange (opening : Span) : Reading ClassTree := do
  let first ← classPrimitive
  skip
  refuseEnd .classUnclosed (pure opening)
  let next ← peekPast?
  if !(← sees '-') || next == some ']' || next == some '-' then return ← first.classItem
  advance
  refuseEnd .classUnclosed (pure opening)
  let last ← classPrimitive
  let span : Span := ⟨first.span.first, last.span.past⟩
  let low ← first.bound
  let high ← last.bound
  if high.char < low.char then fail .classRangeInvalid span
  return .range span low high

/-- The beginning of a class. -/
structure ClassHead where
  start : Place
  opening : Span
  negated : Bool
  /-- Hyphens, or a closing bracket, which are items if they come first. -/
  items : List ClassTree
  itemsStart : Place

/-- The beginning of a class, from its bracket on. -/
def classHead : Reading ClassHead := do
  let start ← here
  advance
  refuseEnd .classUnclosed (since start)
  let negated ← sees '^'
  if negated then
    advance
    refuseEnd .classUnclosed (since start)
  let itemsStart ← here
  let item : Reading ClassTree := return .literal ⟨← charSpan, (← peek?).getD ' ', false⟩
  let hyphens ← many do
    if !(← sees '-') then return none
    let hyphen ← item
    advance
    refuseEnd .classUnclosed (pure (.atPlace start))
    return some hyphen
  let items ← if hyphens.isEmpty && (← sees ']') then do
      let bracket ← item
      advance
      refuseEnd .classUnclosed (since start)
      pure [bracket]
    else pure hyphens
  return ⟨start, ← since start, negated, items, itemsStart⟩

/-- An operator between sets. -/
def setOp? : Reading (Option SetOp) := do
  if ← accept "&&" then return some .intersection
  if ← accept "--" then return some .difference
  if ← accept "~~" then return some .symmetricDifference
  return none

/-- The set to the left of an operator, and the operator. -/
abbrev Pending := Option (ClassTree × SetOp)

/-- Completes a pending operation; operators are applied from left to right. -/
def Pending.complete (right : ClassTree) : Pending → ClassTree
  | none => right
  | some (left, op) => .combined ⟨left.span.first, right.span.past⟩ op left right

/-- The class that a beginning opens, up to its closing bracket. `items` are the latest first. -/
def classRest : Nat → ClassHead → Pending → Place → List ClassTree → Reading ClassTree
  | 0, head, _, _, _ => fail .classUnclosed head.opening
  | steps + 1, head, pending, start, items => do
    skip
    refuseEnd .classUnclosed (pure head.opening)
    if ← sees ']' then
      bump
      let inner := pending.complete (.ofItems start items.reverse)
      return .bracket (← since head.start) head.negated inner
    if ← sees '[' then
      let item ← match ← named? with
        | some named => pure named
        | none =>
          let inner ← classHead
          classRest steps inner none inner.itemsStart inner.items.reverse
      return ← classRest steps head pending start (item :: items)
    match ← setOp? with
    | some op =>
      let left := pending.complete (.ofItems start items.reverse)
      classRest steps head (some (left, op)) (← here) []
    | none => classRest steps head pending start ((← classRange head.opening) :: items)

/-- A class. -/
def bracket : Reading Tree := do
  let head ← classHead
  let steps := (← get).rest.length + 1
  match ← classRest steps head none head.itemsStart head.items.reverse with
  | .bracket span negated inner => return .bracket span negated inner
  | other => return .bracket other.span false other

end PaintPresenter.Regex
