import PaintPresenter.Base.CharSet.Ascii
import PaintPresenter.Regex.Reader

/-!
# Single items of a pattern

A character stands for itself, unless it means something; a backslash takes the meaning away from
a character, or gives one to a letter.
-/

namespace PaintPresenter.Regex

open Reading

/-- What a single item of a pattern or of a class can be. -/
inductive Primitive
  | literal (literal : Literal)
  | dot (span : Span)
  | anchor (span : Span) (anchor : Anchor)
  | shorthand (span : Span) (negated : Bool) (set : CharSet)
  | property (span : Span)

namespace Primitive

/-- Where a primitive stands in the pattern. -/
def span : Primitive → Span
  | dot span | anchor span _ | shorthand span _ _ | property span => span
  | literal l => l.span

/-- The item in a pattern. -/
def tree : Primitive → Tree
  | literal l => .literal l
  | dot span => .dot span
  | anchor span a => .anchor span a
  | shorthand span negated set => .shorthand span negated set
  | property span => .property span

/-- The item in a class. -/
def classItem : Primitive → Reading ClassTree
  | literal l => return .literal l
  | shorthand span negated set => return .shorthand span negated set
  | property span => return .property span
  | p => fail .classEscapeInvalid p.span

/-- The item as an end of a range. -/
def bound : Primitive → Reading Literal
  | literal l => return l
  | p => fail .classRangeLiteral p.span

end Primitive

/-- The value of a hexadecimal digit. -/
def hexValue? (c : Char) : Option Nat :=
  if '0' ≤ c ∧ c ≤ '9' then some (c.toNat - 48)
  else if 'a' ≤ c ∧ c ≤ 'f' then some (c.toNat - 87)
  else if 'A' ≤ c ∧ c ≤ 'F' then some (c.toNat - 55)
  else none

/-- The character with a code in hexadecimal. -/
def charOfHex? (digits : List Nat) : Option Char :=
  let code := digits.foldl (fun n d => 16 * n + d) 0
  if code.isValidChar then some (Char.ofNat code) else none

/-- A hexadecimal digit, which has to come next. -/
def hexDigit : Reading Nat := do
  match (← peek?).bind hexValue? with
  | some d => return d
  | none => fail .hexDigitInvalid (← charSpan)

/-- A code of so many hexadecimal digits. -/
def fixedHex (start : Place) (count : Nat) : Reading Literal := do
  let first ← here
  let digits ← (List.range count).mapM fun i => do
    if i > 0 then
      advance
      refuseEnd .escapeUnfinished spot
    hexDigit
  advance
  match charOfHex? digits with
  | some char => return ⟨← since start, char, count == 2⟩
  | none => fail .hexInvalid (← since first)

/-- A code between braces. -/
def bracedHex (start : Place) : Reading Literal := do
  let brace ← here
  let first := (← charSpan).past
  let digits ← many do
    advance
    if ← atEnd then return none
    if ← sees '}' then return none
    return some (← hexDigit)
  refuseEnd .escapeUnfinished (since brace)
  let past ← here
  advance
  if digits.isEmpty then fail .hexEmpty (← since brace)
  match charOfHex? digits with
  | some char => return ⟨← since start, char, false⟩
  | none => fail .hexInvalid ⟨first, past⟩

/-- A code in hexadecimal, after the letter that announces it. -/
def hex (start : Place) (count : Nat) : Reading Literal := do
  advance
  refuseEnd .escapeUnfinished spot
  if ← sees '{' then bracedHex start else fixedHex start count

/-- A property of characters, after the letter that announces it. -/
def property (start : Place) : Reading Primitive := do
  advance
  refuseEnd .escapeUnfinished spot
  if ← sees '{' then
    let _ ← many do
      advance
      if ← sees '}' then return none
      peek?
    refuseEnd .escapeUnfinished spot
    bump
  else
    if ← sees '\\' then fail .propertyInvalid (← charSpan)
    advance
  return .property (← since start)

/-- The words between braces after an escaped `b`. -/
def wordAnchors : List (String × Anchor) := [
  ("start", .wordStart), ("end", .wordEnd), ("start-half", .wordStartHalf),
  ("end-half", .wordEndHalf)]

/-- Letters and hyphens make up the words between braces. -/
def isWordLetter (c : Char) : Bool := c.isAlpha || c == '-'

/-- A word between braces; something else there is left alone, for it can be a count. -/
def braced? (start : Place) : Reading (Option Anchor) := do
  let brace ← here
  advance
  refuseEnd .wordBoundaryUnfinished (since start)
  let first ← here
  if !((← peek?).any isWordLetter) then return none
  let word ← takeWhile isWordLetter advance
  if !(← sees '}') then fail .wordBoundaryUnclosed (← since brace)
  let past ← here
  bump
  match wordAnchors.lookup (String.ofList word) with
  | some anchor => return some anchor
  | none => fail .wordBoundaryUnknown ⟨first, past⟩

/-- An escaped `b`, which stands for the boundary of a word. -/
def wordBoundary (start : Place) : Reading Primitive := do
  let named ← if ← sees '{' then attempt? (braced? start) else pure none
  return .anchor (← since start) (named.getD .wordBoundary)

/-- Characters that mean something unless they are escaped. -/
def isMeta (c : Char) : Bool := c ∈ "\\.+*?()|[]\x7b\x7d^$#&-~".toList

/-- Characters that an escape leaves as they are. -/
def isEscapable (c : Char) : Bool :=
  isMeta c || (c.toNat < 0x80 && !c.isAlphanum && c != '<' && c != '>')

/-- Characters that have a letter of their own. -/
def controls : List (Char × Char) := [
  ('a', '\x07'), ('f', '\x0c'), ('t', '\t'), ('n', '\n'), ('r', '\r'), ('v', '\x0b')]

/-- Classes that have a letter of their own; the capital letter is for all other characters. -/
def classLetters : List (Char × CharSet) := [
  ('d', CharSet.digits), ('s', CharSet.spaces), ('w', CharSet.wordCharacters)]

/-- Places that have a letter or sign of their own. -/
def anchors : List (Char × Anchor) := [
  ('A', .textStart), ('z', .textEnd), ('B', .noWordBoundary), ('<', .wordStart), ('>', .wordEnd)]

/-- An escape. -/
def escape : Reading Primitive := do
  let start ← here
  bump
  match ← peek? with
  | none => fail .escapeUnfinished (← since start)
  | some 'x' => return .literal (← hex start 2)
  | some 'u' => return .literal (← hex start 4)
  | some 'U' => return .literal (← hex start 8)
  | some 'p' | some 'P' => property start
  | some c =>
    if c.isDigit then fail .backreference ⟨start, (← charSpan).past⟩
    bump
    let span ← since start
    if let some set := classLetters.lookup c.toLower then return .shorthand span c.isUpper set
    if isEscapable c then return .literal { span, char := c }
    if let some char := controls.lookup c then return .literal { span, char }
    if let some anchor := anchors.lookup c then return .anchor span anchor
    if c = 'b' then wordBoundary start else fail .escapeUnknown span

/-- An item outside of brackets. -/
def primitive : Reading Primitive := do
  let span ← charSpan
  match ← peek? with
  | some '\\' => escape
  | some '.' => bump; return .dot span
  | some '^' => bump; return .anchor span .lineStart
  | some '$' => bump; return .anchor span .lineEnd
  | c => bump; return .literal { span, char := c.getD ' ' }

end PaintPresenter.Regex
