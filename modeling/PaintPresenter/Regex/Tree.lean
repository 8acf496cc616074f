import PaintPresenter.Base.CharSet
import PaintPresenter.Regex.Error

/-!
# Patterns as trees

A pattern that has been read is a tree whose nodes know which part of the pattern they stand for.
Classes in brackets are trees of their own.
-/

namespace PaintPresenter.Regex

/-- A character written in a pattern. -/
structure Literal where
  span : Span
  char : Char
  /-- Written as two hexadecimal digits, which stand for a byte where bytes are matched. -/
  asByte : Bool := false
  deriving DecidableEq, Repr

/-- A place in the text that a pattern asks for. -/
inductive Anchor
  | lineStart
  | lineEnd
  | textStart
  | textEnd
  | wordBoundary
  | noWordBoundary
  | wordStart
  | wordEnd
  | wordStartHalf
  | wordEndHalf
  deriving DecidableEq, Repr

/-- A switch that changes how the rest of a group is meant. -/
inductive Switch
  | caseInsensitive
  | multiLine
  | dotMatchesLineEnd
  | swapGreed
  | unicode
  | carriageReturns
  | ignoreBlanks
  deriving DecidableEq, Repr

namespace Switch

/-- The letter of a switch. -/
def ofChar? : Char → Option Switch
  | 'i' => some caseInsensitive
  | 'm' => some multiLine
  | 's' => some dotMatchesLineEnd
  | 'U' => some swapGreed
  | 'u' => some unicode
  | 'R' => some carriageReturns
  | 'x' => some ignoreBlanks
  | _ => none

end Switch

/-- Switches with their new positions. -/
abbrev Switches := List (Switch × Bool)

/-! ## Classes -/

/-- How two sets of a class are combined. -/
inductive SetOp
  | intersection
  | difference
  | symmetricDifference
  deriving DecidableEq, Repr

/-- What stands between the brackets of a class. -/
inductive ClassTree
  | nothing (span : Span)
  | literal (literal : Literal)
  | range (span : Span) (first last : Literal)
  /-- A class with a name, such as `[:alpha:]`. -/
  | named (span : Span) (negated : Bool) (set : CharSet)
  /-- Digits, blanks or word characters. -/
  | shorthand (span : Span) (negated : Bool) (set : CharSet)
  /-- Characters with a property. -/
  | property (span : Span)
  | bracket (span : Span) (negated : Bool) (inner : ClassTree)
  | union (span : Span) (items : List ClassTree)
  | combined (span : Span) (op : SetOp) (left right : ClassTree)
  deriving Repr

namespace ClassTree

/-- Where a part of a character class stands in the pattern. -/
def span : ClassTree → Span
  | nothing span | range span _ _ | named span _ _ | shorthand span _ _ | property span
  | bracket span _ _ | union span _ | combined span _ _ _ => span
  | literal l => l.span

/-- Items side by side, the first place given for when there are none. -/
def ofItems (start : Place) : List ClassTree → ClassTree
  | [] => nothing (.atPlace start)
  | [item] => item
  | item :: later => union ⟨item.span.first, (later.getLast?.getD item).span.past⟩ (item :: later)

mutual

/-- The first node too many when nodes that hold others may stand only so deep in each other. -/
def tooDeep? (room : Nat) : ClassTree → Option Span
  | nothing _ | literal _ | range _ _ _ | named _ _ _ | shorthand _ _ _ | property _ => none
  | bracket span _ inner => if room = 0 then some span else inner.tooDeep? (room - 1)
  | union span items => if room = 0 then some span else anyTooDeep? (room - 1) items
  | combined span _ left right =>
    if room = 0 then some span
    else left.tooDeep? (room - 1) <|> right.tooDeep? (room - 1)

/-- The first node too many of several trees. -/
def anyTooDeep? (room : Nat) : List ClassTree → Option Span
  | [] => none
  | item :: later => item.tooDeep? room <|> anyTooDeep? room later

end

end ClassTree

/-! ## Patterns -/

/-- A pattern or a part of one. -/
inductive Tree
  | nothing (span : Span)
  | switches (span : Span) (switches : Switches)
  | literal (literal : Literal)
  | dot (span : Span)
  | anchor (span : Span) (anchor : Anchor)
  | shorthand (span : Span) (negated : Bool) (set : CharSet)
  | property (span : Span)
  | bracket (span : Span) (negated : Bool) (inner : ClassTree)
  | repeated (span : Span) (least : Nat) (most : Option Nat) (body : Tree)
  /-- A group, which may set switches, or capture what it matches. -/
  | group (span : Span) (switches : Switches) (captures : Bool) (body : Tree)
  | either (span : Span) (branches : List Tree)
  | sequence (span : Span) (parts : List Tree)
  deriving Repr

namespace Tree

/-- Where a node stands in the pattern. -/
def span : Tree → Span
  | nothing span | switches span _ | dot span | anchor span _ | shorthand span _ _ | property span
  | bracket span _ _ | repeated span _ _ _ | group span _ _ _ | either span _
  | sequence span _ => span
  | literal l => l.span

/-- Parts one after the other. -/
def ofParts (span : Span) : List Tree → Tree
  | [] => nothing span
  | [part] => part
  | parts => sequence span parts

/-- A repetition has to have something to repeat. -/
def isRepeatable : Tree → Bool
  | nothing _ | switches _ _ => false
  | _ => true

mutual

/-- The first node too many when nodes that hold others may stand only so deep in each other. -/
def tooDeep? (room : Nat) : Tree → Option Span
  | nothing _ | switches _ _ | literal _ | dot _ | anchor _ _ | shorthand _ _ _ | property _ => none
  | bracket span _ inner => if room = 0 then some span else inner.tooDeep? (room - 1)
  | repeated span _ _ body | group span _ _ body =>
    if room = 0 then some span else body.tooDeep? (room - 1)
  | either span trees | sequence span trees =>
    if room = 0 then some span else anyTooDeep? (room - 1) trees

/-- The first node too many of several trees. -/
def anyTooDeep? (room : Nat) : List Tree → Option Span
  | [] => none
  | tree :: later => tree.tooDeep? room <|> anyTooDeep? room later

end

end Tree

end PaintPresenter.Regex
