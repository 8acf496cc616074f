import PaintPresenter.Base.CharSet.Ascii

/-!
# Regular expressions

What a pattern means: sets of characters and conditions on places, one after the other, as
alternatives, or repeated. A match leads from a place in a text to a later one, and `Expr.reach`
says which places all matches from given places lead to. Which of several matches is preferred
makes no difference to whether there is one.
-/

namespace PaintPresenter.Regex

/-- A condition on a place at which a word begins or ends. -/
inductive WordEdge
  | boundary
  | noBoundary
  | start
  | stop
  | startHalf
  | stopHalf
  deriving DecidableEq, Repr

/-- A condition on a place in a text. -/
inductive Look
  | textStart
  | textEnd
  /-- The start of a line; carriage returns may end lines, too. -/
  | lineStart (carriageReturns : Bool)
  | lineEnd (carriageReturns : Bool)
  /-- An edge of a word, of ASCII characters only or of any script. -/
  | word (ascii : Bool) (edge : WordEdge)
  deriving DecidableEq, Repr

/-- A regular expression. -/
inductive Expr
  | empty
  | oneOf (set : CharSet)
  | look (look : Look)
  | both (first second : Expr)
  | either (first second : Expr)
  | repeated (least : Nat) (most : Option Nat) (body : Expr)
  /-- A group whose match could be asked for. -/
  | captured (body : Expr)
  deriving DecidableEq, Repr

namespace Expr

/-- Every match of the expression is empty. -/
def takesNothing : Expr → Bool
  | empty | look _ => true
  | oneOf _ => false
  | both a b | either a b => a.takesNothing && b.takesNothing
  | repeated _ _ body | captured body => body.takesNothing

/-- A repetition. What takes nothing need not be repeated more than once, and what is repeated no
times takes nothing. -/
def times (least : Nat) (most : Option Nat) (body : Expr) : Expr :=
  if most = some 0 then empty
  else if body.takesNothing then repeated (min least 1) (some 1) body
  else repeated least most body

end Expr

/-! ## Places in a text -/

/-- A place in a text, by the characters before and after it. -/
structure Gap where
  before : Option Char
  after : Option Char
  deriving DecidableEq, Repr

/-- The places of a text after a character. -/
def gapsAfter (before : Option Char) : List Char → List Gap
  | [] => [⟨before, none⟩]
  | c :: later => ⟨before, some c⟩ :: gapsAfter (some c) later

/-- The places of a text: before each character, and at the end. -/
def gaps (text : List Char) : List Gap := gapsAfter none text

namespace WordEdge

/-- Whether the condition holds between two characters, told which of them belong to words. -/
def holds (before after : Bool) : WordEdge → Bool
  | boundary => before != after
  | noBoundary => before == after
  | start => !before && after
  | stop => before && !after
  | startHalf => !before
  | stopHalf => !after

end WordEdge

namespace Look

/-- Whether the condition holds at a place. Words of any script are not known here; expressions
that need them are refused beforehand. -/
def holds (g : Gap) : Look → Bool
  | textStart => g.before.isNone
  | textEnd => g.after.isNone
  | lineStart false => g.before.all (· == '\n')
  | lineStart true => g.before.all fun c =>
    c == '\n' || (c == '\r' && g.after != some '\n')
  | lineEnd false => g.after.all (· == '\n')
  | lineEnd true => g.after.all fun c =>
    c == '\r' || (c == '\n' && g.before != some '\r')
  | word _ edge =>
    let inWord (c : Option Char) := c.any CharSet.wordCharacters.contains
    edge.holds (inWord g.before) (inWord g.after)

end Look

/-! ## Matching -/

/-- For each place of a text whether it is among some places. -/
abbrev Marks := List Bool

namespace Marks

/-- The places among either. -/
def union (a b : Marks) : Marks := a.zipWith (· || ·) b

/-- Follows a step a number of times; once it changes nothing it never will. -/
def iterate (step : Marks → Marks) : Nat → Marks → Marks
  | 0, marks => marks
  | n + 1, marks =>
    let next := step marks
    if next = marks then marks else iterate step n next

/-- All places reached by following a step up to a number of times. -/
def closure (step : Marks → Marks) (n : Nat) : Marks → Marks :=
  iterate (fun marks => marks.union (step marks)) n

end Marks

namespace Expr

/-- The places to which matches lead from the marked places of a text. A match that goes through a
repetition without end passes no place twice. -/
def reach (gaps : List Gap) : Expr → Marks → Marks
  | empty, marks => marks
  | oneOf set, marks =>
    false :: (gaps.zipWith (fun g marked => marked && g.after.any set.contains) marks).dropLast
  | look l, marks => gaps.zipWith (fun g marked => marked && l.holds g) marks
  | both a b, marks => b.reach gaps (a.reach gaps marks)
  | either a b, marks => (a.reach gaps marks).union (b.reach gaps marks)
  | repeated least most body, marks =>
    let rounds := most.elim gaps.length (· - least)
    Marks.closure (body.reach gaps) rounds (Marks.iterate (body.reach gaps) least marks)
  | captured body, marks => body.reach gaps marks

/-- Whether there is a match anywhere in a text. -/
def occursIn (e : Expr) (text : List Char) : Bool :=
  let gaps := gaps text
  (e.reach gaps (gaps.map fun _ => true)).any id

/-! ## What an expression takes -/

/-- The expression asks where words of any script begin and end. -/
def needsAllWords : Expr → Bool
  | look (.word ascii _) => !ascii
  | empty | oneOf _ | look _ => false
  | both a b | either a b => a.needsAllWords || b.needsAllWords
  | repeated _ _ body | captured body => body.needsAllWords

/-- The expression matches at places without taking a character. -/
def isNullable : Expr → Bool
  | empty | look _ => true
  | oneOf _ => false
  | both a b => a.isNullable && b.isNullable
  | either a b => a.isNullable || b.isNullable
  | repeated least _ body => least == 0 || body.isNullable
  | captured body => body.isNullable

/-- Bytes taken by a state of a machine. -/
def stateSize : Nat := 32

/-- Bytes taken by a state from which two ways lead on. -/
def forkSize : Nat := stateSize + 8

/-- Bytes taken by states that accept the characters of a set: one for a set of ASCII characters;
else one for each byte of a single character, or about nine for longer sets. -/
def setSize (set : CharSet) : Nat :=
  let ranges := set.edges.length / 2
  match set.edges with
  | [] => stateSize
  | first :: _ =>
    if set.edges.all (· ≤ 0x80) then stateSize + (if ranges = 1 then 0 else 8 * ranges)
    else if set.edges = [first, first + 1] then stateSize * (Char.ofNat first).utf8Size
    else 9 * stateSize + 16 * (ranges + 4)

/-- Bytes taken by a machine for the expression, in which a counted repetition is written out. -/
def size : Expr → Nat
  | empty | look _ => stateSize
  | oneOf set => setSize set
  | both a b => a.size + b.size
  | either a b => forkSize + stateSize + a.size + b.size
  | repeated least most body =>
    match most with
    | some most =>
      let optional :=
        if most ≤ least then 0 else stateSize + (most - least) * (body.size + forkSize)
      least * body.size + optional
    | none =>
      if least = 0 && body.isNullable then body.size + 2 * forkSize + stateSize
      else max least 1 * body.size + forkSize
  | captured body => body.size + 2 * stateSize

end Expr

end PaintPresenter.Regex
