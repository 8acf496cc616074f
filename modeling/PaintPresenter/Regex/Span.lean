/-!
# Places in a pattern

Lines and columns count from one, and a column is a character. A line feed is the last character of
its line.
-/

namespace PaintPresenter.Regex

/-- The place of a character, or the end of the pattern. -/
structure Place where
  line : Nat := 1
  column : Nat := 1
  deriving DecidableEq, Repr

namespace Place

/-- The place after a character. -/
def after (c : Char) (p : Place) : Place :=
  if c = '\n' then ⟨p.line + 1, 1⟩ else ⟨p.line, p.column + 1⟩

/-- Whether a place comes before another one. -/
def before (p q : Place) : Bool :=
  p.line < q.line || (p.line == q.line && p.column < q.column)

end Place

/-- The part of a pattern from a place up to, and without, another one. -/
structure Span where
  first : Place
  past : Place
  deriving DecidableEq, Repr

namespace Span

/-- The empty part at a place. -/
def atPlace (p : Place) : Span := ⟨p, p⟩

/-- The part begins and ends on one line. -/
def onOneLine (s : Span) : Bool := s.first.line == s.past.line

/-- The two parts in the order of their beginnings. -/
def sorted (a b : Span) : List Span := if b.first.before a.first then [b, a] else [a, b]

end Span

end PaintPresenter.Regex
