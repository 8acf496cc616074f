import PaintPresenter.Base.CharSet

/-!
# Blanks and lines

What counts as a blank at the ends of a word, and where the lines of a text end.
-/

namespace PaintPresenter

/-- Spaces of any script and line ends. -/
def CharSet.blanks : CharSet := ⟨[
    0x9, 0xe, 0x20, 0x21, 0x85, 0x86, 0xa0, 0xa1, 0x1680, 0x1681, 0x2000, 0x200b, 0x2028, 0x202a,
    0x202f, 0x2030, 0x205f, 0x2060, 0x3000, 0x3001]⟩

namespace Text

/-- A space of any script or a line end. -/
def isBlank (c : Char) : Bool := CharSet.blanks.contains c

/-- The characters between the blanks at both ends. -/
def trim (chars : List Char) : List Char :=
  ((chars.dropWhile isBlank).reverse.dropWhile isBlank).reverse

/-- A line without the carriage return at its end. -/
def dropReturn (line : String) : String :=
  match line.toList.reverse with
  | '\r' :: before => String.ofList before.reverse
  | _ => line

/-- The lines of a text. A line feed ends a line, as does a carriage return before one; what
follows the last line feed is a line only if it is not empty. -/
def lines (text : String) : List String :=
  let pieces := text.splitOn "\n"
  let last := pieces.getLast?.getD ""
  pieces.dropLast.map dropReturn ++ (if last.isEmpty then [] else [last])

/-- A character, so many times. -/
def times (c : Char) (n : Nat) : String := String.ofList (List.replicate n c)

end Text

end PaintPresenter
