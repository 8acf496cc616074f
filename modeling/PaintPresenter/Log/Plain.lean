/-!
# Text without control sequences

What is not written to a terminal is written without the sequences that would control one. An escape
character begins a sequence. One with a bracket goes on up to a letter or another final sign, and
some announce a whole string, which goes on up to its own end. Other control characters are left
out, except for tabs and the ends of lines and pages.
-/

namespace PaintPresenter.Plain

/-- What the next character belongs to. -/
inductive Within
  | text
  /-- What follows an escape character. -/
  | escape
  /-- A sequence with signs between its escape character and its final one. -/
  | longEscape
  /-- A sequence with a bracket. -/
  | sequence
  /-- A string that a string terminator ends. -/
  | string
  /-- A string that a bell ends. -/
  | command
  deriving DecidableEq, Repr

/-- Ends of lines and pages, and tabs. -/
def isLayout (c : Char) : Bool := c ∈ ['\t', '\n', '\x0c', '\r']

namespace Within

/-- Control characters other than the escape character. -/
def afterControl (c : Char) (w : Within) : Within :=
  if c = '\x18' ∨ c = '\x1a' then text
  else match w with
    | string => string
    | command => if c = '\x07' then text else command
    | w => if isLayout c then text else w

/-- What the character after an escape character begins. -/
def ofEscape (c : Char) : Within :=
  if c = '[' then sequence
  else if c = ']' then command
  else if c ∈ ['P', 'X', '^', '_'] then string
  else if c < '0' then longEscape
  else text

/-- What the next character belongs to, after this one. -/
def after (c : Char) (w : Within) : Within :=
  if c = '\x1b' then escape
  else if c < ' ' then w.afterControl c
  else if c = '\x7f' then w
  else if '\x7f' < c then
    if w = string ∧ (String.singleton c).toUTF8.toList.any (· == 0x9c) then text else w
  else match w with
    | escape => ofEscape c
    | longEscape => if c < '0' then longEscape else text
    | sequence => if c < '@' then sequence else text
    | w => w

/-- Whether a character is text. -/
def shows (c : Char) : Within → Bool
  | text => ' ' ≤ c && c != '\x7f' || isLayout c
  | escape | longEscape | sequence => isLayout c
  | string | command => false

end Within

/-- The characters that are text. -/
def textOf : Within → List Char → List Char
  | _, [] => []
  | w, c :: later =>
    if w.shows c then c :: textOf (w.after c) later else textOf (w.after c) later

/-- A text without control sequences. -/
def plain (text : String) : String := String.ofList (textOf .text text.toList)

end PaintPresenter.Plain
