import PaintPresenter.Base.CharSet

/-!
# Classes of ASCII characters

The classes that have a letter or a name in patterns.
-/

namespace PaintPresenter.CharSet

/-- The ASCII digits. -/
def digits : CharSet := .range 0x30 0x39

/-- The ASCII blanks. -/
def spaces : CharSet := ⟨[0x9, 0xe, 0x20, 0x21]⟩

/-- The ASCII letters, digits and the low line. -/
def wordCharacters : CharSet := ⟨[0x30, 0x3a, 0x41, 0x5b, 0x5f, 0x60, 0x61, 0x7b]⟩

/-- The classes of ASCII characters that have names. -/
def named : List (String × CharSet) := [
  ("alnum", ⟨[0x30, 0x3a, 0x41, 0x5b, 0x61, 0x7b]⟩), ("alpha", ⟨[0x41, 0x5b, 0x61, 0x7b]⟩),
  ("ascii", .range 0x0 0x7f), ("blank", ⟨[0x9, 0xa, 0x20, 0x21]⟩),
  ("cntrl", ⟨[0x0, 0x20, 0x7f, 0x80]⟩), ("digit", digits), ("graph", .range 0x21 0x7e),
  ("lower", .range 0x61 0x7a), ("print", .range 0x20 0x7e),
  ("punct", ⟨[0x21, 0x30, 0x3a, 0x41, 0x5b, 0x61, 0x7b, 0x7f]⟩), ("space", spaces),
  ("upper", .range 0x41 0x5a), ("word", wordCharacters),
  ("xdigit", ⟨[0x30, 0x3a, 0x41, 0x47, 0x61, 0x67]⟩)]

end PaintPresenter.CharSet
