import PaintPresenter.Base.Text
import PaintPresenter.Regex.Span

/-!
# What is wrong with a pattern

A pattern is refused because a part of it is malformed, because it asks for knowledge of all scripts
that is not built in, or because it would take too much room. A malformed part is pointed at below
the line of the pattern that it stands on.
-/

namespace PaintPresenter.Regex

/-- What is wrong with a part of a pattern. -/
inductive Flaw
  | classEscapeInvalid
  | classRangeInvalid
  | classRangeLiteral
  | classUnclosed
  | decimalEmpty
  | decimalInvalid
  | hexEmpty
  | hexInvalid
  | hexDigitInvalid
  | escapeUnfinished
  | escapeUnknown
  | flagDangling
  | flagDuplicate
  | flagNegationRepeated
  | flagUnfinished
  | flagUnknown
  | groupNameDuplicate
  | groupNameEmpty
  | groupNameInvalid
  | groupNameUnfinished
  | groupUnclosed
  | groupUnopened
  | nestedTooDeep
  | countRangeInvalid
  | countEmpty
  | countUnclosed
  | nothingToRepeat
  | wordBoundaryUnclosed
  | wordBoundaryUnknown
  | wordBoundaryUnfinished
  | propertyInvalid
  | backreference
  | lookAround
  | unicodeNotAllowed
  | notText
  | propertyNotFound
  | shorthandUnknown
  | caseUnavailable
  deriving DecidableEq, Repr

/-- How many levels of nesting a pattern may have. -/
def nestLimit : Nat := 250

/-- The flaw in words. -/
def Flaw.message : Flaw → String
  | classEscapeInvalid => "invalid escape sequence found in character class"
  | classRangeInvalid => "invalid character class range, the start must be <= the end"
  | classRangeLiteral => "invalid range boundary, must be a literal"
  | classUnclosed => "unclosed character class"
  | decimalEmpty => "decimal literal empty"
  | decimalInvalid => "decimal literal invalid"
  | hexEmpty => "hexadecimal literal empty"
  | hexInvalid => "hexadecimal literal is not a Unicode scalar value"
  | hexDigitInvalid => "invalid hexadecimal digit"
  | escapeUnfinished => "incomplete escape sequence, reached end of pattern prematurely"
  | escapeUnknown => "unrecognized escape sequence"
  | flagDangling => "dangling flag negation operator"
  | flagDuplicate => "duplicate flag"
  | flagNegationRepeated => "flag negation operator repeated"
  | flagUnfinished => "expected flag but got end of regex"
  | flagUnknown => "unrecognized flag"
  | groupNameDuplicate => "duplicate capture group name"
  | groupNameEmpty => "empty capture group name"
  | groupNameInvalid => "invalid capture group character"
  | groupNameUnfinished => "unclosed capture group name"
  | groupUnclosed => "unclosed group"
  | groupUnopened => "unopened group"
  | nestedTooDeep => s!"exceed the maximum number of nested parentheses/brackets ({nestLimit})"
  | countRangeInvalid => "invalid repetition count range, the start must be <= the end"
  | countEmpty => "repetition quantifier expects a valid decimal"
  | countUnclosed => "unclosed counted repetition"
  | nothingToRepeat => "repetition operator missing expression"
  | wordBoundaryUnclosed =>
    "special word boundary assertion is either unclosed or contains an invalid character"
  | wordBoundaryUnknown =>
    "unrecognized special word boundary assertion, valid choices are: start, end, start-half " ++
      "or end-half"
  | wordBoundaryUnfinished =>
    "found either the beginning of a special word boundary or a bounded repetition on a \\b " ++
      "with an opening brace, but no closing brace"
  | propertyInvalid => "invalid Unicode character class"
  | backreference => "backreferences are not supported"
  | lookAround => "look-around, including look-ahead and look-behind, is not supported"
  | unicodeNotAllowed => "Unicode not allowed here"
  | notText => "pattern can match invalid UTF-8"
  | propertyNotFound => "Unicode property not found"
  | shorthandUnknown =>
    "Unicode-aware Perl class not found (make sure the unicode-perl feature is enabled)"
  | caseUnavailable =>
    "Unicode-aware case insensitivity matching is not available (make sure the unicode-case " ++
      "feature is enabled)"

/-- A flaw, the part that has it, and an earlier part that it clashes with. -/
structure Complaint where
  flaw : Flaw
  span : Span
  earlier : Option Span := none
  deriving DecidableEq, Repr

namespace Complaint

/-- The parts to point at. -/
def spans (c : Complaint) : List Span := c.earlier.elim [c.span] c.span.sorted

/-- Carets below the parts on one line; an empty part has one, too. -/
def carets (spans : List Span) : String :=
  (spans.foldl (fun (text, column) s =>
    let gap := s.first.column - 1 - column
    let width := max 1 (s.past.column - s.first.column)
    (text ++ Text.times ' ' gap ++ Text.times '^' width, column + gap + width)) ("", 0)).1

/-- A number to the right of as many places as the greatest one needs. -/
def padded (width n : Nat) : String :=
  let digits := toString n
  Text.times ' ' (width - digits.length) ++ digits

/-- The lines of a pattern, each followed by carets if a part on it is pointed at. When there are
more than one they are numbered. -/
def notated (pattern : String) (c : Complaint) : List String :=
  let lines := Text.lines pattern
  let count := if pattern.endsWith "\n" then lines.length + 1 else lines.length
  let width := if count ≤ 1 then 0 else (toString count).length
  let beginning (n : Nat) := if width = 0 then "    " else padded width n ++ ": "
  (lines.zipIdx 1).flatMap fun (line, n) =>
    let here := c.spans.filter fun s => s.onOneLine && s.first.line == n
    let pointed := if here.isEmpty then [] else
      [Text.times ' ' (if width = 0 then 4 else width + 2) ++ carets here]
    (beginning n ++ line) :: pointed

/-- Where a part is that runs over lines. -/
def overLines (s : Span) : String :=
  s!"on line {s.first.line} (column {s.first.column}) " ++
    s!"through line {s.past.line} (column {s.past.column - 1})"

/-- The whole complaint about a pattern. -/
def text (pattern : String) (c : Complaint) : String :=
  let divider := Text.times '~' 79
  let long := (c.spans.filter (!·.onOneLine)).map overLines
  let body := if pattern.contains '\n' then [divider] ++ c.notated pattern ++ [divider] ++ long
    else c.notated pattern
  "\n".intercalate (["regex parse error:"] ++ body ++ [s!"error: {c.flaw.message}"])

end Complaint

/-- Why a pattern is refused. -/
inductive Error
  | malformed (complaint : Complaint)
  /-- The pattern asks where words of any script begin and end. -/
  | wordsUnknown
  | tooLarge
  deriving DecidableEq, Repr

/-- How many bytes the machine for a pattern may take. -/
def sizeLimit : Nat := 10485760

/-- The reason in words. -/
def Error.message (pattern : String) : Error → String
  | malformed complaint => complaint.text pattern
  | wordsUnknown => "error building NFA"
  | tooLarge => s!"Compiled regex exceeds size limit of {sizeLimit} bytes."

end PaintPresenter.Regex
