import PaintPresenter.Regex.Tree

/-!
# Reading characters of a pattern

A reading takes characters from the front of what is left of a pattern and keeps count of where it
is. Where blanks are to be ignored, they and comments are skipped between the parts of a pattern;
a comment runs from `#` to the end of its line.
-/

namespace PaintPresenter.Regex

/-- What is left of a pattern, and what has been seen so far. -/
structure Cursor where
  rest : List Char
  place : Place := {}
  /-- Blanks and comments are ignored. -/
  ignoresBlanks : Bool := false
  /-- The names of groups, and where they stand. -/
  names : List (String × Span) := []
  deriving Repr

/-- A step of reading. -/
abbrev Reading := StateT Cursor (Except Complaint)

namespace Reading

variable {α β : Type}

/-- Complains about a part of the pattern. -/
def fail (flaw : Flaw) (span : Span) (earlier : Option Span := none) : Reading α :=
  throw ⟨flaw, span, earlier⟩

/-- Complains if nothing is left. -/
def refuseEnd (flaw : Flaw) (span : Reading Span) : Reading Unit := do
  if (← get).rest.isEmpty then fail flaw (← span)

/-- The next character. -/
def peek? : Reading (Option Char) := return (← get).rest.head?

/-- The next character is this one. -/
def sees (c : Char) : Reading Bool := return (← peek?) == some c

/-- Nothing is left. -/
def atEnd : Reading Bool := return (← get).rest.isEmpty

/-- Where the next character is. -/
def here : Reading Place := return (← get).place

/-- The part from a place up to here. -/
def since (first : Place) : Reading Span := return ⟨first, ← here⟩

/-- The empty part here. -/
def spot : Reading Span := return .atPlace (← here)

/-- The part that the next character makes up. -/
def charSpan : Reading Span := do
  let c ← get
  return ⟨c.place, c.rest.head?.elim c.place c.place.after⟩

/-- Goes past the next character. -/
def bump : Reading Unit := modify fun c =>
  match c.rest with
  | [] => c
  | next :: rest => { c with rest, place := c.place.after next }

/-- The characters after blanks and comments, and where they begin. -/
def afterBlanks (inComment : Bool) : List Char → Place → List Char × Place
  | [], p => ([], p)
  | c :: rest, p =>
    if inComment then afterBlanks (c != '\n') rest (p.after c)
    else if Text.isBlank c then afterBlanks false rest (p.after c)
    else if c = '#' then afterBlanks true rest (p.after c)
    else (c :: rest, p)

/-- Goes past blanks and comments, where they are ignored. -/
def skip : Reading Unit := modify fun c =>
  if c.ignoresBlanks then
    let (rest, place) := afterBlanks false c.rest c.place
    { c with rest, place }
  else c

/-- Goes past the next character and to the next one that counts. -/
def advance : Reading Unit := do
  bump
  skip

/-- Goes past a text, if it comes next. -/
def accept (text : String) : Reading Bool := do
  if text.toList.isPrefixOf (← get).rest then
    text.toList.forM fun _ => bump
    return true
  return false

/-- Results of a step, up to the first time it has none, at most `n`. -/
def upTo (step : Reading (Option α)) : Nat → Reading (List α)
  | 0 => return []
  | n + 1 => do
    match ← step with
    | none => return []
    | some a => return a :: (← upTo step n)

/-- Results of a step that goes forward, up to the first time it has none. -/
def many (step : Reading (Option α)) : Reading (List α) := do
  upTo step ((← get).rest.length + 1)

/-- The characters from here on that satisfy `p`, each followed by `forward`. -/
def takeWhile (p : Char → Bool) (forward : Reading Unit) : Reading (List Char) := many do
  match ← peek? with
  | none => return none
  | some c =>
    if p c then
      forward
      return some c
    return none

/-- The character after the next one that counts, as seen from the next one. Of a comment its first
character is seen. -/
def peekPast? : Reading (Option Char) := do
  let c ← get
  let later := c.rest.tail
  if !c.ignoresBlanks then return later.head?
  match later.dropWhile Text.isBlank with
  | [] => return later.head?
  | '#' :: comment =>
    match comment.dropWhile Text.isBlank with
    | [] => return later.head?
    | first :: _ => return some first
  | first :: _ => return some first

/-- Runs a reading and puts everything back if it yields nothing. -/
def attempt? (reading : Reading (Option α)) : Reading (Option α) := do
  let start ← get
  match ← reading with
  | some a => return some a
  | none =>
    set start
    return none

end Reading

end PaintPresenter.Regex
