import PaintPresenter.Regex.Bracket
import PaintPresenter.Regex.Group
import PaintPresenter.Regex.Repetition

/-!
# Reading a pattern

Reading goes down into groups as they open. Every part read takes at least one character, so the
number of characters bounds the number of steps.
-/

namespace PaintPresenter.Regex

open Reading

/-- Ignores blanks from here on, or no longer, if the switches say so. -/
def setBlanks (set : Switches) : Reading Unit := modify fun c =>
  { c with ignoresBlanks := (set.lookup .ignoreBlanks).getD c.ignoresBlanks }

/-- The branches that came before, the place where the first of them began, the place where the
current one began and its parts; branches and parts are the latest first. -/
structure Level where
  first : Place
  branches : List Tree := []
  start : Place := first
  parts : List Tree := []

namespace Level

/-- Adds a part. -/
def push (part : Tree) (l : Level) : Level := { l with parts := part :: l.parts }

/-- The branch that ends here. -/
def branch (past : Place) (l : Level) : Tree := .ofParts ⟨l.start, past⟩ l.parts.reverse

/-- Begins another branch. -/
def turn (past start : Place) (l : Level) : Level :=
  { l with branches := l.branch past :: l.branches, start, parts := [] }

/-- The level as a whole. -/
def tree (past : Place) (l : Level) : Tree :=
  if l.branches.isEmpty then l.branch past
  else .either ⟨l.first, past⟩ (l.branch past :: l.branches).reverse

/-- Replaces the last part by a repetition of it. -/
def repeatLast (read : Tree → Reading Tree) (l : Level) : Reading Level := do
  match l.parts with
  | [] => fail .nothingToRepeat (← spot)
  | part :: before =>
    if !part.isRepeatable then fail .nothingToRepeat (← spot)
    return { l with parts := (← read part) :: before }

end Level

/-- What is left of a level, up to the parenthesis that closes it or the end. -/
def levelRest : Nat → Level → Reading Tree
  | 0, level => return level.tree (← here)
  | steps + 1, level => do
    skip
    let span ← charSpan
    match ← peek? with
    | none | some ')' => return level.tree span.first
    | some '|' =>
      bump
      levelRest steps (level.turn span.first (← here))
    | some '(' =>
      bump
      match ← groupHead span with
      | .setting set =>
        setBlanks set
        levelRest steps (level.push (.switches (← since span.first) set))
      | .group set captures =>
        let outside := (← get).ignoresBlanks
        setBlanks set
        let body ← levelRest steps { first := ← here }
        refuseEnd .groupUnclosed (pure span)
        modify fun c => { c with ignoresBlanks := outside }
        bump
        levelRest steps (level.push (.group (← since span.first) set captures body))
    | some '[' => levelRest steps (level.push (← bracket))
    | some '?' => levelRest steps (← level.repeatLast (uncounted 0 (some 1)))
    | some '*' => levelRest steps (← level.repeatLast (uncounted 0 none))
    | some '+' => levelRest steps (← level.repeatLast (uncounted 1 none))
    | some '{' => levelRest steps (← level.repeatLast counted)
    | some _ => levelRest steps (level.push (← primitive).tree)

/-- A whole pattern. -/
def wholePattern : Reading Tree := do
  let tree ← levelRest ((← get).rest.length + 1) { first := ← here }
  if ← sees ')' then fail .groupUnopened (← charSpan)
  match tree.tooDeep? nestLimit with
  | some span => fail .nestedTooDeep span
  | none => return tree

/-- Reads a pattern. -/
def Tree.ofText (pattern : String) : Except Complaint Tree :=
  (wholePattern.run { rest := pattern.toList }).map Prod.fst

end PaintPresenter.Regex
