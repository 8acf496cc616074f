import PaintPresenter.Regex.Meaning
import PaintPresenter.Regex.Reading

/-!
# Patterns to search texts for

A pattern is read and understood once, and then texts are searched for it.
-/

namespace PaintPresenter

/-- A pattern that has been understood. -/
structure Regex where
  pattern : String
  expr : Regex.Expr
  deriving DecidableEq, Repr

namespace Regex

/-- Bytes taken by the parts that every machine has. -/
def baseSize : Nat := 168

/-- Understands a pattern. -/
def ofText (pattern : String) : Except Error Regex := do
  let tree ← (Tree.ofText pattern).mapError .malformed
  let (expr, _) ← (tree.meaning {}).mapError .malformed
  if sizeLimit < expr.size + baseSize then throw .tooLarge
  if expr.needsAllWords then throw .wordsUnknown
  return { pattern, expr }

/-- The pattern occurs in a text. -/
def occursIn (r : Regex) (text : String) : Bool := r.expr.occursIn text.toList

end Regex

end PaintPresenter
