import PaintPresenter.Regex.Expr
import PaintPresenter.Regex.Tree

/-!
# What a pattern means

Switches say how the parts after them are meant. Characters of any script can be written one by one
and in ranges; but case and the classes of digits, blanks and word characters are known for ASCII
only, so that a pattern may use them only while it keeps to ASCII, and then it may not reach beyond.
-/

namespace PaintPresenter.Regex

/-- The positions of all switches that make a difference. -/
structure Mode where
  caseInsensitive : Bool := false
  multiLine : Bool := false
  dotMatchesLineEnd : Bool := false
  unicode : Bool := true
  carriageReturns : Bool := false
  deriving DecidableEq, Repr

namespace Mode

/-- Sets a switch. -/
def turn (m : Mode) : Switch × Bool → Mode
  | (.caseInsensitive, on) => { m with caseInsensitive := on }
  | (.multiLine, on) => { m with multiLine := on }
  | (.dotMatchesLineEnd, on) => { m with dotMatchesLineEnd := on }
  | (.unicode, on) => { m with unicode := on }
  | (.carriageReturns, on) => { m with carriageReturns := on }
  | (.swapGreed, _) | (.ignoreBlanks, _) => m

/-- Sets several switches. -/
def set (m : Mode) (switches : Switches) : Mode := switches.foldl turn m

end Mode

/-- A meaning, or what stands in its way. -/
abbrev Meaning := Except Complaint

/-- Complains about a part of the pattern. -/
def Meaning.refuse {α : Type} (flaw : Flaw) (span : Span) : Meaning α := .error ⟨flaw, span, none⟩

namespace Mode

/-! ## Characters -/

/-- The set with the other case of each of its ASCII letters. -/
def foldAscii (set : CharSet) : CharSet :=
  let upper := (set.inter (.range 0x41 0x5a)).edges.map (· + 32)
  let lower := (set.inter (.range 0x61 0x7a)).edges.map (· - 32)
  (set.union ⟨upper⟩).union ⟨lower⟩

/-- The set with the other case of each of its letters, if case is to be ignored. -/
def fold (m : Mode) (span : Span) (set : CharSet) : Meaning CharSet :=
  if !m.caseInsensitive then .ok set
  else if !m.unicode then .ok (foldAscii set)
  else if set.isEmpty then .ok set
  else .refuse .caseUnavailable span

/-- The set with case ignored, and then all others if it is negated. -/
def foldAndNegate (m : Mode) (span : Span) (negated : Bool) (set : CharSet) : Meaning CharSet := do
  let set ← m.fold span set
  let others := if m.unicode then CharSet.all else CharSet.range 0x0 0xff
  let set := if negated then others.diff set else set
  if !m.unicode && set.edges.any (0x80 < ·) then .refuse .notText span
  return set

/-- One character. -/
def character (m : Mode) (l : Literal) : Meaning CharSet :=
  if !m.unicode && l.asByte && 0x80 ≤ l.char.toNat then .refuse .notText l.span
  else if m.unicode || l.char.toNat < 0x80 then m.fold l.span (.singleton l.char)
  else .ok (.singleton l.char)

/-- The code of a character in a class. -/
def code (m : Mode) (l : Literal) : Meaning Nat :=
  if m.unicode || l.char.toNat < 0x80 then .ok l.char.toNat
  else if l.asByte then .refuse .notText l.span
  else .refuse .unicodeNotAllowed l.span

/-- Digits, blanks or word characters. -/
def shorthand (m : Mode) (span : Span) (negated : Bool) (set : CharSet) : Meaning CharSet :=
  if m.unicode then .refuse .shorthandUnknown span
  else if negated then .refuse .notText span
  else .ok set

/-- Characters with a property. -/
def property {α : Type} (m : Mode) (span : Span) : Meaning α :=
  .refuse (if m.unicode then .propertyNotFound else .unicodeNotAllowed) span

/-- Any character, or any but the end of a line. -/
def dot (m : Mode) (span : Span) : Meaning CharSet :=
  if !m.unicode then .refuse .notText span
  else if m.dotMatchesLineEnd then .ok .all
  else if m.carriageReturns then .ok ((CharSet.all.diff (.singleton '\n')).diff (.singleton '\r'))
  else .ok (CharSet.all.diff (.singleton '\n'))

/-- A condition on a place. -/
def look (m : Mode) : Anchor → Look
  | .lineStart => if m.multiLine then .lineStart m.carriageReturns else .textStart
  | .lineEnd => if m.multiLine then .lineEnd m.carriageReturns else .textEnd
  | .textStart => .textStart
  | .textEnd => .textEnd
  | .wordBoundary => .word (!m.unicode) .boundary
  | .noWordBoundary => .word (!m.unicode) .noBoundary
  | .wordStart => .word (!m.unicode) .start
  | .wordEnd => .word (!m.unicode) .stop
  | .wordStartHalf => .word (!m.unicode) .startHalf
  | .wordEndHalf => .word (!m.unicode) .stopHalf

end Mode

/-- The combination of two sets. -/
def SetOp.apply : SetOp → CharSet → CharSet → CharSet
  | intersection => .inter
  | difference => .diff
  | symmetricDifference => .symmDiff

namespace ClassTree

mutual

/-- The characters of a class. -/
def meaning (m : Mode) : ClassTree → Meaning CharSet
  | nothing _ => return .empty
  | literal l => do
    let code ← m.code l
    return .range code code
  | range _ first last => return .range (← m.code first) (← m.code last)
  | named span negated set => m.foldAndNegate span negated set
  | shorthand span negated set => m.shorthand span negated set
  | property span => m.property span
  | bracket span negated inner => do m.foldAndNegate span negated (← inner.meaning m)
  | union _ items => return .unions (← meanings m items)
  | combined _ op left right => do
    let leftSet ← left.meaning m
    let rightSet ← right.meaning m
    let rightSet ← m.fold right.span rightSet
    let leftSet ← m.fold left.span leftSet
    return op.apply leftSet rightSet

/-- The characters of several classes. -/
def meanings (m : Mode) : List ClassTree → Meaning (List CharSet)
  | [] => return []
  | item :: later => return (← item.meaning m) :: (← meanings m later)

end

end ClassTree

namespace Tree

mutual

/-- The meaning of a pattern, and how what follows in the same group is meant. -/
def meaning (m : Mode) : Tree → Meaning (Expr × Mode)
  | nothing _ => return (.empty, m)
  | switches _ set => return (.empty, m.set set)
  | literal l => return (.oneOf (← m.character l), m)
  | dot span => return (.oneOf (← m.dot span), m)
  | anchor _ a => return (.look (m.look a), m)
  | shorthand span negated set => return (.oneOf (← m.shorthand span negated set), m)
  | property span => m.property span
  | bracket span negated inner => do
    return (.oneOf (← m.foldAndNegate span negated (← inner.meaning m)), m)
  | repeated _ least most body => do
    let (e, m) ← body.meaning m
    return (.times least most e, m)
  | group _ set captures body => do
    let (e, _) ← body.meaning (m.set set)
    return (if captures then .captured e else e, m)
  | either _ branches => branchesMeaning m branches
  | sequence _ parts => partsMeaning m parts

/-- The meaning of alternatives; switches of one hold in those after it. -/
def branchesMeaning (m : Mode) : List Tree → Meaning (Expr × Mode)
  | [] => return (.oneOf .empty, m)
  | [last] => last.meaning m
  | branch :: later => do
    let (e, m) ← branch.meaning m
    let (others, m) ← branchesMeaning m later
    return (.either e others, m)

/-- The meaning of parts one after the other. -/
def partsMeaning (m : Mode) : List Tree → Meaning (Expr × Mode)
  | [] => return (.empty, m)
  | [last] => last.meaning m
  | part :: later => do
    let (e, m) ← part.meaning m
    let (others, m) ← partsMeaning m later
    return (.both e others, m)

end

end Tree

end PaintPresenter.Regex
