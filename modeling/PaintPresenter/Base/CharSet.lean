/-!
# Sets of characters

A set of characters is written down by its edges: the codes at which membership changes, in
increasing order, the first one being where the set begins. Every combination of two sets is then
one sweep over the edges of both.
-/

namespace PaintPresenter

/-- A set of character codes, given by the codes at which membership changes. -/
structure CharSet where
  edges : List Nat
  deriving DecidableEq, Repr

namespace CharSet

/-- No character. -/
def empty : CharSet := ⟨[]⟩

/-- All characters; the codes of surrogates are none. -/
def all : CharSet := ⟨[0, 0xd800, 0xe000, 0x110000]⟩

/-- The codes from `first` to `last`. -/
def range (first last : Nat) : CharSet := ⟨[first, last + 1]⟩

/-- One character. -/
def singleton (c : Char) : CharSet := range c.toNat c.toNat

/-- A code is in the set if an odd number of edges lie at or below it. -/
def has (s : CharSet) (code : Nat) : Bool := s.edges.countP (· ≤ code) % 2 == 1

/-- A character is in the set. -/
def contains (s : CharSet) (c : Char) : Bool := s.has c.toNat

/-- No code is in the set. -/
def isEmpty (s : CharSet) : Bool := s.edges.isEmpty

/-- The edges of a combination of two sets, from a place on where membership in the two is known. -/
def sweep (op : Bool → Bool → Bool) (inA inB : Bool) : List Nat → List Nat → List Nat
  | [], [] => []
  | a :: as, [] => turn a (op (!inA) inB) (sweep op (!inA) inB as [])
  | [], b :: bs => turn b (op inA !inB) (sweep op inA (!inB) [] bs)
  | a :: as, b :: bs =>
    if a < b then turn a (op (!inA) inB) (sweep op (!inA) inB as (b :: bs))
    else if b < a then turn b (op inA !inB) (sweep op inA (!inB) (a :: as) bs)
    else turn a (op (!inA) !inB) (sweep op (!inA) (!inB) as bs)
termination_by as bs => as.length + bs.length
where
  /-- Membership at an edge, which is one of the combination only if membership changes there. -/
  turn (edge : Nat) (after : Bool) (later : List Nat) : List Nat :=
    if op inA inB == after then later else edge :: later

/-- The codes whose membership in two sets `op` accepts; codes in neither set are never in. -/
def combine (op : Bool → Bool → Bool) (a b : CharSet) : CharSet :=
  ⟨sweep op false false a.edges b.edges⟩

/-- The codes in either set. -/
def union : CharSet → CharSet → CharSet := combine (· || ·)

/-- The codes in both sets. -/
def inter : CharSet → CharSet → CharSet := combine (· && ·)

/-- The codes of the first set that are not in the second. -/
def diff : CharSet → CharSet → CharSet := combine fun a b => a && !b

/-- The codes in exactly one of the two sets. -/
def symmDiff : CharSet → CharSet → CharSet := combine (· != ·)

/-- All codes of the sets. -/
def unions (sets : List CharSet) : CharSet := sets.foldl union empty

end CharSet

end PaintPresenter
