import PaintPresenter.Base.Bytes
import PaintPresenter.Base.CharSet.Unshown

/-!
# Bytes read as UTF-8

Names and messages of a driver are bytes that ought to be UTF-8 but need not be. Reading splits
them into characters and broken parts; a broken part is as long as the start of some well-formed
sequence, and at least one byte. Text for a message replaces each broken part by U+FFFD; a quoted
name shows its bytes.
-/

namespace PaintPresenter.Utf8

/-- A character, or bytes that are none. -/
inductive Piece
  | char (c : Char)
  | broken (bytes : List UInt8)
  deriving DecidableEq, Repr

/-- The ranges that the bytes after a first byte have to lie in; nothing when no sequence starts
with it. -/
def continuation? (first : UInt8) : Option (List (UInt8 × UInt8)) :=
  let any : UInt8 × UInt8 := (0x80, 0xbf)
  if first < 0x80 then some []
  else if first < 0xc2 then none
  else if first < 0xe0 then some [any]
  else if first = 0xe0 then some [(0xa0, 0xbf), any]
  else if first = 0xed then some [(0x80, 0x9f), any]
  else if first < 0xf0 then some [any, any]
  else if first = 0xf0 then some [(0x90, 0xbf), any, any]
  else if first < 0xf4 then some [any, any, any]
  else if first = 0xf4 then some [(0x80, 0x8f), any, any]
  else none

/-- The bytes at the start that lie in the ranges, one in each, and the bytes after them. -/
def takeWithin : List (UInt8 × UInt8) → List UInt8 → List UInt8 × List UInt8
  | (low, high) :: ranges, b :: later =>
    if low ≤ b ∧ b ≤ high then
      let (taken, rest) := takeWithin ranges later
      (b :: taken, rest)
    else ([], b :: later)
  | _, bytes => ([], bytes)

/-- What `takeWithin` leaves is no longer than what it was given. -/
theorem length_takeWithin_le (ranges : List (UInt8 × UInt8)) (bytes : List UInt8) :
    (takeWithin ranges bytes).2.length ≤ bytes.length := by
  fun_induction takeWithin ranges bytes <;> simp_all
  omega

/-- The number that a sequence stands for: the payload of its first byte, then six bits a byte. -/
def codePoint (first : UInt8) (others : List UInt8) : Nat :=
  let payload := match others.length with
    | 0 => first.toNat
    | 1 => first.toNat % 0x20
    | 2 => first.toNat % 0x10
    | _ => first.toNat % 0x08
  others.foldl (fun n b => n * 0x40 + b.toNat % 0x40) payload

/-- The piece that starts with `first`, and the bytes after it. -/
def firstPiece (first : UInt8) (later : List UInt8) : Piece × List UInt8 :=
  match continuation? first with
  | none => (.broken [first], later)
  | some ranges =>
    let split := takeWithin ranges later
    (if split.1.length = ranges.length then .char (Char.ofNat (codePoint first split.1))
      else .broken (first :: split.1), split.2)

/-- What `firstPiece` leaves is no longer than the bytes after its first. -/
theorem length_firstPiece_le (first : UInt8) (later : List UInt8) :
    (firstPiece first later).2.length ≤ later.length := by
  unfold firstPiece
  split
  · exact Nat.le_refl _
  · exact length_takeWithin_le ..

/-- All pieces in order. -/
def pieces : List UInt8 → List Piece
  | [] => []
  | b :: later => (firstPiece b later).1 :: pieces (firstPiece b later).2
termination_by bytes => bytes.length
decreasing_by
  have := length_firstPiece_le b later
  simp only [List.length_cons]
  omega

/-- The bytes as text; every broken part becomes U+FFFD. -/
def decode (bytes : List UInt8) : String :=
  String.ofList ((pieces bytes).map fun
    | .char c => c
    | .broken _ => '\uFFFD')

/-- A byte by its number in hexadecimal. -/
def escapedByte (n : Nat) : String :=
  let digits := Bytes.hexWord 2 n
  s!"\\x{digits}"

/-- A character by its code in hexadecimal. -/
def escapedChar (c : Char) : String :=
  "\\u\x7b" ++ String.ofList (Nat.toDigits 16 c.toNat) ++ "\x7d"

/-- A piece as it stands between quotes. -/
def Piece.quoted : Piece → String
  | char '"' => "\\\""
  | char '\'' => "\\'"
  | char '\\' => "\\\\"
  | char '\t' => "\\t"
  | char '\n' => "\\n"
  | char '\r' => "\\r"
  | char c =>
    if c.toNat < 0x20 ∨ c.toNat = 0x7f then escapedByte c.toNat
    else if CharSet.unshown.contains c then escapedChar c
    else c.toString
  | broken bytes => String.join (bytes.map fun b => escapedByte b.toNat)

/-- The bytes in quotes; what cannot be shown is escaped. -/
def quote (bytes : List UInt8) : String :=
  let inner := String.join ((pieces bytes).map Piece.quoted)
  s!"\"{inner}\""

end PaintPresenter.Utf8
