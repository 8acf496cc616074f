/-!
# Byte arrays

Pixels are packed byte arrays built byte by byte from a formula (`Bytes.tabulate`), so that every
fact about them is a fact about the formula. A byte array is shown as a digest: its hexadecimal
form when it is short, else its length and its 64-bit FNV-1a hash.
-/

namespace PaintPresenter.Bytes

/-- The byte array of length `n` whose byte at `i` is `f i`. -/
def tabulate (n : Nat) (f : Nat → UInt8) : ByteArray :=
  n.fold (fun i _ bytes => bytes.push (f i)) (ByteArray.emptyWithCapacity n)

private theorem fold_push_data (n : Nat) (f : Nat → UInt8) (start : ByteArray) :
    (n.fold (fun i _ bytes => bytes.push (f i)) start).data =
      start.data ++ (Array.range n).map f := by
  induction n with
  | zero => simp
  | succ n ih =>
    rw [Nat.fold_succ, Array.range_succ]
    change (ByteArray.data _).push (f n) = _
    rw [ih]
    simp

/-- The array behind a tabulated byte array lists the values of `f` in order. -/
theorem data_tabulate (n : Nat) (f : Nat → UInt8) :
    (tabulate n f).data = (Array.range n).map f := by
  rw [tabulate, fold_push_data]
  exact Array.empty_append

/-- A tabulated byte array has the size it was asked for. -/
@[simp] theorem size_tabulate (n : Nat) (f : Nat → UInt8) : (tabulate n f).size = n := by
  simp [ByteArray.size, data_tabulate]

/-- Position `i` of a tabulated byte array holds `f i`. -/
theorem getElem_tabulate (n : Nat) (f : Nat → UInt8) (i : Nat) (h : i < (tabulate n f).size) :
    (tabulate n f)[i] = f i := by
  simp [ByteArray.getElem_eq_getElem_data, data_tabulate]

/-- The byte at `i`, or zero past the end. -/
def byteAt (bytes : ByteArray) (i : Nat) : UInt8 :=
  if h : i < bytes.size then bytes[i] else 0

/-- Inside its size a tabulated byte array reads as `f`, past it as zero. -/
@[simp] theorem byteAt_tabulate (n : Nat) (f : Nat → UInt8) (i : Nat) :
    byteAt (tabulate n f) i = if i < n then f i else 0 := by
  simp only [byteAt, size_tabulate]
  split
  · exact getElem_tabulate ..
  · rfl

/-- Byte arrays of one length are equal when they agree at every position below it. -/
theorem ext_byteAt {a b : ByteArray} (size : a.size = b.size)
    (same : ∀ i, i < a.size → byteAt a i = byteAt b i) : a = b := by
  apply ByteArray.ext
  apply Array.ext size
  intro i ha hb
  have h := same i ha
  have hb' : i < b.size := hb
  have ha' : i < a.size := ha
  simpa [byteAt, ha', hb', ByteArray.getElem_eq_getElem_data] using h

/-- `n` bytes of one value. -/
def constant (n : Nat) (value : UInt8) : ByteArray := tabulate n fun _ => value

/-! ## Digests -/

/-- A hexadecimal digit, in lower case. -/
def hexDigit (n : Nat) : Char :=
  if n < 10 then Char.ofNat (48 + n) else Char.ofNat (87 + n)

/-- The low `digits` hexadecimal digits of a number, most significant first. -/
def hexWord (digits : Nat) (value : Nat) : String :=
  String.ofList ((List.range digits).map fun i => hexDigit (value >>> (4 * (digits - 1 - i)) % 16))

/-- All bytes in hexadecimal. -/
def hex (bytes : ByteArray) : String :=
  bytes.foldl
    (fun text b => (text.push (hexDigit (b.toNat / 16))).push (hexDigit (b.toNat % 16))) ""

/-- The 64-bit FNV-1a hash. -/
def fnv1a (bytes : ByteArray) : UInt64 :=
  bytes.foldl (fun hash b => (hash ^^^ b.toUInt64) * 0x100000001b3) 0xcbf29ce484222325

/-- Up to 64 bytes are shown in full, more as their length and hash. -/
def digest (bytes : ByteArray) : String :=
  if bytes.size ≤ 64 then hex bytes
  else
    let hash := hexWord 16 (fnv1a bytes).toNat
    s!"{bytes.size}:{hash}"

end PaintPresenter.Bytes
