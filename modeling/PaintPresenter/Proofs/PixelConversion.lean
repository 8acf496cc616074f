import PaintPresenter.Proofs.StoredPixels

/-!
# Conversion of pixels

A buffer is accepted when its bytes are exactly those of an image of its size, counted without
bound. Its conversion writes red, green, blue and alpha of every pixel, in this order and in its
place, and nothing behind the last one. Blue and red change places, so that a conversion of what
was converted, read again as the painter's order, gives the first bytes back.
-/

namespace PaintPresenter

namespace Bytes

private theorem byteAt_append (a b : ByteArray) (i : Nat) :
    byteAt (a ++ b) i = if i < a.size then byteAt a i else byteAt b (i - a.size) := by
  unfold byteAt
  by_cases inFirst : i < a.size
  · have inside : i < (a ++ b).size := by
      rw [ByteArray.size_append]
      omega
    rw [if_pos inFirst, dif_pos inFirst, dif_pos inside, ByteArray.getElem_append_left inFirst]
  · have moved : i < (a ++ b).size ↔ i - a.size < b.size := by
      rw [ByteArray.size_append]
      omega
    rw [if_neg inFirst]
    by_cases inside : i < (a ++ b).size
    · rw [dif_pos inside, dif_pos (moved.mp inside),
        ByteArray.getElem_append_right (Nat.not_lt.mp inFirst)]
    · rw [dif_neg inside, dif_neg (mt moved.mpr inside)]

private theorem byteAt_drop (bytes : ByteArray) (start i : Nat) :
    byteAt (bytes.extract start bytes.size) i = byteAt bytes (start + i) := by
  have moved : i < (bytes.extract start bytes.size).size ↔ start + i < bytes.size := by
    rw [ByteArray.size_extract, Nat.min_self]
    omega
  unfold byteAt
  by_cases inside : start + i < bytes.size
  · rw [dif_pos inside, dif_pos (moved.mpr inside), ByteArray.getElem_extract]
  · rw [dif_neg inside, dif_neg (mt moved.mp inside)]

end Bytes

/-- Four bytes in a given order of channels. -/
def Texel.inOrder (order : ChannelOrder) (contents : Nat → UInt8) (start : Nat) : Texel :=
  match order with
  | .rgba => ofBytes contents start
  | .bgra => ⟨contents (start + 2), contents (start + 1), contents start, contents (start + 3)⟩

/-- To read a channel of what was read is to read it in its own place. -/
theorem ChannelOrder.source_source (order : ChannelOrder) {channel : Nat} (four : channel < 4) :
    order.source (order.source channel) = channel ∧ order.source channel < 4 := by
  cases order with
  | rgba => exact ⟨rfl, four⟩
  | bgra =>
    have cases : channel = 0 ∨ channel = 1 ∨ channel = 2 ∨ channel = 3 := by omega
    obtain rfl | rfl | rfl | rfl := cases
    all_goals exact ⟨rfl, by decide⟩

namespace PixelBuffer

variable {p q : PixelBuffer} {extent : Extent} {order : ChannelOrder}
  {bytes destination : ByteArray}

/-! ## What is accepted -/

/-- Bytes that are accepted become a buffer as they are. -/
theorem ofBytes_cases (accepted : ofBytes extent order bytes = .ok p) :
    p.extent = extent ∧ p.order = order ∧ p.bytes = bytes := by
  unfold ofBytes at accepted
  split at accepted
  · obtain rfl := Except.ok.inj accepted
    exact ⟨rfl, rfl, rfl⟩
  · exact nomatch accepted

/-- Of bytes that a word can count, those of an image are accepted. -/
theorem ofBytes_of_size (counted : bytes.size < UInt64.size) (nonempty : extent.isEmpty = false)
    (size : extent.area * 4 = bytes.size) : ∃ p, ofBytes extent order bytes = .ok p := by
  have length : byteLength? extent.width extent.height = some bytes.size :=
    (byteLength?_eq_some_iff ..).mpr ⟨size.symm, counted⟩
  unfold ofBytes
  rw [dif_pos ⟨nonempty, length⟩]
  exact ⟨_, rfl⟩

private theorem ofBytes_eq_error {e : GraphicsError}
    (refused : ofBytes extent order bytes = .error e) :
    e = .invalidPixels extent.width extent.height bytes.size := by
  unfold ofBytes at refused
  split at refused
  · exact nomatch refused
  · exact (Except.error.inj refused).symm

/-- Acceptance is a matter of the number of bytes alone, in plain arithmetic. -/
theorem ofBytes_ok_iff (counted : bytes.size < UInt64.size) :
    (∃ p, ofBytes extent order bytes = .ok p) ↔
      extent.width ≠ 0 ∧ extent.height ≠ 0 ∧
        extent.width.toNat * extent.height.toNat * 4 = bytes.size := by
  have nonempty_iff : extent.isEmpty = false ↔ extent.width ≠ 0 ∧ extent.height ≠ 0 := by
    rw [← Bool.not_eq_true, extent.isEmpty_iff, not_or]
  rw [← and_assoc, ← nonempty_iff]
  constructor
  · rintro ⟨p, accepted⟩
    obtain ⟨rfl, -, rfl⟩ := ofBytes_cases accepted
    exact ⟨p.extent_nonempty, p.size_bytes.symm⟩
  · rintro ⟨nonempty, size⟩
    exact ofBytes_of_size counted nonempty size

/-! ## What is written -/

/-- A destination after a conversion: its pixels are those of the buffer, its rest is as before. -/
structure Converts (p : PixelBuffer) (destination out : ByteArray) : Prop where
  size : out.size = destination.size
  pixels : ∀ k, k < p.extent.area →
    Texel.ofBytes (Bytes.byteAt out) (4 * k) =
      Texel.inOrder p.order (Bytes.byteAt p.bytes) (4 * k)
  beyond : ∀ i, p.length ≤ i → Bytes.byteAt out i = Bytes.byteAt destination i

/-- The stored image has, in the place of every pixel, its color. -/
theorem rgba_pixel (p : PixelBuffer) {k : Nat} (inside : k < p.extent.area) :
    Texel.ofBytes (Bytes.byteAt p.rgba) (4 * k) =
      Texel.inOrder p.order (Bytes.byteAt p.bytes) (4 * k) := by
  obtain ⟨x, y, column, row, rfl⟩ := Extent.exists_index inside
  refine (p.ofBytes_rgba column row).trans ?_
  unfold color
  cases p.order with
  | rgba => rfl
  | bgra => rfl

/-- A destination that is long enough takes the image at its start. -/
theorem writeRgba?_of_le (p : PixelBuffer) (room : p.length ≤ destination.size) :
    ∃ out, p.writeRgba? destination = some out ∧ p.Converts destination out ∧
      out.extract 0 p.length = p.rgba := by
  have start : p.length = p.rgba.size := p.size_rgba.symm
  refine ⟨_, if_pos room, ⟨?_, fun k inside => ?_, fun i past => ?_⟩, ?_⟩
  · rw [ByteArray.size_append, ByteArray.size_extract, size_rgba]
    omega
  · have last : 4 * k + 3 < p.rgba.size := by
      rw [size_rgba, length, p.size_bytes]
      omega
    rw [← p.rgba_pixel inside]
    simp only [Texel.ofBytes, Bytes.byteAt_append]
    rw [if_pos (by omega), if_pos (by omega), if_pos (by omega), if_pos last]
  · rw [Bytes.byteAt_append, if_neg (by omega), Bytes.byteAt_drop, ← start]
    congr 1
    omega
  · exact ByteArray.extract_append_eq_left start

/-! ## Back again -/

/-- A stored image read in the order of the buffer that it came from is stored as that buffer. -/
theorem rgba_rgba (order : q.order = p.order) (bytes : q.bytes = p.rgba) : q.rgba = p.bytes := by
  have size : q.rgba.size = p.bytes.size := by rw [size_rgba, length, bytes, size_rgba, length]
  refine Bytes.ext_byteAt size fun i inside => ?_
  obtain ⟨back, small⟩ := p.order.source_source (Nat.mod_lt i (by decide : 0 < 4))
  have whole : p.bytes.size = p.extent.area * 4 := p.size_bytes
  have quotient : (4 * (i / 4) + p.order.source (i % 4)) / 4 = i / 4 := by omega
  have rest : (4 * (i / 4) + p.order.source (i % 4)) % 4 = p.order.source (i % 4) := by omega
  have read : Bytes.byteAt q.rgba i = Bytes.byteAt p.rgba (q.sourceIndex i) := by
    rw [rgba, Bytes.byteAt_tabulate, if_pos (by rwa [size_rgba] at inside), bytes]
  have stored : Bytes.byteAt p.rgba (4 * (i / 4) + p.order.source (i % 4)) =
      Bytes.byteAt p.bytes (4 * (i / 4) + i % 4) := by
    rw [rgba, Bytes.byteAt_tabulate, if_pos (by rw [length]; omega), sourceIndex, quotient, rest,
      back]
  rw [read, sourceIndex, order, stored, Nat.div_add_mod]

/-- Bytes that a word can count are accepted exactly if they are those of a non-empty image of the
given size. What was accepted is converted into any destination that is long enough: every pixel
in its place, nothing behind the last one. What came in the painter's order comes back when the
result is read in that order and converted again. -/
theorem accepts_and_converts (extent : Extent) (order : ChannelOrder)
    (counted : bytes.size < UInt64.size) :
    ((∃ p, ofBytes extent order bytes = .ok p) ↔
      extent.width ≠ 0 ∧ extent.height ≠ 0 ∧
        extent.width.toNat * extent.height.toNat * 4 = bytes.size) ∧
    (∀ e, ofBytes extent order bytes = .error e →
      e = .invalidPixels extent.width extent.height bytes.size) ∧
    ∀ p, ofBytes extent order bytes = .ok p →
      (p.extent = extent ∧ p.order = order ∧ p.bytes = bytes) ∧
      ∀ destination, p.length ≤ destination.size →
        ∃ out, p.writeRgba? destination = some out ∧ p.Converts destination out ∧
          (order = .bgra → ∀ again, p.length ≤ again.size →
            ∃ q back, ofBytes extent .bgra (out.extract 0 p.length) = .ok q ∧
              q.writeRgba? again = some back ∧ back.extract 0 p.length = bytes) := by
  refine ⟨ofBytes_ok_iff counted, fun _ => ofBytes_eq_error, fun p accepted => ?_⟩
  have same := ofBytes_cases accepted
  refine ⟨same, fun destination room => ?_⟩
  obtain ⟨rfl, rfl, rfl⟩ := same
  obtain ⟨out, written, converts, start⟩ := p.writeRgba?_of_le room
  refine ⟨out, written, converts, fun painted again roomAgain => ?_⟩
  rw [start]
  have reread : ∃ q, ofBytes p.extent .bgra p.rgba = .ok q :=
    ofBytes_of_size (by rwa [size_rgba, length]) p.extent_nonempty
      (by rw [size_rgba, length, p.size_bytes])
  obtain ⟨q, read⟩ := reread
  obtain ⟨-, sameOrder, sameBytes⟩ := ofBytes_cases read
  have sameLength : q.length = p.length := by rw [length, sameBytes, size_rgba]
  obtain ⟨back, writtenBack, -, startBack⟩ := q.writeRgba?_of_le (sameLength.symm ▸ roomAgain)
  refine ⟨q, back, read, writtenBack, ?_⟩
  rw [← sameLength, startBack]
  exact rgba_rgba (sameOrder.trans painted.symm) sameBytes

/-- Two pixels of a painter. -/
def twoPainted : ByteArray := ⟨#[1, 2, 3, 4, 5, 6, 7, 8]⟩

/-- Room for two pixels, and one byte behind them. -/
def roomForTwo : ByteArray := ⟨#[0, 0, 0, 0, 0, 0, 0, 0, 9]⟩

/-- Two pixels are converted into a destination that has one byte to spare. -/
theorem accepts_and_converts_twoPixels :
    twoPainted.size < UInt64.size ∧
      ∃ p out, ofBytes ⟨2, 1⟩ .bgra twoPainted = .ok p ∧ p.writeRgba? roomForTwo = some out ∧
        out = ⟨#[3, 2, 1, 4, 7, 6, 5, 8, 9]⟩ ∧ p.Converts roomForTwo out := by
  have counted : twoPainted.size < UInt64.size := by decide
  obtain ⟨accepts, -, converts⟩ := accepts_and_converts ⟨2, 1⟩ .bgra counted
  obtain ⟨p, accepted⟩ := accepts.mpr (by decide)
  obtain ⟨⟨-, -, same⟩, written⟩ := converts p accepted
  obtain ⟨out, done, whole, -⟩ := written roomForTwo (by rw [length, same]; decide)
  refine ⟨counted, p, out, accepted, done, ?_, whole⟩
  obtain rfl := Except.ok.inj accepted
  exact (Option.some.inj done).symm.trans (by decide)

end PixelBuffer

end PaintPresenter
