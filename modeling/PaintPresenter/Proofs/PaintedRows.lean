import PaintPresenter.Paint.Pattern

/-!
# The pattern, row after row

A frame is painted pixel by pixel into a buffer that was used before. `repaint_of_fits` says what
that comes to: the bytes that the formula for the frame gives, whatever the buffer held, and
`repaint_eq_ok_iff` says when it comes to anything.
-/

namespace PaintPresenter

/-- One byte more is one byte pushed. -/
theorem Bytes.tabulate_succ (n : Nat) (f : Nat → UInt8) :
    tabulate (n + 1) f = (tabulate n f).push (f n) := by
  rw [tabulate, Nat.fold_succ]
  rfl

namespace Pattern

variable {width x y : Nat} {tick : UInt32}

/-- The bytes of a pixel are its channels. -/
theorem byteAt_pixel (column : x < width) (y : Nat) {channel : Nat} (four : channel < 4) :
    byteAt width tick (4 * (width * y + x) + channel) =
      channelAt tick (.ofNat x) (.ofNat y) channel := by
  have pixel : (4 * (width * y + x) + channel) / 4 = width * y + x := by omega
  have rest : (4 * (width * y + x) + channel) % 4 = channel := by omega
  have inRow : (width * y + x) % width = x := by
    rw [Nat.mul_add_mod, Nat.mod_eq_of_lt column]
  have row : (width * y + x) / width = y := by
    rw [Nat.mul_add_div (Nat.zero_lt_of_lt column), Nat.div_eq_of_lt column, Nat.add_zero]
  rw [byteAt, pixel, rest, inRow, row]

/-- A pixel painted behind the first pixels of a frame is the next one of it. -/
theorem paintPixel_tabulate (column : x < width) (y : Nat) :
    paintPixel tick (.ofNat x) (.ofNat y)
        (Bytes.tabulate (4 * (width * y + x)) (byteAt width tick)) =
      Bytes.tabulate (4 * (width * y + (x + 1))) (byteAt width tick) := by
  have next : 4 * (width * y + (x + 1)) = 4 * (width * y + x) + 1 + 1 + 1 + 1 := by omega
  have first : byteAt width tick (4 * (width * y + x)) = channelAt tick (.ofNat x) (.ofNat y) 0 :=
    byteAt_pixel column y (by decide : 0 < 4)
  rw [next, Bytes.tabulate_succ, Bytes.tabulate_succ, Bytes.tabulate_succ, Bytes.tabulate_succ,
    first, byteAt_pixel column y (by decide : 1 < 4), byteAt_pixel column y (by decide : 2 < 4),
    byteAt_pixel column y (by decide : 3 < 4)]
  rfl

/-- A row painted behind the first rows of a frame is the next one of it. -/
theorem paintRow_tabulate (width y : Nat) (tick : UInt32) :
    paintRow width tick (.ofNat y) (Bytes.tabulate (4 * (width * y)) (byteAt width tick)) =
      Bytes.tabulate (4 * (width * (y + 1))) (byteAt width tick) := by
  -- After `n` pixels of the row the buffer holds the rows before it and `n` pixels more.
  have pixels (n : Nat) (inRow : n ≤ width) :
      n.fold (fun x _ buffer => paintPixel tick (.ofNat x) (.ofNat y) buffer)
          (Bytes.tabulate (4 * (width * y)) (byteAt width tick)) =
        Bytes.tabulate (4 * (width * y + n)) (byteAt width tick) := by
    induction n with
    | zero => rfl
    | succ n ih => rw [Nat.fold_succ, ih (Nat.le_of_succ_le inRow), paintPixel_tabulate inRow]
  rw [paintRow, pixels width (Nat.le_refl width), Nat.mul_succ]

/-- All rows together are the frame. -/
theorem rows_eq_frame (width height tick : UInt32) (buffer : ByteArray) :
    height.toNat.fold (fun y _ buffer => paintRow width.toNat tick (.ofNat y) buffer)
        (buffer.extract 0 0) = frame width height tick := by
  have rows (n : Nat) :
      n.fold (fun y _ buffer => paintRow width.toNat tick (.ofNat y) buffer)
          (buffer.extract 0 0) =
        Bytes.tabulate (4 * (width.toNat * n)) (byteAt width.toNat tick) := by
    induction n with
    | zero => exact ByteArray.extract_same
    | succ n ih => rw [Nat.fold_succ, ih, paintRow_tabulate]
  rw [rows, frame, Nat.mul_comm 4]

variable {width height tick : UInt32}

/-- A frame whose bytes fit into a buffer is painted as the formula gives it, whatever the buffer
held before. -/
theorem repaint_of_fits (fits : width.toNat * height.toNat * 4 ≤ PaintMailbox.maxBuffer)
    (tick : UInt32) (buffer : ByteArray) :
    repaint width height tick buffer = .ok (frame width height tick) := by
  have counted : byteLength? width height = some (width.toNat * height.toNat * 4) :=
    (byteLength?_eq_some_iff ..).mpr ⟨rfl, Nat.lt_of_le_of_lt fits (by decide)⟩
  rw [repaint, counted]
  simp only
  rw [if_pos fits, rows_eq_frame]

/-- A frame is painted exactly if its bytes fit into a buffer. -/
theorem repaint_eq_ok_iff {buffer bytes : ByteArray} :
    repaint width height tick buffer = .ok bytes ↔
      width.toNat * height.toNat * 4 ≤ PaintMailbox.maxBuffer ∧
        bytes = frame width height tick := by
  by_cases fits : width.toNat * height.toNat * 4 ≤ PaintMailbox.maxBuffer
  · rw [repaint_of_fits fits, Except.ok.injEq]
    exact ⟨fun same => ⟨fits, same.symm⟩, fun ⟨_, same⟩ => same.symm⟩
  · refine ⟨fun painted => ?_, fun ⟨within, _⟩ => absurd within fits⟩
    unfold repaint at painted
    cases counted : byteLength? width height with
    | none => simp [counted] at painted
    | some length =>
      obtain ⟨rfl, -⟩ := (byteLength?_eq_some_iff ..).mp counted
      simp [counted, fits] at painted

end Pattern

end PaintPresenter
