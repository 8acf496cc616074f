import Mathlib.Algebra.Ring.Periodic
import PaintPresenter.Proofs.PainterLoop
import PaintPresenter.Proofs.PixelConversion

/-!
# The scrolling of the pattern

Red moves with the tick and green with half of it, each as far as a byte can tell. At every size the
two together tell ticks apart exactly up to multiples of 512, and 512 divides the number of ticks
that a word can count. So the animation neither stalls nor jumps, also where its counter starts
again at zero.
-/

namespace PaintPresenter

namespace Pattern

variable {width height tick a b : UInt32}

/-! ## What a frame shows -/

/-- The color of the pixel in column `x` of row `y`. -/
def color (tick x y : UInt32) : Texel where
  red := (x + tick).toUInt8
  green := (y + tick / 2).toUInt8
  blue := (x ^^^ y).toUInt8
  alpha := 0xff

/-- The bytes are those of a frame: its pixels in the order of a painter, row after row. -/
structure Shows (width height tick : UInt32) (bytes : ByteArray) : Prop where
  size : bytes.size = width.toNat * height.toNat * 4
  pixel : ∀ x y, x < width → y < height →
    Texel.inOrder .bgra (Bytes.byteAt bytes) ((y.toNat * width.toNat + x.toNat) * 4) =
      color tick x y

/-- Each byte of a frame is the channel of its pixel. -/
theorem byteAt_frame {x y : UInt32} (column : x < width) (row : y < height) {channel : Nat}
    (four : channel < 4) :
    Bytes.byteAt (frame width height tick) ((y.toNat * width.toNat + x.toNat) * 4 + channel) =
      channelAt tick x y channel := by
  have pixel : y.toNat * width.toNat + x.toNat < width.toNat * height.toNat :=
    Extent.index_lt_area (e := ⟨width, height⟩) (UInt32.lt_iff_toNat_lt.mp column)
      (UInt32.lt_iff_toNat_lt.mp row)
  have place : (y.toNat * width.toNat + x.toNat) * 4 + channel =
      4 * (width.toNat * y.toNat + x.toNat) + channel := by
    rw [Nat.mul_comm y.toNat, Nat.mul_comm 4]
  rw [frame, Bytes.byteAt_tabulate, if_pos (by omega), place,
    byteAt_pixel (UInt32.lt_iff_toNat_lt.mp column) _ four, UInt32.ofNat_toNat,
    UInt32.ofNat_toNat]

private theorem shows_frame (width height tick : UInt32) :
    Shows width height tick (frame width height tick) where
  size := Bytes.size_tabulate ..
  pixel x y column row := by
    have blue : Bytes.byteAt (frame width height tick) ((y.toNat * width.toNat + x.toNat) * 4) =
        channelAt tick x y 0 := byteAt_frame column row (by decide : 0 < 4)
    rw [Texel.inOrder, blue, byteAt_frame column row (by decide : 1 < 4),
      byteAt_frame column row (by decide : 2 < 4), byteAt_frame column row (by decide : 3 < 4)]
    rfl

/-- The blue of a pixel stands still. -/
theorem Shows.blue {p q : ByteArray} (first : Shows width height a p)
    (second : Shows width height b q) {x y : UInt32} (column : x < width) (row : y < height) :
    Bytes.byteAt p ((y.toNat * width.toNat + x.toNat) * 4) =
      Bytes.byteAt q ((y.toNat * width.toNat + x.toNat) * 4) :=
  (congrArg Texel.blue (first.pixel x y column row)).trans
    (congrArg Texel.blue (second.pixel x y column row)).symm

/-! ## When frames are the same -/

/-- Ticks that differ by a multiple of 512 give a channel the same value. -/
theorem channelAt_of_mod (same : a.toNat % 512 = b.toNat % 512) (x y : UInt32) (channel : Nat) :
    channelAt a x y channel = channelAt b x y channel := by
  match channel with
  | 0 => rfl
  | 1 =>
    apply UInt8.toNat_inj.mp
    simp only [channelAt, UInt32.toNat_toUInt8, UInt32.toNat_add, UInt32.toNat_div,
      UInt32.reduceToNat]
    omega
  | 2 =>
    apply UInt8.toNat_inj.mp
    simp only [channelAt, UInt32.toNat_toUInt8, UInt32.toNat_add]
    omega
  | _ + 3 => rfl

/-- The first pixel alone tells ticks apart up to multiples of 512. -/
theorem mod_of_color (same : color a 0 0 = color b 0 0) : a.toNat % 512 = b.toNat % 512 := by
  have red := congrArg UInt8.toNat (congrArg Texel.red same)
  have green := congrArg UInt8.toNat (congrArg Texel.green same)
  simp only [color, UInt32.toNat_toUInt8, UInt32.toNat_add, UInt32.toNat_div,
    UInt32.reduceToNat] at red green
  omega

/-- Two frames of a size with pixels are equal exactly when their ticks are congruent modulo 512.
-/
theorem frame_eq_iff (wide : 0 < width) (high : 0 < height) :
    frame width height a = frame width height b ↔ a.toNat % 512 = b.toNat % 512 := by
  constructor
  · intro same
    have first := (shows_frame width height a).pixel 0 0 wide high
    rw [same, (shows_frame width height b).pixel 0 0 wide high] at first
    exact mod_of_color first.symm
  · intro same
    rw [frame, frame]
    congr 1
    funext i
    exact channelAt_of_mod same ..

/-- Successive frames differ, also where the tick wraps. -/
theorem frame_ne_next (wide : 0 < width) (high : 0 < height) (tick : UInt32) :
    frame width height tick ≠ frame width height (tick + 1) := by
  rw [Ne, frame_eq_iff wide high, UInt32.toNat_add]
  have one : (1 : UInt32).toNat = 1 := rfl
  omega

/-- A painter that counts its paints repeats itself exactly after multiples of 512 of them. -/
theorem periodic_frame_iff (wide : 0 < width) (high : 0 < height) (period : ℕ) :
    Function.Periodic (fun n : ℕ => frame width height (.ofNat n)) period ↔ 512 ∣ period := by
  simp only [Function.Periodic, frame_eq_iff wide high, UInt32.toNat_ofNat']
  constructor
  · intro repeats
    have first := repeats 0
    omega
  · rintro divides n
    omega

/-! ## The animation -/

/-- There is room for a view with a pixel if its bytes fit into a buffer. -/
theorem roomy_of_fits (wide : 0 < width) (high : 0 < height)
    (fits : width.toNat * height.toNat * 4 ≤ PaintMailbox.maxBuffer) :
    Extent.Roomy ⟨width, height⟩ := by
  have columns : 0 < width.toNat := UInt32.lt_iff_toNat_lt.mp wide
  have rows : 0 < height.toNat := UInt32.lt_iff_toNat_lt.mp high
  have bytes : 0 < width.toNat * height.toNat * 4 :=
    Nat.mul_pos (Nat.mul_pos columns rows) (by decide)
  have counted : byteLength? width height = some (width.toNat * height.toNat * 4) :=
    (byteLength?_eq_some_iff ..).mpr ⟨rfl, Nat.lt_of_le_of_lt fits (by decide)⟩
  exact ⟨_, Option.filter_eq_some_iff.mpr ⟨counted, decide_eq_true bytes⟩, fits⟩

/-- At every size with a pixel whose bytes fit into a buffer, and whatever the buffers hold: two
frames are painted, each as its tick says, with the same blue, and they are equal exactly if the
ticks differ by a multiple of 512. So paints that follow each other differ, also where the counter
of a painter starts again at zero, and the frames repeat with a period of exactly 512. -/
theorem scrolls_with_period (wide : 0 < width) (high : 0 < height)
    (fits : width.toNat * height.toNat * 4 ≤ PaintMailbox.maxBuffer) :
    (∀ (a b : UInt32) (before before' : ByteArray), ∃ p q,
      repaint width height a before = .ok p ∧ repaint width height b before' = .ok q ∧
        (p = q ↔ a.toNat % 512 = b.toNat % 512) ∧
        Shows width height a p ∧ Shows width height b q ∧
        ∀ x y, x < width → y < height →
          Bytes.byteAt p ((y.toNat * width.toNat + x.toNat) * 4) =
            Bytes.byteAt q ((y.toNat * width.toNat + x.toNat) * 4)) ∧
    (∀ (p : Painter) (box box' : PaintMailbox), ∃ next later after after',
      p.paint ⟨width, height⟩ box = (.ok (.ok ()), next, after) ∧
        next.paint ⟨width, height⟩ box' = (.ok (.ok ()), later, after') ∧
        next.tick = p.tick + 1 ∧ after.buffer ≠ after'.buffer) ∧
    ∀ (before : ℕ → ByteArray) (period : ℕ),
      Function.Periodic (fun n => repaint width height (.ofNat n) (before n)) period ↔
        512 ∣ period := by
  refine ⟨fun a b before before' => ?_, fun p box box' => ?_, fun before period => ?_⟩
  · have first := shows_frame width height a
    have second := shows_frame width height b
    exact ⟨_, _, repaint_of_fits fits a before, repaint_of_fits fits b before',
      frame_eq_iff wide high, first, second, fun x y => first.blue second⟩
  · have roomy : Extent.Roomy ⟨width, height⟩ := roomy_of_fits wide high fits
    exact ⟨_, _, _, _, p.paint_of_roomy box roomy, Painter.paint_of_roomy _ box' roomy, rfl,
      frame_ne_next wide high p.tick⟩
  · rw [← periodic_frame_iff wide high period]
    simp only [Function.Periodic, repaint_of_fits fits, Except.ok.injEq]

/-- The last tick that a word can count and the first one after it, on two pixels. -/
theorem scrolls_with_period_past_zero :
    (0 : UInt32) < 2 ∧ (0 : UInt32) < 1 ∧
      (2 : UInt32).toNat * (1 : UInt32).toNat * 4 ≤ PaintMailbox.maxBuffer ∧
      ∃ p q, repaint 2 1 0xffffffff ⟨#[1, 2, 3]⟩ = .ok p ∧ repaint 2 1 0 ByteArray.empty = .ok q ∧
        p ≠ q ∧ p = ⟨#[0, 255, 255, 255, 1, 255, 0, 255]⟩ ∧
        Shows 2 1 0xffffffff p ∧ Shows 2 1 0 q := by
  have fits : (2 : UInt32).toNat * (1 : UInt32).toNat * 4 ≤ PaintMailbox.maxBuffer := by decide
  obtain ⟨paints, -, -⟩ := scrolls_with_period (by decide) (by decide) fits
  obtain ⟨p, q, painted, later, same_iff, first, second, -⟩ :=
    paints 0xffffffff 0 ⟨#[1, 2, 3]⟩ ByteArray.empty
  refine ⟨by decide, by decide, fits, p, q, painted, later, ?_, ?_, first, second⟩
  · exact fun same => absurd (same_iff.mp same) (by decide)
  · exact Except.ok.inj (painted.symm.trans rfl)

end Pattern

end PaintPresenter
