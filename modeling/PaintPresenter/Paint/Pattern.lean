import PaintPresenter.Base.TimeSpan
import PaintPresenter.Paint.Mailbox

/-!
# The animated test pattern

A stand-in for an off-screen painter: a diagonal gradient that scrolls with a tick counter. Red
moves by one a tick and green by one every second tick, both modulo 256, so frames repeat after
512 ticks; blue stands still. The painter alternates between two view sizes.
-/

namespace PaintPresenter

namespace Pattern

/-- Channel `channel`, in blue, green, red, alpha order, of the pixel at `(x, y)`. -/
def channelAt (tick x y : UInt32) : Nat → UInt8
  | 0 => (x ^^^ y).toUInt8
  | 1 => (y + tick / 2).toUInt8
  | 2 => (x + tick).toUInt8
  | _ => 0xff

/-- Byte `i` of a frame that is `width` pixels wide. -/
def byteAt (width : Nat) (tick : UInt32) (i : Nat) : UInt8 :=
  let pixel := i / 4
  channelAt tick (UInt32.ofNat (pixel % width)) (UInt32.ofNat (pixel / width)) (i % 4)

/-- The whole frame at `tick`. -/
def frame (width height tick : UInt32) : ByteArray :=
  Bytes.tabulate (width.toNat * height.toNat * 4) (byteAt width.toNat tick)

/-- Paints the next pixel into a buffer. -/
def paintPixel (tick x y : UInt32) (buffer : ByteArray) : ByteArray :=
  (((buffer.push (channelAt tick x y 0)).push (channelAt tick x y 1)).push
    (channelAt tick x y 2)).push (channelAt tick x y 3)

/-- Paints the next row into a buffer. -/
def paintRow (width : Nat) (tick y : UInt32) (buffer : ByteArray) : ByteArray :=
  width.fold (fun x _ buffer => paintPixel tick (.ofNat x) y buffer) buffer

/-- Drops what a buffer holds and paints a frame into it, row after row, or meets a fault when the
length of the frame cannot be counted or allocated. -/
def repaint (width height tick : UInt32) (buffer : ByteArray) : Except Fault ByteArray :=
  match byteLength? width height with
  | none => .error .overflow
  | some length =>
    if length ≤ PaintMailbox.maxBuffer then
      .ok <| height.toNat.fold (fun y _ buffer => paintRow width.toNat tick (.ofNat y) buffer)
        (buffer.extract 0 0)
    else .error .oversizedBuffer

end Pattern

/-- What a painter paints and when. -/
structure PainterPlan where
  /-- Time between paints. -/
  interval : TimeSpan := .ofMilliseconds 33
  /-- The view sizes it alternates between. -/
  first : Extent := ⟨800, 600⟩
  second : Extent := ⟨640, 480⟩
  /-- How long each size is kept. -/
  keep : TimeSpan := .ofSeconds 3
  deriving DecidableEq, Repr

namespace PainterPlan

/-- Whether the second size is due after `elapsed`: sizes alternate every kept period, which lasts
a millisecond at least. -/
def secondDue (plan : PainterPlan) (elapsed : TimeSpan) : Bool :=
  elapsed.inMilliseconds / max plan.keep.inMilliseconds 1 % 2 = 1

/-- The size due after `elapsed`. -/
def sizeDue (plan : PainterPlan) (elapsed : TimeSpan) : Extent :=
  if plan.secondDue elapsed then plan.second else plan.first

end PainterPlan

/-- A painter between two paints: how many it has made, modulo 2 ^ 32, which size it last asked
for, and the buffer that it paints into, with the last paint in it. -/
structure Painter where
  tick : UInt32 := 0
  onSecond : Bool := false
  buffer : ByteArray := ByteArray.empty

namespace Painter

/-- What went wrong in one round of painting; the painter goes on regardless. -/
inductive Mishap
  | resizeRefused (refusal : PaintRefusal)
  | paintRefused (refusal : PaintRefusal)
  deriving DecidableEq, Repr

/-- Asks for the due size if the painter is not at it yet. -/
def switch (plan : PainterPlan) (elapsed : TimeSpan) (p : Painter) (box : PaintMailbox) :
    Except Fault (Except PaintRefusal Unit) × Painter × PaintMailbox :=
  if plan.secondDue elapsed = p.onSecond then (.ok (.ok ()), p, box)
  else
    let (outcome, box) := box.resize (plan.sizeDue elapsed)
    (outcome, { p with onSecond := !p.onSecond }, box)

/-- Paints the pattern over its last paint, at a view size that was read before, posts a copy, and
counts the paint. A painter that meets a fault paints no more. -/
def paint (view : Extent) (p : Painter) (box : PaintMailbox) :
    Except Fault (Except PaintRefusal Unit) × Painter × PaintMailbox :=
  match Pattern.repaint view.width view.height p.tick p.buffer with
  | .error fault => (.error fault, p, box)
  | .ok buffer =>
    let (outcome, box) := box.post view buffer
    (.ok outcome, { p with tick := p.tick + 1, buffer }, box)

/-- One round without interference from other holders. -/
def round (plan : PainterPlan) (elapsed : TimeSpan) (p : Painter) (box : PaintMailbox) :
    Except Fault (List Mishap) × Painter × PaintMailbox :=
  match p.switch plan elapsed box with
  | (.error fault, p, box) => (.error fault, p, box)
  | (.ok switched, p, box) =>
    match p.paint box.view box with
    | (.error fault, p, box) => (.error fault, p, box)
    | (.ok painted, p, box) =>
      let mishaps (wrap : PaintRefusal → Mishap) : Except PaintRefusal Unit → List Mishap
        | .ok () => []
        | .error refusal => [wrap refusal]
      (.ok (mishaps .resizeRefused switched ++ mishaps .paintRefused painted), p, box)

/-- Rounds at the given times, until a fault. -/
def rounds (plan : PainterPlan) : List TimeSpan → Painter → PaintMailbox →
    Except Fault Unit × Painter × PaintMailbox
  | [], p, box => (.ok (), p, box)
  | elapsed :: later, p, box =>
    match p.round plan elapsed box with
    | (.error fault, p, box) => (.error fault, p, box)
    | (.ok _, p, box) => rounds plan later p box

end Painter

end PaintPresenter
