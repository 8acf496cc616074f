import PaintPresenter.Base.Program
import PaintPresenter.Graphics.Pixels

/-!
# The paint mailbox

A painter and a frame loop share a mailbox that holds the latest paint. The painter posts whole
frames in blue, green, red, alpha order; the frame loop collects each paint at most once. The
mailbox also holds the view size, which the painter lays out at: it changes with a resize, which
drops an uncollected paint, and with a paint of another size.

Every operation is one step: holders of the same mailbox see its state before or after it.
-/

namespace PaintPresenter

/-- Why a mailbox refused a paint or a size. -/
inductive PaintRefusal
  /-- The bytes are not an image of the size that came with them. -/
  | sizeMismatch (width height : UInt32) (length : Nat)
  /-- No pixel fits into the view. -/
  | emptyView (width height : UInt32)
  deriving DecidableEq, Repr

/-- The refusal in words. -/
def PaintRefusal.message : PaintRefusal → String
  | sizeMismatch width height length =>
    s!"paint of {length} bytes does not match {width}x{height} BGRA"
  | emptyView width height => s!"view size {width}x{height} is empty"

/-- One paint, moved out of the mailbox. -/
structure PaintFrame where
  extent : Extent
  bytes : ByteArray

/-- The paint as a pixel buffer, checked like any other. -/
def PaintFrame.pixels (frame : PaintFrame) : Except GraphicsError PixelBuffer :=
  PixelBuffer.ofBytes frame.extent .bgra frame.bytes

/-- The latest paint and whether it waits to be collected. -/
structure PaintMailbox where
  view : Extent
  buffer : ByteArray
  fresh : Bool

namespace PaintMailbox

/-- The largest buffer that can be allocated. -/
def maxBuffer : Nat := UInt64.size / 2 - 1

/-- Bytes of a view, if it has any and a word can count them. -/
def viewBytes? (view : Extent) : Option Nat :=
  (byteLength? view.width view.height).filter (0 < ·)

/-- A mailbox with a blank view and nothing to collect. -/
def create (view : Extent) : Except Fault (Except PaintRefusal PaintMailbox) :=
  match viewBytes? view with
  | none => .ok (.error (.emptyView view.width view.height))
  | some length =>
    if length ≤ maxBuffer then .ok (.ok ⟨view, Bytes.constant length 0, false⟩)
    else .error .oversizedBuffer

/-- Changes the view size and drops what was not collected. The new size stands, over an empty
buffer, before the blank buffer is allocated; if that is too large, this is what holders find. -/
def resize (view : Extent) (box : PaintMailbox) :
    Except Fault (Except PaintRefusal Unit) × PaintMailbox :=
  match viewBytes? view with
  | none => (.ok (.error (.emptyView view.width view.height)), box)
  | some length =>
    let cleared := { box with view, buffer := ByteArray.empty }
    if length ≤ maxBuffer then
      (.ok (.ok ()), { cleared with buffer := Bytes.constant length 0, fresh := false })
    else (.error .oversizedBuffer, cleared)

/-- Stores a whole paint; its size becomes the view size. -/
def post (view : Extent) (bytes : ByteArray) (box : PaintMailbox) :
    Except PaintRefusal Unit × PaintMailbox :=
  if viewBytes? view = some bytes.size then (.ok (), ⟨view, bytes, true⟩)
  else (.error (.sizeMismatch view.width view.height bytes.size), box)

/-- Moves the latest paint out, once. -/
def collect (box : PaintMailbox) : Option PaintFrame × PaintMailbox :=
  if box.fresh then
    (some ⟨box.view, box.buffer⟩, { box with buffer := ByteArray.empty, fresh := false })
  else (none, box)

end PaintMailbox

/-- Mailboxes and their holders: holder `i` holds the box numbered `owned[i]`. -/
structure MailboxHolders where
  boxes : Array PaintMailbox := #[]
  owned : Array Nat := #[]

namespace MailboxHolders

/-- The box that a holder holds. -/
def box? (h : MailboxHolders) (holder : Nat) : Option PaintMailbox := do
  h.boxes[← h.owned[holder]?]?

/-- Adds a holder of a new box. -/
def adopt (box : PaintMailbox) (h : MailboxHolders) : MailboxHolders :=
  ⟨h.boxes.push box, h.owned.push h.boxes.size⟩

/-- Adds a second holder of the box that `holder` holds. -/
def share (holder : Nat) (h : MailboxHolders) : MailboxHolders :=
  match h.owned[holder]? with
  | some box => { h with owned := h.owned.push box }
  | none => h

/-- Replaces the box that `holder` holds, for all its holders. -/
def store (holder : Nat) (box : PaintMailbox) (h : MailboxHolders) : MailboxHolders :=
  match h.owned[holder]? with
  | some index => { h with boxes := h.boxes.setIfInBounds index box }
  | none => h

/-- Every holder's box, in the order in which the holders came. -/
def held (h : MailboxHolders) : List PaintMailbox :=
  h.owned.toList.filterMap (h.boxes[·]?)

end MailboxHolders

end PaintPresenter
