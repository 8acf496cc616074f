import PaintPresenter.Paint.Mailbox
import PaintPresenter.Proofs.RiggedStack

/-!
# The account of paints

What happens between painters and a frame loop is a history, latest first. From it alone follows
which paint waits in the mailbox, which one a frame has to show, and what became of every paint
that was accepted: at most one waits, so that paints leave in the order in which they came.
-/

namespace PaintPresenter

/-- What happened, with what it returned. -/
inductive Happening
  /-- A second holder of the mailbox was made. -/
  | shared
  | painted (paint : PaintFrame) (result : Except PaintRefusal Unit)
  | resized (view : Extent) (result : Except PaintRefusal Unit)
  /-- The frame loop uploaded what it found in the mailbox; these were its exchanges. -/
  | uploaded (paint : Option PaintFrame) (result : Except GraphicsError (Option UploadOutcome))
    (own : List (Exchange (Graphics Nat Nat) RiggedStack))
  | driven (control : LoopControl)
  | sizeRequested (extent : Extent)
  | shutDown (result : Except GraphicsError Unit)

/-- What became of a paint that left the mailbox. -/
inductive Fate
  | uploaded
  /-- Another paint was accepted before it was collected. -/
  | superseded
  /-- The view was resized before it was collected. -/
  | dropped
  /-- It was collected by an upload that failed. -/
  | lost
  deriving DecidableEq, Repr

namespace Happening

/-- The paint that waits in the mailbox. -/
def pending : List Happening → Option PaintFrame
  | [] => none
  | .painted paint (.ok ()) :: _ => some paint
  | .resized _ (.ok ()) :: _ => none
  | .uploaded _ _ _ :: _ => none
  | _ :: earlier => pending earlier

/-- The paints that were accepted. -/
def accepted : List Happening → List PaintFrame
  | [] => []
  | .painted paint (.ok ()) :: earlier => paint :: accepted earlier
  | _ :: earlier => accepted earlier

/-- The paints that left the mailbox, each with what became of it. -/
def departed : List Happening → List (PaintFrame × Fate)
  | [] => []
  | .painted _ (.ok ()) :: earlier =>
    (pending earlier).toList.map (·, .superseded) ++ departed earlier
  | .resized _ (.ok ()) :: earlier => (pending earlier).toList.map (·, .dropped) ++ departed earlier
  | .uploaded (some paint) (.ok (some _)) _ :: earlier => (paint, .uploaded) :: departed earlier
  | .uploaded (some paint) (.error _) _ :: earlier => (paint, .lost) :: departed earlier
  | _ :: earlier => departed earlier

/-- The paint that a frame has to show: that of the last upload that went well, unless a later one
failed to replace its texture after it was released. -/
def shown : List Happening → Option PaintFrame
  | [] => none
  | .uploaded paint (.ok (some _)) _ :: _ => paint
  | .uploaded _ (.error _) own :: earlier => if losesTexture own then none else shown earlier
  | _ :: earlier => shown earlier

/-- Every paint that was accepted waits or has left, once. -/
def Accounted (history : List Happening) : Prop :=
  accepted history = (pending history).toList ++ (departed history).map Prod.fst

variable {history : List Happening}

/-- A paint leaves the account settled, whether it is accepted or refused. -/
theorem Accounted.painted (accounted : Accounted history) (paint : PaintFrame)
    (result : Except PaintRefusal Unit) : Accounted (.painted paint result :: history) := by
  cases result with
  | error refusal => exact accounted
  | ok =>
    unfold Accounted at accounted
    simp [Accounted, accepted, pending, departed, accounted, Function.comp_def]

/-- So does a resize. -/
theorem Accounted.resized (accounted : Accounted history) (view : Extent)
    (result : Except PaintRefusal Unit) : Accounted (.resized view result :: history) := by
  cases result with
  | error refusal => exact accounted
  | ok =>
    unfold Accounted at accounted
    simp [Accounted, accepted, pending, departed, accounted, Function.comp_def]

/-- An upload takes the paint that waits; it may find nothing only where nothing waits. -/
theorem Accounted.uploaded (accounted : Accounted history)
    {result : Except GraphicsError (Option UploadOutcome)}
    (found : result = .ok none → pending history = none)
    (own : List (Exchange (Graphics Nat Nat) RiggedStack)) :
    Accounted (.uploaded (pending history) result own :: history) := by
  unfold Accounted at accounted
  cases waits : pending history with
  | none =>
    rw [waits] at accounted
    simp [Accounted, accepted, pending, departed, accounted]
  | some paint =>
    rw [waits] at accounted
    obtain e | _ | outcome := result
    · simp [Accounted, accepted, pending, departed, accounted]
    · exact absurd (found rfl) (by simp [waits])
    · simp [Accounted, accepted, pending, departed, accounted]

end Happening

/-! ## The mailbox -/

namespace PaintMailbox

open Happening

/-- A mailbox holds the paint that waits by the history, and this paint is a whole image. -/
def Agrees (box : PaintMailbox) (history : List Happening) : Prop :=
  box.collect.1 = pending history ∧
    ∀ paint, pending history = some paint → viewBytes? paint.extent = some paint.bytes.size

variable {box : PaintMailbox} {history : List Happening}

/-- A new mailbox is blank. -/
theorem create_cases {view : Extent} (created : create view = .ok (.ok box)) :
    ∃ length, viewBytes? view = some length ∧ box = ⟨view, Bytes.constant length 0, false⟩ := by
  unfold create at created
  cases sized : viewBytes? view with
  | none => simp [sized] at created
  | some length =>
    by_cases fits : length ≤ maxBuffer
    · obtain rfl := by simpa [sized, fits] using created
      exact ⟨length, rfl, rfl⟩
    · simp [sized, fits] at created

/-- A size is refused and changes nothing, or the mailbox is blank again. -/
theorem resize_cases {view : Extent} {result : Except PaintRefusal Unit}
    (allocated : (box.resize view).1 = .ok result) :
    (∃ refusal, result = .error refusal ∧ (box.resize view).2 = box) ∨
      ∃ length, viewBytes? view = some length ∧ result = .ok () ∧
        (box.resize view).2 = ⟨view, Bytes.constant length 0, false⟩ := by
  unfold resize at allocated ⊢
  cases sized : viewBytes? view with
  | none =>
    rw [sized] at allocated
    exact .inl ⟨_, (Except.ok.inj allocated).symm, rfl⟩
  | some length =>
    by_cases fits : length ≤ maxBuffer
    · obtain rfl := by simpa [sized, fits] using allocated
      exact .inr ⟨length, rfl, rfl, by simp [fits]⟩
    · simp [sized, fits] at allocated

/-- A paint is refused and changes nothing, or it is stored as a whole. -/
theorem post_cases (box : PaintMailbox) (view : Extent) (bytes : ByteArray) :
    (∃ refusal, box.post view bytes = (.error refusal, box)) ∨
      viewBytes? view = some bytes.size ∧ box.post view bytes = (.ok (), ⟨view, bytes, true⟩) := by
  unfold post
  by_cases whole : viewBytes? view = some bytes.size
  · exact .inr ⟨whole, if_pos whole⟩
  · exact .inl ⟨_, if_neg whole⟩

/-- A paint that waits is taken out, and otherwise nothing is. -/
theorem collect_cases (box : PaintMailbox) :
    (box.fresh = false ∧ box.collect = (none, box)) ∨
      box.fresh = true ∧ box.collect =
        (some ⟨box.view, box.buffer⟩, { box with buffer := ByteArray.empty, fresh := false }) := by
  unfold collect
  cases fresh : box.fresh with
  | false => exact .inl ⟨rfl, rfl⟩
  | true => exact .inr ⟨rfl, rfl⟩

/-- A new mailbox agrees with an empty history. -/
theorem agrees_of_create {view : Extent} (created : create view = .ok (.ok box)) :
    box.Agrees [] := by
  obtain ⟨length, -, rfl⟩ := create_cases created
  exact ⟨rfl, fun _ waits => nomatch waits⟩

/-- A mailbox goes on to agree with its history through a paint. -/
theorem Agrees.post (agrees : box.Agrees history) (view : Extent) (bytes : ByteArray) :
    (box.post view bytes).2.Agrees (.painted ⟨view, bytes⟩ (box.post view bytes).1 :: history) := by
  obtain ⟨refusal, refused⟩ | ⟨whole, stored⟩ := box.post_cases view bytes
  · rw [refused]
    exact agrees
  · rw [stored]
    refine ⟨rfl, fun paint waits => ?_⟩
    obtain rfl := Option.some.inj waits
    exact whole

/-- Through a resize, too, that does not run out of memory. -/
theorem Agrees.resize (agrees : box.Agrees history) {view : Extent}
    {result : Except PaintRefusal Unit} (allocated : (box.resize view).1 = .ok result) :
    (box.resize view).2.Agrees (.resized view result :: history) := by
  obtain ⟨refusal, rfl, same⟩ | ⟨length, -, rfl, blank⟩ := resize_cases allocated
  · rw [same]
    exact agrees
  · rw [blank]
    exact ⟨rfl, fun _ waits => nomatch waits⟩

/-- And through a collection, whatever is done with the paint. -/
theorem agrees_of_collect (box : PaintMailbox) (paint : Option PaintFrame)
    (result : Except GraphicsError (Option UploadOutcome))
    (own : List (Exchange (Graphics Nat Nat) RiggedStack)) :
    box.collect.2.Agrees (.uploaded paint result own :: history) := by
  refine ⟨?_, fun _ waits => nomatch waits⟩
  obtain ⟨stale, collected⟩ | ⟨-, collected⟩ := box.collect_cases
  · rw [collected, collected]
    rfl
  · rw [collected]
    rfl

end PaintMailbox

/-! ## Whole images -/

/-- The bytes of an image whose pixels start with red are those of one whose pixels start with
blue, in another order. -/
def Reorders (bgra rgba : ByteArray) : Prop :=
  rgba.size = bgra.size ∧ ∀ pixel, 4 * pixel + 3 < bgra.size →
    Bytes.byteAt rgba (4 * pixel) = Bytes.byteAt bgra (4 * pixel + 2) ∧
    Bytes.byteAt rgba (4 * pixel + 1) = Bytes.byteAt bgra (4 * pixel + 1) ∧
    Bytes.byteAt rgba (4 * pixel + 2) = Bytes.byteAt bgra (4 * pixel) ∧
    Bytes.byteAt rgba (4 * pixel + 3) = Bytes.byteAt bgra (4 * pixel + 3)

private theorem reorders_rgba {pixels : PixelBuffer} (order : pixels.order = .bgra) :
    Reorders pixels.bytes pixels.rgba := by
  refine ⟨pixels.size_rgba, fun pixel inside => ?_⟩
  have within (channel : Nat) (small : channel ≤ 3) :
      Bytes.byteAt pixels.rgba (4 * pixel + channel) =
        Bytes.byteAt pixels.bytes (4 * pixel + ChannelOrder.bgra.source channel) := by
    have below : 4 * pixel + channel < pixels.length := by
      rw [PixelBuffer.length]
      omega
    have quotient : (4 * pixel + channel) / 4 = pixel := by omega
    have remainder : (4 * pixel + channel) % 4 = channel := by omega
    rw [PixelBuffer.rgba, Bytes.byteAt_tabulate, if_pos below, PixelBuffer.sourceIndex, quotient,
      remainder, order]
  exact ⟨within 0 (by omega), within 1 (by omega), within 2 (by omega), within 3 (by omega)⟩

/-- A view whose bytes can be counted has pixels. -/
theorem PaintMailbox.isEmpty_of_viewBytes? {view : Extent} {length : Nat}
    (sized : viewBytes? view = some length) : view.isEmpty = false := by
  obtain ⟨counted, positive⟩ := Option.filter_eq_some_iff.mp sized
  cases empty : view.isEmpty with
  | false => rfl
  | true =>
    obtain ⟨size, -⟩ := (byteLength?_eq_some_iff ..).mp counted
    have none := (Extent.area_eq_zero_iff view).mpr empty
    rw [Extent.area] at none
    simp [size, none] at positive

/-- A paint that a mailbox accepts is an image. -/
theorem PaintFrame.pixels_of_whole {paint : PaintFrame}
    (whole : PaintMailbox.viewBytes? paint.extent = some paint.bytes.size) :
    ∃ pixels, paint.pixels = .ok pixels ∧ pixels.extent = paint.extent ∧
      Reorders paint.bytes pixels.rgba := by
  have nonempty := PaintMailbox.isEmpty_of_viewBytes? whole
  have counted := (Option.filter_eq_some_iff.mp whole).1
  unfold PaintFrame.pixels PixelBuffer.ofBytes
  rw [dif_pos ⟨nonempty, counted⟩]
  refine ⟨_, rfl, rfl, reorders_rgba rfl⟩

end PaintPresenter
