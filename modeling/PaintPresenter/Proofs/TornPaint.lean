import PaintPresenter.Proofs.MailboxHistory

/-!
# Torn paints

A resize for which no buffer can be allocated breaks off halfway: its size stands over an empty
buffer, and a paint that waited before is said to wait still. Holders go on with what they find.
`torn_iff_brokenOff` says what this comes to for any number of holders: a resize that is refused
changes nothing, one that breaks off nearly always does, and the paint that waits is an image of
its view exactly if no resize broke off since it was accepted.
-/

namespace PaintPresenter

/-- What happens to a mailbox: a holder does something, or breaks off a resize. -/
inductive Incident
  | deed (deed : Deed)
  | brokenOff (view : Extent)

namespace Incident

/-- What an incident leaves to be collected, if it changes that on purpose. -/
def leaves? : Incident → Option (Option PaintFrame)
  | .deed done => done.leaves?
  | .brokenOff _ => none

/-- The size that a resize broke off at, or that no size stands over nothing any more. -/
def tears? : Incident → Option (Option Extent)
  | .deed done => done.leaves?.map fun _ => none
  | .brokenOff view => some (some view)

/-- The size that stands over an empty buffer, if there is one. -/
def torn? (incidents : List Incident) : Option Extent := (incidents.findSome? tears?).join

/-- A resize broke off, and since then no paint was accepted or collected and no resize accepted. -/
def BrokeOffLast (incidents : List Incident) : Prop :=
  ∃ later view earlier, incidents = later ++ .brokenOff view :: earlier ∧
    ∀ incident ∈ later, incident.leaves? = none

private theorem torn?_deed (deed : Deed) (earlier : List Incident) :
    torn? (.deed deed :: earlier) = if deed.leaves?.isSome then none else torn? earlier := by
  unfold torn?
  rw [List.findSome?_cons]
  cases leaves : deed.leaves? with
  | none => simp [tears?, leaves]
  | some left => simp [tears?, leaves]

private theorem torn?_brokenOff (view : Extent) (earlier : List Incident) :
    torn? (.brokenOff view :: earlier) = some view := rfl

/-- A deed that leaves what it finds to be collected does not mend anything. -/
theorem torn?_idle {deed : Deed} (idle : deed.leaves? = none) (earlier : List Incident) :
    torn? (.deed deed :: earlier) = torn? earlier := by
  simp [torn?_deed, idle]

private theorem brokeOffLast_cons {incident : Incident} {earlier : List Incident} :
    BrokeOffLast (incident :: earlier) ↔
      (∃ view, incident = .brokenOff view) ∨ incident.leaves? = none ∧ BrokeOffLast earlier := by
  constructor
  · rintro ⟨later, view, before, split, idle⟩
    cases later with
    | nil => exact .inl ⟨view, (List.cons.inj split).1⟩
    | cons first later =>
      obtain ⟨rfl, rfl⟩ := List.cons.inj split
      rw [List.forall_mem_cons] at idle
      exact .inr ⟨idle.1, later, view, before, rfl, idle.2⟩
  · rintro (⟨view, rfl⟩ | ⟨first, later, view, before, rfl, idle⟩)
    · exact ⟨[], view, earlier, rfl, by simp⟩
    · exact ⟨incident :: later, view, before, rfl, List.forall_mem_cons.mpr ⟨first, idle⟩⟩

/-- A resize broke off last exactly when a view is torn. -/
theorem brokeOffLast_iff {incidents : List Incident} :
    BrokeOffLast incidents ↔ ∃ view, torn? incidents = some view := by
  induction incidents with
  | nil => simp [BrokeOffLast, torn?]
  | cons incident earlier ih =>
    rw [brokeOffLast_cons, ih]
    cases incident with
    | brokenOff view => simp [torn?_brokenOff]
    | deed deed =>
      rw [torn?_deed]
      cases leaves : deed.leaves? with
      | none => simp [Incident.leaves?, leaves]
      | some left => simp [Incident.leaves?, leaves]

end Incident

/-! ## One mailbox -/

namespace PaintMailbox

variable {box after : PaintMailbox} {view : Extent} {incidents : List Incident}

/-- Bytes that a word can count but no buffer can hold. -/
def Oversized (view : Extent) : Prop := maxBuffer < view.area * 4 ∧ view.area * 4 < UInt64.size

private theorem viewBytes?_of_oversized (oversized : Oversized view) :
    viewBytes? view = some (view.area * 4) := by
  have counted := (byteLength?_eq_some_iff view.width view.height _).mpr ⟨rfl, oversized.2⟩
  exact Option.filter_eq_some_iff.mpr ⟨counted, by simpa using Nat.zero_lt_of_lt oversized.1⟩

private theorem area_of_viewBytes? {length : Nat} (sized : viewBytes? view = some length) :
    length = view.area * 4 ∧ length < UInt64.size :=
  (byteLength?_eq_some_iff ..).mp (Option.filter_eq_some_iff.mp sized).1

/-- A resize breaks off when its bytes can be counted but not be held, and leaves their size. -/
theorem resize_of_oversized (box : PaintMailbox) (oversized : Oversized view) :
    box.resize view = (.error .oversizedBuffer, ⟨view, ByteArray.empty, box.fresh⟩) := by
  unfold resize
  rw [viewBytes?_of_oversized oversized]
  exact if_neg (Nat.not_le.mpr oversized.1)

private theorem oversized_of_resize {fault : Fault} (stops : (box.resize view).1 = .error fault) :
    Oversized view := by
  unfold resize at stops
  cases sized : viewBytes? view with
  | none => simp [sized] at stops
  | some length =>
    obtain ⟨rfl, counted⟩ := area_of_viewBytes? sized
    by_cases fits : view.area * 4 ≤ maxBuffer
    · simp [sized, fits] at stops
    · exact ⟨Nat.not_le.mp fits, counted⟩

/-- A resize is refused, accepted or broken off. -/
theorem resize_outcomes (box : PaintMailbox) (view : Extent) :
    (∃ refusal, (box.resize view).1 = .ok (.error refusal) ∧ (box.resize view).2 = box) ∨
      (box.resize view).1 = .ok (.ok ()) ∨ Oversized view := by
  cases outcome : (box.resize view).1 with
  | error fault => exact .inr (.inr (oversized_of_resize outcome))
  | ok result =>
    obtain ⟨refusal, rfl, same⟩ | ⟨_, _, rfl, _⟩ := resize_cases outcome
    · exact .inl ⟨refusal, rfl, same⟩
    · exact .inr (.inl rfl)

/-- What an incident-ridden mailbox holds: nothing under the size of a resize that broke off, and
else an image of its view, if a paint waits. -/
def Bears (box : PaintMailbox) (incidents : List Incident) : Prop :=
  match Incident.torn? incidents with
  | some view => box.view = view ∧ box.buffer = ByteArray.empty ∧ Oversized view
  | none => box.fresh = true → viewBytes? box.view = some box.buffer.size

private theorem bears_of_create (created : create view = .ok (.ok box)) (earlier : List Incident) :
    box.Bears (.deed (.created view) :: earlier) := by
  obtain ⟨length, -, rfl⟩ := create_cases created
  rw [Bears, Incident.torn?_deed]
  simp [Deed.leaves?]

private theorem Bears.idle (bears : box.Bears incidents) {deed : Deed}
    (idle : deed.leaves? = none) : box.Bears (.deed deed :: incidents) := by
  rwa [Bears, Incident.torn?_idle idle]

/-- A deed that changes what waits ends what a broken resize began. -/
theorem bears_of_leaves {deed : Deed} {left : Option PaintFrame} (leaves : deed.leaves? = some left)
    (whole : box.fresh = true → viewBytes? box.view = some box.buffer.size)
    (earlier : List Incident) : box.Bears (.deed deed :: earlier) := by
  rw [Bears, Incident.torn?_deed, leaves]
  exact whole

private theorem Bears.does (bears : box.Bears incidents) {deed : Deed}
    (does : box.Does deed after) : after.Bears (.deed deed :: incidents) := by
  cases does with
  | resized view allocated =>
    obtain ⟨refusal, rfl, same⟩ | ⟨length, -, rfl, blank⟩ := resize_cases allocated
    · rw [same]
      exact bears.idle rfl
    · rw [blank]
      exact bears_of_leaves rfl (by simp) incidents
  | posted view bytes =>
    obtain ⟨refusal, refused⟩ | ⟨whole, stored⟩ := box.post_cases view bytes
    · rw [refused]
      exact bears.idle rfl
    · rw [stored]
      refine bears_of_leaves rfl ?_ incidents
      exact fun _ => whole
  | collected =>
    obtain ⟨-, collected⟩ | ⟨-, collected⟩ := box.collect_cases
    · rw [collected]
      exact bears.idle rfl
    · rw [collected]
      exact bears_of_leaves rfl (by simp) incidents
  | measured => exact bears.idle rfl
  | peeked => exact bears.idle rfl

private theorem bears_of_brokenOff (box : PaintMailbox) {fault : Fault}
    (stops : (box.resize view).1 = .error fault) (earlier : List Incident) :
    (box.resize view).2.Bears (.brokenOff view :: earlier) := by
  have oversized := oversized_of_resize stops
  rw [box.resize_of_oversized oversized, Bears, Incident.torn?_brokenOff]
  exact ⟨rfl, rfl, oversized⟩

/-- What resizes do to a mailbox, and what those that broke off have done to it. -/
structure Tears (box : PaintMailbox) (incidents : List Incident) : Prop where
  /-- A resize that is not accepted leaves the mailbox as it was when it is refused; one that breaks
  off does so only where there was nothing left to change. -/
  kept : ∀ view, (box.resize view).1 ≠ .ok (.ok ()) →
    ((box.resize view).2 = box ↔ (∃ refusal, (box.resize view).1 = .ok (.error refusal)) ∨
      box.view = view ∧ box.buffer = ByteArray.empty)
  breaksOff : ∀ view, (∃ fault, (box.resize view).1 = .error fault) ↔
    maxBuffer < view.area * 4 ∧ view.area * 4 < UInt64.size
  leaves : ∀ view fault, (box.resize view).1 = .error fault →
    fault = .oversizedBuffer ∧ (box.resize view).2 = ⟨view, ByteArray.empty, box.fresh⟩
  whole : box.fresh = true →
    (box.buffer.size = box.view.area * 4 ↔ ¬Incident.BrokeOffLast incidents)
  pixels : ∀ paint, box.collect.1 = some paint →
    ((∃ pixels, paint.pixels = .ok pixels) ↔ ¬Incident.BrokeOffLast incidents)

/-- The paint that waits is whole unless a resize broke off. -/
theorem Bears.whole_iff (bears : box.Bears incidents) (fresh : box.fresh = true) :
    viewBytes? box.view = some box.buffer.size ↔ ¬Incident.BrokeOffLast incidents := by
  rw [Incident.brokeOffLast_iff]
  unfold Bears at bears
  cases torn : Incident.torn? incidents with
  | none =>
    rw [torn] at bears
    simp [bears fresh]
  | some view =>
    rw [torn] at bears
    obtain ⟨rfl, empty, oversized⟩ := bears
    have large : 0 < box.view.area * 4 := Nat.zero_lt_of_lt oversized.1
    rw [viewBytes?_of_oversized oversized, empty]
    simp only [Option.some.injEq, ByteArray.size_empty]
    exact ⟨fun none => absurd none (Nat.ne_of_gt large), fun unbroken => absurd ⟨_, rfl⟩ unbroken⟩

/-- A mailbox has the bytes of its view when it has as many as an image of the view. -/
theorem Bears.size_iff (bears : box.Bears incidents) (fresh : box.fresh = true) :
    box.buffer.size = box.view.area * 4 ↔ viewBytes? box.view = some box.buffer.size := by
  refine ⟨fun same => ?_, fun sized => (area_of_viewBytes? sized).1⟩
  unfold Bears at bears
  cases torn : Incident.torn? incidents with
  | none =>
    rw [torn] at bears
    exact bears fresh
  | some view =>
    rw [torn] at bears
    obtain ⟨rfl, -, oversized⟩ := bears
    rw [viewBytes?_of_oversized oversized, same]

private theorem pixels_iff (paint : PaintFrame) :
    (∃ pixels, paint.pixels = .ok pixels) ↔ viewBytes? paint.extent = some paint.bytes.size := by
  constructor
  · rintro ⟨pixels, read⟩
    unfold PaintFrame.pixels PixelBuffer.ofBytes at read
    split at read
    · next accepted =>
      refine Option.filter_eq_some_iff.mpr ⟨accepted.2, ?_⟩
      obtain ⟨size, -⟩ := (byteLength?_eq_some_iff ..).mp accepted.2
      have area : paint.extent.area ≠ 0 := by
        rw [Ne, Extent.area_eq_zero_iff, accepted.1]
        exact Bool.false_ne_true
      rw [Extent.area] at area
      simp only [size, decide_eq_true_eq]
      omega
    · cases read
  · intro whole
    obtain ⟨pixels, read, -⟩ := PaintFrame.pixels_of_whole whole
    exact ⟨pixels, read⟩

/-- What a mailbox bears of its incidents tells whether it is torn. -/
theorem Bears.tears (bears : box.Bears incidents) : box.Tears incidents where
  kept view unaccepted := by
    obtain ⟨refusal, refused, same⟩ | accepted | oversized := box.resize_outcomes view
    · exact ⟨fun _ => .inl ⟨refusal, refused⟩, fun _ => same⟩
    · exact absurd accepted unaccepted
    · rw [box.resize_of_oversized oversized]
      obtain ⟨current, buffer, fresh⟩ := box
      simp [eq_comm]
  breaksOff view := by
    refine ⟨fun ⟨fault, stops⟩ => oversized_of_resize stops, fun oversized => ?_⟩
    rw [box.resize_of_oversized oversized]
    exact ⟨_, rfl⟩
  leaves view fault stops := by
    have broken := box.resize_of_oversized (oversized_of_resize stops)
    rw [broken] at stops ⊢
    exact ⟨(Except.error.inj stops).symm, rfl⟩
  whole fresh := (bears.size_iff fresh).trans (bears.whole_iff fresh)
  pixels paint waits := by
    obtain ⟨-, collected⟩ | ⟨fresh, collected⟩ := box.collect_cases
    · rw [collected] at waits
      exact nomatch waits
    · rw [collected] at waits
      obtain rfl := Option.some.inj waits
      exact (pixels_iff _).trans (bears.whole_iff fresh)

end PaintMailbox

/-! ## Holders -/

namespace MailboxHolders

/-- Something happens to the mailbox of this number, be it that a resize breaks off. -/
inductive Meets (h : MailboxHolders) : Nat × Incident → MailboxHolders → Prop
  | next {number : Nat} {deed : Deed} {after : MailboxHolders}
      (next : h.Next (number, deed) after) : Meets h (number, .deed deed) after
  | brokenOff {number : Nat} {box : PaintMailbox} {fault : Fault} (holder : Nat) (view : Extent)
      (owns : h.owned[holder]? = some number) (found : h.boxes[number]? = some box)
      (stops : (box.resize view).1 = .error fault) :
      Meets h (number, .brokenOff view) (h.store holder (box.resize view).2)

/-- Things happen one after the other; the history is listed latest first. -/
inductive Endures : List (Nat × Incident) → MailboxHolders → Prop
  | opens : Endures [] {}
  | goesOn {history : List (Nat × Incident)} {h after : MailboxHolders} {happening : Nat × Incident}
      (endured : Endures history h) (meets : h.Meets happening after) :
      Endures (happening :: history) after

/-- What happened to the mailbox of this number. -/
def incidents (number : Nat) (history : List (Nat × Incident)) : List Incident :=
  (history.filter (·.1 = number)).map Prod.snd

variable {h after : MailboxHolders} {history : List (Nat × Incident)} {number : Nat}

/-- Every holder holds a mailbox, and something is true of every mailbox and its number. -/
structure Each (h : MailboxHolders) (P : Nat → PaintMailbox → Prop) : Prop where
  held : ∀ number ∈ h.owned, number < h.boxes.size
  boxes : ∀ (number : Nat) (box : PaintMailbox), h.boxes[number]? = some box → P number box

section Each

variable {P Q : Nat → PaintMailbox → Prop}

private theorem Each.adopt (each : h.Each P) {box : PaintMailbox} (new : Q h.boxes.size box)
    (others : ∀ n other, n ≠ h.boxes.size → P n other → Q n other) : (h.adopt box).Each Q where
  held n mem := by
    obtain mem | rfl := Array.mem_push.mp mem
    · have below := each.held n mem
      simp only [MailboxHolders.adopt, Array.size_push]
      omega
    · simp [MailboxHolders.adopt]
  boxes n other found := by
    simp only [MailboxHolders.adopt, Array.getElem?_push] at found
    by_cases here : n = h.boxes.size
    · subst here
      obtain rfl := by simpa using found
      exact new
    · rw [if_neg here] at found
      exact others n other here (each.boxes n other found)

private theorem Each.share (each : h.Each P) (holder : Nat) : (h.share holder).Each P := by
  unfold MailboxHolders.share
  cases owns : h.owned[holder]? with
  | none => exact each
  | some number =>
    refine ⟨fun n mem => ?_, each.boxes⟩
    obtain mem | rfl := Array.mem_push.mp mem
    · exact each.held n mem
    · exact each.held _ (Array.mem_of_getElem? owns)

private theorem Each.store (each : h.Each P) {holder : Nat} (owns : h.owned[holder]? = some number)
    {box : PaintMailbox} (new : Q number box)
    (others : ∀ n other, n ≠ number → P n other → Q n other) : (h.store holder box).Each Q := by
  unfold MailboxHolders.store
  rw [owns]
  refine ⟨fun n mem => by simpa using each.held n mem, fun n other found => ?_⟩
  rw [Array.getElem?_setIfInBounds] at found
  by_cases here : n = number
  · subst here
    have within := each.held n (Array.mem_of_getElem? owns)
    obtain rfl := by simpa [within] using found
    exact new
  · rw [if_neg (Ne.symm here)] at found
    exact others n other here (each.boxes n other found)

private theorem Each.weaken (each : h.Each P) (weaker : ∀ n box, P n box → Q n box) : h.Each Q :=
  ⟨each.held, fun n box found => weaker n box (each.boxes n box found)⟩

end Each

/-- An incident in the mailbox is one of its own. -/
@[simp] theorem incidents_cons_self (incident : Incident) :
    incidents number ((number, incident) :: history) = incident :: incidents number history := by
  simp [incidents]

private theorem incidents_cons_of_ne {other : Nat} (differs : other ≠ number)
    (incident : Incident) :
    incidents number ((other, incident) :: history) = incidents number history := by
  simp [incidents, differs]

/-- Every mailbox holds what its incidents say. -/
def Bears (h : MailboxHolders) (history : List (Nat × Incident)) : Prop :=
  h.Each fun number box => box.Bears (incidents number history)

private theorem bears_elsewhere (incident : Incident) (n : Nat) (other : PaintMailbox)
    (differs : n ≠ number) (bears : other.Bears (incidents n history)) :
    other.Bears (incidents n ((number, incident) :: history)) := by
  rwa [incidents_cons_of_ne (Ne.symm differs)]

private theorem Bears.next (bears : h.Bears history) {deed : Deed}
    (next : h.Next (number, deed) after) : after.Bears ((number, .deed deed) :: history) := by
  cases next with
  | @created view box created =>
    refine Each.adopt bears ?_ (bears_elsewhere (.deed (.created view)))
    rw [incidents_cons_self]
    exact PaintMailbox.bears_of_create created _
  | shared holder owns =>
    refine Each.weaken (Each.share bears holder) fun n box bears => ?_
    by_cases here : n = number
    · subst here
      rw [incidents_cons_self]
      exact bears.idle rfl
    · exact bears_elsewhere _ n box here bears
  | does holder owns found does =>
    refine Each.store bears owns ?_ (bears_elsewhere (.deed deed))
    rw [incidents_cons_self]
    exact (bears.boxes _ _ found).does does

private theorem Bears.meets (bears : h.Bears history) {happening : Nat × Incident}
    (meets : h.Meets happening after) : after.Bears (happening :: history) := by
  cases meets with
  | next next => exact bears.next next
  | @brokenOff number box fault holder view owns found stops =>
    refine Each.store bears owns ?_ (bears_elsewhere (.brokenOff view))
    rw [incidents_cons_self]
    exact box.bears_of_brokenOff stops _

/-- Holders bear their history after any number of happenings. -/
theorem bears_of_endures (endures : Endures history h) : h.Bears history := by
  induction endures with
  | opens => exact ⟨by simp, by simp⟩
  | goesOn _ meets ih => exact ih.meets meets

/-- Whatever any number of holders do with their mailboxes, and whichever resizes break off on the
way: a resize breaks off exactly if its bytes can be counted but not be held, and changes the
mailbox then, while one that is refused does not; and a paint that waits has the bytes of its view,
and is accepted as an image, exactly if no resize broke off since it was posted. -/
theorem torn_iff_brokenOff (endures : Endures history h) {holder : Nat}
    (owns : h.owned[holder]? = some number) :
    ∃ box, h.box? holder = some box ∧ box.Tears (incidents number history) := by
  have bears := bears_of_endures endures
  have within := bears.held number (Array.mem_of_getElem? owns)
  have found : h.boxes[number]? = some h.boxes[number] := Array.getElem?_eq_getElem within
  refine ⟨h.boxes[number], ?_, (bears.boxes number _ found).tears⟩
  rw [box?, owns]
  exact found

/-- A view whose bytes are one more than a buffer can hold. -/
def hugeView : Extent := ⟨0x80000000, 0x40000000⟩

private theorem oversized_hugeView : PaintMailbox.Oversized hugeView := by
  unfold PaintMailbox.Oversized
  decide

/-- A paint of one pixel waits when a second holder breaks off a resize. -/
def brokenAside : List (Nat × Incident) :=
  [(0, .brokenOff hugeView), (0, .deed (.posted pixelPaint (.ok ()))), (0, .deed .shared),
    (0, .deed (.created ⟨1, 1⟩))]

/-- The mailbox after that. -/
def tornBox : PaintMailbox := ⟨hugeView, ByteArray.empty, true⟩

/-- The mailbox and its holders after that. -/
def tornHolders : MailboxHolders := ⟨#[tornBox], #[0, 0]⟩

private theorem endures_brokenAside : Endures brokenAside tornHolders := by
  let blank : PaintMailbox := ⟨⟨1, 1⟩, Bytes.constant 4 0, false⟩
  let painted : PaintMailbox := ⟨⟨1, 1⟩, pixelPaint.bytes, true⟩
  have created : Endures (brokenAside.drop 3) ⟨#[blank], #[0]⟩ :=
    .goesOn .opens (.next (.created rfl))
  have shared : Endures (brokenAside.drop 2) ⟨#[blank], #[0, 0]⟩ :=
    .goesOn created (.next (.shared 0 rfl))
  have posted : Endures (brokenAside.drop 1) ⟨#[painted], #[0, 0]⟩ :=
    .goesOn shared (.next (.does 0 rfl rfl (.posted ⟨1, 1⟩ pixelPaint.bytes)))
  have broken := painted.resize_of_oversized oversized_hugeView
  have stops : (painted.resize hugeView).1 = .error .oversizedBuffer := congrArg Prod.fst broken
  have last : Meets ⟨#[painted], #[0, 0]⟩ (0, .brokenOff hugeView) (store 1
      (painted.resize hugeView).2 ⟨#[painted], #[0, 0]⟩) := .brokenOff 1 hugeView rfl rfl stops
  rw [broken] at last
  exact .goesOn posted last

/-- A resize that broke off at the second holder leaves the first one a torn paint. -/
theorem torn_iff_brokenOff_aside :
    Endures brokenAside tornHolders ∧
      ∃ box, tornHolders.box? 0 = some box ∧ box.fresh = true ∧
        box.buffer.size ≠ box.view.area * 4 := by
  have owns : tornHolders.owned[0]? = some 0 := rfl
  obtain ⟨box, found, tears⟩ := torn_iff_brokenOff endures_brokenAside owns
  have brokeOff : Incident.BrokeOffLast (incidents 0 brokenAside) :=
    ⟨[], hugeView, _, rfl, by simp⟩
  obtain rfl : tornBox = box := Option.some.inj found
  exact ⟨endures_brokenAside, tornBox, rfl, rfl, fun whole => (tears.whole rfl).mp whole brokeOff⟩

/-- A resize that is not accepted may change the mailbox of all its holders, and a paint that waits
then may be no image. -/
theorem exists_torn_paint :
    ∃ (box : PaintMailbox) (view : Extent) (paint : PaintFrame) (fault : Fault),
      box.fresh = true ∧ PaintMailbox.viewBytes? box.view = some box.buffer.size ∧
        (box.resize view).1 = .error fault ∧ (box.resize view).2 ≠ box ∧
          (box.resize view).2.collect.1 = some paint ∧
            paint.bytes.size ≠ paint.extent.area * 4 ∧
              ∀ pixels, paint.pixels ≠ .ok pixels := by
  let painted : PaintMailbox := ⟨⟨1, 1⟩, pixelPaint.bytes, true⟩
  have broken := painted.resize_of_oversized oversized_hugeView
  refine ⟨painted, hugeView, ⟨hugeView, ByteArray.empty⟩, .oversizedBuffer, rfl, rfl, ?_⟩
  rw [broken]
  refine ⟨rfl, ?_, rfl, by decide, fun pixels read => ?_⟩
  · intro same
    exact absurd (congrArg (·.view) same) (by decide)
  · have sized := (PaintMailbox.pixels_iff _).mp ⟨pixels, read⟩
    rw [PaintMailbox.viewBytes?_of_oversized oversized_hugeView] at sized
    exact absurd (Option.some.inj sized) (by decide)

end MailboxHolders

end PaintPresenter
