import PaintPresenter.Proofs.PaintAccount

/-!
# The history of mailboxes

Any number of holders share mailboxes and do what they like with them, one deed at a time. What was
done to a mailbox, latest first, says what each of its holders finds: the last paint that was
accepted, as long as no resize and no other holder took it away, and the last size that was set.
-/

namespace PaintPresenter

/-- What a holder did with a mailbox, and what it was told. -/
inductive Deed
  | created (view : Extent)
  /-- A second holder of the mailbox was made. -/
  | shared
  | resized (view : Extent) (result : Except PaintRefusal Unit)
  | posted (paint : PaintFrame) (result : Except PaintRefusal Unit)
  | collected (paint : Option PaintFrame)
  /-- A holder asked for the view size. -/
  | measured (view : Extent)
  /-- A holder asked whether a paint waits. -/
  | peeked (fresh : Bool)

namespace Deed

/-- What a deed leaves to be collected, if it changes that. -/
def leaves? : Deed → Option (Option PaintFrame)
  | created _ => some none
  | resized _ (.ok ()) => some none
  | posted paint (.ok ()) => some (some paint)
  | collected (some _) => some none
  | _ => none

/-- The view size that a deed sets. -/
def sets? : Deed → Option Extent
  | created view => some view
  | resized view (.ok ()) => some view
  | posted paint (.ok ()) => some paint.extent
  | _ => none

/-- Only a paint that was accepted leaves one to be collected. -/
theorem leaves?_eq_some_some {deed : Deed} {paint : PaintFrame} :
    deed.leaves? = some (some paint) ↔ deed = posted paint (.ok ()) := by
  cases deed with
  | resized view result => cases result <;> simp [leaves?]
  | posted other result => cases result <;> simp [leaves?]
  | collected found => cases found <;> simp [leaves?]
  | _ => simp [leaves?]

end Deed

/-! ## One mailbox -/

namespace PaintMailbox

/-- A holder does something with a mailbox. No buffer is larger than can be allocated. -/
inductive Does (box : PaintMailbox) : Deed → PaintMailbox → Prop
  | resized {result : Except PaintRefusal Unit} (view : Extent)
      (allocated : (box.resize view).1 = .ok result) :
      Does box (.resized view result) (box.resize view).2
  | posted (view : Extent) (bytes : ByteArray) :
      Does box (.posted ⟨view, bytes⟩ (box.post view bytes).1) (box.post view bytes).2
  | collected : Does box (.collected box.collect.1) box.collect.2
  | measured : Does box (.measured box.view) box
  | peeked : Does box (.peeked box.fresh) box

/-- A mailbox is as the deeds say, which are listed latest first. Its bytes are an image of its view
only while a paint waits: to collect it takes the bytes and leaves the view. -/
structure Recalls (box : PaintMailbox) (deeds : List Deed) : Prop where
  view : deeds.findSome? Deed.sets? = some box.view
  paint : (deeds.findSome? Deed.leaves?).join = box.collect.1
  sized : ∃ length, viewBytes? box.view = some length
  whole : box.fresh = true → viewBytes? box.view = some box.buffer.size

variable {box after : PaintMailbox} {deeds : List Deed} {deed : Deed}

private theorem recalls_of_create {view : Extent} (created : create view = .ok (.ok box))
    (earlier : List Deed) : box.Recalls (.created view :: earlier) := by
  obtain ⟨length, sized, rfl⟩ := create_cases created
  exact ⟨rfl, rfl, ⟨length, sized⟩, by simp⟩

/-- A deed that changes nothing may be added. -/
theorem Recalls.idle (recalls : box.Recalls deeds) (leaves : deed.leaves? = none)
    (sets : deed.sets? = none) : box.Recalls (deed :: deeds) where
  view := by
    rw [List.findSome?_cons, sets]
    exact recalls.view
  paint := by
    rw [List.findSome?_cons, leaves]
    exact recalls.paint
  sized := recalls.sized
  whole := recalls.whole

/-- Whatever a holder does, the mailbox is as the deeds say. -/
theorem Recalls.does (recalls : box.Recalls deeds) (does : box.Does deed after) :
    after.Recalls (deed :: deeds) := by
  cases does with
  | resized view allocated =>
    obtain ⟨refusal, rfl, same⟩ | ⟨length, sized, rfl, blank⟩ := resize_cases allocated
    · rw [same]
      exact recalls.idle rfl rfl
    · rw [blank]
      exact ⟨rfl, rfl, ⟨length, sized⟩, by simp⟩
  | posted view bytes =>
    obtain ⟨refusal, refused⟩ | ⟨whole, stored⟩ := box.post_cases view bytes
    · rw [refused]
      exact recalls.idle rfl rfl
    · rw [stored]
      exact ⟨rfl, rfl, ⟨_, whole⟩, fun _ => whole⟩
  | collected =>
    obtain ⟨-, collected⟩ | ⟨-, collected⟩ := box.collect_cases
    · rw [collected]
      exact recalls.idle rfl rfl
    · rw [collected]
      exact ⟨recalls.view, rfl, recalls.sized, by simp⟩
  | measured => exact recalls.idle rfl rfl
  | peeked => exact recalls.idle rfl rfl

/-- To a holder, a mailbox with these deeds behind it is a register of the last paint. -/
structure Registers (box : PaintMailbox) (deeds : List Deed) : Prop where
  /-- A paint is collected when it was accepted, and neither another paint was accepted since, nor
  a resize, nor was a paint collected. -/
  collects : ∀ paint, box.collect.1 = some paint ↔
    ∃ later earlier, deeds = later ++ .posted paint (.ok ()) :: earlier ∧
      ∀ deed ∈ later, deed.leaves? = none
  peeks : box.fresh = box.collect.1.isSome
  /-- The view has the last size that was set. -/
  measures : ∃ later deed earlier, deeds = later ++ deed :: earlier ∧
    deed.sets? = some box.view ∧ ∀ other ∈ later, other.sets? = none
  pixels : box.view.isEmpty = false
  resizes : ∀ view, (∀ length, viewBytes? view = some length → length ≤ maxBuffer) →
    ∃ result, (box.resize view).1 = .ok result
  resizeRefused : ∀ view refusal, (box.resize view).1 = .ok (.error refusal) →
    (box.resize view).2 = box
  postRefused : ∀ view bytes refusal, (box.post view bytes).1 = .error refusal →
    (box.post view bytes).2 = box
  images : ∀ paint, box.collect.1 = some paint → ∃ pixels, paint.pixels = .ok pixels

/-- A resize that may be allocated is accepted or refused. -/
theorem resize_of_le {view : Extent}
    (fits : ∀ length, viewBytes? view = some length → length ≤ maxBuffer) :
    ∃ result, (box.resize view).1 = .ok result := by
  unfold resize
  cases sized : viewBytes? view with
  | none => exact ⟨_, rfl⟩
  | some length =>
    simp only
    rw [if_pos (fits length sized)]
    exact ⟨_, rfl⟩

/-- What a mailbox recalls of its deeds makes it a register of the last paint. -/
theorem Recalls.registers (recalls : box.Recalls deeds) : box.Registers deeds where
  collects paint := by
    rw [← recalls.paint, Option.join_eq_some_iff, List.findSome?_eq_some_iff]
    constructor
    · rintro ⟨later, deed, earlier, rfl, leaves, none⟩
      obtain rfl := Deed.leaves?_eq_some_some.mp leaves
      exact ⟨later, earlier, rfl, none⟩
    · rintro ⟨later, earlier, rfl, none⟩
      exact ⟨later, _, earlier, rfl, Deed.leaves?_eq_some_some.mpr rfl, none⟩
  peeks := by
    obtain ⟨fresh, collected⟩ | ⟨fresh, collected⟩ := box.collect_cases
    · rw [fresh, collected]
      rfl
    · rw [fresh, collected]
      rfl
  measures := List.findSome?_eq_some_iff.mp recalls.view
  pixels := by
    obtain ⟨length, sized⟩ := recalls.sized
    exact isEmpty_of_viewBytes? sized
  resizes _ fits := resize_of_le fits
  resizeRefused view refusal refused := by
    obtain ⟨_, -, same⟩ | ⟨_, -, accepted, -⟩ := resize_cases refused
    · exact same
    · exact nomatch accepted
  postRefused view bytes refusal refused := by
    obtain ⟨_, same⟩ | ⟨-, stored⟩ := box.post_cases view bytes
    · rw [same]
    · rw [stored] at refused
      exact nomatch refused
  images paint waits := by
    obtain ⟨-, collected⟩ | ⟨fresh, collected⟩ := box.collect_cases
    · rw [collected] at waits
      exact nomatch waits
    · rw [collected] at waits
      have same : paint = ⟨box.view, box.buffer⟩ := (Option.some.inj waits).symm
      have whole : viewBytes? paint.extent = some paint.bytes.size := by
        rw [same]
        exact recalls.whole fresh
      obtain ⟨pixels, read, -⟩ := PaintFrame.pixels_of_whole whole
      exact ⟨pixels, read⟩

end PaintMailbox

/-! ## Holders -/

namespace MailboxHolders

/-- One thing happens to the mailbox of this number: it comes with its first holder, or one of its
holders does something. -/
inductive Next (h : MailboxHolders) : Nat × Deed → MailboxHolders → Prop
  | created {view : Extent} {box : PaintMailbox}
      (created : PaintMailbox.create view = .ok (.ok box)) :
      Next h (h.boxes.size, .created view) (h.adopt box)
  | shared {number : Nat} (holder : Nat) (owns : h.owned[holder]? = some number) :
      Next h (number, .shared) (h.share holder)
  | does {number : Nat} {box after : PaintMailbox} {deed : Deed} (holder : Nat)
      (owns : h.owned[holder]? = some number) (found : h.boxes[number]? = some box)
      (does : box.Does deed after) : Next h (number, deed) (h.store holder after)

/-- Things happen one after the other; the history is listed latest first. -/
inductive Plays : List (Nat × Deed) → MailboxHolders → Prop
  | opens : Plays [] {}
  | goesOn {history : List (Nat × Deed)} {h after : MailboxHolders} {happening : Nat × Deed}
      (played : Plays history h) (next : h.Next happening after) :
      Plays (happening :: history) after

/-- What was done to the mailbox of this number. -/
def about (number : Nat) (history : List (Nat × Deed)) : List Deed :=
  (history.filter (·.1 = number)).map Prod.snd

variable {h after : MailboxHolders} {history : List (Nat × Deed)} {number other : Nat}
  {deed : Deed}

/-- A deed to the mailbox is about it. -/
@[simp] theorem about_cons_self :
    about number ((number, deed) :: history) = deed :: about number history := by
  simp [about]

private theorem about_cons_of_ne (differs : other ≠ number) :
    about number ((other, deed) :: history) = about number history := by
  simp [about, differs]

/-- What was done to the only mailbox that there is. -/
theorem about_map (number : Nat) (deeds : List Deed) :
    about number (deeds.map (number, ·)) = deeds := by
  induction deeds with
  | nil => rfl
  | cons deed deeds ih => rw [List.map_cons, about_cons_self, ih]

/-- Every holder holds a mailbox, and every mailbox is as the deeds say. -/
structure Recalls (h : MailboxHolders) (history : List (Nat × Deed)) : Prop where
  held : ∀ number ∈ h.owned, number < h.boxes.size
  boxes : ∀ (number : Nat) (box : PaintMailbox), h.boxes[number]? = some box →
    box.Recalls (about number history)

private theorem recalls_about {n : Nat} {box : PaintMailbox}
    (same : n = number → box.Recalls (deed :: about number history))
    (others : n ≠ number → box.Recalls (about n history)) :
    box.Recalls (about n ((number, deed) :: history)) := by
  by_cases here : n = number
  · subst here
    rw [about_cons_self]
    exact same rfl
  · rw [about_cons_of_ne (Ne.symm here)]
    exact others here

private theorem Recalls.created (recalls : h.Recalls history) {view : Extent} {box : PaintMailbox}
    (created : PaintMailbox.create view = .ok (.ok box)) :
    (h.adopt box).Recalls ((h.boxes.size, .created view) :: history) where
  held n mem := by
    obtain mem | rfl := Array.mem_push.mp mem
    · have below := recalls.held n mem
      simp only [adopt, Array.size_push]
      omega
    · simp [adopt]
  boxes n other found := by
    simp only [adopt, Array.getElem?_push] at found
    apply recalls_about
    · rintro rfl
      obtain rfl := by simpa using found
      exact PaintMailbox.recalls_of_create created _
    · intro old
      rw [if_neg old] at found
      exact recalls.boxes n other found

private theorem Recalls.shared (recalls : h.Recalls history) {holder : Nat}
    (owns : h.owned[holder]? = some number) :
    (h.share holder).Recalls ((number, .shared) :: history) := by
  unfold share
  rw [owns]
  constructor
  · intro n mem
    obtain mem | rfl := Array.mem_push.mp mem
    · exact recalls.held n mem
    · exact recalls.held _ (Array.mem_of_getElem? owns)
  · intro n box found
    apply recalls_about
    · rintro rfl
      exact (recalls.boxes n box found).idle rfl rfl
    · intro _
      exact recalls.boxes n box found

private theorem Recalls.does (recalls : h.Recalls history) {holder : Nat}
    {box changed : PaintMailbox} (owns : h.owned[holder]? = some number)
    (found : h.boxes[number]? = some box) (does : box.Does deed changed) :
    (h.store holder changed).Recalls ((number, deed) :: history) := by
  unfold store
  rw [owns]
  constructor
  · intro n mem
    simpa using recalls.held n mem
  · intro n other kept
    rw [Array.getElem?_setIfInBounds] at kept
    apply recalls_about
    · rintro rfl
      have within := recalls.held n (Array.mem_of_getElem? owns)
      obtain rfl := by simpa [within] using kept
      exact (recalls.boxes n box found).does does
    · intro differs
      rw [if_neg (Ne.symm differs)] at kept
      exact recalls.boxes n other kept

private theorem Recalls.next (recalls : h.Recalls history) {happening : Nat × Deed}
    (next : h.Next happening after) : after.Recalls (happening :: history) := by
  cases next with
  | created created => exact recalls.created created
  | shared holder owns => exact recalls.shared owns
  | does holder owns found does => exact recalls.does owns found does

/-- Holders recall their history after any number of happenings. -/
theorem recalls_of_plays (plays : Plays history h) : h.Recalls history := by
  induction plays with
  | opens => exact ⟨by simp, by simp⟩
  | goesOn _ next ih => exact ih.next next

/-- Whatever any number of holders do with their mailboxes, and in which order: each holder finds
its mailbox to be a register of the last paint, whoever posted it. -/
theorem registers_last_paint (plays : Plays history h) {holder : Nat}
    (owns : h.owned[holder]? = some number) :
    ∃ box, h.box? holder = some box ∧ box.Registers (about number history) := by
  have recalls := recalls_of_plays plays
  have within := recalls.held number (Array.mem_of_getElem? owns)
  have found : h.boxes[number]? = some h.boxes[number] := Array.getElem?_eq_getElem within
  refine ⟨h.boxes[number], ?_, (recalls.boxes number _ found).registers⟩
  rw [box?, owns]
  exact found

/-- A paint of one pixel. -/
def pixelPaint : PaintFrame := ⟨⟨1, 1⟩, ⟨#[1, 2, 3, 4]⟩⟩

/-- A second holder posts it, and the first one asks for a view without pixels. -/
def postedAside : List (Nat × Deed) :=
  [(0, .resized ⟨0, 1⟩ (.error (.emptyView 0 1))), (0, .posted pixelPaint (.ok ())), (0, .shared),
    (0, .created ⟨2, 1⟩)]

/-- The mailbox and its holders after that. -/
def holdersAside : MailboxHolders := ⟨#[⟨⟨1, 1⟩, pixelPaint.bytes, true⟩], #[0, 0]⟩

private theorem plays_postedAside : Plays postedAside holdersAside := by
  let blank : PaintMailbox := ⟨⟨2, 1⟩, Bytes.constant 8 0, false⟩
  have created : Plays (postedAside.drop 3) ⟨#[blank], #[0]⟩ := .goesOn .opens (.created rfl)
  have shared : Plays (postedAside.drop 2) ⟨#[blank], #[0, 0]⟩ := .goesOn created (.shared 0 rfl)
  have posted : Plays (postedAside.drop 1) holdersAside :=
    .goesOn shared (.does 1 rfl rfl (.posted ⟨1, 1⟩ pixelPaint.bytes))
  exact .goesOn posted (.does 0 rfl rfl (.resized ⟨0, 1⟩ rfl))

/-- The first holder collects what the second one posted, its own refused resize notwithstanding.
-/
theorem registers_last_paint_aside :
    Plays postedAside holdersAside ∧
      ∃ box, holdersAside.box? 0 = some box ∧ box.collect.1 = some pixelPaint := by
  have owns : holdersAside.owned[0]? = some 0 := rfl
  obtain ⟨box, found, registers⟩ := registers_last_paint plays_postedAside owns
  have collected := (registers.collects pixelPaint).mpr ⟨[_], [_, _], rfl, by decide⟩
  exact ⟨plays_postedAside, box, found, collected⟩

end MailboxHolders

end PaintPresenter
