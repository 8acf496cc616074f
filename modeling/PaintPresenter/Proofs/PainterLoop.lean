import PaintPresenter.Proofs.MailboxHistory
import PaintPresenter.Proofs.PaintedRows

/-!
# A painter and a frame loop on one mailbox

The painter goes round: it looks at the clock and asks for another size if that is due, it reads the
view, and it posts what it painted. Each of the three touches the mailbox by itself, and whatever
others do with the mailbox falls between any two of them; the clock may show anything.
`paints_reach_loop` says that no paint is ever refused, and what the frame loop takes when nobody
else writes: the last paint, at most once, and as the history says that it has to look.
-/

namespace PaintPresenter

/-! ## Moves -/

/-- The whole pattern as a paint. -/
def Pattern.paint (view : Extent) (tick : UInt32) : PaintFrame :=
  ⟨view, frame view.width view.height tick⟩

/-- What one of those who share a mailbox did, and what it was told. -/
inductive Move
  /-- The painter looked at the clock and asked for another size if that was due. -/
  | checked (elapsed : TimeSpan) (asked : Option Extent)
      (result : Except Fault (Except PaintRefusal Unit))
  /-- The painter read the view. -/
  | measured (view : Extent)
  /-- The painter painted at the view that it had read, and posted the paint. -/
  | painted (view : Extent) (tick : UInt32) (result : Except Fault (Except PaintRefusal Unit))
  /-- The frame loop took what waits. -/
  | taken (paint : Option PaintFrame)
  /-- Somebody else did something. -/
  | foreign (deed : Deed)

namespace Move

/-- What the move means to the mailbox. -/
def deed? : Move → Option Deed
  | checked _ (some view) (.ok result) => some (.resized view result)
  | checked _ _ _ => none
  | measured view => some (.measured view)
  | painted view tick (.ok result) => some (.posted (Pattern.paint view tick) result)
  | painted _ _ (.error _) => none
  | taken paint => some (.collected paint)
  | foreign deed => some deed

/-- What a history means to the mailbox that the painter found at a view, latest first. -/
def deeds (found : Extent) (history : List Move) : List Deed :=
  history.filterMap deed? ++ [.created found]

/-- What the painter asked for was done. -/
def Succeeds : Move → Prop
  | checked _ _ result | painted _ _ result => result = .ok (.ok ())
  | _ => True

/-- Somebody else uses the mailbox. -/
def IsForeign : Move → Prop
  | foreign _ => True
  | _ => False

/-- The painter paints. -/
def IsPainted : Move → Bool
  | painted _ _ _ => true
  | _ => false

/-- A paint was taken. -/
def TakesPaint : Move → Bool
  | taken paint => paint.isSome
  | _ => false

private theorem eq_taken (move : Move) (takes : move.TakesPaint = true) :
    ∃ paint, move = taken (some paint) := by
  cases move with
  | taken paint =>
    obtain ⟨paint, rfl⟩ := Option.isSome_iff_exists.mp takes
    exact ⟨paint, rfl⟩
  | _ => exact absurd takes Bool.false_ne_true

/-- The painter found the second of its sizes to be due. -/
def FindsSecondDue (plan : PainterPlan) : Move → Bool
  | checked elapsed _ _ => plan.secondDue elapsed
  | _ => false

end Move

/-! ## What a history says -/

/-- The number of paints made. -/
def paintsMade (history : List Move) : Nat := history.countP Move.IsPainted

private theorem paintsMade_pass {move : Move} {history : List Move}
    (idle : move.IsPainted = false) : paintsMade (move :: history) = paintsMade history :=
  List.countP_cons_of_neg (by simp [idle])

private theorem paintsMade_painted {view : Extent} {tick : UInt32}
    {result : Except Fault (Except PaintRefusal Unit)} {history : List Move} :
    paintsMade (.painted view tick result :: history) = paintsMade history + 1 :=
  List.countP_cons_of_pos rfl

/-- The view that the painter paints at: before its first change of sizes the one that it found,
and afterwards the one due when it last looked at the clock. -/
def viewInUse (plan : PainterPlan) (found : Extent) : List Move → Extent
  | [] => found
  | .checked elapsed asked result :: earlier =>
    if (Move.checked elapsed asked result :: earlier).any (Move.FindsSecondDue plan) then
      plan.sizeDue elapsed
    else found
  | _ :: earlier => viewInUse plan found earlier

/-- What the next paint has to look like: its tick is the number of paints made before it, as far as
32 bits can count. -/
def nextPaint (plan : PainterPlan) (found : Extent) (history : List Move) : PaintFrame :=
  Pattern.paint (viewInUse plan found history) (.ofNat (paintsMade history))

/-- Which paints the frame loop took, counted from one, the last one first. -/
def paintsTaken : List Move → List Nat
  | [] => []
  | move :: earlier =>
    if move.TakesPaint then paintsMade earlier :: paintsTaken earlier else paintsTaken earlier

private theorem paintsMade_mono (later earlier : List Move) :
    paintsMade earlier ≤ paintsMade (later ++ earlier) := by
  rw [paintsMade, paintsMade, List.countP_append]
  omega

/-- No paint is taken before it is made. -/
theorem paintsTaken_le {history : List Move} :
    ∀ n ∈ paintsTaken history, n ≤ paintsMade history := by
  induction history with
  | nil => exact List.forall_mem_nil _
  | cons move earlier ih =>
    have grows := paintsMade_mono [move] earlier
    have old : ∀ n ∈ paintsTaken earlier, n ≤ paintsMade (move :: earlier) :=
      fun n mem => Nat.le_trans (ih n mem) grows
    rw [paintsTaken]
    split
    · exact List.forall_mem_cons.mpr ⟨grows, old⟩
    · exact old

private theorem paintsTaken_append {between before : List Move}
    (leaves : ∀ move ∈ between, move.TakesPaint = false) :
    paintsTaken (between ++ before) = paintsTaken before := by
  induction between with
  | nil => rfl
  | cons move between ih =>
    obtain ⟨here, leaves⟩ := List.forall_mem_cons.mp leaves
    rw [List.cons_append, paintsTaken, if_neg (by simp [here]), ih leaves]

/-! ## A shared mailbox -/

/-- How far the painter is in a round. -/
inductive RoundStage
  | starting
  | sized
  | measured (view : Extent)

/-- A mailbox and the painter that posts into it. -/
structure Workshop where
  box : PaintMailbox
  painter : Painter := {}
  stage : RoundStage := .starting

/-- The size that a painter asks for, if another one than before is due. -/
def Painter.asks? (plan : PainterPlan) (elapsed : TimeSpan) (p : Painter) : Option Extent :=
  if plan.secondDue elapsed = p.onSecond then none else some (plan.sizeDue elapsed)

/-- Bytes of the view can be counted and allocated. -/
def Extent.Roomy (view : Extent) : Prop :=
  ∃ length, PaintMailbox.viewBytes? view = some length ∧ length ≤ PaintMailbox.maxBuffer

/-- Nothing is posted that could not have been allocated. -/
def Deed.Modest : Deed → Prop
  | posted paint _ => paint.bytes.size ≤ PaintMailbox.maxBuffer
  | _ => True

namespace Workshop

/-- One of those who share the mailbox makes a move. -/
inductive Next (plan : PainterPlan) (w : Workshop) : Move → Workshop → Prop
  | checked (elapsed : TimeSpan) (starts : w.stage = .starting) :
      Next plan w
        (.checked elapsed (w.painter.asks? plan elapsed) (w.painter.switch plan elapsed w.box).1)
        ⟨(w.painter.switch plan elapsed w.box).2.2, (w.painter.switch plan elapsed w.box).2.1,
          .sized⟩
  | measured (checked : w.stage = .sized) :
      Next plan w (.measured w.box.view) { w with stage := .measured w.box.view }
  | painted {view : Extent} (measured : w.stage = .measured view) :
      Next plan w (.painted view w.painter.tick (w.painter.paint view w.box).1)
        ⟨(w.painter.paint view w.box).2.2, (w.painter.paint view w.box).2.1, .starting⟩
  | taken : Next plan w (.taken w.box.collect.1) { w with box := w.box.collect.2 }
  | foreign {deed : Deed} {after : PaintMailbox} (does : w.box.Does deed after)
      (modest : deed.Modest) : Next plan w (.foreign deed) { w with box := after }

/-- Moves are made one after the other; the history is listed latest first. -/
inductive Plays (plan : PainterPlan) (box : PaintMailbox) : List Move → Workshop → Prop
  | opens : Plays plan box [] { box }
  | goesOn {history : List Move} {w after : Workshop} {move : Move}
      (played : Plays plan box history w) (next : w.Next plan move after) :
      Plays plan box (move :: history) after

end Workshop

/-! ## Nothing is refused -/

section Accepted

variable {plan : PainterPlan} {found view : Extent} {box after : PaintMailbox} {deed : Deed}
  {elapsed : TimeSpan} {p : Painter} {w next : Workshop} {move : Move} {history : List Move}

private theorem PaintMailbox.resize_of_roomy (box : PaintMailbox) (roomy : view.Roomy) :
    ∃ length, box.resize view = (.ok (.ok ()), ⟨view, Bytes.constant length 0, false⟩) := by
  obtain ⟨length, sized, fits⟩ := roomy
  exact ⟨length, by simp [resize, sized, fits]⟩

private theorem PaintMailbox.roomy_of_create (created : create view = .ok (.ok box)) :
    box.view.Roomy := by
  obtain ⟨length, sized, rfl⟩ := create_cases created
  refine ⟨length, sized, Decidable.byContradiction fun large => ?_⟩
  simp [create, sized, large] at created

/-- Whatever a modest holder does, there is room for what the mailbox holds. -/
theorem PaintMailbox.Does.roomy (does : box.Does deed after) (modest : deed.Modest)
    (roomy : box.view.Roomy) : after.view.Roomy := by
  cases does with
  | resized view allocated =>
    obtain ⟨_, -, same⟩ | ⟨length, sized, -, blank⟩ := resize_cases allocated
    · rw [same]
      exact roomy
    · rw [blank]
      refine ⟨length, sized, Decidable.byContradiction fun large => ?_⟩
      simp [resize, sized, large] at allocated
  | posted view bytes =>
    obtain ⟨_, refused⟩ | ⟨whole, stored⟩ := box.post_cases view bytes
    · rw [refused]
      exact roomy
    · rw [stored]
      exact ⟨_, whole, modest⟩
  | collected =>
    obtain ⟨-, collected⟩ | ⟨-, collected⟩ := box.collect_cases
    · rw [collected]
      exact roomy
    · rw [collected]
      exact roomy
  | measured => exact roomy
  | peeked => exact roomy

/-- A painter changes to the size that is due, or does nothing. -/
theorem Painter.switch_cases (p : Painter) (box : PaintMailbox)
    (roomy : (plan.sizeDue elapsed).Roomy) :
    (plan.secondDue elapsed = p.onSecond ∧ p.switch plan elapsed box = (.ok (.ok ()), p, box)) ∨
      plan.secondDue elapsed ≠ p.onSecond ∧ ∃ length, p.switch plan elapsed box =
        (.ok (.ok ()), { p with onSecond := plan.secondDue elapsed },
          ⟨plan.sizeDue elapsed, Bytes.constant length 0, false⟩) := by
  by_cases same : plan.secondDue elapsed = p.onSecond
  · exact .inl ⟨same, if_pos same⟩
  · obtain ⟨length, resized⟩ := box.resize_of_roomy roomy
    have flipped : plan.secondDue elapsed = !p.onSecond := Bool.eq_not.mpr same
    refine .inr ⟨same, length, ?_⟩
    rw [switch, if_neg same, resized, flipped]

/-- A frame of a view with room is accepted. -/
theorem PaintMailbox.post_of_roomy (box : PaintMailbox) (roomy : view.Roomy) (tick : UInt32) :
    box.post view (Pattern.paint view tick).bytes =
      (.ok (), ⟨view, (Pattern.paint view tick).bytes, true⟩) := by
  obtain ⟨length, sized, -⟩ := roomy
  obtain ⟨size, -⟩ := (byteLength?_eq_some_iff ..).mp (Option.filter_eq_some_iff.mp sized).1
  refine if_pos ?_
  rw [sized, size, Pattern.paint, Pattern.frame, Bytes.size_tabulate]

/-- What is painted at a view with room is accepted, whatever was painted before. -/
theorem Painter.paint_of_roomy (p : Painter) (box : PaintMailbox) (roomy : view.Roomy) :
    p.paint view box = (.ok (.ok ()),
      { p with tick := p.tick + 1, buffer := (Pattern.paint view p.tick).bytes },
      ⟨view, (Pattern.paint view p.tick).bytes, true⟩) := by
  have posted := box.post_of_roomy roomy p.tick
  obtain ⟨length, sized, fits⟩ := roomy
  obtain ⟨size, -⟩ := (byteLength?_eq_some_iff ..).mp (Option.filter_eq_some_iff.mp sized).1
  have painted : Pattern.repaint view.width view.height p.tick p.buffer =
      .ok (Pattern.paint view p.tick).bytes :=
    Pattern.repaint_of_fits (size ▸ fits) p.tick p.buffer
  rw [paint, painted]
  simp only [posted]

namespace Workshop

/-- There is room for the view, also for the one that the painter read. -/
structure Sound (w : Workshop) : Prop where
  view : w.box.view.Roomy
  measured : ∀ view, w.stage = .measured view → view.Roomy

private theorem roomy_sizeDue (first : plan.first.Roomy) (second : plan.second.Roomy)
    (elapsed : TimeSpan) : (plan.sizeDue elapsed).Roomy := by
  unfold PainterPlan.sizeDue
  split
  · exact second
  · exact first

private theorem Next.sound (first : plan.first.Roomy) (second : plan.second.Roomy) (sound : w.Sound)
    (step : w.Next plan move next) : move.Succeeds ∧ next.Sound := by
  cases step with
  | checked elapsed starts =>
    have roomy := roomy_sizeDue first second elapsed
    obtain ⟨-, same⟩ | ⟨-, length, changed⟩ := w.painter.switch_cases w.box roomy
    · rw [same]
      exact ⟨rfl, sound.view, nofun⟩
    · rw [changed]
      exact ⟨rfl, roomy, nofun⟩
  | measured checked =>
    refine ⟨trivial, sound.view, ?_⟩
    rintro _ ⟨⟩
    exact sound.view
  | @painted view measured =>
    have roomy := sound.measured view measured
    rw [w.painter.paint_of_roomy w.box roomy]
    exact ⟨rfl, roomy, nofun⟩
  | taken =>
    have collects : w.box.Does (.collected w.box.collect.1) w.box.collect.2 := .collected
    have roomy := collects.roomy trivial sound.view
    exact ⟨trivial, roomy, sound.measured⟩
  | foreign does modest => exact ⟨trivial, does.roomy modest sound.view, sound.measured⟩

private theorem Plays.sound (created : PaintMailbox.create found = .ok (.ok box))
    (first : plan.first.Roomy) (second : plan.second.Roomy) (plays : Plays plan box history w) :
    (∀ move ∈ history, move.Succeeds) ∧ w.Sound := by
  induction plays with
  | opens => exact ⟨List.forall_mem_nil _, PaintMailbox.roomy_of_create created, nofun⟩
  | goesOn _ step ih =>
    obtain ⟨succeeds, sound⟩ := step.sound first second ih.2
    exact ⟨List.forall_mem_cons.mpr ⟨succeeds, ih.1⟩, sound⟩

/-- A move is a deed of one who holds the mailbox, or it leaves the mailbox alone. -/
theorem Next.does (first : plan.first.Roomy) (second : plan.second.Roomy) (sound : w.Sound)
    (step : w.Next plan move next) :
    (∃ deed, move.deed? = some deed ∧ w.box.Does deed next.box) ∨
      move.deed? = none ∧ next.box = w.box := by
  cases step with
  | checked elapsed starts =>
    by_cases same : plan.secondDue elapsed = w.painter.onSecond
    · rw [Painter.asks?, if_pos same, Painter.switch, if_pos same]
      exact .inr ⟨rfl, rfl⟩
    · obtain ⟨length, resized⟩ := w.box.resize_of_roomy (roomy_sizeDue first second elapsed)
      have does : w.box.Does (.resized (plan.sizeDue elapsed) (.ok ()))
          (w.box.resize (plan.sizeDue elapsed)).2 := .resized _ (by rw [resized])
      rw [Painter.asks?, if_neg same, Painter.switch, if_neg same, resized]
      rw [resized] at does
      exact .inl ⟨_, rfl, does⟩
  | measured checked => exact .inl ⟨_, rfl, .measured⟩
  | @painted view measured =>
    have roomy := sound.measured view measured
    have does : w.box.Does
        (.posted (Pattern.paint view w.painter.tick)
          (w.box.post view (Pattern.paint view w.painter.tick).bytes).1)
        (w.box.post view (Pattern.paint view w.painter.tick).bytes).2 := .posted ..
    rw [w.box.post_of_roomy roomy] at does
    rw [w.painter.paint_of_roomy w.box roomy]
    exact .inl ⟨_, rfl, does⟩
  | taken => exact .inl ⟨_, rfl, .collected⟩
  | foreign does modest => exact .inl ⟨_, rfl, does⟩

/-- The moves of a history are a history of the mailbox, which all who make them hold. -/
theorem Plays.holders (created : PaintMailbox.create found = .ok (.ok box))
    (first : plan.first.Roomy) (second : plan.second.Roomy) (plays : Plays plan box history w) :
    MailboxHolders.Plays ((Move.deeds found history).map (0, ·)) ⟨#[w.box], #[0]⟩ := by
  induction plays with
  | opens => exact .goesOn .opens (.created created)
  | goesOn played step ih =>
    obtain ⟨deed, means, does⟩ | ⟨means, same⟩ :=
      step.does first second (played.sound created first second).2
    · rw [Move.deeds, List.filterMap_cons_some means]
      exact .goesOn ih (.does 0 rfl rfl does)
    · rw [Move.deeds, List.filterMap_cons_none means, same]
      exact ih

/-- To the frame loop the mailbox is a register of the last paint, whoever posted it. -/
theorem Plays.registers (created : PaintMailbox.create found = .ok (.ok box))
    (first : plan.first.Roomy) (second : plan.second.Roomy) (plays : Plays plan box history w) :
    w.box.Registers (Move.deeds found history) := by
  have recalls := MailboxHolders.recalls_of_plays (plays.holders created first second)
  have kept := recalls.boxes 0 w.box rfl
  rw [MailboxHolders.about_map] at kept
  exact kept.registers

/-- Every part of a play was played. -/
theorem Plays.split {later earlier : List Move}
    (plays : Plays plan box (later ++ move :: earlier) w) :
    ∃ u v, Plays plan box earlier u ∧ u.Next plan move v := by
  induction later generalizing w with
  | nil =>
    cases plays with
    | goesOn played step => exact ⟨_, _, played, step⟩
  | cons last later ih =>
    cases plays with
    | goesOn played step => exact ih played

/-! ## What is taken -/

/-- The history tells where the painter is, as long as nobody else writes. -/
structure Follows (plan : PainterPlan) (found : Extent) (history : List Move) (w : Workshop) :
    Prop where
  tick : w.painter.tick = .ofNat (paintsMade history)
  view : w.box.view = viewInUse plan found history
  /-- The view in use is the one that the painter last asked for, once it has asked. -/
  inUse : viewInUse plan found history =
    if history.any (Move.FindsSecondDue plan) then
      if w.painter.onSecond then plan.second else plan.first
    else found
  second : w.painter.onSecond = true → history.any (Move.FindsSecondDue plan) = true
  measured : ∀ view, w.stage = .measured view → view = viewInUse plan found history

/-- What waits is the last paint made, and it was not taken yet. -/
def Waits (history : List Move) (w : Workshop) : Prop :=
  w.box.fresh = true → ∃ between before view tick,
    history = between ++ .painted view tick (.ok (.ok ())) :: before ∧
      (∀ move ∈ between, move.IsPainted = false ∧ move.TakesPaint = false) ∧
        (⟨w.box.view, w.box.buffer⟩ : PaintFrame) = Pattern.paint view tick

/-- A move that neither paints nor takes anything leaves what waits. -/
theorem Waits.pass (waits : w.Waits history) (idle : move.IsPainted = false)
    (leaves : move.TakesPaint = false) (same : next.box = w.box) :
    next.Waits (move :: history) := by
  intro fresh
  rw [same] at fresh ⊢
  obtain ⟨between, before, view, tick, rfl, kept, shown⟩ := waits fresh
  exact ⟨move :: between, before, view, tick, rfl,
    List.forall_mem_cons.mpr ⟨⟨idle, leaves⟩, kept⟩, shown⟩

private theorem Next.waits (first : plan.first.Roomy) (second : plan.second.Roomy) (sound : w.Sound)
    (step : w.Next plan move next) (alone : ¬move.IsForeign) (waits : w.Waits history) :
    next.Waits (move :: history) := by
  cases step with
  | checked elapsed starts =>
    obtain ⟨-, same⟩ | ⟨-, length, changed⟩ :=
      w.painter.switch_cases w.box (roomy_sizeDue first second elapsed)
    · exact waits.pass rfl rfl (by rw [same])
    · rw [changed]
      exact nofun
  | measured checked => exact waits.pass rfl rfl rfl
  | @painted view measured =>
    rw [w.painter.paint_of_roomy w.box (sound.measured view measured)]
    exact fun _ => ⟨[], history, view, w.painter.tick, rfl, List.forall_mem_nil _, rfl⟩
  | taken =>
    obtain ⟨-, collected⟩ | ⟨-, collected⟩ := w.box.collect_cases
    · rw [collected]
      exact waits.pass rfl rfl rfl
    · rw [collected]
      exact nofun
  | foreign does modest => exact absurd trivial alone

private theorem asks_of_switch (follows : w.Follows plan found history)
    (other : plan.secondDue elapsed ≠ w.painter.onSecond) :
    (plan.secondDue elapsed || history.any (Move.FindsSecondDue plan)) = true := by
  cases asked : w.painter.onSecond with
  | false => simp [Bool.eq_not.mpr other, asked]
  | true => rw [follows.second asked, Bool.or_true]

private theorem asks_of_stay (follows : w.Follows plan found history)
    (same : plan.secondDue elapsed = w.painter.onSecond) :
    (plan.secondDue elapsed || history.any (Move.FindsSecondDue plan)) =
      history.any (Move.FindsSecondDue plan) := by
  cases asked : w.painter.onSecond with
  | false => rw [same, asked, Bool.false_or]
  | true => rw [follows.second asked, Bool.or_true]

/-- The painter counts the paints that it makes. -/
theorem Next.tick (first : plan.first.Roomy) (second : plan.second.Roomy) (sound : w.Sound)
    (step : w.Next plan move next) :
    next.painter.tick = if move.IsPainted then w.painter.tick + 1 else w.painter.tick := by
  cases step with
  | checked elapsed starts =>
    obtain ⟨-, kept⟩ | ⟨-, length, changed⟩ :=
      w.painter.switch_cases w.box (roomy_sizeDue first second elapsed)
    · rw [kept]
      rfl
    · rw [changed]
      rfl
  | measured checked => rfl
  | @painted view measured =>
    rw [w.painter.paint_of_roomy w.box (sound.measured view measured)]
    rfl
  | taken => rfl
  | foreign does modest => rfl

private theorem Next.follows (first : plan.first.Roomy) (second : plan.second.Roomy)
    (sound : w.Sound) (step : w.Next plan move next) (alone : ¬move.IsForeign)
    (follows : w.Follows plan found history) : next.Follows plan found (move :: history) := by
  have tick : next.painter.tick = .ofNat (paintsMade (move :: history)) := by
    rw [step.tick first second sound, follows.tick]
    cases painted : move.IsPainted with
    | false => rw [paintsMade_pass painted, if_neg Bool.false_ne_true]
    | true => simp [paintsMade, painted]
  cases step with
  | checked elapsed starts =>
    refine ⟨tick, ?_, ?_, ?_, nofun⟩
    all_goals obtain ⟨same, kept⟩ | ⟨other, length, changed⟩ :=
      w.painter.switch_cases w.box (roomy_sizeDue first second elapsed)
    · rw [kept, follows.view, follows.inUse, viewInUse, List.any_cons, Move.FindsSecondDue,
        asks_of_stay follows same, PainterPlan.sizeDue, same]
    · rw [changed, viewInUse, List.any_cons, Move.FindsSecondDue, asks_of_switch follows other,
        if_pos rfl]
    · rw [kept, viewInUse, List.any_cons, Move.FindsSecondDue, asks_of_stay follows same,
        PainterPlan.sizeDue, same]
    · rw [changed, viewInUse, List.any_cons, Move.FindsSecondDue, asks_of_switch follows other]
      rfl
    · rw [kept]
      intro onSecond
      rw [List.any_cons, follows.second onSecond, Bool.or_true]
    · rw [List.any_cons, Move.FindsSecondDue, asks_of_switch follows other]
      exact fun _ => rfl
  | measured checked =>
    refine ⟨tick, follows.view, follows.inUse, follows.second, ?_⟩
    rintro _ ⟨⟩
    exact follows.view
  | @painted view measured =>
    have accepted := w.painter.paint_of_roomy w.box (sound.measured view measured)
    refine ⟨tick, ?_, ?_, ?_, nofun⟩
    · rw [accepted]
      exact follows.measured view measured
    · rw [accepted]
      exact follows.inUse
    · rw [accepted]
      exact follows.second
  | taken =>
    have view : w.box.collect.2.view = w.box.view := by
      obtain ⟨-, collected⟩ | ⟨-, collected⟩ := w.box.collect_cases
      · rw [collected]
      · rw [collected]
    exact ⟨tick, view.trans follows.view, follows.inUse, follows.second, follows.measured⟩
  | foreign does modest => exact absurd trivial alone

/-- While nobody else interferes, the workshop follows its plan. -/
theorem Plays.follows (created : PaintMailbox.create found = .ok (.ok box))
    (first : plan.first.Roomy) (second : plan.second.Roomy) (plays : Plays plan box history w)
    (alone : ∀ move ∈ history, ¬move.IsForeign) :
    w.Follows plan found history ∧ w.Waits history := by
  induction plays with
  | opens =>
    obtain ⟨length, -, rfl⟩ := PaintMailbox.create_cases created
    exact ⟨⟨rfl, rfl, rfl, nofun, nofun⟩, nofun⟩
  | goesOn played step ih =>
    obtain ⟨alone, before⟩ := List.forall_mem_cons.mp alone
    obtain ⟨follows, waits⟩ := ih before
    have sound := (played.sound created first second).2
    exact ⟨step.follows first second sound alone follows, step.waits first second sound alone waits⟩

-- What is taken is the last paint made, and it was not taken before.
private theorem Plays.takes (created : PaintMailbox.create found = .ok (.ok box))
    (first : plan.first.Roomy) (second : plan.second.Roomy) {paint : PaintFrame}
    {earlier : List Move} (plays : Plays plan box earlier w) (step : w.Next plan move next)
    (takes : move = .taken (some paint)) (alone : ∀ move ∈ earlier, ¬move.IsForeign) :
    ∃ between before view tick,
      earlier = between ++ .painted view tick (.ok (.ok ())) :: before ∧
        (∀ move ∈ between, move.IsPainted = false ∧ move.TakesPaint = false) ∧
          paint = nextPaint plan found before := by
  cases step with
  | taken =>
    have took : w.box.collect.1 = some paint := Move.taken.inj takes
    obtain ⟨-, collected⟩ | ⟨fresh, collected⟩ := w.box.collect_cases
    · rw [collected] at took
      exact nomatch took
    rw [collected] at took
    obtain ⟨between, before, view, tick, rfl, kept, shown⟩ :=
      (plays.follows created first second alone).2 fresh
    refine ⟨between, before, view, tick, rfl, kept, ?_⟩
    -- The paint was made when only the moves before it were known.
    obtain ⟨u, v, played, painted⟩ := plays.split
    have before_alone : ∀ move ∈ before, ¬move.IsForeign := fun move mem =>
      alone move (List.mem_append_right _ (List.mem_cons_of_mem _ mem))
    have follows := (played.follows created first second before_alone).1
    have looks : Pattern.paint view tick = nextPaint plan found before := by
      generalize made : Move.painted view tick (.ok (.ok ())) = move at painted
      cases painted with
      | painted measured =>
        obtain ⟨rfl, rfl, -⟩ := Move.painted.inj made
        rw [nextPaint, follows.measured view measured, follows.tick]
      | _ => exact nomatch made
    exact (Option.some.inj took).symm.trans (shown.trans looks)
  | _ => exact nomatch takes

/-- However the moves of a painter, of a frame loop and of others fall: nothing that the painter
asks of the mailbox is refused, and no fault is met. As long as nobody else writes, whatever the
frame loop takes is the last paint made, was not taken before, and looks as the moves before it
was made say; so later and later paints are taken. -/
theorem paints_reach_loop (created : PaintMailbox.create found = .ok (.ok box))
    (first : plan.first.Roomy) (second : plan.second.Roomy) (plays : Plays plan box history w) :
    (∀ move ∈ history, move.Succeeds) ∧
    ((∀ move ∈ history, ¬move.IsForeign) →
      (∀ later paint earlier, history = later ++ .taken (some paint) :: earlier →
        ∃ between before view tick,
          earlier = between ++ .painted view tick (.ok (.ok ())) :: before ∧
            (∀ move ∈ between, move.IsPainted = false ∧ move.TakesPaint = false) ∧
              paint = nextPaint plan found before) ∧
      (paintsTaken history).Pairwise (· > ·)) := by
  refine ⟨(plays.sound created first second).1, fun alone => ⟨?_, ?_⟩⟩
  · rintro later paint earlier rfl
    obtain ⟨u, v, played, took⟩ := plays.split
    exact played.takes created first second took rfl fun move mem =>
      alone move (List.mem_append_right _ (List.mem_cons_of_mem _ mem))
  · induction plays with
    | opens => exact List.Pairwise.nil
    | @goesOn history u next move played step ih =>
      have earlier := (List.forall_mem_cons.mp alone).2
      rw [paintsTaken]
      split
      · next takes =>
        refine List.pairwise_cons.mpr ⟨?_, ih earlier⟩
        obtain ⟨paint, rfl⟩ := move.eq_taken takes
        obtain ⟨between, before, view, tick, rfl, kept, -⟩ :=
          played.takes created first second step rfl earlier
        intro n mem
        rw [paintsTaken_append fun move mem => (kept move mem).2] at mem
        have made : n ≤ paintsMade before := paintsTaken_le n mem
        have grows := paintsMade_mono between (.painted view tick (.ok (.ok ())) :: before)
        rw [paintsMade_painted] at grows
        exact Nat.lt_of_le_of_lt made grows
      · exact ih earlier

/-! ## A change of sizes -/

/-- A painter that changes its size every millisecond. -/
def hastyPlan : PainterPlan where
  first := ⟨2, 1⟩
  second := ⟨1, 1⟩
  keep := ⟨0, 1000000⟩

/-- A blank mailbox of one pixel. -/
def blankBox : PaintMailbox := ⟨⟨1, 1⟩, Bytes.constant 4 0, false⟩

/-- A paint is taken, another one is dropped when the second size falls due, and the first paint at
the first size is taken as well. -/
def hastyMoves : List Move :=
  [.taken (some (Pattern.paint ⟨2, 1⟩ 2)), .painted ⟨2, 1⟩ 2 (.ok (.ok ())), .measured ⟨2, 1⟩,
    .taken none, .checked ⟨0, 2000000⟩ (some ⟨2, 1⟩) (.ok (.ok ())),
    .painted ⟨1, 1⟩ 1 (.ok (.ok ())), .measured ⟨1, 1⟩,
    .checked ⟨0, 1000000⟩ (some ⟨1, 1⟩) (.ok (.ok ())),
    .taken (some (Pattern.paint ⟨1, 1⟩ 0)), .painted ⟨1, 1⟩ 0 (.ok (.ok ())),
    .measured ⟨1, 1⟩, .checked ⟨0, 0⟩ none (.ok (.ok ()))]

/-- The mailbox and the painter after that. -/
def hastyEnd : Workshop :=
  ⟨⟨⟨2, 1⟩, ByteArray.empty, false⟩, ⟨3, false, (Pattern.paint ⟨2, 1⟩ 2).bytes⟩, .starting⟩

private theorem next_stays {elapsed : TimeSpan} (starts : w.stage = .starting)
    (same : plan.secondDue elapsed = w.painter.onSecond) :
    w.Next plan (.checked elapsed none (.ok (.ok ()))) { w with stage := .sized } := by
  have step : w.Next plan _ _ := .checked elapsed starts
  rwa [Painter.asks?, if_pos same, Painter.switch, if_pos same] at step

private theorem next_switches {elapsed : TimeSpan} (starts : w.stage = .starting)
    (other : plan.secondDue elapsed ≠ w.painter.onSecond) (due : plan.sizeDue elapsed = view)
    (resized : w.box.resize view = (.ok (.ok ()), after)) :
    w.Next plan (.checked elapsed (some view) (.ok (.ok ())))
      ⟨after, { w.painter with onSecond := !w.painter.onSecond }, .sized⟩ := by
  have step : w.Next plan _ _ := .checked elapsed starts
  rwa [Painter.asks?, if_neg other, Painter.switch, if_neg other, due, resized] at step

private theorem plays_hastyMoves : Plays hastyPlan blankBox hastyMoves hastyEnd := by
  have start : Plays hastyPlan blankBox (hastyMoves.drop 12) { box := blankBox } := .opens
  have taken : Plays hastyPlan blankBox (hastyMoves.drop 8)
      ⟨⟨⟨1, 1⟩, ByteArray.empty, false⟩, ⟨1, false, (Pattern.paint ⟨1, 1⟩ 0).bytes⟩, .starting⟩ :=
    .goesOn (.goesOn (.goesOn (.goesOn start (next_stays rfl (by decide +kernel)))
      (.measured rfl)) (.painted rfl)) .taken
  have painted : Plays hastyPlan blankBox (hastyMoves.drop 5)
      ⟨⟨⟨1, 1⟩, (Pattern.paint ⟨1, 1⟩ 1).bytes, true⟩,
        ⟨2, true, (Pattern.paint ⟨1, 1⟩ 1).bytes⟩, .starting⟩ :=
    .goesOn (.goesOn (.goesOn taken (next_switches rfl (by decide +kernel) (by decide +kernel) rfl))
      (.measured rfl)) (.painted rfl)
  have dropped : Plays hastyPlan blankBox (hastyMoves.drop 4)
      ⟨⟨⟨2, 1⟩, Bytes.constant 8 0, false⟩, ⟨2, false, (Pattern.paint ⟨1, 1⟩ 1).bytes⟩, .sized⟩ :=
    .goesOn painted (next_switches rfl (by decide +kernel) (by decide +kernel) rfl)
  exact .goesOn (.goesOn (.goesOn (.goesOn dropped .taken) (.measured rfl)) (.painted rfl)) .taken

/-- A loop that collects in between gets the first and the third paint. -/
theorem paints_reach_loop_hasty :
    (∀ move ∈ hastyMoves, move.Succeeds) ∧ paintsTaken hastyMoves = [3, 1] ∧
      Pattern.paint ⟨2, 1⟩ 2 = nextPaint hastyPlan ⟨1, 1⟩ (hastyMoves.drop 2) := by
  have created : PaintMailbox.create ⟨1, 1⟩ = .ok (.ok blankBox) := rfl
  have first : hastyPlan.first.Roomy := ⟨8, by decide +kernel, by decide +kernel⟩
  have second : hastyPlan.second.Roomy := ⟨4, by decide +kernel, by decide +kernel⟩
  obtain ⟨succeeds, reached⟩ := paints_reach_loop created first second plays_hastyMoves
  have alone : ∀ move ∈ hastyMoves, ¬move.IsForeign := by
    simp [hastyMoves, Move.IsForeign]
  obtain ⟨between, before, view, tick, split, kept, shown⟩ := (reached alone).1 [] _ _ rfl
  refine ⟨succeeds, rfl, ?_⟩
  cases between with
  | nil =>
    obtain ⟨-, rfl⟩ := List.cons.inj split
    exact shown
  | cons move between =>
    obtain ⟨rfl, -⟩ := List.cons.inj split
    exact absurd (kept _ List.mem_cons_self).1 (by simp [Move.IsPainted])

end Workshop

end Accepted

end PaintPresenter
