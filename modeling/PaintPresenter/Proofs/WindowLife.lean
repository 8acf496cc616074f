import PaintPresenter.Proofs.Attested
import PaintPresenter.Proofs.Household

/-!
# The life of a window

A host leaves its household in order after every event: there is the window that the host knows of,
or there is nothing at all. `windows_outlive_objects` puts together what follows from that for the
runs of a host, whatever its application does, whatever fails, and however the loop ends.
-/

namespace PaintPresenter

open Desktop

variable {σ α : Type}

namespace Contract

open Host

/-! ## What a handler leaves behind -/

/-- The household is as its host knows it: a window is housed, or there is nothing. -/
def Housed : Option OpenWindow → Household → Prop
  | none, x => x.live = [] ∧ x.book.Settled
  | some w, x => Houses w.id x.opened w x

/-- A window that is open afterwards was open before, and none was opened in between. -/
def Stays (before : Option OpenWindow) (x : Household) (after : Option OpenWindow) (y : Household) :
    Prop :=
  ∀ w', after = some w' → ∃ w, before = some w ∧ w'.id = w.id ∧ y.opened = x.opened

section Handlers

variable {app : App σ} {h : Host σ} {x y : Household} {w w' : OpenWindow}

private theorem Stays.refl (before : Option OpenWindow) (x : Household) : Stays before x before x :=
  fun w here => ⟨w, here, rfl, rfl⟩

private theorem Stays.gone {before : Option OpenWindow} : Stays before x none y :=
  fun _ here => nomatch here

/-- A window that was housed still is. -/
theorem Houses.same (houses : Houses w.id x.opened w' y) :
    Housed (some w') y ∧ Stays (some w) x (some w') y := by
  obtain ⟨named, live, opened, attended⟩ := houses
  refine ⟨⟨rfl, named ▸ live, rfl, attended⟩, fun _ here => ⟨w, rfl, ?_, opened⟩⟩
  rw [← Option.some.inj here, named]

private theorem closeWindow_housed (housed : Housed h.window x) :
    household.Keeps (closeWindow h) x fun out y => out.2.window = none ∧ Housed none y := by
  obtain ⟨look, graphics, state, window, exitRequested, fatal⟩ := h
  rw [keeps_closeWindow]
  cases window with
  | none => exact ⟨rfl, housed⟩
  | some w => exact (houses_close housed).mono fun _ _ gone => ⟨rfl, gone⟩

private theorem leave_housed (housed : Housed h.window x) :
    household.Keeps (leave h) x fun out y =>
      Housed out.2.window y ∧ ∀ before z, Stays before z out.2.window y := by
  rw [keeps_leave]
  apply (closeWindow_housed housed).mono
  rintro ⟨_, after⟩ y ⟨gone, housed⟩
  rw [keeps_requestExit, keeps_exitLoop]
  refine ⟨trivial, ?_⟩
  rintro _ rfl
  obtain ⟨look, graphics, state, window, exitRequested, fatal⟩ := after
  obtain rfl : window = none := gone
  exact ⟨housed, fun _ _ => .gone⟩

private theorem resumed_housed (housed : Housed h.window x) :
    household.Keeps (resumed app h) x fun out y => Housed out.2.window y ∧
      (h.window = none ∨ Stays h.window x out.2.window y) := by
  obtain ⟨look, graphics, state, window, exitRequested, fatal⟩ := h
  rw [keeps_resumed]
  cases window with
  | some w => exact ⟨housed, .inr (.refl _ _)⟩
  | none =>
    refine (houses_create housed.1 housed.2 look graphics).mono (fun w y houses => ?_)
      fun e y gone => ?_
    · rw [keeps_onApp]
      refine keeps_onNoCalls fun out => ?_
      apply (houses_requestRedraw houses).mono
      rintro _ _ rfl
      by_cases leaves : out.1 = .exit
      · rw [if_pos leaves]
        exact Keeps.mono (leave_housed houses) fun _ _ left => ⟨left.1, .inl rfl⟩
      · rw [if_neg leaves]
        exact ⟨houses, .inl rfl⟩
    -- The window went with the attempt, so that giving up finds none to close.
    · rw [keeps_fail]
      exact Keeps.mono (leave_housed gone) fun _ _ left => ⟨left.1, .inl rfl⟩

private theorem aboutToWait_housed (housed : Housed h.window x) :
    household.Keeps (aboutToWait h) x fun out y => out.2 = h ∧ y = x := by
  rw [keeps_aboutToWait]
  by_cases asked : h.exitRequested = true
  · rw [if_pos asked, keeps_exitLoop]
    refine ⟨trivial, ?_⟩
    rintro _ rfl
    exact ⟨rfl, rfl⟩
  rw [if_neg asked, keeps_sleepUntilEvent]
  refine ⟨trivial, ?_⟩
  rintro _ rfl
  cases shown : h.window with
  | none => exact ⟨rfl, rfl⟩
  | some w =>
    rw [shown] at housed
    exact (houses_requestRedraw housed).mono fun _ _ same => ⟨rfl, same⟩

private theorem react_housed (id : WindowId) (event : WindowEvent) (housed : Housed h.window x) :
    household.Keeps (react app id event h) x fun out y =>
      Housed out.2.window y ∧ Stays h.window x out.2.window y := by
  obtain ⟨look, graphics, state, window, exitRequested, fatal⟩ := h
  have acted {action : OpenWindow.Action Unit}
      (houses : ∀ w, Houses w.id x.opened w x → household.Keeps (action w) x fun out y =>
        Houses w.id x.opened out.2 y) :
      household.Keeps (onWindow action ⟨look, graphics, state, window, exitRequested, fatal⟩) x
        fun out y => Housed out.2.window y ∧ Stays window x out.2.window y := by
    rw [keeps_onWindow]
    cases window with
    | none => exact ⟨housed, .refl _ _⟩
    | some w => exact (houses w housed).mono fun _ _ houses => houses.same
  cases event with
  | closeRequested => exact (leave_housed housed).mono fun _ _ left => ⟨left.1, left.2 _ x⟩
  | resized size => exact acted fun w houses => houses_resize houses size
  | scaleFactorChanged =>
    refine acted fun w houses => ?_
    rw [keeps_bind, keeps_windowSize]
    refine ⟨houses.live, ?_⟩
    rintro extent _ rfl
    exact houses_resize houses extent
  | redrawRequested =>
    rw [react, keeps_frame]
    cases window with
    | none => exact ⟨housed, .refl _ _⟩
    | some w =>
      apply (keeps_interpret_known (Houses w.id x.opened)
        (fun request _ _ houses => houses_answer houses request) housed).mono
      rintro ⟨⟨control, state⟩, w'⟩ y houses
      by_cases leaves : control = .exit
      · rw [if_pos leaves]
        exact (leave_housed houses.same.1).mono fun _ _ left => ⟨left.1, left.2 _ x⟩
      · rw [if_neg leaves]
        exact houses.same
  | _ => exact ⟨housed, .refl _ _⟩

private theorem windowEvent_housed (id : WindowId) (event : WindowEvent)
    (housed : Housed h.window x) :
    household.Keeps (windowEvent app id event h) x fun out y =>
      Housed out.2.window y ∧ Stays h.window x out.2.window y := by
  rw [keeps_windowEvent]
  by_cases asked : h.exitRequested = true
  · rw [if_pos asked, keeps_exitLoop]
    refine ⟨trivial, ?_⟩
    rintro _ rfl
    exact ⟨housed, .refl _ _⟩
  rw [if_neg asked]
  by_cases own : h.window.any (·.id = id) = true
  · rw [if_pos own, keeps_onApp]
    refine keeps_onNoCalls fun out => ?_
    have housed : Housed { h with app := out.2 }.window x := housed
    by_cases leaves : out.1 = .exit
    · rw [if_pos leaves]
      exact (leave_housed housed).mono fun _ _ left => ⟨left.1, left.2 _ x⟩
    · rw [if_neg leaves]
      exact react_housed id event housed
  · rw [if_neg own]
    exact ⟨housed, .refl _ _⟩

/-- Every handler leaves the household in order, and only `resumed` opens a window. -/
theorem handle_housed (event : LoopEvent) (housed : Housed h.window x) :
    household.Keeps (handle app event h) x fun out y => Housed out.2.window y ∧
      (event = .resumed ∧ h.window = none ∨ Stays h.window x out.2.window y) := by
  cases event with
  | resumed =>
    exact (resumed_housed housed).mono fun _ _ left =>
      ⟨left.1, left.2.imp_left fun shut => ⟨rfl, shut⟩⟩
  | aboutToWait =>
    apply (aboutToWait_housed housed).mono
    rintro ⟨_, _⟩ _ ⟨rfl, rfl⟩
    exact ⟨housed, .inr (.refl _ _)⟩
  | window id event =>
    exact (windowEvent_housed id event housed).mono fun _ _ left => ⟨left.1, .inr left.2⟩
  | exiting =>
    apply (closeWindow_housed housed).mono
    rintro ⟨_, after⟩ _ ⟨gone, housed⟩
    rw [gone]
    exact ⟨housed, .inr .gone⟩

private theorem handleAll_housed (events : List LoopEvent) (housed : Housed h.window x) :
    household.Keeps (events.forM (handle app) h) x fun out y => Housed out.2.window y := by
  induction events generalizing h x with
  | nil => exact housed
  | cons event later ih =>
    change household.Keeps (handle app event h >>= fun out => later.forM (handle app) out.2) x _
    rw [keeps_bind]
    exact (handle_housed event housed).mono fun out _ left => ih left.1

/-- Nothing is left of a run that starts with nothing. -/
theorem run_housed (events : List LoopEvent) (ended : Except String Unit)
    (shut : h.window = none) (empty : Housed none x) :
    household.Keeps (run app events ended h) x fun _ y => y.live = [] ∧ y.book.Settled := by
  have housed : Housed h.window x := shut ▸ empty
  unfold run
  rw [keeps_bind, keeps_openLoop]
  refine ⟨trivial, ?_, ?_⟩
  · rintro _ rfl
    rw [keeps_bind]
    apply (handleAll_housed _ housed).mono
    rintro ⟨_, h⟩ y housed
    unfold finish
    rw [keeps_bind]
    apply (closeWindow_housed housed).mono
    rintro ⟨_, _, _, _, _, _, fatal⟩ z ⟨-, gone⟩
    cases ended with
    | error cause => exact gone
    | ok _ => cases fatal <;> exact gone
  · rintro cause _ rfl
    exact empty

end Handlers

end Contract

namespace Desktop

open Contract Host

/-! ## The turns of a host -/

/-- What happened while a host handled an event. -/
structure Turn where
  event : LoopEvent
  before : Household
  /-- The callbacks that were called, latest first. -/
  told : List Callback
  /-- The window that the host has afterwards. -/
  window : Option OpenWindow
  after : Household

/-- The window of that name was made in this turn, as the last of those that were opened, and the
application was told about its renderer. -/
def Turn.Readies (made : Turn) (id : WindowId) (opened : List WindowId) : Prop :=
  made.before.live = [] ∧ made.after.live = [id] ∧ made.after.opened = opened ∧
    ∃ w, made.window = some w ∧ w.id = id ∧ made.told = [.rendererReady w.stack.report]

/-- A host handles one event after the other, from an empty household on. The latest turn is the
first of the list. -/
inductive Hosts (app : App σ) (start : Host σ) : List Turn → Host σ → Household → Prop
  | nothing : Hosts app start [] start {}
  | next {turns : List Turn} {h : Host σ} {x y : Household} {event : LoopEvent}
      {after : Host (σ × List Callback)} (earlier : Hosts app start turns h x)
      (handled : (handle app.attested event { h with app := (h.app, []) }).Ends
        household.toWorld x ((), after) y) :
      Hosts app start (⟨event, x, after.app.2, after.window, y⟩ :: turns) after.forget y

section Turns

variable {app : App σ} {start h : Host σ} {x y : Household} {turns : List Turn}

private theorem exists_turns {events : List LoopEvent} {after : Host σ}
    (hosts : Hosts app start turns h x)
    (ends : (events.forM (handle app) h).Ends household.toWorld x ((), after) y) :
    ∃ later, later.map Turn.event = events.reverse ∧ Hosts app start (later ++ turns) after y := by
  induction events generalizing h x turns with
  | nil =>
    cases ends with
    | done => exact ⟨[], rfl, hosts⟩
  | cons event events ih =>
    obtain ⟨⟨_, next⟩, u, handled, later⟩ := Program.Ends.of_bind ends
    -- What the application writes down comes with the same run.
    rw [show handle app event h = _ from
      (handle_forget event (h := { h with app := (h.app, []) })).symm] at handled
    obtain ⟨⟨_, attested⟩, v, handled, forgotten⟩ := Program.Ends.of_bind handled
    cases forgotten with
    | done =>
      obtain ⟨turns, events_eq, hosts⟩ := ih (hosts.next handled) later
      refine ⟨turns ++ [_], ?_, by rwa [List.append_assoc]⟩
      rw [List.map_append, events_eq, List.reverse_cons]
      rfl

/-- After every turn the household is in order, and the application knows the renderer. -/
theorem Hosts.housed (hosts : Hosts app start turns h x) (shut : start.window = none) :
    Housed h.window x ∧
      ∀ w, h.window = some w → ∃ made ∈ turns, made.Readies w.id x.opened := by
  induction hosts with
  | nothing =>
    rw [shut]
    exact ⟨⟨rfl, Vulkan.holds_empty.settled⟩, fun _ here => nomatch here⟩
  | @next turns h x y event after _ handled ih =>
    obtain ⟨housed, ready⟩ := ih
    obtain ⟨housed', opens⟩ :=
      (handle_housed event (h := { h with app := (h.app, []) }) housed).ends handled
    obtain ⟨told, added, tells⟩ := (handle_tells event).ends handled
    refine ⟨housed', fun w here => ?_⟩
    have here : after.window = some w := here
    -- The window was made in this turn, or it was there and an earlier turn has made it.
    obtain ⟨rfl, unopened⟩ | same := opens
    · obtain ⟨-, stays⟩ | ⟨-, report, rfl, reported⟩ := tells
      · exact absurd (here.symm.trans (stays unopened)) (by simp)
      · have empty : Housed none x := unopened ▸ housed
        have houses : Housed (some w) y := here ▸ housed'
        refine ⟨_, List.mem_cons_self, empty.1, houses.live, rfl, w, here, rfl, ?_⟩
        rw [reported w here]
        exact added
    · obtain ⟨w', was, named, opened⟩ := same w here
      obtain ⟨made, mem, readies⟩ := ready w' was
      rw [named, opened]
      exact ⟨made, List.mem_cons_of_mem _ mem, readies⟩

end Turns

/-- Whatever the application does, whatever fails, and however the loop ends: there is never more
than one window with one instance, a window is dropped when everything that was made for it has been
released, and in the end nothing is left. The application is told about a window only while it is
there, and only after it was told about its renderer. -/
theorem windows_outlive_objects (app : App σ) (state : σ) (look : WindowSettings)
    (graphics : GraphicsSettings) (events : List LoopEvent) (ended : Except String Unit) :
    let start : Host σ := { look, graphics, app := state }
    (∀ call x, (run app events ended start).Makes household.toWorld {} call x →
      x.Single ∧ x.Allows call) ∧
    (∀ result x, (run app events ended start).Ends household.toWorld {} result x →
      x.live = [] ∧ x.book.Settled) ∧
    (∀ h x, (events.forM (handle app) start).Ends household.toWorld {} ((), h) x →
      ∃ turns, turns.map Turn.event = events.reverse ∧ Hosts app start turns h x) ∧
    ∀ turn turns h x, Hosts app start (turn :: turns) h x →
      ∀ callback ∈ turn.told, ∀ id, callback.window? = some id →
        turn.before.live = [id] ∧ ∃ made ∈ turns, made.Readies id turn.before.opened := by
  intro start
  have kept : household.Keeps (run app events ended start) {} _ :=
    run_housed events ended rfl ⟨rfl, Vulkan.holds_empty.settled⟩
  refine ⟨fun call x makes => kept.single Household.single_empty makes,
    fun result x ends => kept.ends ends, fun h x ends => ?_, ?_⟩
  · obtain ⟨turns, events_eq, hosts⟩ := exists_turns .nothing ends
    exact ⟨turns, events_eq, by rwa [List.append_nil] at hosts⟩
  · intro turn turns h x hosts callback mem id names
    cases hosts with
    | @next _ h x _ event after earlier handled =>
      obtain ⟨housed, ready⟩ := earlier.housed rfl
      obtain ⟨told, added, tells⟩ := (handle_tells event).ends handled
      have told_eq : after.app.2 = told := added.trans (List.append_nil told)
      obtain ⟨w, shown, rfl⟩ := tells.window (told_eq ▸ mem) names
      have shown : h.window = some w := shown
      have houses : Housed (some w) x := shown ▸ housed
      exact ⟨houses.live, ready w shown⟩

/-! ## A window on a driver that runs out of room -/

/-- Opens windows, and lets the driver succeed until a number of objects has been made. -/
def Household.indulge (room : Nat) : (c : WorldCall) → Household → Except Fault c.Reply × Household
  | .driver call, x =>
    let (reply, book) := x.book.indulge room call
    (reply, { x with book })
  | .createWindow _ _, x =>
    let id : WindowId := ⟨x.opened.length + 1⟩
    if id ∈ x.live then (.error .overflow, x)
    else (.ok (.ok id), { x with live := id :: x.live, opened := id :: x.opened })
  | .dropWindow id, x => (.ok (), { x with live := x.live.erase id })
  | c, x => (.ok c.granted, x)

private theorem household_allows_indulge (room : Nat) :
    household.Allows (Household.indulge room) := by
  intro c x reply answered
  cases c with
  | driver call =>
    exact ⟨_, Vulkan.custody_allows_indulge room call x.book reply answered, rfl⟩
  | createWindow title size =>
    rw [Household.indulge] at answered ⊢
    by_cases taken : (⟨x.opened.length + 1⟩ : WindowId) ∈ x.live
    · rw [if_pos taken] at answered
      exact absurd answered (by simp)
    · rw [if_neg taken] at answered ⊢
      obtain rfl := Except.ok.inj answered
      exact ⟨taken, rfl⟩
  | _ =>
    obtain rfl := Except.ok.inj answered
    exact rfl

/-- An application that draws every frame. -/
def drawingApp : App Unit where
  onFrame _ s := do
    let (control, _) ← FrameContext.render fun _ => []
    return (control, s)

/-- A window is opened, a frame is drawn in it, and the loop breaks. -/
def brokenRun : Program.Run Household (Except HostError Unit) :=
  (run drawingApp [.resumed, .window ⟨1⟩ .redrawRequested] (.error "gone")
    { look := {}, graphics := {}, app := () }).run (Household.indulge 14) {}

/-- The first turn of that run. -/
def openedRun : Program.Run Household (Unit × Host (Unit × List Callback)) :=
  (handle drawingApp.attested .resumed { look := {}, graphics := {}, app := ((), []) }).run
    (Household.indulge 14) {}

/-- The second one. -/
def drawnRun (h : Host (Unit × List Callback)) :
    Program.Run Household (Unit × Host (Unit × List Callback)) :=
  (handle drawingApp.attested (.window ⟨1⟩ .redrawRequested) { h with app := (h.app.1, []) }).run
    (Household.indulge 14) openedRun.state

private theorem exists_drawn :
    ∃ h after, openedRun.result = .ok ((), h) ∧ (drawnRun h).result = .ok ((), after) ∧
      after.app.2 = [.frame ⟨1⟩, .windowEvent ⟨1⟩ .redrawRequested] := by
  have told : (openedRun.result.toOption.bind fun opened =>
      (drawnRun opened.2).result.toOption.map fun drawn => drawn.2.app.2) =
        some [.frame ⟨1⟩, .windowEvent ⟨1⟩ .redrawRequested] := by
    decide +kernel
  obtain ⟨⟨_, h⟩, opened, told⟩ := Option.bind_eq_some_iff.mp told
  obtain ⟨⟨_, after⟩, drawn, told⟩ := Option.map_eq_some_iff.mp told
  exact ⟨h, after, eq_ok_of_toOption opened, eq_ok_of_toOption drawn, told⟩

/-- There is room for the stack of a window and for nothing else. -/
theorem window_outlives_frame :
    (brokenRun.state.opened = [⟨1⟩] ∧ brokenRun.state.book.made.length = 14 ∧
      brokenRun.state.live = [] ∧ brokenRun.state.book.Settled) ∧
    ∃ (turn made : Turn), .frame ⟨1⟩ ∈ turn.told ∧ turn.before.live = [⟨1⟩] ∧
      made.Readies ⟨1⟩ turn.before.opened := by
  obtain ⟨-, left, -, told⟩ := windows_outlive_objects drawingApp () {} {}
    [.resumed, .window ⟨1⟩ .redrawRequested] (.error "gone")
  have allows := household_allows_indulge 14
  constructor
  · have ends : brokenRun.result.isOk = true := by decide +kernel
    have counts : (brokenRun.state.opened, brokenRun.state.book.made.length) = ([⟨1⟩], 14) := by
      decide +kernel
    obtain ⟨opened, made⟩ := Prod.mk.inj counts
    rcases broken : brokenRun.result with _ | result
    · rw [broken] at ends
      exact absurd ends Bool.false_ne_true
    · have ended := allows.ends broken
      exact ⟨opened, made, left result _ ended⟩
  · obtain ⟨h, after, opened, drawn, told_eq⟩ := exists_drawn
    have opens := allows.ends opened
    have draws := allows.ends drawn
    have before : Hosts drawingApp { look := {}, graphics := {}, app := () } [] _ {} := .nothing
    have first := before.next opens
    have second := first.next draws
    have mem : Callback.frame ⟨1⟩ ∈ after.app.2 := told_eq ▸ List.mem_cons_self
    obtain ⟨live, made, -, readies⟩ := told _ _ _ _ second _ mem ⟨1⟩ rfl
    exact ⟨_, made, mem, live, readies⟩

end Desktop

end PaintPresenter
