import PaintPresenter.Proofs.Attested
import PaintPresenter.Proofs.MadeKinds

/-!
# After the exit was asked for

A host asks the loop to end when it is told to close its window, when its application has had
enough, and when it gave up on a window. What it does from then on is left to three handlers: two
of them look at the host's note that the exit was asked for, and one does not.
-/

namespace PaintPresenter

variable {σ γ α : Type}

namespace Desktop

/-- The call opens something: a window, or an object of the driver. -/
def WorldCall.Opens : WorldCall → Prop
  | .createWindow _ _ => True
  | .driver (.create _) => True
  | _ => False

/-- The loop was asked to end. -/
def AskedToEnd (history : List (Exchange World γ)) : Prop := ∃ e ∈ history, e.call = .exitLoop

end Desktop

namespace Contract

open Desktop Host Vulkan

/-! ## Who asks -/

private def staying : Contract World Unit where
  step _ _ _ _ := True
  permits _ c := c ≠ .exitLoop

section Staying

variable {t : Unit}

private theorem staying_onDriver (p : Program Driver α) :
    staying.Keeps (World.onDriver p) t fun _ _ => True :=
  keeps_onDriver.mpr (keeps_iff.mpr ⟨fun _ _ _ => WorldCall.noConfusion, fun _ _ _ => trivial⟩)

private theorem staying_onRenderer (action : Renderer.Action SampledImage Recording α)
    (w : OpenWindow) : staying.Keeps (OpenWindow.onRenderer action w) t fun _ _ => True := by
  unfold OpenWindow.onRenderer
  rw [keeps_bind]
  exact (staying_onDriver _).mono fun _ _ _ => trivial

private theorem staying_close (w : OpenWindow) : staying.Keeps w.close t fun _ _ => True := by
  unfold OpenWindow.close
  simp only [keeps_bind, keeps_dropWindow]
  apply (staying_onRenderer _ w).mono
  intro out _ _
  exact (staying_onDriver _).mono fun _ _ _ => ⟨WorldCall.noConfusion, fun _ _ => trivial⟩

private theorem staying_create (look : WindowSettings) (graphics : GraphicsSettings) :
    staying.KeepsTask (OpenWindow.create look graphics) t (fun _ _ => True) fun _ _ => True := by
  rw [keepsTask_openWindow]
  refine ⟨WorldCall.noConfusion, fun id _ _ => ?_, fun _ _ _ => trivial⟩
  refine ⟨WorldCall.noConfusion, fun extent _ _ => ⟨WorldCall.noConfusion, fun handles t _ => ?_⟩⟩
  have dropped (t : Unit) : staying.Keeps (World.dropWindow id) t fun _ _ => True :=
    (keeps_dropWindow ..).mpr ⟨WorldCall.noConfusion, fun _ _ => trivial⟩
  apply keeps_onDriver.mp
  apply (staying_onDriver _).mono
  intro result t _
  cases result with
  | ok stack => exact trivial
  | error e => exact dropped t

private theorem staying_answer (request : FrameRequest) (w : OpenWindow) :
    staying.Keeps (OpenWindow.answer request w) t fun _ _ => True := by
  cases request with
  | uploadPaint =>
    rw [OpenWindow.answer, keeps_bind, keeps_collectPaint]
    exact ⟨WorldCall.noConfusion, fun _ _ _ => staying_onRenderer _ w⟩
  | render records =>
    rw [OpenWindow.answer, OpenWindow.render, keeps_bind]
    apply keeps_interpret_known (fun _ _ => True) _ trivial
    intro call easel t _
    cases call with
    | graphics call => exact staying_onDriver _
    | draw frame binding =>
      rw [keeps_answerLoop_draw, keeps_announcePresent]
      exact ⟨WorldCall.noConfusion, fun _ _ => trivial⟩
  | windowSize => exact ⟨WorldCall.noConfusion, fun _ _ _ => trivial⟩
  | beginFrame => exact staying_onRenderer _ w
  | shutdown => exact staying_onRenderer _ w

private theorem staying_resize (size : Extent) (w : OpenWindow) :
    staying.Keeps (OpenWindow.resize size w) t fun _ _ => True := by
  rw [keeps_windowResize]
  apply (staying_onRenderer _ w).mono
  intro out _ _
  rw [keeps_requestRedraw]
  exact ⟨WorldCall.noConfusion, fun _ _ => trivial⟩

end Staying

variable {W : Program.World World γ} {s : γ × List (Exchange World γ)} {app : App σ} {h : Host σ}

private theorem unasked_of_staying {p : Program World α} {post : α → Unit → Prop}
    (kept : staying.Keeps p () post) :
    (free W.recorded).Keeps p s fun _ t => AskedToEnd t.2 → AskedToEnd s.2 := by
  refine (kept.transfer (fun _ t => AskedToEnd t.2 → AskedToEnd s.2) ?_ id).mono
    fun _ _ ⟨_, same, _⟩ => same
  intro _ t c same other
  refine ⟨trivial, fun reply u step => ⟨(), trivial, ?_⟩⟩
  rintro ⟨e, mem, exits⟩
  rw [step.2] at mem
  obtain rfl | earlier := List.mem_cons.mp mem
  · exact absurd exits other
  · exact same ⟨e, earlier, exits⟩

-- The host has noted that the exit was asked for, or nobody asked for it just now.
private def Noted (h after : Host σ) (s t : γ × List (Exchange World γ)) : Prop :=
  after.exitRequested = true ∨
    (after.exitRequested = h.exitRequested ∧ (AskedToEnd t.2 → AskedToEnd s.2))

private theorem noted_same : Noted h h s s := .inr ⟨rfl, id⟩

private theorem leave_noted : (free W.recorded).Keeps (leave h) s fun out _ =>
    out.2.exitRequested = true := keeps_leave_free.mono fun _ _ left => left.2.2

private theorem unasked_requestRedraw (id : WindowId) :
    (free W.recorded).Keeps (World.requestRedraw id) s fun _ t => AskedToEnd t.2 → AskedToEnd s.2 :=
  have stays : staying.Keeps (World.requestRedraw id) () fun _ _ => True :=
    (keeps_requestRedraw ..).mpr ⟨WorldCall.noConfusion, fun _ _ => trivial⟩
  unasked_of_staying stays

private theorem resumed_noted :
    (free W.recorded).Keeps (resumed app h) s fun out t => Noted h out.2 s t := by
  rw [keeps_resumed]
  by_cases shown : h.window.isSome = true
  · rw [if_pos shown]
    exact noted_same
  rw [if_neg shown]
  apply Keeps.mono (unasked_of_staying (staying_create h.look h.graphics))
  intro result t created
  cases result with
  | error e =>
    change (free W.recorded).Keeps (fail e h) t _
    rw [keeps_fail]
    exact leave_noted.mono fun _ _ => .inl
  | ok w =>
    change (free W.recorded).Keeps (onApp _ h) t _
    rw [keeps_onApp]
    refine keeps_onNoCalls fun out => ?_
    apply (unasked_requestRedraw w.id).mono
    intro _ u redrawn
    by_cases leaves : out.1 = .exit
    · rw [if_pos leaves]
      exact leave_noted.mono fun _ _ => .inl
    · rw [if_neg leaves]
      exact .inr ⟨rfl, fun asked => created (redrawn asked)⟩

private theorem aboutToWait_noted :
    (free W.recorded).Keeps (aboutToWait h) s fun out t => Noted h out.2 s t := by
  rw [keeps_aboutToWait]
  by_cases asked : h.exitRequested = true
  · rw [if_pos asked]
    exact keeps_free fun _ _ => .inl asked
  rw [if_neg asked]
  have stays : staying.Keeps World.sleepUntilEvent () fun _ _ => True :=
    (keeps_sleepUntilEvent _).mpr ⟨WorldCall.noConfusion, fun _ _ => trivial⟩
  apply (unasked_of_staying stays).mono
  intro _ t slept
  cases h.window with
  | none => exact .inr ⟨rfl, slept⟩
  | some w =>
    apply (unasked_requestRedraw w.id).mono
    exact fun _ _ redrawn => .inr ⟨rfl, fun asked => slept (redrawn asked)⟩

private theorem react_noted (id : WindowId) (event : WindowEvent) :
    (free W.recorded).Keeps (react app id event h) s fun out t => Noted h out.2 s t := by
  have acted {action : OpenWindow.Action Unit}
      (stays : ∀ w, staying.Keeps (action w) () fun _ _ => True) :
      (free W.recorded).Keeps (onWindow action h) s fun out t => Noted h out.2 s t := by
    rw [keeps_onWindow]
    cases h.window with
    | none => exact noted_same
    | some w => exact (unasked_of_staying (stays w)).mono fun _ _ unasked => .inr ⟨rfl, unasked⟩
  cases event with
  | closeRequested => exact leave_noted.mono fun _ _ => .inl
  | resized size => exact acted (staying_resize size)
  | scaleFactorChanged =>
    refine acted fun w => ?_
    rw [keeps_bind]
    exact ⟨WorldCall.noConfusion, fun extent _ _ => staying_resize extent w⟩
  | redrawRequested =>
    rw [react, keeps_frame]
    cases h.window with
    | none => exact noted_same
    | some w =>
      have asks := keeps_interpret_known (p := app.onFrame id h.app) (s := ()) (x := w)
        (fun _ _ => True) (fun request w _ _ => staying_answer request w) trivial
      apply (unasked_of_staying asks).mono
      intro out t drawn
      by_cases leaves : out.1.1 = .exit
      · rw [if_pos leaves]
        exact leave_noted.mono fun _ _ => .inl
      · rw [if_neg leaves]
        exact .inr ⟨rfl, drawn⟩
  | _ => exact noted_same

private theorem windowEvent_noted (id : WindowId) (event : WindowEvent) :
    (free W.recorded).Keeps (windowEvent app id event h) s fun out t => Noted h out.2 s t := by
  rw [keeps_windowEvent]
  by_cases asked : h.exitRequested = true
  · rw [if_pos asked]
    exact keeps_free fun _ _ => .inl asked
  rw [if_neg asked]
  by_cases own : h.window.any (·.id = id) = true
  · rw [if_pos own, keeps_onApp]
    refine keeps_onNoCalls fun out => ?_
    by_cases leaves : out.1 = .exit
    · rw [if_pos leaves]
      exact leave_noted.mono fun _ _ => .inl
    · rw [if_neg leaves]
      exact react_noted id event
  · rw [if_neg own]
    exact noted_same

private theorem handle_noted (event : LoopEvent) :
    (free W.recorded).Keeps (handle app event h) s fun out t => Noted h out.2 s t := by
  cases event with
  | resumed => exact resumed_noted
  | aboutToWait => exact aboutToWait_noted
  | window id event => exact windowEvent_noted id event
  | exiting =>
    rw [handle, keeps_closeWindow]
    cases h.window with
    | none => exact noted_same
    | some w =>
      apply (unasked_of_staying (staying_close w)).mono
      exact fun _ _ unasked => .inr ⟨rfl, unasked⟩

private theorem handleAll_noted (events : List LoopEvent)
    (noted : AskedToEnd s.2 → h.exitRequested = true) :
    (free W.recorded).Keeps (events.forM (handle app) h) s
      fun out t => AskedToEnd t.2 → out.2.exitRequested = true := by
  induction events generalizing h s with
  | nil => exact noted
  | cons event later ih =>
    change (free W.recorded).Keeps (handle app event h >>= fun out =>
      later.forM (handle app) out.2) s _
    rw [keeps_bind]
    apply (handle_noted event).mono
    rintro out t (asked | ⟨same, unasked⟩)
    · exact ih fun _ => asked
    · exact ih fun asked => same.trans (noted (unasked asked))

/-! ## What is done after that -/

private def sealed (W : Program.World World γ) : Contract World γ where
  toWorld := W
  permits _ c := ¬c.Opens

section Sealed

variable {W : Program.World World γ} {s : γ}

private theorem sealed_onDriver {p : Program Driver α} {post : α → Unit → Prop}
    (made : (making fun _ => False).Keeps p () post) :
    (sealed W).driverPart.Keeps p s fun _ _ => True := by
  refine (keeps_of_making (fun _ => True) (fun _ c _ permitted => ?_) made trivial).mono
    fun _ _ _ => trivial
  refine ⟨fun opens => ?_, fun _ _ _ => trivial⟩
  cases c with
  | create request => exact permitted
  | _ => exact opens

private theorem sealed_close (w : OpenWindow) :
    (sealed W).Keeps w.close s fun _ _ => True := by
  rw [keeps_windowClose, keeps_onRenderer]
  apply (sealed_onDriver (making_closeRenderer w.renderer w.stack)).mono
  intro out _ _
  apply (sealed_onDriver (making_close out.2)).mono
  intro _ _ _
  exact (keeps_dropWindow ..).mpr ⟨fun opens => opens, fun _ _ => trivial⟩

private theorem sealed_closeWindow :
    (sealed W).Keeps (closeWindow h) s fun _ _ => True := by
  rw [keeps_closeWindow]
  cases h.window with
  | none => exact trivial
  | some w => exact sealed_close w

private theorem sealed_exitLoop : (sealed W).Keeps World.exitLoop s fun _ _ => True :=
  (keeps_exitLoop _).mpr ⟨fun opens => opens, fun _ _ => trivial⟩

-- Once the exit was asked for, only `resumed` opens something.
private theorem sealed_handle {event : LoopEvent} (asked : h.exitRequested = true)
    (other : ¬(event = .resumed ∧ h.window = none)) :
    (sealed W).Keeps (handle app event h) s fun _ _ => True := by
  cases event with
  | resumed =>
    rw [handle, keeps_resumed]
    by_cases shown : h.window.isSome = true
    · rw [if_pos shown]
      exact trivial
    · exact absurd ⟨rfl, by simpa using shown⟩ other
  | aboutToWait =>
    rw [handle, keeps_aboutToWait, if_pos asked]
    exact sealed_exitLoop
  | window id event =>
    rw [handle, keeps_windowEvent, if_pos asked]
    exact sealed_exitLoop
  | exiting => exact sealed_closeWindow

-- The first thing that `resumed` does without a window is to make one.
private theorem opens_of_resumed (shut : h.window = none) :
    ∃ c t, (handle app .resumed h).Makes W s c t ∧ c.Opens := by
  refine Classical.byContradiction fun opensNothing => ?_
  have kept : (sealed W).Keeps (resumed app h) s fun _ _ => True :=
    keeps_iff.mpr ⟨fun c t makes opens => opensNothing ⟨c, t, makes, opens⟩, fun _ _ _ => trivial⟩
  rw [keeps_resumed, if_neg (by simp [shut]), keepsTask_openWindow] at kept
  exact kept.1 trivial

end Sealed

end Contract

namespace Desktop

open Contract Host

/-- Whatever happened before, and whatever fails: once the loop was asked to end, an event makes the
host open a window or make an object of the driver exactly if it says that windows can be made and
the host has none. Then the application may be told about a renderer; besides that, it is told
nothing any more. -/
theorem reopens_iff_resumed {W : Program.World World γ} {s t : γ}
    {earlier : List (Exchange World γ)} (app : App σ) (x : σ) (look : WindowSettings)
    (graphics : GraphicsSettings) (events : List LoopEvent) {h : Host (σ × List Callback)}
    (handled : (events.forM (handle app.attested) { look, graphics, app := (x, []) }).Ends
      W.recorded (s, []) ((), h) (t, earlier))
    (asked : AskedToEnd earlier) (event : LoopEvent) :
    ((∃ c u, (handle app.attested event h).Makes W.recorded (t, earlier) c u ∧ c.Opens) ↔
      event = .resumed ∧ h.window = none) ∧
    ∀ after u, (handle app.attested event h).Ends W.recorded (t, earlier) ((), after) u →
      after.app.2 = h.app.2 ∨ (event = .resumed ∧ h.window = none ∧
        ∃ report, after.app.2 = .rendererReady report :: h.app.2) := by
  have noted : h.exitRequested = true :=
    (handleAll_noted events (W := W) (s := (s, [])) fun ⟨_, mem, _⟩ =>
      absurd mem List.not_mem_nil).ends handled asked
  refine ⟨⟨?_, ?_⟩, fun after u ends => ?_⟩
  · rintro ⟨c, u, makes, opens⟩
    refine Classical.byContradiction fun other => ?_
    exact (sealed_handle noted other).permits makes opens
  · rintro ⟨rfl, shut⟩
    exact opens_of_resumed shut
  · obtain ⟨told, added, tells⟩ := (handle_tells event).ends ends
    rw [added]
    cases event with
    | resumed =>
      obtain ⟨rfl, -⟩ | ⟨shut, report, rfl, -⟩ := tells
      · exact .inl rfl
      · exact .inr ⟨rfl, shut, report, rfl⟩
    | aboutToWait =>
      obtain rfl : told = [] := tells
      exact .inl rfl
    | window id event =>
      obtain rfl | ⟨goesOn, -⟩ := tells
      · exact .inl rfl
      · rw [noted] at goesOn
        exact absurd goesOn (by simp)
    | exiting =>
      obtain rfl : told = [] := tells
      exact .inl rfl

/-! ## A window that comes back -/

/-- The world in which all goes well. -/
def kindWorld : Program.World World Unit where
  step _ c reply _ := reply = c.granted

/-- Grants every call and writes it down. -/
def grant (c : WorldCall) (s : Unit × List (Exchange World Unit)) :
    Except Fault c.Reply × (Unit × List (Exchange World Unit)) :=
  (.ok c.granted, ((), ⟨c, c.granted, ()⟩ :: s.2))

private theorem kindWorld_allows_grant : kindWorld.recorded.Allows grant := by
  intro c s reply answered
  obtain rfl := Except.ok.inj answered
  exact ⟨rfl, rfl⟩

/-- An application that does nothing. -/
def idleApp : App Unit where
  onFrame _ s := return (.proceed, s)

/-- A window is opened and closed, and with that the loop is asked to end. -/
def closedRun : Program.Run (Unit × List (Exchange World Unit))
    (Unit × Host (Unit × List Callback)) :=
  ([.resumed, .window ⟨1⟩ .closeRequested].forM (handle idleApp.attested)
    { look := {}, graphics := {}, app := ((), []) }).run grant ((), [])

/-- Then windows can be made once more. -/
def reopenedRun (h : Host (Unit × List Callback)) :
    Program.Run (Unit × List (Exchange World Unit)) (Unit × Host (Unit × List Callback)) :=
  (handle idleApp.attested .resumed h).run grant closedRun.state

private theorem ends_reopened :
    ∃ h after u,
      ([.resumed, .window ⟨1⟩ .closeRequested].forM (handle idleApp.attested)
        { look := {}, graphics := {}, app := ((), []) }).Ends kindWorld.recorded ((), []) ((), h)
          closedRun.state ∧
      AskedToEnd closedRun.state.2 ∧
      (handle idleApp.attested .resumed h).Ends kindWorld.recorded closedRun.state ((), after) u ∧
      h.app.2.length = 2 ∧ after.app.2.length = 3 := by
  have told : (closedRun.result.toOption.bind fun closed =>
      (reopenedRun closed.2).result.toOption.map fun reopened =>
        (closed.2.app.2.length, reopened.2.app.2.length)) = some (2, 3) := by decide +kernel
  obtain ⟨⟨_, h⟩, closed, told⟩ := Option.bind_eq_some_iff.mp told
  obtain ⟨⟨_, after⟩, reopened, told⟩ := Option.map_eq_some_iff.mp told
  obtain ⟨before, later⟩ := Prod.mk.inj told
  have asked : closedRun.state.2.any (fun e => e.call matches .exitLoop) = true := by
    decide +kernel
  obtain ⟨e, mem, exits⟩ := List.any_eq_true.mp asked
  refine ⟨h, after, _, kindWorld_allows_grant.ends (eq_ok_of_toOption closed), ⟨e, mem, ?_⟩,
    kindWorld_allows_grant.ends (eq_ok_of_toOption reopened), before, later⟩
  split at exits
  · assumption
  · exact absurd exits Bool.false_ne_true

/-- After its window was closed a host resumes and opens another one. -/
theorem reopens_after_close :
    ∃ (h : Host (Unit × List Callback)) (c : WorldCall) (u : Unit × List (Exchange World Unit)),
      AskedToEnd closedRun.state.2 ∧ h.window = none ∧
        (handle idleApp.attested .resumed h).Makes kindWorld.recorded closedRun.state c u ∧
          c.Opens := by
  obtain ⟨h, after, u, closed, asked, reopened, before, later⟩ := ends_reopened
  have law := reopens_iff_resumed idleApp () {} {} _ closed asked .resumed
  obtain same | ⟨-, shut, -⟩ := law.2 after u reopened
  · rw [same, before] at later
    exact absurd later (by decide)
  · obtain ⟨c, u, makes, opens⟩ := law.1.mpr ⟨rfl, shut⟩
    exact ⟨h, c, u, asked, shut, makes, opens⟩

/-- The end is not final: a host may open a window, and call its application, after the loop was
asked to end. -/
theorem exists_reopening :
    ¬∀ (W : Program.World World Unit) (s t : Unit) (earlier : List (Exchange World Unit))
      (app : App Unit) (x : Unit) (look : WindowSettings) (graphics : GraphicsSettings)
      (events : List LoopEvent) (h : Host (Unit × List Callback)),
      (events.forM (handle app.attested) { look, graphics, app := (x, []) }).Ends W.recorded
        (s, []) ((), h) (t, earlier) → AskedToEnd earlier → ∀ event : LoopEvent,
        (∀ c u, (handle app.attested event h).Makes W.recorded (t, earlier) c u → ¬c.Opens) ∧
          ∀ after u, (handle app.attested event h).Ends W.recorded (t, earlier) ((), after) u →
            after.app.2 = h.app.2 := by
  intro final
  obtain ⟨h, after, u, closed, asked, reopened, before, later⟩ := ends_reopened
  have same := (final _ _ _ _ _ _ _ _ _ h closed asked .resumed).2 after u reopened
  rw [same, before] at later
  exact absurd later (by decide)

end Desktop

end PaintPresenter
