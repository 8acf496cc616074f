import PaintPresenter.Proofs.HostConduct

/-!
# What an application is told

An application that writes down which of its callbacks are called is hosted as it would be without
that: the calls and records of a run are the same, and so is all that the host knows. What is
written down therefore tells which callbacks a host calls.
-/

namespace PaintPresenter

variable {I J : Interface} {α β γ σ : Type}

namespace Program

private theorem embed_bind (answer : (c : I.Call) → Program J (I.Reply c)) (p : Program I α)
    (f : α → Program I β) :
    (p >>= f).embed answer = p.embed answer >>= fun a => (f a).embed answer := by
  induction p with
  | done a => rfl
  | abort fault => rfl
  | note r p ih => exact congrArg (note r) ih
  | call c k ih =>
    simp only [call_bind, embed, bind_assoc]
    exact congrArg (answer c >>= ·) (funext fun reply => ih reply)

private theorem interpret_bind (answer : (c : I.Call) → StateT σ (Program J) (I.Reply c))
    (p : Program I α) (f : α → Program I β) (x : σ) :
    (p >>= f).interpret answer x =
      p.interpret answer x >>= fun out => (f out.1).interpret answer out.2 := by
  induction p generalizing x with
  | done a => rfl
  | abort fault => rfl
  | note r p ih => exact congrArg (note r) (ih x)
  | call c k ih =>
    simp only [call_bind, interpret, bind_assoc]
    exact congrArg (answer c x >>= ·) (funext fun out => ih out.1 out.2)

end Program

namespace Desktop

open Vulkan

/-- A callback of an application, with what it is told. -/
inductive Callback
  | windowEvent (id : WindowId) (event : WindowEvent)
  | rendererReady (report : Stack.Report)
  | frame (id : WindowId)
  deriving DecidableEq, Repr

/-- The window that a callback is told about. -/
def Callback.window? : Callback → Option WindowId
  | windowEvent id _ => some id
  | rendererReady _ => none
  | frame id => some id

/-- Runs a callback and writes down that it was called, latest first. -/
def attest (callback : Callback) (run : StateT σ (Program I) α) :
    StateT (σ × List Callback) (Program I) α := fun x => do
  let (a, s) ← run x.1
  return (a, (s, callback :: x.2))

/-- An application that writes down which of its callbacks are called. -/
def App.attested (app : App σ) : App (σ × List Callback) where
  onWindowEvent id event := attest (.windowEvent id event) (app.onWindowEvent id event)
  onRendererReady report := attest (.rendererReady report) (app.onRendererReady report)
  onFrame id := attest (.frame id) (app.onFrame id)

namespace Host

/-- A host, without what its application wrote down. -/
def forget (h : Host (σ × List Callback)) : Host σ := { h with app := h.app.1 }

-- What an operation leaves, without what the application wrote down.
private def forgotten (out : α × Host (σ × List Callback)) : Program World (α × Host σ) :=
  .done (out.1, out.2.forget)

variable {app : App σ} {h : Host (σ × List Callback)}

private theorem onApp_attest (callback : Callback) (run : StateT σ (Program NoCalls) α) :
    onApp (attest callback run) h >>= forgotten = onApp run h.forget := by
  unfold onApp attest World.onNoCalls
  simp only [Program.embed_bind, bind_assoc]
  rfl

private theorem closeWindow_forget : closeWindow h >>= forgotten = closeWindow h.forget := by
  obtain ⟨look, graphics, app, window, exitRequested, fatal⟩ := h
  cases window with
  | none => rfl
  | some w =>
    unfold closeWindow
    simp only [bind_assoc]
    rfl

private theorem requestExit_forget : requestExit h >>= forgotten = requestExit h.forget := rfl

private theorem forget_bind {A : Action (σ × List Callback) α} {B : Action σ α}
    {A' : α → Action (σ × List Callback) β} {B' : α → Action σ β}
    (first : ∀ h, A h >>= forgotten = B h.forget)
    (then_ : ∀ a h, A' a h >>= forgotten = B' a h.forget) (h : Host (σ × List Callback)) :
    (A >>= A') h >>= forgotten = (B >>= B') h.forget := by
  change (A h >>= fun out => A' out.1 out.2) >>= forgotten =
    B h.forget >>= fun out => B' out.1 out.2
  rw [← first h, bind_assoc, bind_assoc]
  congr 1
  funext out
  exact then_ out.1 out.2

private theorem lift_forget (p : Program World α) (h : Host (σ × List Callback)) :
    (liftM p : Action (σ × List Callback) α) h >>= forgotten = (liftM p : Action σ α) h.forget := by
  change (p >>= fun a => pure (a, h)) >>= forgotten = p >>= fun a => pure (a, h.forget)
  rw [bind_assoc]
  rfl

private theorem leave_forget : leave h >>= forgotten = leave h.forget :=
  forget_bind (fun _ => closeWindow_forget) (fun _ _ => requestExit_forget) h

private theorem fail_forget (e : HostError) : fail e h >>= forgotten = fail e h.forget := by
  change Program.note _ (leave { h with fatal := h.fatal.or (some e) } >>= forgotten) = _
  rw [leave_forget]
  rfl

private theorem onWindow_forget (action : OpenWindow.Action Unit) :
    onWindow action h >>= forgotten = onWindow action h.forget := by
  obtain ⟨look, graphics, app, window, exitRequested, fatal⟩ := h
  cases window with
  | none => rfl
  | some w =>
    change (action w >>= _) >>= forgotten = action w >>= _
    rw [bind_assoc]
    rfl

private def welcome (app : App σ) : Except HostError OpenWindow → Action σ Unit
  | .error e => fail e
  | .ok window => do
    let control ← onApp (app.onRendererReady window.stack.report)
    World.requestRedraw window.id
    modify fun h => { h with window := some window }
    if control = .exit then leave

private theorem resumed_of_none {σ : Type} {app : App σ} {h : Host σ} (shut : h.window = none) :
    resumed app h = ((liftM (OpenWindow.create h.look h.graphics).run : Action σ _) >>=
      welcome app) h := by
  unfold resumed
  rw [Contract.get_bind, shut]
  simp only [Option.isSome_none, Bool.false_eq_true, if_false]
  congr 2

private theorem welcome_forget (result : Except HostError OpenWindow) :
    welcome app.attested result h >>= forgotten = welcome app result h.forget := by
  cases result with
  | error e => exact fail_forget e
  | ok w =>
    refine forget_bind (fun _ => onApp_attest _ _) (fun control h => ?_) h
    refine forget_bind (lift_forget _) (fun _ h => ?_) h
    -- The host keeps the window before it looks at what the application says.
    refine forget_bind (fun _ => rfl) (fun _ h => ?_) h
    cases control with
    | proceed => rfl
    | exit => exact leave_forget

private theorem resumed_forget : resumed app.attested h >>= forgotten = resumed app h.forget := by
  cases shut : h.window with
  | some w =>
    obtain ⟨look, graphics, x, window, exitRequested, fatal⟩ := h
    obtain rfl : window = some w := shut
    rfl
  | none =>
    have shut' : h.forget.window = none := shut
    rw [resumed_of_none shut, resumed_of_none shut']
    exact forget_bind (lift_forget _) (fun result _ => welcome_forget result) h

private theorem frame_forget (id : WindowId) :
    frame app.attested id h >>= forgotten = frame app id h.forget := by
  obtain ⟨look, graphics, x, window, exitRequested, fatal⟩ := h
  cases window with
  | none => rfl
  | some w =>
    change ((attest (.frame id) (app.onFrame id) x).interpret OpenWindow.answer w >>= _) >>=
      forgotten = (app.onFrame id x.1).interpret OpenWindow.answer w >>= _
    unfold attest
    simp only [Program.interpret_bind, bind_assoc]
    congr 1
    funext ⟨⟨control, s⟩, w⟩
    cases control with
    | proceed => rfl
    | exit => exact leave_forget

private theorem react_forget (id : WindowId) (event : WindowEvent) :
    react app.attested id event h >>= forgotten = react app id event h.forget := by
  cases event with
  | closeRequested => exact leave_forget
  | resized size => exact onWindow_forget _
  | scaleFactorChanged => exact onWindow_forget _
  | redrawRequested => exact frame_forget id
  | _ => rfl

private theorem aboutToWait_forget : aboutToWait h >>= forgotten = aboutToWait h.forget := by
  obtain ⟨look, graphics, x, window, exitRequested, fatal⟩ := h
  cases exitRequested with
  | true => rfl
  | false => cases window with
    | none => rfl
    | some w => rfl

private theorem windowEvent_forget (id : WindowId) (event : WindowEvent) :
    windowEvent app.attested id event h >>= forgotten = windowEvent app id event h.forget := by
  unfold windowEvent
  rw [Contract.get_bind, Contract.get_bind]
  have sameFlag : h.forget.exitRequested = h.exitRequested := rfl
  have sameWindow : h.forget.window = h.window := rfl
  rw [sameFlag, sameWindow]
  cases h.exitRequested with
  | true => rfl
  | false =>
    cases h.window.any (·.id = id) with
    | false => rfl
    | true =>
      refine forget_bind (fun _ => onApp_attest _ _) (fun control h => ?_) h
      cases control with
      | proceed => exact react_forget id event
      | exit => exact leave_forget

/-- What an application writes down changes nothing about how it is hosted. -/
theorem handle_forget (event : LoopEvent) :
    (do let (_, after) ← handle app.attested event h; return ((), after.forget)) =
      handle app event h.forget := by
  cases event with
  | resumed => exact resumed_forget
  | aboutToWait => exact aboutToWait_forget
  | window id event => exact windowEvent_forget id event
  | exiting => exact closeWindow_forget

private theorem handleAll_forget (events : List LoopEvent) :
    events.forM (handle app.attested) h >>= forgotten = events.forM (handle app) h.forget := by
  induction events generalizing h with
  | nil => rfl
  | cons event later ih => exact forget_bind (fun _ => handle_forget event) (fun _ _ => ih) h

private theorem finish_forget (ended : Except String Unit) :
    finish ended h = finish ended h.forget := by
  unfold finish
  rw [← closeWindow_forget, bind_assoc]
  rfl

/-- An application that writes down its callbacks makes the same runs. -/
theorem run_attested (app : App σ) (events : List LoopEvent) (ended : Except String Unit)
    (h : Host (σ × List Callback)) :
    run app.attested events ended h = run app events ended h.forget := by
  unfold run
  congr 1
  funext opened
  cases opened with
  | error cause => rfl
  | ok _ =>
    simp only [← handleAll_forget, bind_assoc]
    congr 1
    funext out
    exact finish_forget ended

/-! ## What an event leads to -/

/-- What an application may be told when an event is handled, latest first, and which window may be
open after that. -/
def Tells (h : Host σ) : LoopEvent → List Callback → Option OpenWindow → Prop
  | .resumed, told, after => (told = [] ∧ (h.window = none → after = none)) ∨
    (h.window = none ∧
      ∃ report, told = [.rendererReady report] ∧ ∀ w, after = some w → w.stack.report = report)
  | .window id event, told, _ => told = [] ∨
    (h.exitRequested = false ∧ h.window.any (·.id = id) = true ∧
      (told = [.windowEvent id event] ∨
        event = .redrawRequested ∧ told = [.frame id, .windowEvent id event]))
  | .aboutToWait, told, _ => told = []
  | .exiting, told, _ => told = []

/-- An application is told about the window that its host has. -/
theorem Tells.window {event : LoopEvent} {told : List Callback} {after : Option OpenWindow}
    (tells : h.Tells event told after) {callback : Callback} (mem : callback ∈ told) {id : WindowId}
    (names : callback.window? = some id) : ∃ w, h.window = some w ∧ w.id = id := by
  cases event with
  | resumed =>
    obtain ⟨rfl, -⟩ | ⟨-, report, rfl, -⟩ := tells
    · exact absurd mem List.not_mem_nil
    · obtain rfl := List.mem_singleton.mp mem
      exact absurd names (by simp [Callback.window?])
  | window own event =>
    obtain rfl | ⟨-, here, told_eq⟩ := tells
    · exact absurd mem List.not_mem_nil
    have own_named : callback.window? = some own := by
      obtain rfl | ⟨-, rfl⟩ := told_eq
      · obtain rfl := List.mem_singleton.mp mem
        rfl
      · obtain rfl | mem := List.mem_cons.mp mem
        · rfl
        · obtain rfl := List.mem_singleton.mp mem
          rfl
    obtain ⟨w, shown, named⟩ := (Option.any_eq_true ..).mp here
    have same : own = id := Option.some.inj (own_named.symm.trans names)
    exact ⟨w, shown, (of_decide_eq_true named).trans same⟩
  | aboutToWait => exact absurd (tells ▸ mem) List.not_mem_nil
  | exiting => exact absurd (tells ▸ mem) List.not_mem_nil

end Host

end Desktop

namespace Contract

open Desktop Host Vulkan

variable {C : Contract World γ} {W : Program.World World γ} {s : γ}

private theorem keeps_onNoCalls_attest {callback : Callback} {run : StateT σ (Program NoCalls) α}
    {x : σ × List Callback} {post : α × (σ × List Callback) → γ → Prop}
    (always : ∀ a state, post (a, (state, callback :: x.2)) s) :
    C.Keeps (World.onNoCalls (attest callback run x)) s post := by
  unfold attest World.onNoCalls
  rw [Program.embed_bind, keeps_bind]
  exact keeps_onNoCalls fun out => always out.1 out.2

private theorem keeps_interpret_attest {callback : Callback}
    {run : StateT σ (Program FrameContext) α} {x : σ × List Callback} {w : OpenWindow}
    {post : (α × (σ × List Callback)) × OpenWindow → γ → Prop}
    (always : ∀ a state after t, post ((a, (state, callback :: x.2)), after) t) :
    (free W).Keeps ((attest callback run x).interpret OpenWindow.answer w) s post := by
  unfold attest
  rw [Program.interpret_bind, keeps_bind]
  exact keeps_free fun out t => always out.1.1 out.1.2 out.2 t

/-- A host that leaves tells its application nothing. -/
theorem keeps_leave_free {h : Host σ} :
    (free W).Keeps (leave h) s fun out _ =>
      out.2.app = h.app ∧ out.2.window = none ∧ out.2.exitRequested = true := by
  rw [keeps_leave, keeps_closeWindow]
  cases shut : h.window with
  | none =>
    rw [keeps_requestExit]
    exact keeps_free fun _ _ => ⟨rfl, shut, rfl⟩
  | some w =>
    refine keeps_free fun _ t => ?_
    rw [keeps_requestExit]
    exact keeps_free fun _ _ => ⟨rfl, rfl, rfl⟩

section Telling

variable {app : App σ} {h : Host (σ × List Callback)}

private theorem resumed_tells :
    (free W).Keeps (resumed app.attested h) s fun out _ =>
      ∃ told, out.2.app.2 = told ++ h.app.2 ∧ h.Tells .resumed told out.2.window := by
  rw [keeps_resumed]
  by_cases shown : h.window.isSome = true
  · rw [if_pos shown]
    exact ⟨[], rfl, .inl ⟨rfl, fun shut => by simp [shut] at shown⟩⟩
  have shut : h.window = none := by simpa using shown
  rw [if_neg shown]
  refine keepsTask_free (fun w t => ?_) fun e t => ?_
  · rw [keeps_onApp]
    refine keeps_onNoCalls_attest fun control state => ?_
    refine keeps_free fun _ t => ?_
    cases control with
    | proceed => exact ⟨_, rfl, .inr ⟨shut, _, rfl, fun _ same => by rw [← Option.some.inj same]⟩⟩
    | exit =>
      rw [if_pos rfl]
      apply keeps_leave_free.mono
      rintro ⟨_, after⟩ _ ⟨same, gone, -⟩
      refine ⟨[.rendererReady w.stack.report], congrArg Prod.snd same, .inr ⟨shut, _, rfl, ?_⟩⟩
      intro w' here
      exact absurd (gone.symm.trans here) (by simp)
  · rw [keeps_fail]
    apply keeps_leave_free.mono
    rintro ⟨_, after⟩ _ ⟨same, gone, -⟩
    exact ⟨[], congrArg Prod.snd same, .inl ⟨rfl, fun _ => gone⟩⟩

-- What the host itself does about an event tells the application about a frame, if anything.
private theorem react_tells (id : WindowId) (event : WindowEvent) :
    (free W).Keeps (react app.attested id event h) s fun out _ =>
      out.2.app.2 = h.app.2 ∨ event = .redrawRequested ∧ out.2.app.2 = .frame id :: h.app.2 := by
  have untold (action : OpenWindow.Action Unit) :
      (free W).Keeps (onWindow action h) s fun out _ => out.2.app.2 = h.app.2 := by
    rw [keeps_onWindow]
    cases h.window with
    | none => exact rfl
    | some w => exact keeps_free fun _ _ => rfl
  cases event with
  | closeRequested => exact keeps_leave_free.mono fun _ _ left => .inl (congrArg Prod.snd left.1)
  | resized size => exact (untold _).mono fun _ _ => .inl
  | scaleFactorChanged => exact (untold _).mono fun _ _ => .inl
  | redrawRequested =>
    rw [react, keeps_frame]
    cases h.window with
    | none => exact .inl rfl
    | some w =>
      refine keeps_interpret_attest fun control state after t => ?_
      cases control with
      | proceed => exact .inr ⟨rfl, rfl⟩
      | exit =>
        rw [if_pos rfl]
        exact keeps_leave_free.mono fun _ _ left => .inr ⟨rfl, congrArg Prod.snd left.1⟩
  | _ => exact .inl rfl

private theorem windowEvent_tells (id : WindowId) (event : WindowEvent) :
    (free W).Keeps (windowEvent app.attested id event h) s fun out _ =>
      ∃ told, out.2.app.2 = told ++ h.app.2 ∧ h.Tells (.window id event) told out.2.window := by
  rw [keeps_windowEvent]
  unfold Tells
  by_cases asked : h.exitRequested = true
  · rw [if_pos asked]
    exact keeps_free fun _ _ => ⟨[], rfl, .inl rfl⟩
  have goesOn : h.exitRequested = false := by simpa using asked
  rw [if_neg asked]
  by_cases own : h.window.any (·.id = id) = true
  · rw [if_pos own, keeps_onApp]
    refine keeps_onNoCalls_attest fun control state => ?_
    cases control with
    | proceed =>
      apply (react_tells id event).mono
      rintro ⟨_, after⟩ _ (same | ⟨redraw, drawn⟩)
      · exact ⟨[.windowEvent id event], same, .inr ⟨goesOn, own, .inl rfl⟩⟩
      · refine ⟨[.frame id, .windowEvent id event], drawn, .inr ⟨goesOn, own, ?_⟩⟩
        exact .inr ⟨redraw, rfl⟩
    | exit =>
      rw [if_pos rfl]
      apply keeps_leave_free.mono
      rintro ⟨_, after⟩ _ ⟨same, -⟩
      exact ⟨[.windowEvent id event], congrArg Prod.snd same, .inr ⟨goesOn, own, .inl rfl⟩⟩
  · rw [if_neg own]
    exact ⟨[], rfl, .inl rfl⟩

/-- In any world, handling an event calls only the callbacks that belong to it. -/
theorem handle_tells (event : LoopEvent) :
    (free W).Keeps (handle app.attested event h) s fun out _ =>
      ∃ told, out.2.app.2 = told ++ h.app.2 ∧ h.Tells event told out.2.window := by
  cases event with
  | resumed => exact resumed_tells
  | aboutToWait =>
    rw [handle, keeps_aboutToWait]
    by_cases asked : h.exitRequested = true
    · rw [if_pos asked]
      exact keeps_free fun _ _ => ⟨[], rfl, rfl⟩
    · rw [if_neg asked]
      refine keeps_free fun _ t => ?_
      cases h.window with
      | none => exact ⟨[], rfl, rfl⟩
      | some w => exact keeps_free fun _ _ => ⟨[], rfl, rfl⟩
  | window id event => exact windowEvent_tells id event
  | exiting =>
    rw [handle, keeps_closeWindow]
    cases h.window with
    | none => exact ⟨[], rfl, rfl⟩
    | some w => exact keeps_free fun _ _ => ⟨[], rfl, rfl⟩

end Telling

end Contract

end PaintPresenter
