import PaintPresenter.Desktop.Host
import PaintPresenter.Proofs.DriverConduct
import PaintPresenter.Proofs.LoopConduct

/-!
# What a host asks of its world

One rule for each call to the world and one for each operation of a window and of a host: to keep a
contract is to make the operation's calls in its order. What a renderer does is looked at in the
contract's part for the driver, and what an application does is left open.
-/

namespace PaintPresenter

variable {σ α γ : Type}

namespace Desktop

/-- Replies with which all goes well. -/
def WorldCall.granted : (c : WorldCall) → c.Reply
  | .driver call => call.granted 1
  | .openLoop => .ok ()
  | .createWindow _ _ => .ok ⟨1⟩
  | .windowSize _ => ⟨1, 1⟩
  | .nativeHandles _ => ⟨.ok .wayland, .ok .wayland⟩
  | .requestRedraw _ => ()
  | .announcePresent _ => ()
  | .dropWindow _ => ()
  | .exitLoop => ()
  | .sleepUntilEvent => ()
  | .collectPaint => none

end Desktop

namespace Contract

open Desktop Vulkan

variable {C : Contract World γ} {s : γ}

/-- The part of a contract that is about the driver. -/
def driverPart (C : Contract World γ) : Contract Driver γ where
  step s call := C.step s (.driver call)
  permits s call := C.permits s (.driver call)

/-- A program over the driver is judged by the part of the contract that is about the driver. -/
theorem keeps_onDriver {p : Program Driver α} {post : α → γ → Prop} :
    C.Keeps (World.onDriver p) s post ↔ C.driverPart.Keeps p s post := by
  induction p generalizing s with
  | done a => rfl
  | abort fault => rfl
  | note r p ih => exact ih
  | call c k ih => exact and_congr_right fun _ => forall₃_congr fun reply t _ => ih reply

/-- Without calls nothing happens in the world. -/
theorem keeps_onNoCalls {p : Program NoCalls α} {post : α → γ → Prop} (always : ∀ a, post a s) :
    C.Keeps (World.onNoCalls p) s post := by
  induction p with
  | done a => exact always a
  | abort fault => trivial
  | note r p ih => exact ih
  | call c k ih => exact c.elim

/-! ## Calls -/

/-- Asking for the size of a window is one call. -/
@[simp] theorem keeps_windowSize (id : WindowId) (post : Extent → γ → Prop) :
    C.Keeps (World.windowSize id) s post ↔
      C.permits s (.windowSize id) ∧
        ∀ extent t, C.step s (.windowSize id) extent t → post extent t := Iff.rfl

/-- Asking for the handles of a window is one call. -/
@[simp] theorem keeps_nativeHandles (id : WindowId) (post : NativeHandles → γ → Prop) :
    C.Keeps (World.nativeHandles id) s post ↔
      C.permits s (.nativeHandles id) ∧
        ∀ handles t, C.step s (.nativeHandles id) handles t → post handles t := Iff.rfl

/-- Collecting a paint is one call. -/
@[simp] theorem keeps_collectPaint (post : Option PaintFrame → γ → Prop) :
    C.Keeps World.collectPaint s post ↔
      C.permits s .collectPaint ∧ ∀ paint t, C.step s .collectPaint paint t → post paint t :=
  Iff.rfl

/-- Asking for a redraw is one call. -/
@[simp] theorem keeps_requestRedraw (id : WindowId) (post : Unit → γ → Prop) :
    C.Keeps (World.requestRedraw id) s post ↔
      C.permits s (.requestRedraw id) ∧ ∀ t, C.step s (.requestRedraw id) () t → post () t :=
  and_congr_right fun _ => ⟨fun h t => h () t, fun h _ t => h t⟩

/-- Announcing a presentation is one call. -/
@[simp] theorem keeps_announcePresent (id : WindowId) (post : Unit → γ → Prop) :
    C.Keeps (World.announcePresent id) s post ↔
      C.permits s (.announcePresent id) ∧ ∀ t, C.step s (.announcePresent id) () t → post () t :=
  and_congr_right fun _ => ⟨fun h t => h () t, fun h _ t => h t⟩

/-- Dropping a window is one call. -/
@[simp] theorem keeps_dropWindow (id : WindowId) (post : Unit → γ → Prop) :
    C.Keeps (World.dropWindow id) s post ↔
      C.permits s (.dropWindow id) ∧ ∀ t, C.step s (.dropWindow id) () t → post () t :=
  and_congr_right fun _ => ⟨fun h t => h () t, fun h _ t => h t⟩

/-- Asking the loop to end is one call. -/
@[simp] theorem keeps_exitLoop (post : Unit → γ → Prop) :
    C.Keeps World.exitLoop s post ↔
      C.permits s .exitLoop ∧ ∀ t, C.step s .exitLoop () t → post () t :=
  and_congr_right fun _ => ⟨fun h t => h () t, fun h _ t => h t⟩

/-- Letting the loop sleep is one call. -/
@[simp] theorem keeps_sleepUntilEvent (post : Unit → γ → Prop) :
    C.Keeps World.sleepUntilEvent s post ↔
      C.permits s .sleepUntilEvent ∧ ∀ t, C.step s .sleepUntilEvent () t → post () t :=
  and_congr_right fun _ => ⟨fun h t => h () t, fun h _ t => h t⟩

/-- Setting up the loop is one call, which may fail. -/
@[simp] theorem keeps_openLoop (post : Except String Unit → γ → Prop) :
    C.Keeps World.openLoop s post ↔
      C.permits s .openLoop ∧
        (∀ t, C.step s .openLoop (.ok ()) t → post (.ok ()) t) ∧
          ∀ cause t, C.step s .openLoop (.error cause) t → post (.error cause) t :=
  and_congr_right fun _ => forall_except_unit

/-! ## Windows -/

/-- Opening a window: it is made, asked for its size and handles, and given a stack; without one
it is dropped. -/
theorem keepsTask_openWindow {good : OpenWindow → γ → Prop} {bad : HostError → γ → Prop}
    (look : WindowSettings) (graphics : GraphicsSettings) :
    C.KeepsTask (OpenWindow.create look graphics) s good bad ↔
      C.permits s (.createWindow look.title look.size) ∧
        (∀ id t, C.step s (.createWindow look.title look.size) (.ok id) t →
          C.Keeps (World.windowSize id) t fun extent u =>
            C.Keeps (World.nativeHandles id) u fun handles v =>
              C.driverPart.KeepsTask (Stack.create handles { graphics with extent }) v
                (fun stack => good ⟨id, stack, { clearColor := graphics.clear }⟩) fun e w =>
                  C.Keeps (World.dropWindow id) w fun _ => bad (.rendererRefused e)) ∧
          ∀ cause t, C.step s (.createWindow look.title look.size) (.error cause) t →
            bad (.windowRefused cause) t := by
  unfold OpenWindow.create KeepsTask
  rw [ExceptT.run_mk, World.createWindow, keeps_bind, keeps_call]
  refine and_congr_right fun _ => forall_except.trans (and_congr ?_ Iff.rfl)
  refine forall₃_congr fun id t _ => ?_
  simp only [keeps_done, keeps_bind, keeps_onDriver]
  congr! 6 with extent u _ handles v
  exact ⟨fun h => h.mono fun r _ => by cases r <;> simp,
    fun h => h.mono fun r _ => by cases r <;> simp⟩

/-- An action on the renderer of a window is interpreted by the stack of that window. -/
theorem keeps_onRenderer {w : OpenWindow} {post : α × OpenWindow → γ → Prop}
    (action : Renderer.Action SampledImage Recording α) :
    C.Keeps (OpenWindow.onRenderer action w) s post ↔
      C.driverPart.Keeps ((action w.renderer).interpret Stack.answer w.stack) s fun out =>
        post (out.1.1, { w with renderer := out.1.2, stack := out.2 }) := by
  unfold OpenWindow.onRenderer
  rw [keeps_bind, keeps_onDriver]
  rfl

private theorem keeps_notes {post : Unit → γ → Prop} (records : List LogRecord) :
    C.Keeps (records.forM fun r => .note r (.done ())) s post ↔ post () s := by
  induction records with
  | nil => rfl
  | cons r later ih => exact ih

/-- A drawing is announced; what it leaves behind are records. -/
theorem keeps_answerLoop_draw {window : WindowId} {records : Drawing Recording → List LogRecord}
    {frame : ActiveFrame Recording} {binding : Option TextureBinding} {e : Easel}
    {post : Unit × Easel → γ → Prop} :
    C.Keeps (OpenWindow.answerLoop window records (.draw frame binding) e) s post ↔
      C.Keeps (World.announcePresent window) s fun _ =>
        post ((), { e with drawing := some ⟨frame, binding⟩ }) := by
  unfold OpenWindow.answerLoop
  rw [keeps_bind, keeps_notes, keeps_bind]
  rfl

/-- A call of the frame loop to the stack is answered by the stack of the window. -/
theorem keeps_answerLoop_graphics {window : WindowId} {records : Drawing Recording → List LogRecord}
    {call : GraphicsCall SampledImage} {e : Easel}
    {post : call.Reply Recording × Easel → γ → Prop} :
    C.Keeps (OpenWindow.answerLoop window records (.graphics call) e) s post ↔
      C.driverPart.Keeps (Stack.answer call e.stack) s fun out =>
        post (out.1, { e with stack := out.2 }) := by
  unfold OpenWindow.answerLoop Easel.answer
  rw [keeps_onDriver, keeps_bind]
  rfl

/-- A resize is a size request, then a redraw. -/
theorem keeps_windowResize {w : OpenWindow} {post : Unit × OpenWindow → γ → Prop} (size : Extent) :
    C.Keeps (OpenWindow.resize size w) s post ↔
      C.Keeps (OpenWindow.onRenderer (Renderer.requestSize size) w) s fun out t =>
        C.Keeps (World.requestRedraw out.2.id) t fun _ => post ((), out.2) := by
  unfold OpenWindow.resize
  simp only [keeps_bind]
  rfl

/-- A window closes its renderer, its stack, then itself. -/
theorem keeps_windowClose {w : OpenWindow} {post : Unit → γ → Prop} :
    C.Keeps w.close s post ↔
      C.Keeps (OpenWindow.onRenderer Renderer.close w) s fun out t =>
        C.driverPart.Keeps (Stack.close out.2.stack) t fun _ u =>
          C.Keeps (World.dropWindow out.2.id) u post := by
  unfold OpenWindow.close
  simp only [keeps_bind, keeps_onDriver]

/-! ## The host -/

section Host

open Host

variable {app : App σ} {h : Host σ} {post : Unit × Host σ → γ → Prop}

/-- The exit that was asked for is remembered. -/
theorem keeps_requestExit :
    C.Keeps (requestExit h) s post ↔
      C.Keeps World.exitLoop s fun _ => post ((), { h with exitRequested := true }) := by
  unfold requestExit
  rw [keeps_bind]
  rfl

/-- Closing without a window does nothing. -/
theorem keeps_closeWindow :
    C.Keeps (closeWindow h) s post ↔
      match h.window with
      | none => post ((), h) s
      | some w => C.Keeps w.close s fun _ => post ((), { h with window := none }) := by
  obtain ⟨look, graphics, app, window, exitRequested, fatal⟩ := h
  cases window with
  | none => rfl
  | some w => exact keeps_bind ..

/-- Leaving closes the window and asks the loop to end. -/
theorem keeps_leave :
    C.Keeps (leave h) s post ↔
      C.Keeps (closeWindow h) s fun out t => C.Keeps (requestExit out.2) t post :=
  keeps_bind ..

/-- Failing is leaving; the first failure is remembered. -/
theorem keeps_fail (e : HostError) :
    C.Keeps (fail e h) s post ↔
      C.Keeps (leave { h with fatal := h.fatal.or (some e) }) s post := Iff.rfl

/-- A callback of the application changes nothing but its state. -/
theorem keeps_onApp {post : α × Host σ → γ → Prop} (callback : StateT σ (Program NoCalls) α) :
    C.Keeps (onApp callback h) s post ↔
      C.Keeps (World.onNoCalls (callback h.app)) s fun out =>
        post (out.1, { h with app := out.2 }) := by
  unfold onApp
  rw [keeps_bind]
  rfl

/-- An action on the window does nothing without one. -/
theorem keeps_onWindow (action : OpenWindow.Action Unit) :
    C.Keeps (onWindow action h) s post ↔
      match h.window with
      | none => post ((), h) s
      | some w => C.Keeps (action w) s fun out => post ((), { h with window := some out.2 }) := by
  unfold onWindow
  cases h.window with
  | none => rfl
  | some w => exact keeps_bind ..

/-- An operation that looks at its host first. -/
theorem get_bind (rest : Host σ → Action σ α) : (get >>= rest) h = rest h h := rfl

private theorem keeps_lift_bind {β : Type} {post : α × Host σ → γ → Prop} (p : Program World β)
    (rest : β → Action σ α) :
    C.Keeps (((liftM p : Action σ β) >>= rest) h) s post ↔
      C.Keeps p s fun b t => C.Keeps (rest b h) t post :=
  (keeps_bind ..).trans (keeps_bind ..)

/-- Resuming opens a window unless there is one, and tells the application about it. -/
theorem keeps_resumed :
    C.Keeps (resumed app h) s post ↔
      if h.window.isSome then post ((), h) s
      else C.KeepsTask (OpenWindow.create h.look h.graphics) s
        (fun w t => C.Keeps (onApp (app.onRendererReady w.stack.report) h) t fun out u =>
          C.Keeps (World.requestRedraw w.id) u fun _ v =>
            if out.1 = .exit then C.Keeps (leave { out.2 with window := some w }) v post
            else post ((), { out.2 with window := some w }) v)
        fun e t => C.Keeps (fail e h) t post := by
  unfold resumed
  rw [get_bind]
  by_cases shown : h.window.isSome = true
  · rw [if_pos shown, if_pos shown]
    rfl
  rw [if_neg shown, if_neg shown]
  apply (keeps_lift_bind ..).trans
  rw [keepsTask_run]
  congr! 2 with w
  funext t
  apply propext
  apply (keeps_bind ..).trans
  congr! 2 with out
  funext u
  apply propext
  apply (keeps_lift_bind ..).trans
  congr! 2
  funext v
  by_cases leaves : out.1 = .exit
  · rw [if_pos leaves, if_pos leaves]
    rfl
  · rw [if_neg leaves, if_neg leaves]
    rfl

/-- Before it waits the loop is asked again to end, or let sleep with a redraw of the window asked
for. -/
theorem keeps_aboutToWait :
    C.Keeps (aboutToWait h) s post ↔
      if h.exitRequested then C.Keeps World.exitLoop s fun _ => post ((), h)
      else C.Keeps World.sleepUntilEvent s fun _ t =>
        match h.window with
        | none => post ((), h) t
        | some w => C.Keeps (World.requestRedraw w.id) t fun _ => post ((), h) := by
  unfold aboutToWait
  rw [get_bind]
  by_cases asked : h.exitRequested = true
  · rw [if_pos asked, if_pos asked]
    exact keeps_bind ..
  rw [if_neg asked, if_neg asked]
  apply (keeps_lift_bind ..).trans
  cases h.window with
  | none => rfl
  | some w => congr! 2

/-- A frame is the application's, over the window; it may ask to exit. -/
theorem keeps_frame (id : WindowId) :
    C.Keeps (frame app id h) s post ↔
      match h.window with
      | none => post ((), h) s
      | some w => C.Keeps ((app.onFrame id h.app).interpret OpenWindow.answer w) s fun out t =>
        let after := { h with app := out.1.2, window := some out.2 }
        if out.1.1 = .exit then C.Keeps (leave after) t post else post ((), after) t := by
  unfold frame
  cases h.window with
  | none => rfl
  | some w =>
    apply (keeps_bind ..).trans
    congr! 2 with out
    obtain ⟨⟨control, state⟩, w⟩ := out
    cases control with
    | exit => rfl
    | proceed => rfl

/-- An event of the open window goes to the application first, and to the host unless that exits.
-/
theorem keeps_windowEvent (id : WindowId) (event : WindowEvent) :
    C.Keeps (windowEvent app id event h) s post ↔
      if h.exitRequested then C.Keeps World.exitLoop s fun _ => post ((), h)
      else if h.window.any (·.id = id) then
        C.Keeps (onApp (app.onWindowEvent id event) h) s fun out t =>
          if out.1 = .exit then C.Keeps (leave out.2) t post
          else C.Keeps (react app id event out.2) t post
      else post ((), h) s := by
  unfold windowEvent
  rw [get_bind]
  by_cases asked : h.exitRequested = true
  · rw [if_pos asked, if_pos asked]
    exact keeps_bind ..
  rw [if_neg asked, if_neg asked]
  by_cases own : h.window.any (·.id = id) = true
  · rw [if_pos own, if_pos own]
    apply (keeps_bind ..).trans
    congr! 2 with out
    obtain ⟨control, after⟩ := out
    cases control with
    | exit => rfl
    | proceed => rfl
  · rw [if_neg own, if_neg own]
    rfl

end Host

end Contract

end PaintPresenter
