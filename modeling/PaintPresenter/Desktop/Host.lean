import PaintPresenter.Desktop.OpenWindow

/-!
# The host of an application

The host opens one window for an application, passes events on, and closes the window when it is
asked to, when the application has had enough, or when the loop ends. The first error that ends a
run is the run's result.
-/

namespace PaintPresenter.Desktop

open Vulkan

/-- What the event loop reports. -/
inductive LoopEvent
  /-- Windows can be made now. -/
  | resumed
  /-- Nothing is left to do for the moment. -/
  | aboutToWait
  | window (id : WindowId) (event : WindowEvent)
  /-- The loop has ended. -/
  | exiting
  deriving DecidableEq, Repr

/-- A host of an application with a state of type `σ`. -/
structure Host (σ : Type) where
  look : WindowSettings
  graphics : GraphicsSettings
  /-- The application's state. -/
  app : σ
  window : Option OpenWindow := none
  exitRequested : Bool := false
  /-- The first error that ends the run. -/
  fatal : Option HostError := none

namespace Host

variable {σ α : Type}

/-- An operation of a host. -/
abbrev Action (σ α : Type) := StateT (Host σ) (Program World) α

/-- Asks the loop to end. -/
def requestExit : Action σ Unit := fun h => do
  World.exitLoop
  return ((), { h with exitRequested := true })

/-- Closes the window, if it is open. -/
def closeWindow : Action σ Unit := fun h => do
  if let some window := h.window then window.close
  return ((), { h with window := none })

/-- Closes the window and asks the loop to end. -/
def leave : Action σ Unit := do
  closeWindow
  requestExit

/-- Leaves because of an error. -/
def fail (e : HostError) : Action σ Unit := do
  Program.log (I := World) .error e.line
  modify fun h => { h with fatal := h.fatal.or (some e) }
  leave

/-- Runs a callback of the application that makes no calls. -/
def onApp (callback : StateT σ (Program NoCalls) α) : Action σ α := fun h => do
  let (a, app) ← World.onNoCalls (callback h.app)
  return (a, { h with app })

/-- Runs an operation on the window, if it is open. -/
def onWindow (action : OpenWindow.Action Unit) : Action σ Unit := fun h => do
  match h.window with
  | none => return ((), h)
  | some window =>
    let ((), window) ← action window
    return ((), { h with window := some window })

/-- Opens the window unless it is open, and tells the application about the renderer. -/
def resumed (app : App σ) : Action σ Unit := do
  let h ← get
  if h.window.isSome then return
  match ← (OpenWindow.create h.look h.graphics).run with
  | .error e => fail e
  | .ok window =>
    let control ← onApp (app.onRendererReady window.stack.report)
    World.requestRedraw window.id
    modify fun h => { h with window := some window }
    if control = .exit then leave

/-- Asks for the next frame: the painter may paint at any time. -/
def aboutToWait : Action σ Unit := do
  let h ← get
  if h.exitRequested then World.exitLoop
  else
    World.sleepUntilEvent
    if let some window := h.window then World.requestRedraw window.id

/-- Lets the application make a frame. -/
def frame (app : App σ) (id : WindowId) : Action σ Unit := fun h => do
  match h.window with
  | none => return ((), h)
  | some window =>
    let ((control, state), window) ← (app.onFrame id h.app).interpret OpenWindow.answer window
    let h := { h with app := state, window := some window }
    if control = .exit then leave h else return ((), h)

/-- What the host itself does about an event of its window. -/
def react (app : App σ) (id : WindowId) : WindowEvent → Action σ Unit
  | .closeRequested => leave
  | .resized size => onWindow (OpenWindow.resize size)
  | .scaleFactorChanged => onWindow fun window => do
    OpenWindow.resize (← World.windowSize window.id) window
  | .redrawRequested => frame app id
  | .moved | .destroyed | .occluded | .focused => return

/-- Passes an event of its window to the application and then reacts to it, unless the application
has had enough. Events of other windows, and events after the exit was asked for, are left. -/
def windowEvent (app : App σ) (id : WindowId) (event : WindowEvent) : Action σ Unit := do
  let h ← get
  if h.exitRequested then World.exitLoop
  else if h.window.any (·.id = id) then
    if (← onApp (app.onWindowEvent id event)) = .exit then leave
    else react app id event

/-- Handles what the event loop reports. -/
def handle (app : App σ) : LoopEvent → Action σ Unit
  | .resumed => resumed app
  | .aboutToWait => aboutToWait
  | .window id event => windowEvent app id event
  | .exiting => closeWindow

/-- The end of a run: a window that is still open is closed, and the result is how the loop ended,
or else the first error of the host. -/
def finish (ended : Except String Unit) (h : Host σ) : Program World (Except HostError Unit) := do
  let ((), h) ← closeWindow h
  match ended, h.fatal with
  | .error cause, _ => return .error (.loopBroken cause)
  | .ok (), some e => return .error e
  | .ok (), none => return .ok ()

/-- A whole run over the events that a loop reports and the way it ends. A loop that breaks does
not say that it is exiting. -/
def run (app : App σ) (events : List LoopEvent) (ended : Except String Unit) (h : Host σ) :
    Program World (Except HostError Unit) := do
  match ← World.openLoop with
  | .error cause => return .error (.loopUnavailable cause)
  | .ok () =>
    let last := match ended with
      | .ok () => [.exiting]
      | .error _ => []
    let ((), h) ← (events ++ last).forM (handle app) h
    finish ended h

end Host

end PaintPresenter.Desktop
