import PaintPresenter.Desktop.App

/-!
# An application that follows a script

`ScriptedApp` does in a frame what it was told to, returns what it was told to, and keeps what it
saw of the window, of the renderer and of its own requests.
-/

namespace PaintPresenter.Simulation

open Vulkan Desktop

/-- What a scripted application does in a frame. -/
inductive FrameAction
  | upload
  | render
  /-- Asks for the size of the window. -/
  | measure
  /-- Begins a frame and leaves it. -/
  | beginOnly
  | shutdown
  deriving DecidableEq, Repr

/-- What a scripted application saw. -/
inductive Sighting
  | event (window : WindowId) (event : WindowEvent)
  | ready (report : Stack.Report)
  | uploaded (result : Except GraphicsError (Option UploadOutcome))
  | rendered (control : LoopControl) (drawing : Option (Drawing Recording))
  | measured (window : WindowId) (extent : Extent)
  | began (success : Bool)
  | shutDown (success : Bool)

/-- A scripted application. -/
structure ScriptedApp where
  onEvent : LoopControl := .proceed
  onReady : LoopControl := .proceed
  actions : List FrameAction := [.upload, .render]
  /-- Without it a frame returns what its last rendering did. -/
  onFrame : Option LoopControl := none
  /-- Oldest first. -/
  seen : List Sighting := []

namespace ScriptedApp

variable {I : Interface}

/-- Keeps a sighting. -/
def see (sighting : Sighting) : StateT ScriptedApp (Program I) Unit :=
  modify fun s => { s with seen := s.seen ++ [sighting] }

/-- Does one thing in a frame. The control is that of the last rendering so far. -/
def act (window : WindowId) (control : LoopControl) :
    FrameAction → StateT ScriptedApp (Program FrameContext) LoopControl
  | .upload => do
    see (.uploaded (← FrameContext.uploadPaint))
    return control
  | .render => do
    let (control, drawing) ← FrameContext.render fun _ => []
    see (.rendered control drawing)
    return control
  | .measure => do
    see (.measured window (← FrameContext.windowSize))
    return control
  | .beginOnly => do
    see (.began (← FrameContext.beginFrame).isOk)
    return control
  | .shutdown => do
    see (.shutDown (← FrameContext.shutdown).isOk)
    return control

/-- The scripted application as an application. -/
def app : App ScriptedApp where
  onWindowEvent window event := do
    see (.event window event)
    return (← get).onEvent
  onRendererReady report := do
    see (.ready report)
    return (← get).onReady
  onFrame window := do
    let s ← get
    let control ← s.actions.foldlM (act window) .proceed
    return s.onFrame.getD control

end ScriptedApp

end PaintPresenter.Simulation
