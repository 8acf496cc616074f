import PaintPresenter.Desktop.Host
import PaintPresenter.Simulation.Player
import PaintPresenter.Simulation.ScriptedDesktop
import PaintPresenter.Vulkan.Stack

/-!
# Sessions on a scripted desktop

Two things are played on a scripted desktop: a stack with its renderer, piece by piece, and a host
with its application, event by event.
-/

namespace PaintPresenter.Simulation

open Vulkan Desktop

/-- A scripted desktop and what is played on it. -/
structure Scene (κ : Type) where
  desktop : ScriptedDesktop
  play : κ

namespace Scene

variable {κ α : Type}

/-- The desktop's driver. -/
def driver (s : Scene κ) : ScriptedDriver := s.desktop.driver

/-- Replaces the desktop's driver. -/
def setDriver (driver : ScriptedDriver) (s : Scene κ) : Scene κ :=
  { s with desktop := { s.desktop with driver } }

/-- Does something to the painter's mailbox. -/
def onMailbox (action : PaintMailbox → α × PaintMailbox) : Session (Scene κ) α :=
  modifyGet fun s =>
    let (a, mailbox) := action s.desktop.mailbox
    (a, { s with desktop := { s.desktop with mailbox } })

/-- Changes the play. -/
def change (f : κ → κ) : Session (Scene κ) Unit := modify fun s => { s with play := f s.play }

/-- Changes the driver's script or model. -/
def direct (f : ScriptedDriver → ScriptedDriver) : Session (Scene κ) Unit :=
  modify fun s => s.setDriver (f s.driver)

/-- Changes the desktop. -/
def arrange (f : ScriptedDesktop → ScriptedDesktop) : Session (Scene κ) Unit :=
  modify fun s => { s with desktop := f s.desktop }

/-- Runs a program on the driver. -/
def onDriver : Program Driver α → Session (Scene κ) α :=
  Session.perform driver setDriver ScriptedDriver.answer

/-- Runs a program on the desktop. -/
def onDesktop : Program World α → Session (Scene κ) α :=
  Session.perform (·.desktop) (fun desktop s => { s with desktop }) ScriptedDesktop.answer

/-- Takes the lines written so far, oldest first. -/
def takeLines : Session (Scene κ) (List String) := do
  let lines := (← get).driver.lines.reverse
  direct fun d => { d with lines := [] }
  return lines

/-- Sends a message to the messenger; false if there is none. -/
def deliver (severity types : UInt32) (text : Option ByteArray) : Session (Scene κ) Bool := do
  if (← get).driver.hasMessenger then
    Session.note (Diagnostics.record? severity types (text.map ByteArray.toList)).toList
    return true
  return false

end Scene

/-! ## A stack, piece by piece -/

/-- A stack with its renderer, and a bare stack beside it. -/
structure StackPlay where
  easel : Option Easel := none
  renderer : Renderer SampledImage := {}
  bare : Option Stack := none
  /-- Textures made past the renderer; those destroyed are gone. -/
  textures : List (Option SampledImage) := []

namespace StackPlay

variable {α : Type}

/-- A step of the play. -/
abbrev Step := Session (Scene StackPlay)

/-- The renderer on the stack; without a stack nothing runs. -/
def player : Player (Scene StackPlay) SampledImage Recording where
  run p := do
    let some easel := (← get).play.easel | throw .deadlock
    let (a, easel) ← Scene.onDriver (p.interpret Easel.answer easel)
    Scene.change fun s => { s with easel := some easel }
    return a
  renderer := (·.play.renderer)
  setRenderer renderer s := { s with play := { s.play with renderer } }
  onMailbox := Scene.onMailbox
  takeDrawing := do
    let easel := (← get).play.easel
    Scene.change fun s => { s with easel := easel.map fun e => { e with drawing := none } }
    return easel.bind (·.drawing)

/-- Makes calls past the renderer. -/
def onGraphics (p : Program (Graphics SampledImage Recording) α) : Step α :=
  player.run (FrameLoop.onGraphics p)

/-- Shuts the renderer down and closes its stack, if there is one. -/
def dropRenderer : Step Unit := do
  if (← get).play.easel.isSome then
    player.onRenderer Renderer.close
    let some easel := (← get).play.easel | return
    let _ ← Scene.onDriver (Stack.close easel.stack)
    Scene.change fun s => { s with easel := none }

/-- Closes the bare stack, if there is one. -/
def dropBare : Step Unit := do
  if let some stack := (← get).play.bare then
    let _ ← Scene.onDriver (Stack.close stack)
    Scene.change fun s => { s with bare := none }

/-- Makes a stack; what it replaces is dropped after it was made. -/
def create (bare : Bool) (handles : NativeHandles) (settings : GraphicsSettings) :
    Step (Except GraphicsError Unit) := do
  match ← Scene.onDriver (Stack.create handles settings).run with
  | .error e => return .error e
  | .ok stack =>
    if bare then
      dropBare
      Scene.change fun s => { s with bare := some stack }
    else
      dropRenderer
      let renderer : Renderer SampledImage := { clearColor := settings.clear }
      Scene.change fun s => { s with easel := some ⟨stack, none⟩, renderer }
    return .ok ()

/-- Makes a texture past the renderer; returns its place. -/
def createTexture (pixels : PixelBuffer) : Step (Except GraphicsError Nat) := do
  let made ← onGraphics (Graphics.createTexture pixels)
  let place := (← get).play.textures.length
  if let .ok texture := made then
    Scene.change fun s => { s with textures := s.textures ++ [some texture] }
  return made.map fun _ => place

/-- The texture at a place, unless it was destroyed. -/
def texture? (place : Nat) : Step (Option SampledImage) :=
  return ((← get).play.textures[place]?).join

/-- Destroys the texture at a place. -/
def destroyTexture (place : Nat) (texture : SampledImage) : Step Unit := do
  onGraphics (Graphics.releaseTexture texture)
  Scene.change fun s => { s with textures := s.textures.set place none }

/-- Drops everything. -/
def close : Step Unit := do
  dropRenderer
  dropBare

end StackPlay

/-! ## A host, event by event -/

namespace HostPlay

variable {σ : Type}

/-- Prepares the application for an event and lets the host handle it. -/
def handle (app : App σ) (prepare : σ → σ) (event : LoopEvent) : Session (Scene (Host σ)) Unit := do
  let host := (← get).play
  let ((), host) ← Scene.onDesktop (Host.handle app event { host with app := prepare host.app })
  Scene.change fun _ => host

/-- How the event loop ends. -/
def endLoop : Session (Scene (Host σ)) (Except String Unit) :=
  modifyGet fun s =>
    let (ended, desktop) := s.desktop.endLoop
    (ended, { s with desktop })

/-- The result of the run. -/
def finish (ended : Except String Unit) : Session (Scene (Host σ)) (Except HostError Unit) := do
  Scene.onDesktop (Host.finish ended (← get).play)

end HostPlay

end PaintPresenter.Simulation
