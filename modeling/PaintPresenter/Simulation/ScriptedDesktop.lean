import PaintPresenter.Desktop.World
import PaintPresenter.Simulation.ScriptedDriver

/-!
# A desktop that follows a script

`ScriptedDesktop` answers the calls of a desktop program without a window system. It numbers windows
from one, keeps the size of each, has a mailbox for the painter, and fails by script. A scripted
driver answers the calls to the driver, and the calls to the window system are written down among
the driver's own.
-/

namespace PaintPresenter.Simulation

open Vulkan Desktop

/-- A desktop in the course of a run. -/
structure ScriptedDesktop where
  driver : ScriptedDriver
  /-- The native handles of every window. -/
  handles : NativeHandles
  mailbox : PaintMailbox
  /-- The drawable size that windows start with; without it, the size that was asked for. -/
  startSize : Option Extent := none
  script : Script Unit := []
  /-- The drawable size of every window made so far, first window first. -/
  sizes : List Extent := []

namespace ScriptedDesktop

/-- Writes a line down, among those of the driver. -/
def write (line : String) (d : ScriptedDesktop) : ScriptedDesktop :=
  { d with driver := { d.driver with lines := line :: d.driver.lines } }

/-- Whether an operation fails now, with `cause`, by the script. -/
def attempt (name cause : String) (d : ScriptedDesktop) : Except String Unit × ScriptedDesktop :=
  let (failure, script) := d.script.next name
  (if failure.isSome then .error cause else .ok (), { d with script })

/-- Sets up the event loop. -/
def openLoop (d : ScriptedDesktop) : Except String Unit × ScriptedDesktop :=
  d.attempt "event_loop" "fake event loop error"

/-- How the event loop ends. -/
def endLoop (d : ScriptedDesktop) : Except String Unit × ScriptedDesktop :=
  d.attempt "run_app" "fake run error"

/-- Makes a window. -/
def createWindow (title : String) (size : Extent) (d : ScriptedDesktop) :
    Except String WindowId × ScriptedDesktop :=
  let request := s!"window create title={title} size={size.text}"
  match d.attempt "create_window" "fake window error" with
  | (.error cause, d) => (.error cause, d.write s!"{request} !")
  | (.ok (), d) =>
    let sizes := d.sizes ++ [d.startSize.getD size]
    let number := sizes.length
    (.ok ⟨number⟩, { d with sizes }.write s!"{request} -> {number}")

/-- Gives the windows made so far another drawable size, and later ones too if all start with the
same size. -/
def resizeWindows (size : Extent) (d : ScriptedDesktop) : ScriptedDesktop :=
  { d with sizes := d.sizes.map fun _ => size, startSize := d.startSize.map fun _ => size }

/-- The drawable size of a window. -/
def sizeOf (window : WindowId) (d : ScriptedDesktop) : Extent :=
  d.sizes.getD (window.number - 1) ⟨0, 0⟩

/-- The reply to a call to the world. -/
def answer (call : WorldCall) (d : ScriptedDesktop) : Except Fault call.Reply × ScriptedDesktop :=
  match call with
  | .driver call =>
    let (reply, driver) := d.driver.answer call
    (reply, { d with driver })
  | .openLoop => let (result, d) := d.openLoop; (.ok result, d)
  | .createWindow title size => let (result, d) := d.createWindow title size; (.ok result, d)
  | .windowSize window => (.ok (d.sizeOf window), d)
  | .nativeHandles _ => (.ok d.handles, d)
  | .requestRedraw window => (.ok (), d.write s!"window request_redraw {window.number}")
  | .announcePresent window => (.ok (), d.write s!"window pre_present_notify {window.number}")
  | .dropWindow window => (.ok (), d.write s!"window drop {window.number}")
  | .exitLoop => (.ok (), d.write "loop exit")
  | .sleepUntilEvent => (.ok (), d.write "loop control_flow Wait")
  | .collectPaint =>
    let (frame, mailbox) := d.mailbox.collect
    (.ok frame, { d with mailbox })

end ScriptedDesktop

end PaintPresenter.Simulation
