import PaintPresenter.Desktop.App
import PaintPresenter.Paint.Mailbox

/-!
# The world of a desktop program

What a program with one window asks of the world around it: of the window system and its event
loop, of the painter's mailbox, and of the driver.
-/

namespace PaintPresenter.Desktop

open Vulkan

/-- A call to the world. -/
inductive WorldCall
  | driver (call : DriverCall)
  /-- Sets up the event loop. -/
  | openLoop
  /-- Makes a window with a drawable size in logical pixels. -/
  | createWindow (title : String) (size : Extent)
  /-- The drawable size of a window. -/
  | windowSize (window : WindowId)
  /-- The native handles of a window. -/
  | nativeHandles (window : WindowId)
  | requestRedraw (window : WindowId)
  /-- Says that the next thing is to present. -/
  | announcePresent (window : WindowId)
  | dropWindow (window : WindowId)
  /-- Asks the event loop to end. -/
  | exitLoop
  /-- Lets the event loop sleep until something happens. -/
  | sleepUntilEvent
  /-- Takes the latest paint out of the mailbox, if one waits. -/
  | collectPaint

/-- The reply to each call. -/
abbrev WorldCall.Reply : WorldCall → Type
  | driver call => call.Reply
  | openLoop => Except String Unit
  | createWindow _ _ => Except String WindowId
  | windowSize _ => Extent
  | nativeHandles _ => NativeHandles
  | requestRedraw _ => Unit
  | announcePresent _ => Unit
  | dropWindow _ => Unit
  | exitLoop => Unit
  | sleepUntilEvent => Unit
  | collectPaint => Option PaintFrame

/-- The calls to the world. -/
abbrev World : Interface where
  Call := WorldCall
  Reply := WorldCall.Reply

namespace World

variable {α : Type}

/-- A program over the driver, as a part of a program in the world. -/
def onDriver (p : Program Driver α) : Program World α := p.embed fun c => .call (.driver c) .done

/-- A program without calls, as a part of a program in the world. -/
def onNoCalls (p : Program NoCalls α) : Program World α := p.embed fun c => Empty.elim c

/-- Sets up the event loop, or says why it cannot be. -/
def openLoop : Program World (Except String Unit) := .call .openLoop .done

/-- Makes a window, or says why it cannot be made. -/
def createWindow (title : String) (size : Extent) : Program World (Except String WindowId) :=
  .call (.createWindow title size) .done

/-- The drawable size of a window. -/
def windowSize (window : WindowId) : Program World Extent := .call (.windowSize window) .done

/-- The native handles of a window. -/
def nativeHandles (window : WindowId) : Program World NativeHandles :=
  .call (.nativeHandles window) .done

/-- Asks for a redraw of a window. -/
def requestRedraw (window : WindowId) : Program World Unit := .call (.requestRedraw window) .done

/-- Tells the window system that the next thing is to present. -/
def announcePresent (window : WindowId) : Program World Unit :=
  .call (.announcePresent window) .done

/-- Closes a window for good. -/
def dropWindow (window : WindowId) : Program World Unit := .call (.dropWindow window) .done

/-- Asks the event loop to end. -/
def exitLoop : Program World Unit := .call .exitLoop .done

/-- Lets the event loop sleep until something happens. -/
def sleepUntilEvent : Program World Unit := .call .sleepUntilEvent .done

/-- Takes the latest paint out of the mailbox, if one waits. -/
def collectPaint : Program World (Option PaintFrame) := .call .collectPaint .done

end World

end PaintPresenter.Desktop
