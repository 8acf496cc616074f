import PaintPresenter.Vulkan.Stack

/-!
# Applications

An application is three callbacks over a state of its own: one for window events, one for a
renderer that has just been made, one for every frame. Only the last may ask for something, and
only for what belongs to a frame. Each callback says whether the loop goes on.
-/

namespace PaintPresenter.Desktop

open Vulkan

/-- The name of a window. -/
structure WindowId where
  number : Nat
  deriving DecidableEq, Repr

/-- What can happen to a window. -/
inductive WindowEvent
  | closeRequested
  /-- The drawable size is now this. -/
  | resized (size : Extent)
  | scaleFactorChanged
  | redrawRequested
  | moved
  | destroyed
  | occluded
  | focused
  deriving DecidableEq, Repr

/-- What an application may ask for in a frame. A renderer takes further requests, such as a size or
pixels of one's own (`Renderer.Request`); an application that makes them is not described here. -/
inductive FrameRequest
  /-- Uploads the latest paint, if one waits. -/
  | uploadPaint
  /-- Draws a frame and presents it. What is drawn leaves records behind. -/
  | render (records : Drawing Recording → List LogRecord)
  /-- The drawable size of the window. -/
  | windowSize
  /-- Begins a frame without drawing it. -/
  | beginFrame
  /-- Shuts the renderer down. -/
  | shutdown

/-- The reply to each request. -/
abbrev FrameRequest.Reply : FrameRequest → Type
  | uploadPaint => Except GraphicsError (Option UploadOutcome)
  | render _ => LoopControl × Option (Drawing Recording)
  | windowSize => Extent
  | beginFrame => Except GraphicsError (FrameStatus Recording)
  | shutdown => Except GraphicsError Unit

/-- The requests of an application in a frame. -/
abbrev FrameContext : Interface where
  Call := FrameRequest
  Reply := FrameRequest.Reply

/-- No calls at all; a program may still write records. -/
abbrev NoCalls : Interface where
  Call := Empty
  Reply := nofun

/-- An application with a state of type `σ`. -/
structure App (σ : Type) where
  /-- Sees every event of the window before anything else does. -/
  onWindowEvent : WindowId → WindowEvent → StateT σ (Program NoCalls) LoopControl :=
    fun _ _ s => return (.proceed, s)
  /-- Is told about the renderer before its first frame. -/
  onRendererReady : Stack.Report → StateT σ (Program NoCalls) LoopControl :=
    fun _ s => return (.proceed, s)
  /-- Makes one frame. -/
  onFrame : WindowId → StateT σ (Program FrameContext) LoopControl

namespace FrameContext

/-- Uploads the latest paint, if one waits in the mailbox. -/
def uploadPaint : Program FrameContext (Except GraphicsError (Option UploadOutcome)) :=
  .call .uploadPaint .done

/-- Draws a frame and presents it; the reply says whether the loop goes on and what was drawn
into. -/
def render (records : Drawing Recording → List LogRecord) :
    Program FrameContext (LoopControl × Option (Drawing Recording)) :=
  .call (.render records) .done

/-- The drawable size of the window. -/
def windowSize : Program FrameContext Extent := .call .windowSize .done

/-- Begins a frame without drawing it. -/
def beginFrame : Program FrameContext (Except GraphicsError (FrameStatus Recording)) :=
  .call .beginFrame .done

/-- Shuts the renderer down. -/
def shutdown : Program FrameContext (Except GraphicsError Unit) := .call .shutdown .done

end FrameContext

end PaintPresenter.Desktop
