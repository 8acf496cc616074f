import PaintPresenter.Desktop.Host
import PaintPresenter.Paint.Pattern

/-!
# The viewer

The application that shows a painter's frames: every frame uploads the latest paint and draws. A
failed upload costs nothing but the new picture.
-/

namespace PaintPresenter.Desktop

open Vulkan

/-- The state of a viewer. -/
structure Viewer where
  /-- Paints uploaded so far. The count has no bound here; a program keeps it in 64 bits, which no
  run of it can fill. -/
  uploads : Nat := 0
  /-- The painter is to go on; it stops before the renderer goes away. -/
  painting : Bool := true
  deriving DecidableEq, Repr

namespace Viewer

/-- The channel of the viewer's records. -/
def channel : String := "vkweb_studio"

/-- Writes a record on the viewer's channel. -/
def note {I : Interface} (level : LogLevel) (text : String) : Program I Unit :=
  .note ⟨level, channel, text⟩ (.done ())

/-- How the viewer's window looks. -/
def look : WindowSettings := { title := "vkweb studio" }

/-- A dark gray background. -/
def graphics : GraphicsSettings :=
  { appName := "vkweb-studio", clear := .ofSrgbBytes 0x1e 0x1e 0x24 0xff }

/-- Stops the painter before the window closes. -/
def onWindowEvent (_ : WindowId) (event : WindowEvent) :
    StateT Viewer (Program NoCalls) LoopControl :=
  fun v => do
    if event = .closeRequested then
      note .info s!"closing after {v.uploads} texture uploads"
      return (.proceed, { v with painting := false })
    return (.proceed, v)

/-- Says what a user interface could bind to. -/
def onRendererReady (report : Stack.Report) : StateT Viewer (Program NoCalls) LoopControl :=
  fun v => do
    note .info <| s!"UI backend can bind: queue family {report.queueFamily}, " ++
      s!"{report.imageCount} swapchain images (min {report.minImages})"
    return (.proceed, v)

/-- Uploads the latest paint; without a texture the frame is drawn all the same. -/
def upload : StateT Viewer (Program FrameContext) Unit := fun v => do
  match ← FrameContext.uploadPaint with
  | .ok (some outcome) =>
    if outcome ≠ .updated then note .info s!"browser texture {outcome.name}"
    return ((), { v with uploads := v.uploads + 1 })
  | .ok none => return ((), v)
  | .error e =>
    let what := if e.isRecoverable then "skipped" else "failed"
    note .warn s!"upload {what}: {e.message}"
    return ((), v)

/-- The record of a drawing that shows the texture. -/
def records (drawing : Drawing Recording) : List LogRecord :=
  drawing.binding.toList.map fun binding =>
    let size := binding.extent.text
    let layout := binding.layout.name
    ⟨.trace, channel, s!"frame on image {drawing.frame.image}: texture {size} in {layout}"⟩

/-- Uploads and draws. -/
def onFrame (_ : WindowId) : StateT Viewer (Program FrameContext) LoopControl := do
  upload
  let (control, _) ← FrameContext.render records
  return control

/-- The viewer as an application. -/
def app : App Viewer := { onWindowEvent, onRendererReady, onFrame }

/-- The viewer and its host, before the first event. -/
def host : Host Viewer := { look, graphics, app := {} }

/-- The view that the painter starts on. -/
def mailbox (plan : PainterPlan) : Except Fault (Except PaintRefusal PaintMailbox) :=
  PaintMailbox.create plan.first

end Viewer

end PaintPresenter.Desktop
