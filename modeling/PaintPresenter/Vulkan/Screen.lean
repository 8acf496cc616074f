import PaintPresenter.Vulkan.Rig
import PaintPresenter.Vulkan.TargetSet

/-!
# The screen

The swapchain of the rig's surface together with the render targets on its images. Between
operations it is whole or empty: a step that fails takes the others back.
-/

namespace PaintPresenter.Vulkan

/-- Makes and drops render targets on a driver. -/
def TargetCall.onDriver : (call : TargetCall) → Program Driver call.Reply
  | newView image format => (Driver.create (.view { image, format })).run
  | newRenderPass format => (Driver.create (.renderPass { format })).run
  | newFramebuffer renderPass view extent =>
    (Driver.create (.framebuffer { renderPass, view, extent })).run
  | dropView view => Driver.release view
  | dropRenderPass renderPass => Driver.release renderPass
  | dropFramebuffer framebuffer => Driver.release framebuffer

/-- A swapchain with everything that depends on its size. -/
structure Screen where
  swapchain : Handle .swapchain := .null
  images : List (Handle .image) := []
  targets : TargetSet := {}
  format : SurfaceFormat := preferredFormat
  extent : Extent
  minImages : UInt32 := 0

namespace Screen

/-- An operation on a screen and a driver. -/
abbrev Task (α : Type) := Stateful Screen Driver GraphicsError α

/-- Reads what the surface allows and settles on format, size and number of images. -/
def settle (rig : Rig) (requested : Extent) : Task SwapchainRequest := do
  let limits ← .ofTask (Driver.surfaceLimits rig.physicalDevice rig.surface)
  let formats ← .ofTask (Driver.surfaceFormats rig.physicalDevice rig.surface)
  match chooseFormat? formats with
  | none => throw (.driver "vkGetPhysicalDeviceSurfaceFormatsKHR" .formatNotSupported)
  | some format =>
    modify fun s => { s with format }
    let extent ← .ofProgram (.require .crossedRange (limits.extentFor? requested))
    modify fun s => { s with extent }
    let minImages ← .ofProgram (.require .overflow limits.imageCount?)
    modify fun s => { s with minImages }
    return { surface := rig.surface, minImages, format, extent, transform := limits.transform }

/-- Makes the swapchain and its render targets. A failure leaves what was made. -/
def fill (rig : Rig) (requested : Extent) : Task Unit := do
  let request ← settle rig requested
  let swapchain ← .ofTask (Driver.create (.swapchain request))
  modify fun s => { s with swapchain }
  let images ← .ofTask (Driver.swapchainImages swapchain)
  modify fun s => { s with images }
  let size := request.extent.text
  let format := request.format.format.name
  let count := images.length
  Stateful.log .info s!"swapchain {size} {format}, {count} images (requested {request.minImages})"
  let targets ← .ofTask <| ExceptT.mk <|
    (TargetSet.build images request.format.format request.extent).run.embed TargetCall.onDriver
  modify fun s => { s with targets }

/-- Destroys render targets and swapchain, in this order. -/
def destroy : StateT Screen (Program Driver) Unit := fun s => do
  let ((), targets) ← (TargetSet.destroy s.targets).embed TargetCall.onDriver
  Rig.releaseUnlessNull s.swapchain
  return ((), { s with targets, swapchain := .null, images := [] })

/-- Fills an empty screen, or leaves it empty. -/
def fillOrDestroy (rig : Rig) (requested : Extent) : Task Unit := do
  match ← (fill rig requested).attempt with
  | .ok () => return
  | .error e =>
    .ofAction destroy
    throw e

/-- A screen of the requested size, as far as the surface leaves the size open. -/
def create (rig : Rig) (requested : Extent) : Driver.Task Screen := ExceptT.mk do
  let (result, screen) ← (fillOrDestroy rig requested).run { extent := requested }
  return result.map fun _ => screen

/-- Takes the screen down and puts it up again. The device must be idle. -/
def rebuild (rig : Rig) (requested : Extent) : Task Unit := do
  let size := requested.text
  Stateful.log .info s!"recreating swapchain at {size}"
  .ofAction destroy
  fillOrDestroy rig requested

end Screen

end PaintPresenter.Vulkan
