import PaintPresenter.Base.Program
import PaintPresenter.Graphics.Color
import PaintPresenter.Graphics.Pixels
import PaintPresenter.Vulkan.Types

/-!
# What a renderer asks of a graphics stack

The calls that a renderer makes, one frame in flight at a time. A stack keeps one fence: a
successful wait leaves it unsignaled; an accepted submission, a failed acquire and a successful
rebuild make it signaled again. The types of textures and of recordings are the stack's own.
-/

namespace PaintPresenter

/-- An image of the swapchain to draw into. -/
structure AcquiredImage where
  index : UInt32
  /-- The image can be used, but the swapchain no longer fits its surface. -/
  suboptimal : Bool
  deriving DecidableEq, Repr

/-- What became of an image queued for presentation. -/
inductive PresentOutcome
  | presented
  /-- Presented, but the swapchain no longer fits its surface. -/
  | suboptimal
  /-- Not presented; the surface has to be rebuilt. -/
  | outOfDate
  deriving DecidableEq, Repr

/-- What a user interface needs to sample the texture. -/
structure TextureBinding where
  view : Vulkan.Handle .view
  sampler : Vulkan.Handle .sampler
  /-- The layout the image is in whenever a frame samples it. -/
  layout : Vulkan.ImageLayout
  extent : Extent
  deriving DecidableEq, Repr

/-- A call to a graphics stack whose textures are of type `τ`. -/
inductive GraphicsCall (τ : Type)
  /-- The size of the swapchain. -/
  | extent
  /-- Blocks until the previous submission is done, then resets the fence. -/
  | waitForPrevious
  /-- Takes the next image. Any failure leaves the fence signaled. -/
  | acquire
  /-- Starts recording into an image, cleared to a color. -/
  | beginPass (image : UInt32) (clear : Color)
  /-- Ends the recording. -/
  | endPass
  /-- Submits the recording and queues the image for presentation. -/
  | present (image : UInt32)
  /-- Waits until the device is idle and rebuilds everything that depends on the size. -/
  | rebuild (extent : Extent)
  | createTexture (pixels : PixelBuffer)
  /-- Overwrites a texture of the same size. -/
  | updateTexture (texture : τ) (pixels : PixelBuffer)
  /-- Releases a texture that the device does not use. -/
  | releaseTexture (texture : τ)
  /-- How to sample a texture. -/
  | binding (texture : τ)
  | waitIdle
  /-- Releases every object left; a second time it does nothing. -/
  | tearDown

namespace GraphicsCall

/-- The reply to each call; recordings are of type `ρ`. -/
abbrev Reply {τ : Type} (ρ : Type) : GraphicsCall τ → Type
  | extent => Extent
  | waitForPrevious => Except GraphicsError Unit
  | acquire => Except GraphicsError AcquiredImage
  | beginPass _ _ => Except GraphicsError ρ
  | endPass => Except GraphicsError Unit
  | present _ => Except GraphicsError PresentOutcome
  | rebuild _ => Except GraphicsError Unit
  | createTexture _ => Except GraphicsError τ
  | updateTexture _ _ => Except GraphicsError Unit
  | releaseTexture _ => Unit
  | binding _ => TextureBinding
  | waitIdle => Except GraphicsError Unit
  | tearDown => Unit

end GraphicsCall

/-- The calls of a renderer to a stack with textures `τ` and recordings `ρ`. -/
abbrev Graphics (τ ρ : Type) : Interface where
  Call := GraphicsCall τ
  Reply := GraphicsCall.Reply ρ

namespace Graphics

variable {τ ρ : Type}

/-- A call that may fail, as a task. -/
abbrev Task (τ ρ α : Type) := ExceptT GraphicsError (Program (Graphics τ ρ)) α

/-- The size of the swapchain. -/
def extent : Program (Graphics τ ρ) Extent := .call .extent .done

/-- Waits until the work of the previous frame is finished. -/
def waitForPrevious : Task τ ρ Unit := ExceptT.mk (.call .waitForPrevious .done)

/-- Acquires the next image to draw to. -/
def acquire : Task τ ρ AcquiredImage := ExceptT.mk (.call .acquire .done)

/-- Begins a render pass over an image, cleared to a color. -/
def beginPass (image : UInt32) (clear : Color) : Task τ ρ ρ :=
  ExceptT.mk (.call (.beginPass image clear) .done)

/-- Ends the render pass and its recording. -/
def endPass : Task τ ρ Unit := ExceptT.mk (.call .endPass .done)

/-- Submits what was recorded and presents the image. -/
def present (image : UInt32) : Task τ ρ PresentOutcome :=
  ExceptT.mk (.call (.present image) .done)

/-- Builds the swapchain and its targets anew for a size. -/
def rebuild (extent : Extent) : Task τ ρ Unit := ExceptT.mk (.call (.rebuild extent) .done)

/-- Uploads pixels as a new texture. -/
def createTexture (pixels : PixelBuffer) : Task τ ρ τ :=
  ExceptT.mk (.call (.createTexture pixels) .done)

/-- Uploads pixels into a texture of their size. -/
def updateTexture (texture : τ) (pixels : PixelBuffer) : Task τ ρ Unit :=
  ExceptT.mk (.call (.updateTexture texture pixels) .done)

/-- Gives a texture back. -/
def releaseTexture (texture : τ) : Program (Graphics τ ρ) Unit :=
  .call (.releaseTexture texture) .done

/-- How shaders are to sample a texture. -/
def binding (texture : τ) : Program (Graphics τ ρ) TextureBinding :=
  .call (.binding texture) .done

/-- Waits until the device has nothing left to do. -/
def waitIdle : Task τ ρ Unit := ExceptT.mk (.call .waitIdle .done)

/-- Destroys everything the stack holds. -/
def tearDown : Program (Graphics τ ρ) Unit := .call .tearDown .done

end Graphics

end PaintPresenter
