import PaintPresenter.Base.Program
import PaintPresenter.Graphics.Error
import PaintPresenter.Vulkan.Types

/-!
# Render targets

One image view and one framebuffer for each image of a swapchain, and the render pass they share:
either all of them or none. They are made over any device that can make them.
-/

namespace PaintPresenter.Vulkan

/-- What a set of render targets asks of a device. -/
inductive TargetCall
  | newView (image : Handle .image) (format : Format)
  | newRenderPass (format : Format)
  | newFramebuffer (renderPass : Handle .renderPass) (view : Handle .view) (extent : Extent)
  | dropView (view : Handle .view)
  | dropRenderPass (renderPass : Handle .renderPass)
  | dropFramebuffer (framebuffer : Handle .framebuffer)
  deriving DecidableEq, Repr

/-- The reply to each call. -/
abbrev TargetCall.Reply : TargetCall → Type
  | newView _ _ => Except GraphicsError (Handle .view)
  | newRenderPass _ => Except GraphicsError (Handle .renderPass)
  | newFramebuffer _ _ _ => Except GraphicsError (Handle .framebuffer)
  | dropView _ => Unit
  | dropRenderPass _ => Unit
  | dropFramebuffer _ => Unit

/-- The calls that make and drop render targets. -/
abbrev TargetObjects : Interface where
  Call := TargetCall
  Reply := TargetCall.Reply

/-- Views, render pass and framebuffers of one swapchain. -/
structure TargetSet where
  views : List (Handle .view) := []
  renderPass : Handle .renderPass := .null
  framebuffers : List (Handle .framebuffer) := []
  deriving DecidableEq, Repr

namespace TargetSet

/-- An operation on a set of targets. -/
abbrev Task (α : Type) := Stateful TargetSet TargetObjects GraphicsError α

/-- Makes a view of an image. -/
def addView (format : Format) (image : Handle .image) : Task Unit := do
  let view ← .ofTask (ExceptT.mk (.call (.newView image format) .done))
  modify fun set => { set with views := set.views ++ [view] }

/-- Makes a framebuffer that draws into a view. -/
def addFramebuffer (extent : Extent) (view : Handle .view) : Task Unit := do
  let renderPass := (← get).renderPass
  let framebuffer ← .ofTask (ExceptT.mk (.call (.newFramebuffer renderPass view extent) .done))
  modify fun set => { set with framebuffers := set.framebuffers ++ [framebuffer] }

/-- Makes all views, the render pass, and all framebuffers; a failure leaves what was made. -/
def fill (images : List (Handle .image)) (format : Format) (extent : Extent) : Task Unit := do
  images.forM (addView format)
  let renderPass ← .ofTask (ExceptT.mk (.call (.newRenderPass format) .done))
  modify fun set => { set with renderPass }
  (← get).views.forM (addFramebuffer extent)

/-- Destroys a framebuffer. -/
def dropFramebuffer (framebuffer : Handle .framebuffer) : Program TargetObjects Unit :=
  .call (.dropFramebuffer framebuffer) .done

/-- Destroys a render pass unless it is null. -/
def dropRenderPass (renderPass : Handle .renderPass) : Program TargetObjects Unit :=
  if renderPass.isNull then .done () else .call (.dropRenderPass renderPass) .done

/-- Destroys an image view. -/
def dropView (view : Handle .view) : Program TargetObjects Unit := .call (.dropView view) .done

/-- Destroys framebuffers, render pass and views, in this order. -/
def destroy : StateT TargetSet (Program TargetObjects) Unit := fun set => do
  set.framebuffers.forM dropFramebuffer
  dropRenderPass set.renderPass
  set.views.forM dropView
  return ((), {})

/-- Targets for the images of a swapchain. On failure everything made so far is destroyed. -/
def build (images : List (Handle .image)) (format : Format) (extent : Extent) :
    ExceptT GraphicsError (Program TargetObjects) TargetSet := ExceptT.mk do
  match ← (fill images format extent).run {} with
  | (.ok (), set) => return .ok set
  | (.error e, set) =>
    let _ ← destroy set
    return .error e

/-- Number of images that can be drawn into. -/
def size (set : TargetSet) : Nat := set.framebuffers.length

/-- The framebuffer of an image. -/
def framebuffer? (set : TargetSet) (image : Nat) : Option (Handle .framebuffer) :=
  set.framebuffers[image]?

end TargetSet

end PaintPresenter.Vulkan
