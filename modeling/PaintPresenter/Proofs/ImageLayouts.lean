import Mathlib.Logic.Function.Basic
import PaintPresenter.Proofs.DriverConduct

/-!
# Layouts of images in queue order

What becomes of an image is decided by the commands that were handed over, in their order, since the
image was made: its layout is the one that the last barrier changed it to, a copy has to come after
what was sampled before, and what is sampled has to come after the copies before. Any render pass
may sample any image. A call that fails does nothing, so that work which was not accepted leaves no
trace; everything else a driver may reply as it likes.
-/

namespace PaintPresenter.Vulkan

/-- What happens to images: one is made, or a command is executed. -/
inductive QueueEvent
  | made (image : Handle .image)
  | command (command : Command)

/-! ## Barriers -/

namespace LayoutChange

/-- What one stage did before is done and there for what another stage does afterwards. -/
def Orders (c : LayoutChange) (stage : StageFlags) (access : AccessFlags) (laterStage : StageFlags)
    (laterAccess : AccessFlags) : Prop :=
  hasFlags c.sourceStage stage ∧ hasFlags c.sourceAccess access ∧
    hasFlags c.targetStage laterStage ∧ hasFlags c.targetAccess laterAccess

/-- What samples an image comes before what is copied into it afterwards. -/
def AfterSampling (c : LayoutChange) : Prop :=
  c.Orders .fragmentShader .shaderRead .transfer .transferWrite

/-- What is copied into an image comes before what samples it afterwards. -/
def BeforeSampling (c : LayoutChange) : Prop :=
  c.Orders .transfer .transferWrite .fragmentShader .shaderRead

end LayoutChange

/-! ## Histories -/

namespace Handle

variable (image : Handle .image)

/-- The layout that an image is in after some events, latest first. -/
def layout? : List QueueEvent → Option ImageLayout
  | [] => none
  | .made other :: earlier => if other = image then some .undefined else layout? earlier
  | .command (.barrier b) :: earlier => if b.image = image then some b.new else layout? earlier
  | _ :: earlier => layout? earlier

/-- No barrier has changed an image since it was made. -/
def Fresh : List QueueEvent → Prop
  | [] => False
  | .made other :: earlier => other = image ∨ Fresh earlier
  | .command (.barrier b) :: earlier => b.image ≠ image ∧ Fresh earlier
  | _ :: earlier => Fresh earlier

/-- A copy into an image comes after all that may have sampled it. -/
def DoneSampling : List QueueEvent → Prop
  | [] => True
  | .made other :: earlier => other = image ∨ DoneSampling earlier
  | .command (.barrier b) :: earlier =>
    b.image = image ∧ b.change.AfterSampling ∨ DoneSampling earlier
  | .command (.beginPass _) :: _ => False
  | .command _ :: earlier => DoneSampling earlier

/-- What samples an image comes after all copies into it. -/
def DoneCopying : List QueueEvent → Prop
  | [] => True
  | .made other :: earlier => other = image ∨ DoneCopying earlier
  | .command (.barrier b) :: earlier =>
    b.image = image ∧ b.change.BeforeSampling ∨ DoneCopying earlier
  | .command (.copy region) :: earlier => region.image ≠ image ∧ DoneCopying earlier
  | .command _ :: earlier => DoneCopying earlier

end Handle

/-- A command may be executed after some events: a barrier names the layout that its image is in,
which is undefined for a fresh image only; a copy finds its image as its target and not sampled any
more; a render pass finds every copy done. -/
def Command.Fits (earlier : List QueueEvent) : Command → Prop
  | .barrier b => b.range = .color ∧ b.image.layout? earlier = some b.old ∧
    (b.old = .undefined → b.image.Fresh earlier)
  | .copy region => region.layout = .transferTarget ∧
    region.image.layout? earlier = some .transferTarget ∧ region.image.DoneSampling earlier
  | .beginPass _ => ∀ image : Handle .image, image.DoneCopying earlier
  | .endPass => True

/-- Every one of some commands fits what comes before it. -/
def Orderly : List QueueEvent → List Command → Prop
  | _, [] => True
  | earlier, command :: later =>
    command.Fits earlier ∧ Orderly (.command command :: earlier) later

/-- The events after some commands. -/
def extendBy (earlier : List QueueEvent) (commands : List Command) : List QueueEvent :=
  (commands.map QueueEvent.command).reverse ++ earlier

/-! ## The driver -/

/-- What a driver keeps of recordings and of what was handed over. -/
structure LayoutState where
  live : List Object := []
  recorded : Handle .commandBuffer → List Command := fun _ => []
  /-- Latest first. -/
  events : List QueueEvent := []

namespace LayoutState

/-- A new image has no past, and neither has a new command buffer. -/
def make (s : LayoutState) : (request : Creation) → Handle request.kind → LayoutState
  | .image _, image =>
    { s with live := image.object :: s.live, events := .made image :: s.events }
  | .commandBuffer _, commands =>
    { s with
      live := commands.object :: s.live
      recorded := Function.update s.recorded commands [] }
  | _, made => { s with live := made.object :: s.live }

/-- An object is gone. -/
def drop (s : LayoutState) (o : Object) : LayoutState := { s with live := s.live.filter (· ≠ o) }

/-- A command buffer holds other commands. -/
def rerecord (s : LayoutState) (commands : Handle .commandBuffer) (recorded : List Command) :
    LayoutState :=
  { s with recorded := Function.update s.recorded commands recorded }

/-- The commands of a submission, in their order. -/
def commandsOf (s : LayoutState) (work : Submission) : List Command :=
  work.commands.flatMap s.recorded

/-- What a call and its reply do. A call that fails does nothing. -/
def Effect (s : LayoutState) : (c : DriverCall) → c.Reply → LayoutState → Prop
  | .create request, .ok made, t =>
    made ≠ .null ∧ made.object ∉ s.live ∧ t = s.make request made
  | .release o, (), t => t = s.drop o
  | .freeCommands _ commands, (), t => t = s.drop commands.object
  | .perform (.resetCommands commands), .ok (), t => t = s.rerecord commands []
  | .perform (.beginCommands commands), .ok (), t => t = s.rerecord commands []
  | .record commands command, (), t =>
    t = s.rerecord commands (s.recorded commands ++ [command])
  | .perform (.submit _ work), .ok (), t =>
    t = { s with events := extendBy s.events (s.commandsOf work) }
  | _, _, t => t = s

end LayoutState

/-- The driver as a world. -/
def layoutWorld : Program.World Driver LayoutState where
  step := LayoutState.Effect

end PaintPresenter.Vulkan
