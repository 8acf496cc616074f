/-!
# Object handles

Every object of a driver is named by a number among the objects of its kind; zero names none.
-/

namespace PaintPresenter.Vulkan

/-- The kinds of objects. -/
inductive ObjectKind
  | apiInstance | messenger | surface | physicalDevice | device | queue | commandPool
  | descriptorPool | swapchain | image | view | renderPass | framebuffer | semaphore | fence
  | sampler | commandBuffer | buffer | memory
  deriving DecidableEq, Repr

/-- The word a kind is written with. -/
def ObjectKind.word : ObjectKind → String
  | .apiInstance => "instance"
  | .messenger => "messenger"
  | .surface => "surface"
  | .physicalDevice => "physical_device"
  | .device => "device"
  | .queue => "queue"
  | .commandPool => "command_pool"
  | .descriptorPool => "descriptor_pool"
  | .swapchain => "swapchain"
  | .image => "image"
  | .view => "view"
  | .renderPass => "render_pass"
  | .framebuffer => "framebuffer"
  | .semaphore => "semaphore"
  | .fence => "fence"
  | .sampler => "sampler"
  | .commandBuffer => "command_buffer"
  | .buffer => "buffer"
  | .memory => "memory"

/-- The name of an object of one kind. -/
structure Handle (kind : ObjectKind) where
  number : Nat
  deriving DecidableEq, Repr

namespace Handle

variable {kind : ObjectKind}

/-- The handle that names nothing. -/
def null : Handle kind := ⟨0⟩

/-- No object is named. -/
def isNull (h : Handle kind) : Bool := h.number == 0

/-- The null check finds exactly the null handle. -/
@[simp] theorem isNull_iff (h : Handle kind) : h.isNull = true ↔ h = null := by
  cases h
  simp [isNull, null]

/-- The null handle passes the null check. -/
@[simp] theorem isNull_null : (null : Handle kind).isNull = true := rfl

end Handle

/-- An object of any kind. -/
structure Object where
  kind : ObjectKind
  number : Nat
  deriving DecidableEq, Repr

/-- An object in writing: its kind and its number. -/
def Object.text (o : Object) : String :=
  let word := o.kind.word
  s!"{word}:{o.number}"

/-- The object that a handle names. -/
def Handle.object {kind : ObjectKind} (h : Handle kind) : Object := ⟨kind, h.number⟩

/-- Handles of one kind name the same object only when they are equal. -/
theorem Handle.object_inj {kind : ObjectKind} {a b : Handle kind} :
    a.object = b.object ↔ a = b := by
  cases a
  cases b
  simp [Handle.object]

end PaintPresenter.Vulkan
