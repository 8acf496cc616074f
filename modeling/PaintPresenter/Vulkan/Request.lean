import PaintPresenter.Vulkan.Types

/-!
# Requests for objects

What each kind of object is made with. A field with a default value is a decision made here, once,
for every object of its kind; the other fields are filled in where the object is made.
-/

namespace PaintPresenter.Vulkan

/-- A version number in one word. -/
def packVersion (major minor patch : Nat) : Nat := major <<< 22 ||| minor <<< 12 ||| patch

/-- The connection to the driver. -/
structure InstanceRequest where
  appName : String
  appVersion : Nat := packVersion 0 1 0
  engineName : String := "vkweb-engine"
  engineVersion : Nat := packVersion 0 1 0
  apiVersion : Nat := packVersion 1 0 0
  extensions : List String
  layers : List String
  deriving DecidableEq, Repr

/-- A receiver of the driver's messages: of all severities, and of every type but one. -/
structure MessengerRequest where
  severities : UInt32 := 0x1111
  types : UInt32 := 7
  deriving DecidableEq, Repr

/-- The window systems that a surface can be made for. -/
inductive SurfacePlatform
  | wayland | xlib | xcb | win32 | android
  deriving DecidableEq, Repr

/-- The device as this process uses it: one queue of one family. -/
structure DeviceRequest where
  device : Handle .physicalDevice
  queueFamily : Nat
  extensions : List String := ["VK_KHR_swapchain"]
  anisotropy : Bool

/-- A pool whose command buffers can be reset one by one. -/
structure CommandPoolRequest where
  flags : UInt32 := 2
  queueFamily : Nat
  deriving DecidableEq, Repr

/-- A pool whose sets can be freed one by one. -/
structure DescriptorPoolRequest where
  flags : UInt32 := 1
  maxSets : UInt32
  /-- Descriptor types and how many of each. -/
  sizes : List (Nat × UInt32)
  deriving DecidableEq, Repr

/-- Images drawn by one queue family, opaque, shown in order at the display's pace. -/
structure SwapchainRequest where
  surface : Handle .surface
  minImages : UInt32
  format : SurfaceFormat
  extent : Extent
  layers : Nat := 1
  /-- Color attachment. -/
  usage : UInt32 := 16
  /-- Exclusive. -/
  sharing : Nat := 0
  transform : UInt32
  /-- Opaque. -/
  alpha : UInt32 := 1
  /-- First in, first out. -/
  mode : Nat := 2
  clipped : Bool := true
  old : Handle .swapchain := .null
  deriving DecidableEq, Repr

/-- A flat image that is copied into and sampled. -/
structure ImageRequest where
  format : Format
  extent : Extent
  levels : Nat := 1
  layers : Nat := 1
  samples : Nat := 1
  /-- Optimal. -/
  tiling : Nat := 0
  /-- Target of copies, and sampled. -/
  usage : UInt32 := 6
  /-- Exclusive. -/
  sharing : Nat := 0
  layout : ImageLayout := .undefined
  deriving DecidableEq, Repr

/-- A flat view of a whole image, its channels as they are. -/
structure ViewRequest where
  image : Handle .image
  format : Format
  range : ImageRange := .color
  deriving DecidableEq, Repr

/-- What a pass has to wait for before it writes. -/
structure PassDependency where
  /-- Whatever came before the pass. -/
  source : Nat := 0xffffffff
  target : Nat := 0
  sourceStages : StageFlags := .colorOutput
  targetStages : StageFlags := .colorOutput
  sourceAccess : AccessFlags := .none
  targetAccess : AccessFlags := .colorWrite
  flags : UInt32 := 0
  deriving DecidableEq, Repr

/-- A pass that clears one attachment, writes it, and leaves it ready to be presented. Its writes
wait for the color output of the frame before. -/
structure RenderPassRequest where
  format : Format
  initial : ImageLayout := .undefined
  final : ImageLayout := .presentSource
  during : ImageLayout := .colorAttachment
  dependency : PassDependency := {}
  deriving DecidableEq, Repr

/-- The target of a pass: one view. -/
structure FramebufferRequest where
  renderPass : Handle .renderPass
  view : Handle .view
  extent : Extent
  layers : Nat := 1
  deriving DecidableEq, Repr

/-- A linear, repeating sampler of the first mip level. -/
structure SamplerRequest where
  /-- Nothing turns anisotropic filtering off. -/
  anisotropy : Option Float32

/-- Memory for one copy to the device, used by one queue family. -/
structure BufferRequest where
  bytes : Nat
  /-- Source of copies. -/
  usage : UInt32 := 1
  /-- Exclusive. -/
  sharing : Nat := 0
  deriving DecidableEq, Repr

/-- An allocation from one memory type. -/
structure MemoryRequest where
  bytes : Nat
  type : Nat
  deriving DecidableEq, Repr

/-- A request for an object of any kind that can be made. -/
inductive Creation
  | apiInstance (request : InstanceRequest)
  | messenger (request : MessengerRequest)
  | surface (platform : SurfacePlatform)
  | device (request : DeviceRequest)
  | commandPool (request : CommandPoolRequest)
  | descriptorPool (request : DescriptorPoolRequest)
  | swapchain (request : SwapchainRequest)
  | image (request : ImageRequest)
  | view (request : ViewRequest)
  | renderPass (request : RenderPassRequest)
  | framebuffer (request : FramebufferRequest)
  | semaphore
  | fence (signaled : Bool)
  | sampler (request : SamplerRequest)
  | commandBuffer (pool : Handle .commandPool)
  | buffer (request : BufferRequest)
  | memory (request : MemoryRequest)

/-- The kind of the object asked for. -/
abbrev Creation.kind : Creation → ObjectKind
  | apiInstance _ => .apiInstance
  | messenger _ => .messenger
  | surface _ => .surface
  | device _ => .device
  | commandPool _ => .commandPool
  | descriptorPool _ => .descriptorPool
  | swapchain _ => .swapchain
  | image _ => .image
  | view _ => .view
  | renderPass _ => .renderPass
  | framebuffer _ => .framebuffer
  | semaphore => .semaphore
  | fence _ => .fence
  | sampler _ => .sampler
  | commandBuffer _ => .commandBuffer
  | buffer _ => .buffer
  | memory _ => .memory

end PaintPresenter.Vulkan
