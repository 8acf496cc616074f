import PaintPresenter.Graphics.Interface
import PaintPresenter.Vulkan.Choice
import PaintPresenter.Vulkan.Request

/-!
# The calls to a driver

Every function of the driver that the presenter uses, as calls of a program: queries, the creation
and release of objects, operations that succeed or fail, and commands recorded into a command
buffer. There is one instance and one device at a time, so calls do not name them. What a driver
replies is left open; a statement over all replies holds for every driver.
-/

namespace PaintPresenter.Vulkan

/-- Work handed to a queue. -/
structure Submission where
  /-- Semaphores waited on, each before some stages of the work. -/
  waits : List (Handle .semaphore × StageFlags) := []
  commands : List (Handle .commandBuffer)
  /-- Semaphores signaled when the work is done. -/
  signals : List (Handle .semaphore) := []
  /-- Fence signaled when the work is done, unless null. -/
  fence : Handle .fence := .null
  deriving DecidableEq, Repr

/-- Something a driver does or fails to do. -/
inductive Operation
  | waitForFence (fence : Handle .fence) (timeoutNs : Nat)
  | resetFence (fence : Handle .fence)
  | resetCommands (buffer : Handle .commandBuffer)
  /-- Starts a recording that is submitted once. -/
  | beginCommands (buffer : Handle .commandBuffer)
  | endCommands (buffer : Handle .commandBuffer)
  | submit (queue : Handle .queue) (work : Submission)
  | queueIdle (queue : Handle .queue)
  | deviceIdle
  | bindBuffer (buffer : Handle .buffer) (memory : Handle .memory) (offset : Nat)
  | bindImage (image : Handle .image) (memory : Handle .memory) (offset : Nat)
  | mapMemory (memory : Handle .memory) (offset bytes : Nat)
  deriving DecidableEq, Repr

/-- Where and how a render pass begins: it covers the whole framebuffer. -/
structure PassBegin where
  renderPass : Handle .renderPass
  framebuffer : Handle .framebuffer
  area : Extent
  clear : Color

/-- A change of an image's layout, and what it waits for and holds back. -/
structure ImageBarrier where
  image : Handle .image
  old : ImageLayout
  new : ImageLayout
  change : LayoutChange
  range : ImageRange := .color
  deriving DecidableEq, Repr

/-- A copy of a buffer into the whole of an image. Rows follow each other without a gap, which is
what a row length and an image height of zero mean. -/
structure BufferCopy where
  buffer : Handle .buffer
  image : Handle .image
  layout : ImageLayout
  offset : Nat := 0
  rowLength : Nat := 0
  imageHeight : Nat := 0
  range : ImageRange := .color
  extent : Extent
  deriving DecidableEq, Repr

/-- A command of a recording. -/
inductive Command
  | beginPass (pass : PassBegin)
  | endPass
  | barrier (barrier : ImageBarrier)
  | copy (copy : BufferCopy)

/-- A call to the driver. -/
inductive DriverCall
  /-- Loads the driver's library. -/
  | loadLibrary
  | layers
  | create (request : Creation)
  | release (object : Object)
  | devices
  | queueFamilies (device : Handle .physicalDevice)
  | presents (device : Handle .physicalDevice) (family : Nat) (surface : Handle .surface)
  | properties (device : Handle .physicalDevice)
  /-- Whether the device can filter anisotropically. -/
  | anisotropy (device : Handle .physicalDevice)
  | memory (device : Handle .physicalDevice)
  | queue (family : Nat)
  | surfaceLimits (device : Handle .physicalDevice) (surface : Handle .surface)
  | surfaceFormats (device : Handle .physicalDevice) (surface : Handle .surface)
  | swapchainImages (swapchain : Handle .swapchain)
  | bufferNeeds (buffer : Handle .buffer)
  | imageNeeds (image : Handle .image)
  | perform (operation : Operation)
  | acquire (swapchain : Handle .swapchain) (timeoutNs : Nat) (semaphore : Handle .semaphore)
  | present (queue : Handle .queue) (wait : Handle .semaphore) (swapchain : Handle .swapchain)
      (image : UInt32)
  | record (buffer : Handle .commandBuffer) (command : Command)
  | freeCommands (pool : Handle .commandPool) (buffer : Handle .commandBuffer)
  /-- Stores bytes at the start of mapped memory. -/
  | store (memory : Handle .memory) (bytes : ByteArray)
  | unmap (memory : Handle .memory)

/-- The reply to each call. -/
abbrev DriverCall.Reply : DriverCall → Type
  | loadLibrary => Bool
  | layers => Except ResultCode (List NameField)
  | create request => Except ResultCode (Handle request.kind)
  | release _ => Unit
  | devices => Except ResultCode (List (Handle .physicalDevice))
  | queueFamilies _ => List QueueFamily
  | presents _ _ _ => Except ResultCode Bool
  | properties _ => DeviceProperties
  | anisotropy _ => Bool
  | memory _ => MemoryTable
  | queue _ => Handle .queue
  | surfaceLimits _ _ => Except ResultCode SurfaceLimits
  | surfaceFormats _ _ => Except ResultCode (List SurfaceFormat)
  | swapchainImages _ => Except ResultCode (List (Handle .image))
  | bufferNeeds _ => MemoryRequirements
  | imageNeeds _ => MemoryRequirements
  | perform _ => Except ResultCode Unit
  | acquire _ _ _ => Except ResultCode AcquiredImage
  -- Whether the presented swapchain is suboptimal.
  | present _ _ _ _ => Except ResultCode Bool
  | record _ _ => Unit
  | freeCommands _ _ => Unit
  | store _ _ => Unit
  | unmap _ => Unit

/-- The calls to a driver. -/
abbrev Driver : Interface where
  Call := DriverCall
  Reply := DriverCall.Reply

/-! ## Names of functions -/

/-- The driver's name for the window system of a surface. -/
def SurfacePlatform.word : SurfacePlatform → String
  | wayland => "Wayland"
  | xlib => "Xlib"
  | xcb => "Xcb"
  | win32 => "Win32"
  | android => "Android"

/-- The function that makes an object. -/
def Creation.function : Creation → String
  | apiInstance _ => "vkCreateInstance"
  | messenger _ => "vkCreateDebugUtilsMessengerEXT"
  | surface platform =>
    let word := platform.word
    s!"vkCreate{word}SurfaceKHR"
  | device _ => "vkCreateDevice"
  | commandPool _ => "vkCreateCommandPool"
  | descriptorPool _ => "vkCreateDescriptorPool"
  | swapchain _ => "vkCreateSwapchainKHR"
  | image _ => "vkCreateImage"
  | view _ => "vkCreateImageView"
  | renderPass _ => "vkCreateRenderPass"
  | framebuffer _ => "vkCreateFramebuffer"
  | semaphore => "vkCreateSemaphore"
  | fence _ => "vkCreateFence"
  | sampler _ => "vkCreateSampler"
  | commandBuffer _ => "vkAllocateCommandBuffers"
  | buffer _ => "vkCreateBuffer"
  | memory _ => "vkAllocateMemory"

/-- The function that an error of a creation names: surfaces of all window systems share one. -/
def Creation.errorName : Creation → String
  | surface _ => "vkCreateSurfaceKHR"
  | request => request.function

/-- The function of an operation. -/
def Operation.function : Operation → String
  | waitForFence _ _ => "vkWaitForFences"
  | resetFence _ => "vkResetFences"
  | resetCommands _ => "vkResetCommandBuffer"
  | beginCommands _ => "vkBeginCommandBuffer"
  | endCommands _ => "vkEndCommandBuffer"
  | submit _ _ => "vkQueueSubmit"
  | queueIdle _ => "vkQueueWaitIdle"
  | deviceIdle => "vkDeviceWaitIdle"
  | bindBuffer _ _ _ => "vkBindBufferMemory"
  | bindImage _ _ _ => "vkBindImageMemory"
  | mapMemory _ _ _ => "vkMapMemory"

/-! ## Calls as parts of programs -/

namespace Driver

/-- A part of a program over the driver that may fail. -/
abbrev Task (α : Type) := ExceptT GraphicsError (Program Driver) α

/-- A reply of the driver as a task, its failure named after a function. -/
def checked {α : Type} (function : String) (call : Program Driver (Except ResultCode α)) : Task α :=
  ExceptT.mk do
    return (← call).mapError (GraphicsError.ofResult function)

/-- Writes one record on the presenter's channel. -/
def log (level : LogLevel) (text : String) : Task Unit := ExceptT.lift (Program.log level text)

/-- Makes an object. -/
def create (request : Creation) : Task (Handle request.kind) :=
  checked request.errorName (.call (.create request) .done)

/-- Destroys an object or frees memory. -/
def release {kind : ObjectKind} (handle : Handle kind) : Program Driver Unit :=
  .call (.release handle.object) .done

/-- Does an operation. -/
def perform (operation : Operation) : Task Unit :=
  checked operation.function (.call (.perform operation) .done)

/-- Records a command. -/
def record (buffer : Handle .commandBuffer) (command : Command) : Program Driver Unit :=
  .call (.record buffer command) .done

/-- Blocks until the device has finished all work. -/
def deviceIdle : Task Unit := perform .deviceIdle

/-- The physical devices of the instance. -/
def devices : Task (List (Handle .physicalDevice)) :=
  checked "vkEnumeratePhysicalDevices" (.call .devices .done)

/-- The queue families of a device, in the order of their indices. -/
def queueFamilies (device : Handle .physicalDevice) : Program Driver (List QueueFamily) :=
  .call (.queueFamilies device) .done

/-- What a device says about itself. -/
def properties (device : Handle .physicalDevice) : Program Driver DeviceProperties :=
  .call (.properties device) .done

/-- Whether a device can sample anisotropically. -/
def anisotropy (device : Handle .physicalDevice) : Program Driver Bool :=
  .call (.anisotropy device) .done

/-- The memory types and heaps of a device. -/
def memory (device : Handle .physicalDevice) : Program Driver MemoryTable :=
  .call (.memory device) .done

/-- The first queue of a family. -/
def queue (family : Nat) : Program Driver (Handle .queue) := .call (.queue family) .done

/-- What a surface allows a swapchain to be, on a device. -/
def surfaceLimits (device : Handle .physicalDevice) (surface : Handle .surface) :
    Task SurfaceLimits :=
  checked "vkGetPhysicalDeviceSurfaceCapabilitiesKHR" (.call (.surfaceLimits device surface) .done)

/-- The formats that a surface takes, in the driver's order. -/
def surfaceFormats (device : Handle .physicalDevice) (surface : Handle .surface) :
    Task (List SurfaceFormat) :=
  checked "vkGetPhysicalDeviceSurfaceFormatsKHR" (.call (.surfaceFormats device surface) .done)

/-- The images that a swapchain owns. -/
def swapchainImages (swapchain : Handle .swapchain) : Task (List (Handle .image)) :=
  checked "vkGetSwapchainImagesKHR" (.call (.swapchainImages swapchain) .done)

/-- The memory that a buffer needs. -/
def bufferNeeds (buffer : Handle .buffer) : Program Driver MemoryRequirements :=
  .call (.bufferNeeds buffer) .done

/-- The memory that an image needs. -/
def imageNeeds (image : Handle .image) : Program Driver MemoryRequirements :=
  .call (.imageNeeds image) .done

/-- Gives a command buffer back to its pool. -/
def freeCommands (pool : Handle .commandPool) (buffer : Handle .commandBuffer) :
    Program Driver Unit :=
  .call (.freeCommands pool buffer) .done

/-- Writes bytes to the start of mapped memory. -/
def store (memory : Handle .memory) (bytes : ByteArray) : Program Driver Unit :=
  .call (.store memory bytes) .done

/-- Takes mapped memory out of the program's reach. -/
def unmap (memory : Handle .memory) : Program Driver Unit := .call (.unmap memory) .done

/-! ## Tasks that clean up -/

/-- Runs a task; if it fails, undoes what was done before it. -/
def undoing {α : Type} (undo : Program Driver Unit) (task : Task α) : Task α := ExceptT.mk do
  match ← task.run with
  | .ok a => return .ok a
  | .error e =>
    undo
    return .error e

/-- Runs a task and then closes what it used, also when it failed. -/
def closing {α : Type} (close : Program Driver Unit) (task : Task α) : Task α := ExceptT.mk do
  let result ← task.run
  close
  return result

end Driver

end PaintPresenter.Vulkan
