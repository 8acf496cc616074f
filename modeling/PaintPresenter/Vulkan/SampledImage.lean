import PaintPresenter.Graphics.Pixels
import PaintPresenter.Vulkan.Rig

/-!
# Sampled images

An upload goes through a fresh staging buffer and a recording of its own: the pixels are stored
into mapped memory, copied into the image between two layout changes, and the queue is waited on
before the staging buffer is released. Before and after every upload that succeeds, the image is
in the layout that frames sample it in.
-/

namespace PaintPresenter.Vulkan

/-- Makes the sampler that all textures share. -/
def createSampler (rig : Rig) : Driver.Task (Handle .sampler) := do
  let anisotropy := samplerAnisotropy? rig.anisotropyLimit
  let sampler ← Driver.create (.sampler { anisotropy })
  let shown := match anisotropy with
    | some limit =>
      let limit := Binary32.decimalText limit
      s!"Some({limit})"
    | none => "None"
  Driver.log .debug s!"texture sampler created (anisotropy: {shown})"
  return sampler

/-- Allocates memory that meets the needs of a buffer or an image and has the given properties. -/
def allocate (rig : Rig) (needs : MemoryRequirements) (flags : MemoryFlags) :
    Driver.Task (Handle .memory) := do
  match rig.memory.typeFor? needs.typeBits flags with
  | some type => Driver.create (.memory { bytes := needs.bytes, type })
  | none => throw .noCompatibleMemory

/-! ## Staging buffers -/

/-- A buffer with memory of its own that the host can write. -/
structure StagingBuffer where
  buffer : Handle .buffer
  memory : Handle .memory
  bytes : Nat
  deriving DecidableEq, Repr

namespace StagingBuffer

/-- Releases the buffer and its memory. -/
def release (s : StagingBuffer) : Program Driver Unit := do
  Driver.release s.buffer
  Driver.release s.memory

/-- A buffer of the given size. -/
def create (rig : Rig) (bytes : Nat) : Driver.Task StagingBuffer := do
  let buffer ← Driver.create (.buffer { bytes })
  let needs ← Driver.bufferNeeds buffer
  let memory ← Driver.undoing (Driver.release buffer)
    (allocate rig needs (MemoryFlags.hostVisible ||| MemoryFlags.hostCoherent))
  let staging : StagingBuffer := ⟨buffer, memory, bytes⟩
  Driver.undoing staging.release (Driver.perform (.bindBuffer buffer memory 0))
  return staging

/-- Stores an image of exactly the buffer's size into it. -/
def fill (s : StagingBuffer) (pixels : PixelBuffer) : Driver.Task Unit := do
  Driver.perform (.mapMemory s.memory 0 s.bytes)
  Driver.store s.memory pixels.rgba
  Driver.unmap s.memory

/-- A buffer that holds an image as textures store it. -/
def ofPixels (rig : Rig) (pixels : PixelBuffer) : Driver.Task StagingBuffer := do
  let staging ← create rig pixels.length
  Driver.undoing staging.release (staging.fill pixels)
  return staging

end StagingBuffer

/-! ## Copies -/

/-- Records a layout change of an image; only those that uploads make are possible. -/
def changeLayout (commands : Handle .commandBuffer) (image : Handle .image)
    (old new : ImageLayout) : Driver.Task Unit := do
  match LayoutChange.between? old new with
  | some change => Driver.record commands (.barrier { image, old, new, change })
  | none => throw (.driver "vkCmdPipelineBarrier" .formatNotSupported)

/-- Records a copy of a staging buffer into the whole of an image that is in layout `old`. -/
def recordCopy (commands : Handle .commandBuffer) (staging : StagingBuffer)
    (image : Handle .image) (extent : Extent) (old : ImageLayout) : Driver.Task Unit := do
  Driver.perform (.beginCommands commands)
  changeLayout commands image old .transferTarget
  Driver.record commands
    (.copy { buffer := staging.buffer, image, layout := .transferTarget, extent })
  changeLayout commands image .transferTarget .shaderReadOnly
  Driver.perform (.endCommands commands)

/-- Copies a staging buffer into the whole of an image and waits until the queue is idle. -/
def copyIntoImage (rig : Rig) (staging : StagingBuffer) (image : Handle .image)
    (extent : Extent) (old : ImageLayout) : Driver.Task Unit := do
  let commands ← Driver.create (.commandBuffer rig.commandPool)
  Driver.closing (Driver.freeCommands rig.commandPool commands) do
    recordCopy commands staging image extent old
    Driver.perform (.submit rig.queue { commands := [commands] })
    Driver.perform (.queueIdle rig.queue)

/-! ## Images -/

/-- The format of textures: the bytes of a pixel are red, green, blue, alpha. -/
def textureFormat : Format := .rgba8Unorm

/-- An image on the device that frames sample. Its size never changes. -/
structure SampledImage where
  image : Handle .image
  memory : Handle .memory
  view : Handle .view
  extent : Extent
  deriving DecidableEq, Repr

namespace SampledImage

/-- Releases an image without a view. -/
def releaseBare (image : Handle .image) (memory : Handle .memory) : Program Driver Unit := do
  Driver.release image
  Driver.release memory

/-- Makes an image with memory of its own on the device. -/
def createBare (rig : Rig) (extent : Extent) :
    Driver.Task (Handle .image × Handle .memory) := do
  let image ← Driver.create (.image { format := textureFormat, extent })
  let needs ← Driver.imageNeeds image
  let memory ← Driver.undoing (Driver.release image) (allocate rig needs MemoryFlags.deviceLocal)
  Driver.undoing (releaseBare image memory) (Driver.perform (.bindImage image memory 0))
  return (image, memory)

/-- Makes an image that holds pixels, ready to be sampled. On failure nothing is left of it. -/
def create (rig : Rig) (pixels : PixelBuffer) : Driver.Task SampledImage := do
  let extent := pixels.extent
  let staging ← StagingBuffer.ofPixels rig pixels
  let (image, memory) ← Driver.undoing staging.release (createBare rig extent)
  let view ← Driver.undoing (releaseBare image memory) do
    Driver.closing staging.release (copyIntoImage rig staging image extent .undefined)
    Driver.create (.view { image, format := textureFormat })
  let size := extent.text
  Driver.log .debug s!"created {size} texture"
  return ⟨image, memory, view, extent⟩

/-- Overwrites an image with pixels of its size. -/
def update (rig : Rig) (texture : SampledImage) (pixels : PixelBuffer) : Driver.Task Unit := do
  if pixels.extent ≠ texture.extent then
    throw (.extentMismatch texture.extent pixels.extent)
  let staging ← StagingBuffer.ofPixels rig pixels
  Driver.closing staging.release
    (copyIntoImage rig staging texture.image texture.extent .shaderReadOnly)

/-- Releases view, image and memory, in this order. The device must not use them. -/
def release (texture : SampledImage) : Program Driver Unit := do
  Driver.release texture.view
  Driver.release texture.image
  Driver.release texture.memory
  let size := texture.extent.text
  .log .debug s!"destroyed {size} texture"

end SampledImage

end PaintPresenter.Vulkan
