import PaintPresenter.Base.Extent
import PaintPresenter.Graphics.Color
import PaintPresenter.Vulkan.Format
import PaintPresenter.Vulkan.Handle

/-!
# Values that a driver reports and takes

Enumerations are open: a driver may report codes that no list names, so a code is any number and
the ones in use here have names. Flags are 32-bit masks.
-/

namespace PaintPresenter.Vulkan

/-- All bits of `mask` are set in `flags`. -/
def hasFlags (flags mask : UInt32) : Bool := flags &&& mask == mask

/-! ## Surfaces -/

/-- A format and the color space its values are meant in. -/
structure SurfaceFormat where
  format : Format
  colorSpace : Int
  deriving DecidableEq, Repr

/-- What a surface allows a swapchain to be. -/
structure SurfaceLimits where
  minImages : UInt32 := 2
  /-- Zero when there is no limit. -/
  maxImages : UInt32 := 0
  /-- All ones when the swapchain decides the size. -/
  current : Extent := ⟨0xffffffff, 0xffffffff⟩
  minExtent : Extent := ⟨1, 1⟩
  maxExtent : Extent := ⟨4096, 4096⟩
  transform : UInt32 := 1
  deriving DecidableEq, Repr

/-! ## Images -/

/-- Arrangement of an image's memory, which decides what may be done with it. -/
structure ImageLayout where
  code : Int
  deriving DecidableEq, Repr

namespace ImageLayout

/-- Of a new image; a change from it may lose the contents. -/
def undefined : ImageLayout := ⟨0⟩

/-- For a render pass to draw to. -/
def colorAttachment : ImageLayout := ⟨2⟩

/-- For shaders to sample. -/
def shaderReadOnly : ImageLayout := ⟨5⟩

/-- For a copy to write to. -/
def transferTarget : ImageLayout := ⟨7⟩

/-- For the window system to present. -/
def presentSource : ImageLayout := ⟨1000001002⟩

/-- The name of the layout that a texture is sampled in; others are written as numbers. -/
def name (l : ImageLayout) : String :=
  if l = shaderReadOnly then "SHADER_READ_ONLY_OPTIMAL" else toString l.code

end ImageLayout

/-- Kinds of memory access that a barrier orders. -/
abbrev AccessFlags := UInt32

namespace AccessFlags

/-- No access at all. -/
def none : AccessFlags := 0

/-- Shaders read. -/
def shaderRead : AccessFlags := 32

/-- A render pass writes its color attachment. -/
def colorWrite : AccessFlags := 256

/-- A copy writes. -/
def transferWrite : AccessFlags := 4096

end AccessFlags

/-- Stages of the device's pipeline that a barrier orders. -/
abbrev StageFlags := UInt32

namespace StageFlags

/-- Before anything runs. -/
def topOfPipe : StageFlags := 1

/-- While fragment shaders run. -/
def fragmentShader : StageFlags := 128

/-- While colors are written to an attachment. -/
def colorOutput : StageFlags := 1024

/-- While copies run. -/
def transfer : StageFlags := 4096

end StageFlags

/-- Part of an image: its aspect, mip levels and layers. -/
structure ImageRange where
  aspect : UInt32 := 1
  firstLevel : Nat := 0
  levels : Nat := 1
  firstLayer : Nat := 0
  layers : Nat := 1
  deriving DecidableEq, Repr

/-- The color of the only level of the only layer. -/
def ImageRange.color : ImageRange := {}

/-! ## Devices -/

/-- A fixed field of 256 bytes that holds a name ended by a zero byte. -/
structure NameField where
  bytes : ByteArray

namespace NameField

/-- Bytes a field holds. -/
def capacity : Nat := 256

/-- The name before the first zero byte; shorter contents are padded with zeros. -/
def name? (field : NameField) : Option (List UInt8) :=
  let contents := field.bytes.toList.take capacity
  if contents.length < capacity ∨ 0 ∈ contents then some (contents.takeWhile (· ≠ 0)) else none

end NameField

/-- Rough kind of a device. -/
structure DeviceType where
  code : Int
  deriving DecidableEq, Repr

namespace DeviceType

/-- A GPU that shares the memory of the processor. -/
def integrated : DeviceType := ⟨1⟩

/-- A GPU of its own. -/
def discrete : DeviceType := ⟨2⟩

/-- A GPU passed through to a virtual machine. -/
def virtual : DeviceType := ⟨3⟩

/-- The processor itself. -/
def software : DeviceType := ⟨4⟩

/-- The name of a kind; one without a name is written as its number. -/
def name (t : DeviceType) : String :=
  ([(0, "OTHER"), (1, "INTEGRATED_GPU"), (2, "DISCRETE_GPU"), (3, "VIRTUAL_GPU"),
    (4, "CPU")].lookup t.code).getD (toString t.code)

end DeviceType

/-- What a device says about itself. -/
structure DeviceProperties where
  name : NameField
  type : DeviceType
  anisotropyLimit : Float32

/-- Queues of one kind. -/
structure QueueFamily where
  flags : UInt32
  count : UInt32
  deriving DecidableEq, Repr

/-- A region of memory. -/
structure MemoryHeap where
  bytes : Nat
  flags : UInt32
  deriving DecidableEq, Repr, Inhabited

/-- The memory of a device: fixed tables of types and heaps, of which the first ones count. -/
structure MemoryTable where
  types : Vector UInt32 32
  typeCount : UInt32
  heaps : Vector MemoryHeap 16
  heapCount : UInt32
  deriving DecidableEq, Repr

namespace MemoryTable

/-- The table with the given entries, the missing ones empty. -/
def ofLists (types : List UInt32) (typeCount : UInt32) (heaps : List MemoryHeap)
    (heapCount : UInt32) : MemoryTable where
  types := Vector.ofFn fun i => types.getD i 0
  typeCount
  heaps := Vector.ofFn fun i => heaps.getD i ⟨0, 0⟩
  heapCount

end MemoryTable

/-- Properties of memory that an allocation asks for. -/
abbrev MemoryFlags := UInt32

namespace MemoryFlags

/-- Close to the device, and fast for it. -/
def deviceLocal : MemoryFlags := 1

/-- Can be mapped by the program. -/
def hostVisible : MemoryFlags := 2

/-- Writes by the program need no flush. -/
def hostCoherent : MemoryFlags := 4

end MemoryFlags

/-- What the memory of a buffer or an image has to offer. -/
structure MemoryRequirements where
  bytes : Nat
  typeBits : UInt32
  deriving DecidableEq, Repr

end PaintPresenter.Vulkan
