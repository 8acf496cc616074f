import PaintPresenter.Graphics.Settings
import PaintPresenter.Vulkan.Types

/-!
# Choices among what a driver offers

Which queue family, device and memory type to use, which format, size and image count a swapchain
gets, how far a sampler filters, and what a barrier has to order. Each is a function of the
driver's report alone.
-/

namespace PaintPresenter.Vulkan

/-! ## Queue families and devices -/

/-- The family has queues, and they can draw. -/
def QueueFamily.canDraw (f : QueueFamily) : Bool := 0 < f.count && hasFlags f.flags 1

/-- Searches families in order, the first being number `index`, for one that draws and presents.
Presenting is asked for only where drawing is possible, and only until the first hit. -/
def searchFamilies {m : Type → Type} [Monad m] (presents : Nat → m Bool) :
    List QueueFamily → Nat → m (Option Nat)
  | [], _ => pure none
  | f :: later, index =>
    if f.canDraw then do
      if ← presents index then return some index
      searchFamilies presents later (index + 1)
    else searchFamilies presents later (index + 1)

/-- The first family that draws and presents. -/
def drawingFamily? {m : Type → Type} [Monad m] (families : List QueueFamily)
    (presents : Nat → m Bool) : m (Option Nat) :=
  searchFamilies presents families 0

/-- Bytes in the heaps on the device, if a 64-bit word can count them. -/
def MemoryTable.deviceLocalBytes? (table : MemoryTable) : Option Nat :=
  let heaps := table.heaps.toList.take table.heapCount.toNat
  let total := (heaps.filter fun h => hasFlags h.flags 1).foldl (fun total h => total + h.bytes) 0
  if total < UInt64.size then some total else none

/-- A device that can draw and present. -/
structure DeviceOffer where
  /-- Place in the driver's order. -/
  index : Nat
  device : Handle .physicalDevice
  type : DeviceType
  localBytes : Nat
  queueFamily : Nat
  deriving DecidableEq, Repr

namespace DeviceOffer

/-- Discrete over integrated over virtual over software over anything else. -/
def rank (t : DeviceType) : Nat :=
  if t = .discrete then 4
  else if t = .integrated then 3
  else if t = .virtual then 2
  else if t = .software then 1
  else 0

/-- `a` is no worse than `b`: by rank, then by memory, then by coming earlier. -/
def noWorse (a b : DeviceOffer) : Bool :=
  if rank a.type ≠ rank b.type then rank b.type < rank a.type
  else if a.localBytes ≠ b.localBytes then b.localBytes < a.localBytes
  else a.index ≤ b.index

/-- The better of the best so far and a later offer, which wins if they are equally good. -/
def better (best : Option DeviceOffer) (offer : DeviceOffer) : Option DeviceOffer :=
  match best with
  | none => some offer
  | some best => some (if offer.noWorse best then offer else best)

/-- The best offer; of equally good ones the last. -/
def best? (offers : List DeviceOffer) : Option DeviceOffer := offers.foldl better none

/-- The offer that a policy takes. -/
def pick? (policy : SelectionPolicy) (offers : List DeviceOffer) : Option DeviceOffer :=
  match policy with
  | .firstQualifying => offers.head?
  | .preferDiscrete => best? offers

end DeviceOffer

/-! ## Memory -/

/-- The first counted memory type whose bit is set and that has all of `flags`. -/
def MemoryTable.typeFor? (table : MemoryTable) (typeBits flags : UInt32) : Option Nat :=
  let counted := table.types.toList.take table.typeCount.toNat
  (List.range counted.length).find? fun i =>
    typeBits.toNat.testBit i && hasFlags (counted.getD i 0) flags

/-! ## Swapchains -/

/-- The format that swapchains prefer: sRGB bytes, blue first, in the standard color space. -/
def preferredFormat : SurfaceFormat := ⟨.bgra8Srgb, 0⟩

/-- The preferred format where it is offered, else the first one. -/
def chooseFormat? (offered : List SurfaceFormat) : Option SurfaceFormat :=
  if preferredFormat ∈ offered then some preferredFormat else offered.head?

namespace SurfaceLimits

/-- One image more than the minimum, within the maximum if there is one; nothing when the sum
leaves the word. -/
def imageCount? (limits : SurfaceLimits) : Option UInt32 :=
  let count := limits.minImages.toNat + 1
  if count < UInt32.size then
    some (if 0 < limits.maxImages then min (.ofNat count) limits.maxImages else .ofNat count)
  else none

/-- The nearest word between two bounds; nothing when the bounds are crossed. -/
def clamp? (low high value : UInt32) : Option UInt32 :=
  if low ≤ high then some (if value < low then low else if high < value then high else value)
  else none

/-- The size that the surface dictates, else the size asked for, within the limits. A width of all
ones is what marks a surface that leaves the size open. -/
def extentFor? (limits : SurfaceLimits) (requested : Extent) : Option Extent :=
  if limits.current.width ≠ 0xffffffff then some limits.current
  else do
    let width ← clamp? limits.minExtent.width limits.maxExtent.width requested.width
    let height ← clamp? limits.minExtent.height limits.maxExtent.height requested.height
    return ⟨width, height⟩

end SurfaceLimits

/-! ## Sampling and layout changes -/

/-- The most that a sampler filters by. -/
def maxAnisotropy : Float32 := 16.0

/-- The device's limit up to the most; a device without the feature, or with a limit that is no
number from one up, gets none. -/
def samplerAnisotropy? (limit : Option Float32) : Option Float32 :=
  match limit with
  | some limit =>
    if limit ≥ 1.0 then some (if maxAnisotropy < limit then maxAnisotropy else limit) else none
  | none => none

/-- What a layout change waits for and what waits for it. -/
structure LayoutChange where
  sourceAccess : AccessFlags
  targetAccess : AccessFlags
  sourceStage : StageFlags
  targetStage : StageFlags
  deriving DecidableEq, Repr

/-- The three layout changes of an upload: a fresh image and a sampled one become the target of a
copy, and the target of a copy becomes sampled. -/
def LayoutChange.between? (old new : ImageLayout) : Option LayoutChange :=
  if old = .undefined ∧ new = .transferTarget then
    some ⟨.none, .transferWrite, .topOfPipe, .transfer⟩
  else if old = .shaderReadOnly ∧ new = .transferTarget then
    some ⟨.shaderRead, .transferWrite, .fragmentShader, .transfer⟩
  else if old = .transferTarget ∧ new = .shaderReadOnly then
    some ⟨.transferWrite, .shaderRead, .transfer, .fragmentShader⟩
  else none

end PaintPresenter.Vulkan
