import PaintPresenter.Simulation.Script
import PaintPresenter.Vulkan.CallText

/-!
# A driver that follows a script

`ScriptedDriver` answers the calls to a driver without any hardware. What it offers is described by
a `DriverModel`; which calls fail, and how, is told by a script. It numbers the objects of each
kind from one, keeps which are live, follows fences and mapped memory, hands out the images of a
swapchain in turn, and writes every call down with its outcome. A call that fails has no effect.
-/

namespace PaintPresenter.Simulation

open Vulkan

/-! ## What a driver offers -/

/-- A device as the driver describes it. -/
structure DeviceModel where
  properties : DeviceProperties
  /-- Queue families, and the answer to whether each can present. -/
  families : List (QueueFamily × Except ResultCode Bool)
  anisotropy : Bool
  memory : MemoryTable

/-- A driver as its queries describe it. -/
structure DriverModel where
  libraryPresent : Bool := true
  layers : List NameField := []
  devices : List DeviceModel
  limits : SurfaceLimits := {}
  formats : List SurfaceFormat := [⟨⟨44⟩, 0⟩, preferredFormat]
  /-- Images of a swapchain; without it, as many as asked for, at most eight. -/
  swapchainImages : Option Nat := none
  bufferAlignment : Nat := 1
  bufferTypeBits : UInt32 := 0xffffffff
  imageTypeBits : UInt32 := 0xffffffff

namespace DriverModel

/-- The device with a handle; devices are numbered from one. -/
def device? (m : DriverModel) (device : Handle .physicalDevice) : Option DeviceModel :=
  if device.isNull then none else m.devices[device.number - 1]?

/-- Number of images of a swapchain for which at least `requested` were asked for. -/
def imagesFor (m : DriverModel) (requested : UInt32) : Nat :=
  m.swapchainImages.getD (min requested.toNat 8)

/-- The needs of a buffer: its size, rounded up. -/
def bufferNeeds (m : DriverModel) (bytes : Nat) : MemoryRequirements :=
  let unit := max m.bufferAlignment 1
  ⟨(bytes + unit - 1) / unit * unit, m.bufferTypeBits⟩

/-- The needs of an image: four bytes a pixel. -/
def imageNeeds (m : DriverModel) (extent : Extent) : MemoryRequirements :=
  ⟨extent.area * 4, m.imageTypeBits⟩

end DriverModel

/-! ## The state of the driver -/

/-- A driver in the course of a run. -/
structure ScriptedDriver where
  model : DriverModel
  script : Script ResultCode := []
  /-- The last object of each kind that has one. -/
  latest : List Object := []
  live : List Object := []
  signaled : List (Handle .fence) := []
  /-- The images of every swapchain. -/
  swapchains : List (Handle .swapchain × List (Handle .image)) := []
  bufferSizes : List (Handle .buffer × Nat) := []
  imageSizes : List (Handle .image × Extent) := []
  mappings : List (Handle .memory × ByteArray) := []
  /-- The index that the next acquire returns. -/
  nextImage : Nat := 0
  /-- Latest first. -/
  lines : List String := []

namespace ScriptedDriver

/-- Writes a call down, followed by its outcome. -/
def write (call : DriverCall) (outcome : String) (d : ScriptedDriver) : ScriptedDriver :=
  match call.text? with
  | some text => { d with lines := (text ++ outcome) :: d.lines }
  | none => d

/-- A number for a new object of a kind. -/
def number (kind : ObjectKind) (d : ScriptedDriver) : Nat × ScriptedDriver :=
  let n := ((d.latest.find? (·.kind == kind)).map (·.number)).getD 0 + 1
  (n, { d with latest := ⟨kind, n⟩ :: d.latest.filter (·.kind != kind) })

/-- Numbers for `count` new objects of a kind. -/
def numbers (kind : ObjectKind) : Nat → ScriptedDriver → List Nat × ScriptedDriver
  | 0, d => ([], d)
  | count + 1, d =>
    let (n, d) := d.number kind
    let (later, d) := numbers kind count d
    (n :: later, d)

/-- What the script says of a call: the code that it fails with, if it fails now. A rule with the
code of success lets the call pass. -/
def next (call : DriverCall) (d : ScriptedDriver) : Option ResultCode × ScriptedDriver :=
  match call.function? with
  | none => (none, d)
  | some function =>
    let (told, script) := d.script.next function
    (told.filter (· != .success), { d with script })

/-- The outcome of a call that failed, in writing. -/
def failed (result : ResultCode) : String := s!" !{result.code}"

/-- Answers a call that can fail: if the script lets it pass, by `success`, which says what to
reply, what to write after the call, and what state follows. -/
def attempt {α : Type} (call : DriverCall)
    (success : ScriptedDriver → Except ResultCode α × String × ScriptedDriver)
    (d : ScriptedDriver) : Except ResultCode α × ScriptedDriver :=
  match d.next call with
  | (some result, d) => (.error result, d.write call (failed result))
  | (none, d) =>
    let (reply, outcome, d) := success d
    (reply, d.write call outcome)

/-- Answers a query that can fail. -/
def query {α : Type} (call : DriverCall) (value : α) (outcome : String) (d : ScriptedDriver) :
    Except ResultCode α × ScriptedDriver :=
  d.attempt call fun d => (.ok value, outcome, d)

/-! ## Objects -/

/-- What follows from an object having been made, beside its being live. -/
def adopt (request : Creation) (n : Nat) (d : ScriptedDriver) : ScriptedDriver :=
  match request with
  | .swapchain r =>
    let (images, d) := d.numbers .image (d.model.imagesFor r.minImages)
    { d with swapchains := (⟨n⟩, images.map Handle.mk) :: d.swapchains, nextImage := 0 }
  | .fence signaled => if signaled then { d with signaled := ⟨n⟩ :: d.signaled } else d
  | .buffer r => { d with bufferSizes := (⟨n⟩, r.bytes) :: d.bufferSizes }
  | .image r => { d with imageSizes := (⟨n⟩, r.extent) :: d.imageSizes }
  | _ => d

/-- Makes an object. -/
def create (request : Creation) (d : ScriptedDriver) :
    Except ResultCode (Handle request.kind) × ScriptedDriver :=
  d.attempt (.create request) fun d =>
    let (n, d) := d.number request.kind
    let d := d.adopt request n
    (.ok ⟨n⟩, s!" -> {n}", { d with live := ⟨request.kind, n⟩ :: d.live })

/-- Destroys an object; one that is neither live nor null is remarked on. -/
def release (object : Object) (d : ScriptedDriver) : ScriptedDriver :=
  let remark := if object ∈ d.live ∨ object.number = 0 then "" else " (not live)"
  { d with live := d.live.erase object }.write (.release object) remark

/-! ## Operations -/

/-- The effect of an operation that the script lets pass, or the code it fails with. -/
def perform (operation : Operation) (d : ScriptedDriver) : Except ResultCode ScriptedDriver :=
  match operation with
  | .waitForFence fence _ =>
    if fence ∈ d.signaled ∨ fence.isNull then .ok d else .error .timeout
  | .resetFence fence => .ok { d with signaled := d.signaled.filter (· != fence) }
  | .submit _ work => .ok { d with signaled := work.fence :: d.signaled }
  | .mapMemory memory _ bytes =>
    let mapping := (memory, Bytes.constant bytes 0)
    .ok { d with mappings := mapping :: d.mappings.filter (·.1 != memory) }
  | _ => .ok d

/-- Answers an operation. -/
def operate (operation : Operation) (d : ScriptedDriver) :
    Except ResultCode Unit × ScriptedDriver :=
  d.attempt (.perform operation) fun d =>
    match d.perform operation with
    | .ok d => (.ok (), "", d)
    | .error result => (.error result, failed result, d)

/-- Stores bytes at the start of a mapping. -/
def store (memory : Handle .memory) (bytes : ByteArray) (d : ScriptedDriver) : ScriptedDriver :=
  let mappings := d.mappings.map fun (mapped, old) =>
    if mapped = memory then (mapped, bytes ++ old.extract bytes.size old.size) else (mapped, old)
  { d with mappings }

/-- Ends a mapping and writes down what is in it. -/
def unmap (memory : Handle .memory) (d : ScriptedDriver) : ScriptedDriver :=
  let digest := Bytes.digest ((d.mappings.lookup memory).getD ByteArray.empty)
  { d with mappings := d.mappings.filter (·.1 != memory) }.write (.unmap memory)
    s!" data={digest}"

/-! ## Images of a swapchain -/

/-- The remark after an acquire or a present that succeeded. -/
def remarkOf (suboptimal : Bool) : String :=
  if suboptimal then failed ResultCode.suboptimal else ""

/-- Hands out the next image of a swapchain in turn. -/
def handOut (swapchain : Handle .swapchain) (suboptimal : Bool) (d : ScriptedDriver) :
    Except ResultCode AcquiredImage × String × ScriptedDriver :=
  if swapchain.object ∈ d.live then
    let index := d.nextImage
    let count := max ((d.swapchains.lookup swapchain).getD []).length 1
    let remark := remarkOf suboptimal
    (.ok ⟨.ofNat index, suboptimal⟩, s!" -> {index}{remark}",
      { d with nextImage := (index % count + 1) % count })
  else (.error .surfaceLost, failed .surfaceLost, d)

/-- Answers an acquire or a present: the script may also make it succeed with the remark that the
swapchain is suboptimal. -/
def swap {α : Type} (call : DriverCall)
    (success : Bool → ScriptedDriver → Except ResultCode α × String × ScriptedDriver)
    (d : ScriptedDriver) : Except ResultCode α × ScriptedDriver :=
  let (told, d) := d.next call
  let (reply, outcome, d) :=
    match told with
    | none => success false d
    | some result =>
      if result = ResultCode.suboptimal then success true d else (.error result, failed result, d)
  (reply, d.write call outcome)

/-! ## Replies -/

/-- The number of a list's items, as the outcome of a query. -/
def counted {α : Type} (items : List α) : String := s!" -> {items.length}"

/-- Whether a family of a device can present. -/
def presents (call : DriverCall) (device : Handle .physicalDevice) (family : Nat)
    (d : ScriptedDriver) : Except ResultCode Bool × ScriptedDriver :=
  d.attempt call fun d =>
    let families := (d.model.device? device).elim [] (·.families)
    match families[family]?.map Prod.snd with
    | some (.error result) => (.error result, failed result, d)
    | some (.ok true) => (.ok true, " -> 1", d)
    | _ => (.ok false, " -> 0", d)

/-- What an unknown device says about itself. -/
def noProperties : DeviceProperties := ⟨⟨ByteArray.empty⟩, ⟨0⟩, 0.0⟩

/-- The reply to a call. -/
def reply (call : DriverCall) (d : ScriptedDriver) : call.Reply × ScriptedDriver :=
  match call with
  | .loadLibrary => (d.model.libraryPresent, d)
  | .layers => d.query .layers d.model.layers (counted d.model.layers)
  | .create request => d.create request
  | .release object => ((), d.release object)
  | .devices =>
    let devices := (List.range d.model.devices.length).map fun i => Handle.mk (i + 1)
    d.query .devices devices (counted devices)
  | .queueFamilies device =>
    let families := ((d.model.device? device).elim [] (·.families)).map Prod.fst
    (families, d.write (.queueFamilies device) (counted families))
  | .presents device family surface => d.presents (.presents device family surface) device family
  | .properties device =>
    ((d.model.device? device).elim noProperties (·.properties),
      d.write (.properties device) "")
  | .anisotropy device =>
    ((d.model.device? device).elim false (·.anisotropy), d.write (.anisotropy device) "")
  | .memory device =>
    ((d.model.device? device).elim (MemoryTable.ofLists [] 0 [] 0) (·.memory),
      d.write (.memory device) "")
  | .queue family =>
    let (n, d) := d.number .queue
    (⟨n⟩, d.write (.queue family) s!" -> {n}")
  | .surfaceLimits device surface => d.query (.surfaceLimits device surface) d.model.limits ""
  | .surfaceFormats device surface =>
    d.query (.surfaceFormats device surface) d.model.formats (counted d.model.formats)
  | .swapchainImages swapchain =>
    let images := (d.swapchains.lookup swapchain).getD []
    d.query (.swapchainImages swapchain) images (counted images)
  | .bufferNeeds buffer =>
    let needs := d.model.bufferNeeds ((d.bufferSizes.lookup buffer).getD 0)
    (needs, d.write (.bufferNeeds buffer) s!" -> {needs.bytes}")
  | .imageNeeds image =>
    let needs := d.model.imageNeeds ((d.imageSizes.lookup image).getD ⟨0, 0⟩)
    (needs, d.write (.imageNeeds image) s!" -> {needs.bytes}")
  | .perform operation => d.operate operation
  | .acquire swapchain timeoutNs semaphore =>
    d.swap (.acquire swapchain timeoutNs semaphore) (handOut swapchain)
  | .present queue wait swapchain image =>
    d.swap (.present queue wait swapchain image) fun suboptimal d =>
      (.ok suboptimal, remarkOf suboptimal, d)
  | .record buffer command => ((), d.write (.record buffer command) "")
  | .freeCommands pool buffer =>
    ((), { d with live := d.live.erase buffer.object }.write (.freeCommands pool buffer) "")
  | .store memory bytes => ((), d.store memory bytes)
  | .unmap memory => ((), d.unmap memory)

/-- The reply to a call; a scripted driver never faults. -/
def answer (call : DriverCall) (d : ScriptedDriver) : Except Fault call.Reply × ScriptedDriver :=
  let (reply, d) := d.reply call
  (.ok reply, d)

/-- The live objects, by kind in the order of their words and then by number. -/
def census (d : ScriptedDriver) : List String :=
  let before (a b : Object) : Bool :=
    if a.kind = b.kind then a.number ≤ b.number else a.kind.word < b.kind.word
  (d.live.mergeSort before).map Object.text

/-- A messenger is there to receive the driver's messages. -/
def hasMessenger (d : ScriptedDriver) : Bool := d.live.any (·.kind == .messenger)

end ScriptedDriver

end PaintPresenter.Simulation
