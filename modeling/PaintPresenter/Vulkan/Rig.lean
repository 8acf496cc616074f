import PaintPresenter.Vulkan.Diagnostics
import PaintPresenter.Vulkan.WindowSystem

/-!
# The rig

What everything else stands on: the instance with its messenger, the surface of the window, the
chosen device with its queue, and two pools. It is put up once; if a step fails, what stands is
taken down again, newest first.
-/

namespace PaintPresenter.Vulkan

/-- Instance, surface, device and pools. -/
structure Rig where
  apiInstance : Handle .apiInstance
  messenger : Option (Handle .messenger)
  surface : Handle .surface
  physicalDevice : Handle .physicalDevice
  memory : MemoryTable
  /-- How far the device can filter; nothing if it cannot filter anisotropically. -/
  anisotropyLimit : Option Float32
  device : Handle .device
  queueFamily : Nat
  queue : Handle .queue
  /-- For the recording of frames and for uploads. -/
  commandPool : Handle .commandPool
  /-- For the user interface. -/
  descriptorPool : Handle .descriptorPool

namespace Rig

/-! ## The instance -/

/-- A name that a driver can take: one with a zero byte in it is replaced. -/
def driverName (name : String) : String :=
  if name.toList.contains '\x00' then ({} : GraphicsSettings).appName else name

/-- Makes the instance for a display. -/
def createInstance (display : NativeDisplay) (appName : String) (validation : Bool) :
    Driver.Task (Handle .apiInstance) := do
  let surfaceExtensions ← Driver.checked "vkEnumerateInstanceExtensionProperties"
    (.done display.extensions)
  let (diagnostic, layers) :=
    if validation then ([Diagnostics.messengerExtension], [Diagnostics.validationLayer])
    else ([], [])
  let extensions := surfaceExtensions ++ diagnostic
  let made ← Driver.create (.apiInstance { appName := driverName appName, extensions, layers })
  let count := extensions.length
  Driver.log .debug s!"instance created ({count} extensions, validation: {validation})"
  return made

/-! ## The choice of a device -/

/-- Whether a family presents to a surface; a failed query counts as no. -/
def presents (device : Handle .physicalDevice) (surface : Handle .surface) (family : Nat) :
    Program Driver Bool := do
  return (← Program.ask (I := Driver) (.presents device family surface)).toOption.getD false

/-- What a device offers, if it can draw and present. -/
def offer? (surface : Handle .surface) (index : Nat) (device : Handle .physicalDevice) :
    Program Driver (Option DeviceOffer) := do
  let families ← Driver.queueFamilies device
  match ← drawingFamily? families (presents device surface) with
  | none =>
    .log .debug s!"physical device {index} has no graphics+present queue family"
    return none
  | some queueFamily =>
    let properties ← Driver.properties device
    let memory ← Driver.memory device
    let localBytes ← .require .overflow memory.deviceLocalBytes?
    return some ⟨index, device, properties.type, localBytes, queueFamily⟩

/-- The offers of devices, the first being number `index`, as far as a policy needs them. -/
def offers (policy : SelectionPolicy) (surface : Handle .surface) :
    List (Handle .physicalDevice) → Nat → Program Driver (List DeviceOffer)
  | [], _ => return []
  | device :: later, index => do
    match ← offer? surface index device with
    | none => offers policy surface later (index + 1)
    | some offer =>
      if policy = .firstQualifying then return [offer]
      else return offer :: (← offers policy surface later (index + 1))

/-- The device that a policy takes. -/
def selectDevice (policy : SelectionPolicy) (surface : Handle .surface) :
    Driver.Task DeviceOffer := do
  let devices ← Driver.devices
  match DeviceOffer.pick? policy (← offers policy surface devices 0) with
  | some offer => return offer
  | none => throw .noSuitableDevice

/-! ## Device and pools -/

/-- Makes the device. -/
def createDevice (device : Handle .physicalDevice) (queueFamily : Nat) (anisotropy : Bool) :
    Driver.Task (Handle .device) := do
  let made ← Driver.create (.device { device, queueFamily, anisotropy })
  Driver.log .debug s!"logical device created (anisotropy: {anisotropy})"
  return made

/-- Number of descriptor types. -/
def descriptorTypes : Nat := 11

/-- Room for a number of descriptors of each type, one at least, and for as many sets. -/
def descriptorPoolRequest (perType : UInt32) : DescriptorPoolRequest :=
  let perType := max perType 1
  { maxSets := .ofNat (min (perType.toNat * descriptorTypes) (UInt32.size - 1))
    sizes := (List.range descriptorTypes).map fun type => (type, perType) }

/-! ## Putting it up and taking it down -/

/-- What stands while the rig is being put up. -/
structure Scaffold where
  apiInstance : Handle .apiInstance
  messenger : Option (Handle .messenger)
  surface : Handle .surface := .null
  device : Option (Handle .device) := none
  commandPool : Handle .commandPool := .null

/-- Releases an object unless its handle is null. -/
def releaseUnlessNull {kind : ObjectKind} (handle : Handle kind) : Program Driver Unit :=
  if handle.isNull then .done () else Driver.release handle

/-- Releases an object if there is one. -/
def releaseIfAny {kind : ObjectKind} : Option (Handle kind) → Program Driver Unit
  | some handle => Driver.release handle
  | none => .done ()

/-- Takes down what stands. -/
def Scaffold.takeDown (s : Scaffold) : Program Driver Unit := do
  .log .debug "unwinding partially created device context"
  if s.device.isSome then releaseUnlessNull s.commandPool
  releaseIfAny s.device
  releaseIfAny s.messenger
  releaseUnlessNull s.surface
  Driver.release s.apiInstance

/-- Makes the surface of a window. -/
def createSurface (display : NativeDisplay) (window : NativeWindow) :
    Driver.Task (Handle .surface) := do
  let platform ← Driver.checked "vkCreateSurfaceKHR" (.done (display.platformWith window))
  Driver.create (.surface platform)

/-- Puts up everything on the instance. A failure leaves what was put up. -/
def putUp (display : NativeDisplay) (window : NativeWindow) (settings : GraphicsSettings) :
    Stateful Scaffold Driver GraphicsError Rig := do
  let surface ← .ofTask (createSurface display window)
  modify fun s => { s with surface }
  let offer ← .ofTask (selectDevice settings.selection surface)
  let properties ← .ofProgram (Driver.properties offer.device)
  let anisotropy ← .ofProgram (Driver.anisotropy offer.device)
  let memory ← .ofProgram (Driver.memory offer.device)
  let name := Utf8.quote (properties.name.name?.getD "<unnamed>".toUTF8.toList)
  let type := properties.type.name
  Stateful.log .info s!"using {name} ({type}), queue family {offer.queueFamily}"
  let device ← .ofTask (createDevice offer.device offer.queueFamily anisotropy)
  modify fun s => { s with device := some device }
  let queue ← .ofProgram (Driver.queue offer.queueFamily)
  let commandPool ← .ofTask (Driver.create (.commandPool { queueFamily := offer.queueFamily }))
  modify fun s => { s with commandPool }
  let descriptorPool ← .ofTask
    (Driver.create (.descriptorPool (descriptorPoolRequest settings.descriptorsPerType)))
  let s ← get
  return {
    apiInstance := s.apiInstance
    messenger := s.messenger
    surface
    physicalDevice := offer.device
    memory
    anisotropyLimit := if anisotropy then some properties.anisotropyLimit else none
    device
    queueFamily := offer.queueFamily
    queue
    commandPool
    descriptorPool }

/-- A rig for a window. On failure nothing is left standing. -/
def create (display : NativeDisplay) (window : NativeWindow) (settings : GraphicsSettings) :
    Driver.Task Rig := do
  if !(← ExceptT.lift (Program.ask (I := Driver) .loadLibrary)) then throw .libraryMissing
  let validation ← Diagnostics.wanted settings
  let apiInstance ← createInstance display settings.appName validation
  let messenger ← if validation then Diagnostics.attach else pure none
  match ← ExceptT.lift ((putUp display window settings).run { apiInstance, messenger }) with
  | (.ok rig, _) => return rig
  | (.error e, scaffold) =>
    scaffold.takeDown
    throw e

/-- Takes the rig down. Everything made on it must be gone. -/
def destroy (rig : Rig) : Program Driver Rig := do
  .log .debug "destroying device context"
  Driver.release rig.descriptorPool
  Driver.release rig.commandPool
  Driver.release rig.device
  releaseIfAny rig.messenger
  Driver.release rig.surface
  Driver.release rig.apiInstance
  return { rig with
    messenger := none, descriptorPool := .null, commandPool := .null, surface := .null }

end Rig

end PaintPresenter.Vulkan
