import PaintPresenter.Base.Utf8
import PaintPresenter.Graphics.Settings
import PaintPresenter.Vulkan.Call

/-!
# The driver's own messages

With the validation layer on, the driver checks how it is used and reports to a messenger, whose
messages become log records on a channel of their own. Without the layer, or without a messenger,
the presenter works as before.
-/

namespace PaintPresenter.Vulkan.Diagnostics

/-- The layer that checks how the driver is used. -/
def validationLayer : String := "VK_LAYER_KHRONOS_validation"

/-- The extension that messengers belong to. -/
def messengerExtension : String := "VK_EXT_debug_utils"

/-- Whether the validation layer is installed. -/
def installed : Program Driver Bool := do
  match ← Program.ask (I := Driver) .layers with
  | .ok layers =>
    return layers.any fun layer => layer.name? == some validationLayer.toUTF8.toList
  | .error result =>
    .log .warn s!"could not enumerate instance layers: {result.text}"
    return false

/-- Whether to turn the validation layer on: it was asked for and is installed. -/
def wanted (settings : GraphicsSettings) : Program Driver Bool := do
  if settings.validation then
    if ← installed then return true
    let layer := Utf8.quote validationLayer.toUTF8.toList
    .log .warn s!"validation requested but {layer} is not installed"
    return false
  else return false

/-- A messenger, unless the driver refuses one. -/
def attach : Program Driver (Option (Handle .messenger)) := do
  match ← (Driver.create (.messenger {})).run with
  | .ok messenger => return some messenger
  | .error e =>
    .log .warn s!"debug messenger unavailable: {e.message}"
    return none

/-- The level of a message: the highest severity bit that is set decides, and what the driver
calls information is a detail here. -/
def levelFor (severity : UInt32) : LogLevel :=
  if hasFlags severity 0x1000 then .error
  else if hasFlags severity 0x100 then .warn
  else if hasFlags severity 0x10 then .debug
  else .trace

/-- The types that have a name, by their bits. -/
def typeNames : List (UInt32 × String) :=
  [(1, "GENERAL"), (2, "VALIDATION"), (4, "PERFORMANCE"), (8, "DEVICE_ADDRESS_BINDING")]

/-- The names of the types that are set, and the other bits as one binary number. -/
def typesText (types : UInt32) : String :=
  let named := typeNames.filterMap fun (bit, name) => if hasFlags types bit then some name else none
  let others := types.toNat - types.toNat % 16
  let rest := if others = 0 then [] else [String.ofList (Nat.toDigits 2 others)]
  " | ".intercalate (named ++ rest)

/-- The record of a message, whose text ends at the first zero byte; a message without a text
leaves none. -/
def record? (severity types : UInt32) (text : Option (List UInt8)) : Option LogRecord :=
  text.map fun bytes =>
    let types := typesText types
    let text := Utf8.decode (bytes.takeWhile (· ≠ 0))
    ⟨levelFor severity, LogRecord.driverChannel, s!"[{types}] {text}"⟩

end PaintPresenter.Vulkan.Diagnostics
