import PaintPresenter.Base.TimeSpan
import PaintPresenter.Base.Extent
import PaintPresenter.Graphics.Color

/-!
# Settings of the graphics layer
-/

namespace PaintPresenter

/-- How a device is chosen among those that qualify. -/
inductive SelectionPolicy
  /-- The first in the driver's order. -/
  | firstQualifying
  /-- Discrete before integrated before virtual before software, then the larger memory. -/
  | preferDiscrete
  deriving DecidableEq, Repr

/-- What a graphics stack is built from. -/
structure GraphicsSettings where
  /-- Name reported to the driver. -/
  appName : String := "vkweb"
  /-- Size asked for; a surface that dictates its own size overrules it. -/
  extent : Extent := ⟨1280, 720⟩
  /-- Color that a frame starts from. -/
  clear : Color := .black
  /-- Turns the validation layer on where it is installed. -/
  validation : Bool := true
  selection : SelectionPolicy := .firstQualifying
  /-- Upper bound for the waits of a frame; without one they wait for good. -/
  frameTimeout : Option TimeSpan := none
  /-- Descriptors of each type in the pool for the user interface. -/
  descriptorsPerType : UInt32 := 1000

namespace GraphicsSettings

/-- The longest wait a driver can be asked for. -/
def foreverNs : Nat := UInt64.size - 1

/-- The bound in nanoseconds, as wait calls take it. -/
def timeoutNs (settings : GraphicsSettings) : Nat :=
  match settings.frameTimeout with
  | some span => min span.inNanoseconds foreverNs
  | none => foreverNs

end GraphicsSettings

end PaintPresenter
