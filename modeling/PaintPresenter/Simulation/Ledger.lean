import PaintPresenter.Simulation.Script
import PaintPresenter.Simulation.Session
import PaintPresenter.Vulkan.FrameGate
import PaintPresenter.Vulkan.TargetSet

/-!
# A ledger of handles

A device that only hands out handles: one counter numbers the objects of all kinds, and the
ledger keeps which of them are live. Creations fail by script. It answers the calls of a gate and
of a set of render targets, and writes each call down.
-/

namespace PaintPresenter.Simulation

open Vulkan

/-- Handles given out so far and those still live, oldest first. -/
structure Ledger where
  issued : Nat := 0
  live : List Object := []
  script : Script ResultCode := []
  /-- Latest first. -/
  lines : List String := []

namespace Ledger

/-- Writes a line down. -/
def write (line : String) (l : Ledger) : Ledger := { l with lines := line :: l.lines }

/-- Creates an object, unless the script makes this fail. `word` names its kind in the script,
`request` describes it, and `function` is the driver's word for the call. -/
def create (kind : ObjectKind) (word request function : String) (l : Ledger) :
    Except GraphicsError (Handle kind) × Ledger :=
  let (failure, script) := l.script.next word
  let l := { l with script }
  match failure with
  | some result => (.error (.ofResult function result), l.write s!"new {request} !{result.code}")
  | none =>
    let number := l.issued + 1
    (.ok (Handle.mk number),
      { l with issued := number, live := l.live ++ [Object.mk kind number] }.write
        s!"new {request} -> {number}")

/-- Drops an object; one that is not live is remarked on. -/
def drop (object : Object) (word : String) (l : Ledger) : Ledger :=
  let remark := if object ∈ l.live then "" else " (not live)"
  { l with live := l.live.erase object }.write s!"drop {word} {object.number}{remark}"

/-- The reply to a call of a gate. -/
def answerGate (call : GateCall) (l : Ledger) : Except Fault call.Reply × Ledger :=
  match call with
  | .newSemaphore =>
    let (result, l) := l.create .semaphore "semaphore" "semaphore" "vkCreateSemaphore"
    (.ok result, l)
  | .newSignaledFence =>
    let (result, l) := l.create .fence "fence" "fence" "vkCreateFence"
    (.ok result, l)
  | .dropSemaphore semaphore => (.ok (), l.drop semaphore.object "semaphore")
  | .dropFence fence => (.ok (), l.drop fence.object "fence")

/-- The reply to a call of a set of render targets. -/
def answerTargets (call : TargetCall) (l : Ledger) : Except Fault call.Reply × Ledger :=
  match call with
  | .newView image format =>
    let request := s!"view image={image.number} format={format.code}"
    let (result, l) := l.create .view "view" request "vkCreateImageView"
    (.ok result, l)
  | .newRenderPass format =>
    let request := s!"render_pass format={format.code}"
    let (result, l) := l.create .renderPass "render_pass" request "vkCreateRenderPass"
    (.ok result, l)
  | .newFramebuffer renderPass view extent =>
    let request :=
      s!"framebuffer render_pass={renderPass.number} view={view.number} extent={extent.text}"
    let (result, l) := l.create .framebuffer "framebuffer" request "vkCreateFramebuffer"
    (.ok result, l)
  | .dropView view => (.ok (), l.drop view.object "view")
  | .dropRenderPass renderPass => (.ok (), l.drop renderPass.object "render_pass")
  | .dropFramebuffer framebuffer => (.ok (), l.drop framebuffer.object "framebuffer")

end Ledger

/-! ## Sessions with a ledger -/

/-- A ledger and what is held of the objects in it. -/
structure LedgerSession (κ : Type) where
  ledger : Ledger := {}
  held : Option κ := none

namespace LedgerSession

variable {κ α : Type} {I : Interface}

/-- Runs a program against the ledger. -/
def onLedger (answer : (c : I.Call) → Ledger → Except Fault (I.Reply c) × Ledger) :
    Program I α → Session (LedgerSession κ) α :=
  Session.perform (·.ledger) (fun ledger s => { s with ledger }) answer

/-- Keeps what was made. -/
def hold (held : κ) : Session (LedgerSession κ) Unit := modify fun s => { s with held := some held }

/-- Adds a rule to the script. -/
def direct (rule : Rule ResultCode) : Session (LedgerSession κ) Unit :=
  modify fun s => { s with ledger := { s.ledger with script := s.ledger.script ++ [rule] } }

/-- Takes the lines written so far, oldest first. -/
def takeLines : Session (LedgerSession κ) (List String) :=
  modifyGet fun s => (s.ledger.lines.reverse, { s with ledger := { s.ledger with lines := [] } })

/-- The live objects, oldest first. -/
def census (s : LedgerSession κ) : List String :=
  s.ledger.live.map Object.text

end LedgerSession

end PaintPresenter.Simulation
