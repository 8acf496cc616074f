import PaintPresenter.Graphics.FrameLoop
import PaintPresenter.Simulation.Script

/-!
# A graphics stack in memory

`Rehearsal` answers the calls of a renderer without any device: it hands out three images in
turn, keeps textures as bytes, follows the fence, and writes down every call. Waiting on a fence
that nothing will signal, and naming a texture that does not exist, are faults.

`Staged` puts a script in front of it: calls fail, and images are reported suboptimal, as told.
-/

namespace PaintPresenter.Simulation

/-- What a rehearsal writes down. -/
inductive Cue
  | waitFence
  | acquire
  | rearmFence
  | beginPass (image : UInt32)
  | clear (color : Color)
  | endPass
  | submitPresent (image : UInt32)
  | rebuild (extent : Extent)
  | createTexture (id : Nat)
  | updateTexture (id : Nat)
  | destroyView (id : Nat)
  | destroyImage (id : Nat)
  | freeMemory (id : Nat)
  | waitIdle
  | tearDown
  /-- A call that the script made fail. -/
  | refused (call : String)

/-- A cue as one line. -/
def Cue.line : Cue → String
  | waitFence => "WaitFence"
  | acquire => "Acquire"
  | rearmFence => "RearmFence"
  | beginPass image => s!"BeginPass {image}"
  | clear color => s!"Clear {color.bitsText}"
  | endPass => "EndPass"
  | submitPresent image => s!"SubmitPresent {image}"
  | rebuild extent => s!"RecreateSurface {extent.text}"
  | createTexture id => s!"CreateTexture {id}"
  | updateTexture id => s!"UpdateTexture {id}"
  | destroyView id => s!"DestroyView {id}"
  | destroyImage id => s!"DestroyImage {id}"
  | freeMemory id => s!"FreeMemory {id}"
  | waitIdle => "WaitIdle"
  | tearDown => "Destroy"
  | refused call => s!"!{call}"

/-- A texture in memory. -/
structure StoredTexture where
  extent : Extent
  rgba : ByteArray

/-- A graphics stack in memory. -/
structure Rehearsal where
  /-- Latest first. -/
  cues : List Cue := []
  extent : Extent := ⟨1280, 720⟩
  fenceSignaled : Bool := true
  nextImage : Nat := 0
  recordings : Nat := 0
  /-- Errors of the next acquires. -/
  acquireErrors : List GraphicsError := []
  /-- Outcomes of the next presents; without one an image is presented. -/
  presentOutcomes : List PresentOutcome := []
  textures : List (Nat × StoredTexture) := []
  nextTexture : Nat := 1
  tornDown : Bool := false

namespace Rehearsal

/-- Images that are handed out in turn. -/
def imageCount : Nat := 3

/-- Writes a cue down. -/
def write (cue : Cue) (r : Rehearsal) : Rehearsal := { r with cues := cue :: r.cues }

/-- The texture with a number. -/
def texture? (r : Rehearsal) (id : Nat) : Option StoredTexture := r.textures.lookup id

/-- A reply, or a fault. -/
abbrev Answer (α : Type) := Except Fault α × Rehearsal

/-- Takes the next image in turn, or reports the next error and signals the fence again. -/
def acquire (r : Rehearsal) : Except GraphicsError AcquiredImage × Rehearsal :=
  let r := r.write .acquire
  match r.acquireErrors with
  | e :: later =>
    (.error e, { r with acquireErrors := later, fenceSignaled := true }.write .rearmFence)
  | [] =>
    (.ok ⟨.ofNat r.nextImage, false⟩, { r with nextImage := (r.nextImage + 1) % imageCount })

/-- Stores a new texture. -/
def create (pixels : PixelBuffer) (r : Rehearsal) : Nat × Rehearsal :=
  let id := r.nextTexture
  let stored := (id, ⟨pixels.extent, pixels.rgba⟩)
  (id, { r with textures := stored :: r.textures, nextTexture := id + 1 }.write (.createTexture id))

/-- Overwrites a texture of the same size. -/
def update (id : Nat) (pixels : PixelBuffer) (r : Rehearsal) :
    Answer (Except GraphicsError Unit) :=
  match r.texture? id with
  | none => (.error .unknownTexture, r)
  | some stored =>
    if stored.extent = pixels.extent then
      let textures := r.textures.map fun entry =>
        if entry.1 = id then (id, ⟨stored.extent, pixels.rgba⟩) else entry
      (.ok (.ok ()), { r with textures }.write (.updateTexture id))
    else (.ok (.error (.extentMismatch stored.extent pixels.extent)), r)

/-- Releases a texture with its view and memory. -/
def release (id : Nat) (r : Rehearsal) : Answer Unit :=
  match r.texture? id with
  | none => (.error .unknownTexture, r)
  | some _ =>
    let r := { r with textures := r.textures.filter (·.1 ≠ id) }
    (.ok (), ((r.write (.destroyView id)).write (.destroyImage id)).write (.freeMemory id))

/-- How a texture is sampled; nothing here has handles. -/
def binding (id : Nat) (r : Rehearsal) : Except Fault TextureBinding :=
  match r.texture? id with
  | none => .error .unknownTexture
  | some stored => .ok ⟨.null, .null, .shaderReadOnly, stored.extent⟩

/-- The reply to a renderer's call. Textures and recordings are numbers. -/
def answer (call : GraphicsCall Nat) (r : Rehearsal) : Answer (call.Reply Nat) :=
  match call with
  | .extent => (.ok r.extent, r)
  | .waitForPrevious =>
    if r.fenceSignaled then (.ok (.ok ()), { r with fenceSignaled := false }.write .waitFence)
    else (.error .deadlock, r)
  | .acquire => let (result, r) := r.acquire; (.ok result, r)
  | .beginPass image _ =>
    let r := { r with recordings := r.recordings + 1 }.write (.beginPass image)
    (.ok (.ok r.recordings), r)
  | .endPass => (.ok (.ok ()), r.write .endPass)
  | .present image =>
    (.ok (.ok (r.presentOutcomes.headD .presented)),
      { r with presentOutcomes := r.presentOutcomes.tail, fenceSignaled := true }.write
        (.submitPresent image))
  | .rebuild extent =>
    (.ok (.ok ()), { r with extent, fenceSignaled := true, nextImage := 0 }.write (.rebuild extent))
  | .createTexture pixels => let (id, r) := r.create pixels; (.ok (.ok id), r)
  | .updateTexture id pixels => r.update id pixels
  | .releaseTexture id => r.release id
  | .binding id => (r.binding id, r)
  | .waitIdle => (.ok (.ok ()), r.write .waitIdle)
  | .tearDown => (.ok (), if r.tornDown then r else { r with tornDown := true }.write .tearDown)

/-- The four bytes at `(x, y)` of a texture. The place is counted in 32-bit words, and a row may
be left at its end. -/
def sample (id : Nat) (x y : UInt32) (r : Rehearsal) : Except Fault (List UInt8) :=
  match r.texture? id with
  | none => .error .unknownTexture
  | some stored =>
    let place := (y.toNat * stored.extent.width.toNat + x.toNat) * 4
    if UInt32.size ≤ place then .error .overflow
    else if place + 4 ≤ stored.rgba.size then
      .ok ((List.range 4).map fun i => Bytes.byteAt stored.rgba (place + i))
    else .error .outOfBounds

end Rehearsal

/-- The name under which a script makes a call fail; some calls cannot fail. -/
def scriptName? {τ : Type} : GraphicsCall τ → Option String
  | .waitForPrevious => some "wait_for_previous_frame"
  | .acquire => some "acquire_next_image"
  | .beginPass _ _ => some "begin_pass"
  | .endPass => some "end_pass"
  | .present _ => some "submit_and_present"
  | .rebuild _ => some "recreate_surface"
  | .createTexture _ => some "create_texture"
  | .updateTexture _ _ => some "update_texture"
  | .waitIdle => some "wait_idle"
  | .extent | .releaseTexture _ | .binding _ | .tearDown => none

/-- The reply by which a call fails, if it can. -/
def failureReply? {τ : Type} (e : GraphicsError) : (call : GraphicsCall τ) → Option (call.Reply Nat)
  | .waitForPrevious | .endPass | .rebuild _ | .updateTexture _ _ | .waitIdle => some (.error e)
  | .acquire => some (.error e)
  | .beginPass _ _ => some (.error e)
  | .present _ => some (.error e)
  | .createTexture _ => some (.error e)
  | .extent | .releaseTexture _ | .binding _ | .tearDown => none

/-- A rehearsal that follows a script. -/
structure Staged where
  stack : Rehearsal := {}
  script : Script GraphicsError := []
  /-- Which of the next acquired images are suboptimal. -/
  suboptimal : List Nat := []

namespace Staged

/-- Marks an acquired image as suboptimal when the script says so. -/
def mark (s : Staged) (image : AcquiredImage) : AcquiredImage × Staged :=
  let (now, suboptimal) := Script.nextCount s.suboptimal
  ({ image with suboptimal := now }, { s with suboptimal })

/-- The reply of a call that the script lets pass. -/
def passed (call : GraphicsCall Nat) (s : Staged) : Except Fault (call.Reply Nat) × Staged :=
  match call with
  | .acquire =>
    match s.stack.acquire with
    | (.ok image, stack) =>
      let (image, s) := { s with stack }.mark image
      (.ok (.ok image), s)
    | (.error e, stack) => (.ok (.error e), { s with stack })
  | .beginPass image clear =>
    let (reply, stack) := s.stack.answer (.beginPass image clear)
    (reply, { s with stack := stack.write (.clear clear) })
  | call =>
    let (reply, stack) := s.stack.answer call
    (reply, { s with stack })

/-- The reply to a renderer's call. A call that the script makes fail leaves the stack as it is,
except that a failing acquire goes the stack's own way. -/
def answer (call : GraphicsCall Nat) (s : Staged) : Except Fault (call.Reply Nat) × Staged :=
  match scriptName? call with
  | none => s.passed call
  | some name =>
    let (failure, script) := s.script.next name
    let s := { s with script }
    match failure with
    | none => s.passed call
    | some e =>
      match call with
      | .acquire =>
        let stack := { s.stack with acquireErrors := s.stack.acquireErrors ++ [e] }
        { s with stack }.passed .acquire
      | call =>
        match failureReply? e call with
        | some reply => (.ok reply, { s with stack := s.stack.write (.refused name) })
        | none => s.passed call

end Staged

/-- A staged rehearsal and the last drawing made on it. -/
structure Stage where
  staged : Staged := {}
  drawing : Option (Drawing Nat) := none

/-- The reply to a call of the frame loop. -/
def Stage.answer (call : FrameCall Nat Nat) (s : Stage) : Except Fault call.Reply × Stage :=
  match call with
  | .graphics call =>
    let (reply, staged) := s.staged.answer call
    (reply, { s with staged })
  | .draw frame binding => (.ok (), { s with drawing := some ⟨frame, binding⟩ })

end PaintPresenter.Simulation
