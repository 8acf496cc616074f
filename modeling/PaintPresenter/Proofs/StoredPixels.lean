import Mathlib.Logic.Function.Basic
import Mathlib.Logic.Relation
import PaintPresenter.Proofs.DriverConduct

/-!
# A driver that stores pixels

What a driver does with the bytes of buffers and the texels of images. New memory holds anything. A
store writes to mapped memory only, and one that goes past what is mapped leaves anything behind.
Commands that were handed to the queue are executed in order, at any time until the queue is idle:
a copy reads what the memory of its buffer holds then, row after row without a gap, and one whose
objects are gone or do not fit together leaves anything in its image.
-/

namespace PaintPresenter

/-- A color as a texture stores it. -/
structure Texel where
  red : UInt8
  green : UInt8
  blue : UInt8
  alpha : UInt8
  deriving DecidableEq, Repr

/-- Four bytes in the order in which a texture stores them. -/
def Texel.ofBytes (contents : Nat → UInt8) (start : Nat) : Texel :=
  ⟨contents start, contents (start + 1), contents (start + 2), contents (start + 3)⟩

namespace PixelBuffer

/-- The number of a pixel, row after row. -/
def pixelIndex (p : PixelBuffer) (x y : Nat) : Nat := y * p.extent.width.toNat + x

/-- The color of a pixel. -/
def color (p : PixelBuffer) (x y : Nat) : Texel :=
  let byte (channel : Nat) := Bytes.byteAt p.bytes (4 * p.pixelIndex x y + channel)
  match p.order with
  | .rgba => ⟨byte 0, byte 1, byte 2, byte 3⟩
  | .bgra => ⟨byte 2, byte 1, byte 0, byte 3⟩

end PixelBuffer

/-- The pixels of an image are numbered without a gap. -/
theorem Extent.index_lt_area {e : Extent} {x y : Nat} (column : x < e.width.toNat)
    (row : y < e.height.toNat) : y * e.width.toNat + x < e.area := by
  have rows : (y + 1) * e.width.toNat ≤ e.height.toNat * e.width.toNat :=
    Nat.mul_le_mul_right _ row
  rw [Nat.succ_mul] at rows
  rw [Extent.area, Nat.mul_comm e.width.toNat]
  omega

/-- Every number below the area is the number of a pixel. -/
theorem Extent.exists_index {e : Extent} {n : Nat} (below : n < e.area) :
    ∃ x y, x < e.width.toNat ∧ y < e.height.toNat ∧ n = y * e.width.toNat + x := by
  have wide : 0 < e.width.toNat := Nat.pos_of_mul_pos_right (Nat.zero_lt_of_lt below)
  refine ⟨n % e.width.toNat, n / e.width.toNat, Nat.mod_lt _ wide,
    Nat.div_lt_of_lt_mul below, ?_⟩
  rw [Nat.mul_comm]
  exact (Nat.div_add_mod ..).symm

namespace PixelBuffer

private theorem byteAt_rgba (p : PixelBuffer) {n channel : Nat} (inside : n < p.extent.area)
    (four : channel < 4) :
    Bytes.byteAt p.rgba (4 * n + channel) =
      Bytes.byteAt p.bytes (4 * n + p.order.source channel) := by
  have below : 4 * n + channel < p.length := by
    rw [length, p.size_bytes]
    omega
  have index : (4 * n + channel) / 4 = n := by omega
  have rest : (4 * n + channel) % 4 = channel := by omega
  rw [rgba, Bytes.byteAt_tabulate, if_pos below, sourceIndex, index, rest]

/-- The stored image has, at the place of each pixel, its color. -/
theorem ofBytes_rgba (p : PixelBuffer) {x y : Nat} (column : x < p.extent.width.toNat)
    (row : y < p.extent.height.toNat) :
    Texel.ofBytes (Bytes.byteAt p.rgba) (4 * p.pixelIndex x y) = p.color x y := by
  have inside : p.pixelIndex x y < p.extent.area := Extent.index_lt_area column row
  have stored (channel : Nat) (four : channel < 4) := p.byteAt_rgba inside four
  have first := stored 0 (by decide)
  rw [Nat.add_zero] at first
  rw [Texel.ofBytes, first, stored 1 (by decide), stored 2 (by decide), stored 3 (by decide), color]
  cases p.order <;> rfl

end PixelBuffer

namespace Vulkan

/-! ## Copies -/

namespace BufferCopy

variable (region : BufferCopy)

/-- A texel is written by a copy. -/
def Covers (x y : Nat) : Prop :=
  x < region.extent.width.toNat ∧ y < region.extent.height.toNat

/-- Texels from one row in the buffer to the next: rows are as long as they are wide unless the
copy says otherwise. -/
def pitch : Nat := if region.rowLength = 0 then region.extent.width.toNat else region.rowLength

/-- Where in the buffer the bytes of a texel start. -/
def start (x y : Nat) : Nat := region.offset + 4 * (y * region.pitch + x)

/-- A byte of the buffer is read by a copy. -/
def Reads (k : Nat) : Prop :=
  ∃ x y channel, region.Covers x y ∧ channel < 4 ∧ k = region.start x y + channel

/-- A copy without offset and gaps reads four bytes for each pixel, and all bytes up to there. -/
theorem reads_iff {region : BufferCopy} (offset : region.offset = 0)
    (rowLength : region.rowLength = 0) (k : Nat) :
    region.Reads k ↔ k < region.extent.area * 4 := by
  simp only [Reads, Covers, start, pitch, offset, rowLength, if_true, Nat.zero_add]
  constructor
  · rintro ⟨x, y, channel, ⟨column, row⟩, four, rfl⟩
    have inside := Extent.index_lt_area column row
    omega
  · intro below
    obtain ⟨x, y, column, row, index⟩ := Extent.exists_index (n := k / 4)
      (Nat.div_lt_of_lt_mul (Nat.mul_comm .. ▸ below))
    refine ⟨x, y, k % 4, ⟨column, row⟩, Nat.mod_lt _ (by decide), ?_⟩
    rw [← index, Nat.div_add_mod]

end BufferCopy

/-! ## What a driver keeps -/

/-- What a driver keeps of an object. -/
inductive Thing
  /-- Its size, and the memory bound to it with where in that memory it starts. -/
  | buffer (bytes : Nat) (home : Option (Handle .memory × Nat))
  /-- What it holds, and where what is mapped of it starts and how long that is. -/
  | memory (contents : Nat → UInt8) (window : Option (Nat × Nat))
  | image (format : Format) (extent : Extent)
  | commands (recorded : List Command)
  | other

/-- What an object is when it was made. -/
def Creation.Makes : Creation → Thing → Prop
  | .buffer request, thing => thing = .buffer request.bytes none
  | .memory _, thing => ∃ contents, thing = .memory contents none
  | .image request, thing => thing = .image request.format request.extent
  | .commandBuffer _, thing => thing = .commands []
  | _, thing => thing = .other

namespace Thing

/-- A buffer gets memory. -/
def bind (memory : Handle .memory) (offset : Nat) : Thing → Thing
  | .buffer bytes _ => .buffer bytes (some (memory, offset))
  | thing => thing

/-- At least as many bytes as were asked for are mapped. -/
def Maps (offset bytes : Nat) : Thing → Thing → Prop
  | .memory contents _, thing =>
    ∃ length, bytes ≤ length ∧ thing = .memory contents (some (offset, length))
  | old, thing => thing = old

/-- Bytes are written to the start of what is mapped. -/
def Stores (bytes : ByteArray) : Thing → Thing → Prop
  | .memory old (some (start, length)), thing =>
    ∃ contents, thing = .memory contents (some (start, length)) ∧ (bytes.size ≤ length → ∀ k,
      contents k = if start ≤ k ∧ k < start + bytes.size then Bytes.byteAt bytes (k - start)
        else old k)
  | .memory _ none, thing => ∃ contents, thing = .memory contents none
  | old, thing => thing = old

/-- Memory is no longer mapped. -/
def unmap : Thing → Thing
  | .memory contents _ => .memory contents none
  | thing => thing

/-- Commands start over, empty. -/
def restart : Thing → Thing
  | .commands _ => .commands []
  | thing => thing

/-- Commands get one more. -/
def append (command : Command) : Thing → Thing
  | .commands recorded => .commands (recorded ++ [command])
  | thing => thing

end Thing

/-- What a driver keeps of its objects, of the texels of images, and of the queue. -/
structure PixelState where
  things : Object → Option Thing := fun _ => none
  texels : Handle .image → Nat → Nat → Texel
  /-- Commands that were handed over and not executed yet. -/
  queued : List Command := []

namespace PixelState

/-- A thing stands where another one stood. -/
def put (s : PixelState) (o : Object) (thing : Thing) : PixelState :=
  { s with things := Function.update s.things o (some thing) }

/-- A thing is gone. -/
def drop (s : PixelState) (o : Object) : PixelState :=
  { s with things := Function.update s.things o none }

/-- An object, if there is one, becomes another one. -/
def Turns (s : PixelState) (o : Object) (becomes : Thing → Thing → Prop) (t : PixelState) : Prop :=
  s.things o = none ∧ t = s ∨ ∃ old new, s.things o = some old ∧ becomes old new ∧ t = s.put o new

/-- The commands of a recording. -/
def recorded (s : PixelState) (commands : Handle .commandBuffer) : List Command :=
  match s.things commands.object with
  | some (.commands recorded) => recorded
  | _ => []

/-- A copy has all that it needs: a buffer that contains what it reads, in memory with the given
contents, and an image that it fits into. -/
def Sound (s : PixelState) (region : BufferCopy) (contents : Nat → UInt8) (offset : Nat) : Prop :=
  (∃ bytes memory window,
    s.things region.buffer.object = some (.buffer bytes (some (memory, offset))) ∧
      s.things memory.object = some (.memory contents window) ∧
        ∀ k, region.Reads k → k < bytes) ∧
  ∃ extent, s.things region.image.object = some (.image .rgba8Unorm extent) ∧
    region.extent.width ≤ extent.width ∧ region.extent.height ≤ extent.height

/-- The next command of the queue is executed. -/
inductive Execute : PixelState → PixelState → Prop
  | copy {s : PixelState} {region : BufferCopy} {later : List Command}
      (picture : Nat → Nat → Texel) (next : s.queued = .copy region :: later)
      (filled : ∀ contents offset, s.Sound region contents offset → ∀ x y, region.Covers x y →
        picture x y = .ofBytes contents (offset + region.start x y))
      (kept : ∀ contents offset, s.Sound region contents offset → ∀ x y, ¬region.Covers x y →
        picture x y = s.texels region.image x y) :
      Execute s { s with queued := later, texels := Function.update s.texels region.image picture }
  | other {s : PixelState} {command : Command} {later : List Command}
      (next : s.queued = command :: later) (different : ∀ region, command ≠ .copy region) :
      Execute s { s with queued := later }

/-- Any number of commands are executed. -/
abbrev Progress : PixelState → PixelState → Prop := Relation.ReflTransGen Execute

variable {s : PixelState} {region : BufferCopy}

private theorem Sound.unique {contents contents' : Nat → UInt8} {offset offset' : Nat}
    (first : s.Sound region contents offset) (second : s.Sound region contents' offset') :
    contents' = contents ∧ offset' = offset := by
  obtain ⟨⟨bytes, memory, window, buffer, holds, -⟩, -⟩ := first
  obtain ⟨⟨bytes', memory', window', buffer', holds', -⟩, -⟩ := second
  simp only [buffer, Option.some.injEq, Thing.buffer.injEq, Prod.mk.injEq] at buffer'
  obtain ⟨-, rfl, rfl⟩ := buffer'
  simp only [holds, Option.some.injEq, Thing.memory.injEq] at holds'
  exact ⟨holds'.1.symm, rfl⟩

open Classical in
/-- Whatever comes next can be executed. -/
theorem exists_execute {command : Command} {later : List Command}
    (next : s.queued = command :: later) :
    ∃ t, s.Execute t ∧ t.queued = later ∧ t.things = s.things := by
  by_cases copies : ∃ region, command = .copy region
  · obtain ⟨region, rfl⟩ := copies
    by_cases sound : ∃ contents offset, s.Sound region contents offset
    · obtain ⟨contents, offset, sound⟩ := sound
      refine ⟨_, .copy (fun x y => if region.Covers x y then
        .ofBytes contents (offset + region.start x y) else s.texels region.image x y) next ?_ ?_,
        rfl, rfl⟩
      · intro contents' offset' sound' x y covers
        obtain ⟨rfl, rfl⟩ := sound.unique sound'
        exact if_pos covers
      · exact fun _ _ _ x y covers => if_neg covers
    · exact ⟨_, .copy (s.texels region.image) next
        (fun contents offset h => absurd ⟨contents, offset, h⟩ sound) fun _ _ _ _ _ _ => rfl,
        rfl, rfl⟩
  · exact ⟨_, .other next fun region same => copies ⟨region, same⟩, rfl, rfl⟩

/-- The queue can always become idle. -/
theorem exists_idle (s : PixelState) :
    ∃ t, s.Progress t ∧ t.queued = [] ∧ t.things = s.things := by
  generalize length : s.queued = queued
  induction queued generalizing s with
  | nil => exact ⟨s, .refl, length, rfl⟩
  | cons command later ih =>
    obtain ⟨u, executes, queued, same⟩ := exists_execute length
    obtain ⟨t, progress, idle, same'⟩ := ih u queued
    exact ⟨t, .head executes progress, idle, same'.trans same⟩

/-- What a call and its reply do. A call that fails does nothing. -/
def Effect (s : PixelState) : (c : DriverCall) → c.Reply → PixelState → Prop
  | .create request, .ok made, t =>
    s.things made.object = none ∧ ∃ thing, request.Makes thing ∧ t = s.put made.object thing
  | .release o, (), t => t = s.drop o
  | .freeCommands _ commands, (), t => t = s.drop commands.object
  | .perform (.bindBuffer buffer memory offset), .ok (), t =>
    s.Turns buffer.object (fun old new => new = old.bind memory offset) t
  | .perform (.mapMemory memory offset bytes), .ok (), t =>
    s.Turns memory.object (Thing.Maps offset bytes) t
  | .store memory bytes, (), t => s.Turns memory.object (Thing.Stores bytes) t
  | .unmap memory, (), t => s.Turns memory.object (fun old new => new = old.unmap) t
  | .perform (.resetCommands commands), .ok (), t =>
    s.Turns commands.object (fun old new => new = old.restart) t
  | .perform (.beginCommands commands), .ok (), t =>
    s.Turns commands.object (fun old new => new = old.restart) t
  | .record commands command, (), t =>
    s.Turns commands.object (fun old new => new = old.append command) t
  | .perform (.submit _ work), .ok (), t =>
    t = { s with queued := s.queued ++ work.commands.flatMap s.recorded }
  | .perform (.queueIdle _), .ok (), t => s.queued = [] ∧ t = s
  | .perform .deviceIdle, .ok (), t => s.queued = [] ∧ t = s
  | _, _, t => t = s

/-- An image holds the pixels of a buffer of its size. -/
def Pictures (s : PixelState) (image : Handle .image) (p : PixelBuffer) : Prop :=
  s.things image.object = some (.image textureFormat p.extent) ∧
    ∀ x y, x < p.extent.width.toNat → y < p.extent.height.toNat → s.texels image x y = p.color x y

/-- A call moves exactly `n` bytes, if it moves bytes at all: so many are asked for, mapped, stored
where at least as many are mapped, and read from a buffer of that size. -/
def Moves (s : PixelState) (n : Nat) : DriverCall → Prop
  | .create (.buffer request) => request.bytes = n
  | .perform (.mapMemory _ offset bytes) => offset = 0 ∧ bytes = n
  | .store memory bytes => bytes.size = n ∧ ∃ contents start length,
    s.things memory.object = some (.memory contents (some (start, length))) ∧ n ≤ length
  | .record _ (.copy region) => (∀ k, region.Reads k ↔ k < n) ∧
    ∃ home, s.things region.buffer.object = some (.buffer n home)
  | _ => True

end PixelState

/-- The driver as a world: commands may be executed before and after what a call does. -/
def pixelWorld : Program.World Driver PixelState where
  step s c reply t :=
    ∃ u v, PixelState.Progress s u ∧ u.Effect c reply v ∧ PixelState.Progress v t

end Vulkan

end PaintPresenter
