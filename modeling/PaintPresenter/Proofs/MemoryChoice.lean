import Mathlib.Order.Bounds.Basic
import PaintPresenter.Proofs.Faultless
import PaintPresenter.Proofs.UploadedPixels

/-!
# Memory for uploads

A staging buffer and the image of a texture each get memory of their own in the same steps: the
resource is made, the driver says what memory it needs, and memory of the first type that suits is
allocated and bound from its start. What an upload has exchanged says which step comes next. Where
no type suits, the upload ends: the resource goes away at once, and then what was made before it.
-/

namespace PaintPresenter.Vulkan

open Contract

open scoped List

/-! ## Memory types -/

/-- Flags include a mask when they have every bit that the mask has. -/
theorem hasFlags_iff {flags mask : UInt32} :
    hasFlags flags mask = true ↔
      ∀ bit, mask.toNat.testBit bit = true → flags.toNat.testBit bit = true := by
  rw [hasFlags, beq_iff_eq, ← UInt32.toNat_inj, UInt32.toNat_and]
  constructor
  · intro within bit set
    rw [← within, Nat.testBit_and, Bool.and_eq_true] at set
    exact set.1
  · intro within
    refine Nat.eq_of_testBit_eq fun bit => ?_
    rw [Nat.testBit_and, Bool.and_eq_right_iff_imp]
    exact within bit

namespace MemoryTable

/-- A memory type suits what is asked for: it is one of those that count, its bit is set, and it has
all properties. -/
structure Qualifies (table : MemoryTable) (typeBits flags : UInt32) (type : Nat) : Prop where
  counted : type < table.typeCount.toNat
  allowed : typeBits.toNat.testBit type = true
  equipped : ∃ offered, table.types[type]? = some offered ∧
    ∀ bit, flags.toNat.testBit bit = true → offered.toNat.testBit bit = true

variable {table : MemoryTable} {typeBits flags : UInt32} {type : Nat}

private theorem qualifies_iff :
    table.Qualifies typeBits flags type ↔
      type < (table.types.toList.take table.typeCount.toNat).length ∧
        (typeBits.toNat.testBit type &&
          hasFlags ((table.types.toList.take table.typeCount.toNat).getD type 0) flags) = true := by
  rw [Bool.and_eq_true, hasFlags_iff, List.length_take, Vector.length_toList, Nat.lt_min]
  constructor
  · rintro ⟨counted, allowed, offered, there, equipped⟩
    obtain ⟨listed, rfl⟩ := Vector.getElem?_eq_some_iff.mp there
    refine ⟨⟨counted, listed⟩, allowed, ?_⟩
    simpa [List.getD_eq_getElem?_getD, counted, listed] using equipped
  · rintro ⟨⟨counted, listed⟩, allowed, equipped⟩
    refine ⟨counted, allowed, table.types[type], Vector.getElem?_eq_getElem listed, ?_⟩
    simpa [List.getD_eq_getElem?_getD, counted, listed] using equipped

/-- The type that is chosen is the least one that suits. -/
theorem typeFor?_eq_some_iff :
    table.typeFor? typeBits flags = some type ↔
      IsLeast {type | table.Qualifies typeBits flags type} type := by
  unfold typeFor?
  rw [List.find?_range_eq_some]
  constructor
  · rintro ⟨suits, listed, passed⟩
    refine ⟨qualifies_iff.mpr ⟨List.mem_range.mp listed, suits⟩, fun other suits => ?_⟩
    by_contra before
    have skipped := passed other (Nat.lt_of_not_le before)
    rw [(qualifies_iff.mp suits).2] at skipped
    exact Bool.false_ne_true skipped
  · rintro ⟨suits, least⟩
    obtain ⟨listed, suits⟩ := qualifies_iff.mp suits
    refine ⟨suits, List.mem_range.mpr listed, fun other before => ?_⟩
    rw [Bool.not_eq_true', Bool.eq_false_iff]
    intro suits
    exact Nat.not_le_of_lt before (least (qualifies_iff.mpr ⟨Nat.lt_trans before listed, suits⟩))

private theorem typeFor?_eq_none_iff :
    table.typeFor? typeBits flags = none ↔ ∀ type, ¬table.Qualifies typeBits flags type := by
  unfold typeFor?
  rw [List.find?_range_eq_none]
  refine forall_congr' fun type => ?_
  rw [qualifies_iff, not_and, Bool.not_eq_true']
  exact imp_congr_right fun _ => Bool.eq_false_iff

end MemoryTable

/-! ## Steps towards memory -/

/-- Something that memory is bound to. -/
inductive Resource
  | buffer (handle : Handle .buffer)
  | image (handle : Handle .image)

namespace Resource

/-- The object that gets memory. -/
def object : Resource → Object
  | buffer handle => handle.object
  | image handle => handle.object

/-- The properties of its memory: the host writes buffers, images stay on the device. -/
def flags : Resource → MemoryFlags
  | buffer _ => MemoryFlags.hostVisible ||| MemoryFlags.hostCoherent
  | image _ => MemoryFlags.deviceLocal

/-- The call that asks what memory it needs. -/
def question : Resource → DriverCall
  | buffer handle => .bufferNeeds handle
  | image handle => .imageNeeds handle

/-- The call that binds memory to it. -/
def binding (memory : Handle .memory) (offset : Nat) : Resource → DriverCall
  | buffer handle => .perform (.bindBuffer handle memory offset)
  | image handle => .perform (.bindImage handle memory offset)

private theorem question_inj {r r' : Resource} : r.question = r'.question ↔ r = r' := by
  cases r <;> cases r' <;> simp [question]

private theorem binding_inj {r r' : Resource} {memory memory' : Handle .memory}
    {offset offset' : Nat} :
    r.binding memory offset = r'.binding memory' offset' ↔
      r = r' ∧ memory = memory' ∧ offset = offset' := by
  cases r <;> cases r' <;> simp [binding]

end Resource

/-- How far the latest resource has come. -/
inductive Provision
  /-- Nothing is under way. -/
  | settled
  | made (r : Resource)
  | asked (r : Resource) (needs : MemoryRequirements)
  | allocated (r : Resource) (memory : Handle .memory)

/-- Where a call and its reply lead. -/
def Provision.next (p : Provision) : (c : DriverCall) → c.Reply → Provision
  | .create (.buffer _), .ok buffer => .made (.buffer buffer)
  | .create (.image _), .ok image => .made (.image image)
  | .bufferNeeds buffer, needs => .asked (.buffer buffer) needs
  | .imageNeeds image, needs => .asked (.image image) needs
  | .create (.memory _), .ok memory =>
    match p with
    | .asked r _ => .allocated r memory
    | _ => .settled
  | _, _ => .settled

/-- What could not be made leads nowhere. -/
theorem Provision.next_error (p : Provision) (request : Creation) (result : ResultCode) :
    p.next (.create request) (.error result) = .settled := by cases request <;> rfl

variable {γ : Type}

/-- Where a history has led, latest exchange first. -/
def provision : List (Exchange Driver γ) → Provision
  | [] => .settled
  | e :: earlier => (provision earlier).next e.call e.reply

namespace MemoryTable

/-- No memory type suits a resource. -/
def Lacks (table : MemoryTable) (r : Resource) (needs : MemoryRequirements) : Prop :=
  ∀ type, ¬table.Qualifies needs.typeBits r.flags type

/-- A call is the right one, as far as memory is concerned. -/
structure Governs (table : MemoryTable) (p : Provision) (c : DriverCall) : Prop where
  /-- A resource is asked about when it was just made. -/
  question : ∀ r : Resource, c = r.question ↔ p = .made r
  /-- Memory is allocated when a resource was just asked about and a type suits it: of the first
  such type, and of the size that the resource needs. -/
  allocation : ∀ request, c = .create (.memory request) ↔
    ∃ r needs, p = .asked r needs ∧ request.bytes = needs.bytes ∧
      IsLeast {type | table.Qualifies needs.typeBits r.flags type} request.type
  /-- Memory is bound when it was just allocated, from its start. -/
  binding : ∀ (r : Resource) memory offset, c = r.binding memory offset ↔
    p = .allocated r memory ∧ offset = 0
  /-- A resource that no type suits is released. -/
  release : ∀ r needs, p = .asked r needs → table.Lacks r needs → c = .release r.object

/-- At some time a resource was asked about that no type suits. -/
def Refuses (table : MemoryTable) (history : List (Exchange Driver γ)) : Prop :=
  ∃ earlier r needs, earlier <:+ history ∧ provision earlier = .asked r needs ∧
    table.Lacks r needs

/-- A resource that no type suits was released at once, and after that there were releases only. -/
def GivenUp (table : MemoryTable) (history : List (Exchange Driver γ)) : Prop :=
  ∃ (later earlier : List (Exchange Driver γ)) (u : γ) (r : Resource) (needs : MemoryRequirements),
    history = later ++ ⟨.release r.object, (), u⟩ :: earlier ∧
      provision earlier = .asked r needs ∧ table.Lacks r needs ∧
        ∀ e ∈ later, ∃ o, e.call.frees? = some o

section GivenUp

variable {table : MemoryTable} {history : List (Exchange Driver γ)}

private theorem GivenUp.refuses (givenUp : table.GivenUp history) : table.Refuses history := by
  obtain ⟨later, earlier, u, r, needs, rfl, asked, lacks, -⟩ := givenUp
  exact ⟨earlier, r, needs, ⟨later ++ [⟨.release r.object, (), u⟩], by simp⟩, asked, lacks⟩

private theorem GivenUp.cons (givenUp : table.GivenUp history) {e : Exchange Driver γ} {o : Object}
    (frees : e.call.frees? = some o) : table.GivenUp (e :: history) := by
  obtain ⟨later, earlier, u, r, needs, rfl, asked, lacks, released⟩ := givenUp
  exact ⟨e :: later, earlier, u, r, needs, rfl, asked, lacks,
    List.forall_mem_cons.mpr ⟨⟨o, frees⟩, released⟩⟩

end GivenUp

end MemoryTable

/-- The objects that were made, latest first. -/
def madeIn (history : List (Exchange Driver γ)) : List Object :=
  history.flatMap fun e => (e.call.made? e.reply).toList

/-- The objects that were released, latest first. -/
def freedIn (history : List (Exchange Driver γ)) : List Object :=
  history.flatMap fun e => e.call.frees?.toList

/-! ## Calls that are the right ones -/

section Governs

variable {table : MemoryTable} {r : Resource} {needs : MemoryRequirements}

-- Calls that are no step towards memory, but for the making of a resource.
private def Incidental : DriverCall → Prop
  | .create (.memory _) | .bufferNeeds _ | .imageNeeds _ | .perform (.bindBuffer _ _ _)
  | .perform (.bindImage _ _ _) => False
  | _ => True

private theorem governs_settled {c : DriverCall} (incidental : Incidental c) :
    table.Governs .settled c where
  question r := by
    refine ⟨?_, nofun⟩
    rintro rfl
    cases r <;> exact incidental.elim
  allocation request := by
    refine ⟨?_, nofun⟩
    rintro rfl
    exact incidental.elim
  binding r memory offset := by
    refine ⟨?_, nofun⟩
    rintro rfl
    cases r <;> exact incidental.elim
  release := nofun

private theorem governs_made : table.Governs (.made r) r.question where
  question r' := by simp [Resource.question_inj]
  allocation request := by cases r <;> simp [Resource.question]
  binding r' memory offset := by cases r <;> cases r' <;> simp [Resource.question, Resource.binding]
  release := nofun

private theorem governs_asked {type : Nat}
    (least : IsLeast {type | table.Qualifies needs.typeBits r.flags type} type) :
    table.Governs (.asked r needs) (.create (.memory { bytes := needs.bytes, type })) where
  question r' := by cases r' <;> simp [Resource.question]
  allocation request := by
    simp only [DriverCall.create.injEq, Creation.memory.injEq]
    constructor
    · rintro rfl
      exact ⟨r, needs, rfl, rfl, least⟩
    · rintro ⟨_, _, ⟨⟩, bytes, chosen⟩
      cases request
      exact (MemoryRequest.mk.injEq ..).mpr ⟨bytes.symm, IsLeast.unique least chosen⟩
  binding r' memory offset := by cases r' <;> simp [Resource.binding]
  release r' needs' same lacks := by
    obtain ⟨rfl, rfl⟩ := Provision.asked.inj same
    exact absurd least.1 (lacks type)

private theorem governs_lacking (lacks : table.Lacks r needs) :
    table.Governs (.asked r needs) (.release r.object) where
  question r' := by cases r' <;> simp [Resource.question]
  allocation request := by
    refine ⟨nofun, ?_⟩
    rintro ⟨_, _, ⟨⟩, -, least⟩
    exact absurd least.1 (lacks _)
  binding r' memory offset := by cases r' <;> simp [Resource.binding]
  release r' needs' same _ := by
    obtain ⟨rfl, rfl⟩ := Provision.asked.inj same
    rfl

private theorem governs_allocated {memory : Handle .memory} :
    table.Governs (.allocated r memory) (r.binding memory 0) where
  question r' := by cases r <;> cases r' <;> simp [Resource.question, Resource.binding]
  allocation request := by cases r <;> simp [Resource.binding]
  binding r' memory' offset := by simp [Resource.binding_inj, and_assoc, eq_comm]
  release := nofun

end Governs

/-! ## An upload under way -/

variable {W : Program.World Driver γ} {rig : Rig} {table : MemoryTable} {p : Provision}
  {r : Resource} {needs : MemoryRequirements} {held held' : List Object} {e : GraphicsError}
  {x y : γ × List (Exchange Driver γ)} {c : DriverCall} {kind kind' : ObjectKind}

private def provided (W : Program.World Driver γ) (table : MemoryTable) :
    Contract Driver (γ × List (Exchange Driver γ)) :=
  Contract.watched W fun _ history => table.Governs (provision history)

private def Balanced (held : List Object) (history : List (Exchange Driver γ)) : Prop :=
  madeIn history ~ freedIn history ++ held

private theorem Balanced.cons {history : List (Exchange Driver γ)} (h : Balanced held history)
    {e : Exchange Driver γ}
    (balance : (e.call.made? e.reply).toList ++ held ~ e.call.frees?.toList ++ held') :
    Balanced held' (e :: history) :=
  calc madeIn (e :: history)
    _ = (e.call.made? e.reply).toList ++ madeIn history := rfl
    _ ~ (e.call.made? e.reply).toList ++ (freedIn history ++ held) := h.append_left _
    _ ~ freedIn history ++ ((e.call.made? e.reply).toList ++ held) :=
      List.perm_append_comm_assoc ..
    _ ~ freedIn history ++ (e.call.frees?.toList ++ held') := balance.append_left _
    _ ~ e.call.frees?.toList ++ (freedIn history ++ held') := List.perm_append_comm_assoc ..
    _ = freedIn (e :: history) ++ held' := (List.append_assoc ..).symm

private def Suited (table : MemoryTable) : Provision → Prop
  | .asked r needs => ¬table.Lacks r needs
  | _ => True

-- How far the latest resource has come, and what the upload holds.
private structure Underway (table : MemoryTable) (p : Provision) (held : List Object)
    (x : γ × List (Exchange Driver γ)) : Prop where
  stage : provision x.2 = p
  /-- If a resource was asked about that no type suits, then just now. -/
  latest : ∀ earlier r needs, earlier <:+ x.2 → provision earlier = .asked r needs →
    table.Lacks r needs → earlier = x.2
  balanced : Balanced held x.2

private structure Broken (table : MemoryTable) (held : List Object) (e : GraphicsError)
    (x : γ × List (Exchange Driver γ)) : Prop extends Underway table .settled held x where
  other : e ≠ .noCompatibleMemory

-- No type suited a resource, and it is gone.
private structure Refused (table : MemoryTable) (held : List Object)
    (x : γ × List (Exchange Driver γ)) : Prop where
  stage : provision x.2 = .settled
  givenUp : table.GivenUp x.2
  balanced : Balanced held x.2

-- No type suited a staging buffer.
private structure Unstaged (table : MemoryTable) (held : List Object) (bytes : Nat)
    (before : List DriverCall) (x : γ × List (Exchange Driver γ)) : Prop
    extends Refused table held x where
  calls : ∃ buffer : Handle .buffer, x.2.map Exchange.call =
    .release buffer.object :: .bufferNeeds buffer :: .create (.buffer { bytes }) :: before

private theorem ofResult_ne (function : String) (result : ResultCode) :
    GraphicsError.ofResult function result ≠ .noCompatibleMemory := by
  unfold GraphicsError.ofResult
  split
  · exact nofun
  · split <;> exact nofun

private theorem permits_of_stage (stage : provision x.2 = p) (governs : table.Governs p c) :
    (provided W table).permits x c := by
  subst stage
  exact governs

namespace Underway

private theorem unrefused (h : Underway table .settled held x) : ¬table.Refuses x.2 := by
  rintro ⟨earlier, r, needs, part, asked, lacks⟩
  obtain rfl := h.latest earlier r needs part asked lacks
  exact Provision.noConfusion (asked.symm.trans h.stage)

private theorem permits (h : Underway table p held x) (governs : table.Governs p c) :
    (provided W table).permits x c := permits_of_stage h.stage governs

-- What one exchange does, if it is none that gives a resource up.
private theorem next (h : Underway table p held x) {reply : c.Reply}
    (step : (provided W table).step x c reply y) (suited : Suited table p)
    (balance : (c.made? reply).toList ++ held ~ c.frees?.toList ++ held') :
    Underway table (p.next c reply) held' y := by
  obtain ⟨t, history⟩ := y
  obtain ⟨rfl, -⟩ := watched_step.mp step
  refine ⟨congrArg (Provision.next · c reply) h.stage, ?_, h.balanced.cons balance⟩
  intro earlier r needs part asked lacks
  obtain rfl | part := List.suffix_cons_iff.mp part
  · rfl
  · obtain rfl := h.latest earlier r needs part asked lacks
    obtain rfl : p = .asked r needs := h.stage.symm.trans asked
    exact absurd lacks suited

private theorem perm (h : Underway table p held x) (same : held ~ held') :
    Underway table p held' x :=
  ⟨h.stage, h.latest, h.balanced.trans (same.append_left _)⟩

private theorem release {handle : Handle kind}
    (h : Underway table .settled (handle.object :: held) x) :
    (provided W table).Keeps (Driver.release handle) x fun _ => Underway table .settled held := by
  rw [keeps_release]
  exact ⟨h.permits (governs_settled trivial), fun y step => h.next step trivial .rfl⟩

private theorem releaseBoth {upper : Handle kind} {lower : Handle kind'}
    (h : Underway table .settled (upper.object :: lower.object :: held) x) :
    (provided W table).Keeps (do Driver.release upper; Driver.release lower) x fun _ =>
      Underway table .settled held := by
  rw [keeps_bind]
  exact h.release.mono fun _ _ h => h.release

end Underway

private theorem Broken.releaseBoth {upper : Handle kind} {lower : Handle kind'}
    (h : Broken table (upper.object :: lower.object :: held) e x) :
    (provided W table).Keeps (do Driver.release upper; Driver.release lower) x fun _ =>
      Broken table held e :=
  h.toUnderway.releaseBoth.mono fun _ _ known => ⟨known, h.other⟩

namespace Underway

private theorem performAny (h : Underway table p held x) {operation : Operation}
    (governs : table.Governs p (.perform operation)) (suited : Suited table p) :
    (provided W table).KeepsTask (Driver.perform operation) x
      (fun _ => Underway table .settled held) (Broken table held) := by
  rw [keepsTask_perform]
  refine ⟨h.permits governs, fun y step => ?_, fun result y step => ?_⟩
  · exact h.next step suited .rfl
  · exact ⟨h.next step suited .rfl, ofResult_ne _ result⟩

private theorem perform (h : Underway table .settled held x) (operation : Operation)
    (incidental : Incidental (.perform operation)) :
    (provided W table).KeepsTask (Driver.perform operation) x
      (fun _ => Underway table .settled held) (Broken table held) :=
  h.performAny (governs_settled incidental) trivial

private theorem create (h : Underway table .settled held x) (request : Creation)
    (incidental : Incidental (.create request)) :
    (provided W table).KeepsTask (Driver.create request) x
      (fun made y => Underway table (Provision.next .settled (.create request) (.ok made))
          (made.object :: held) y ∧
        y.2.map Exchange.call = .create request :: x.2.map Exchange.call)
      (Broken table held) := by
  rw [keepsTask_create]
  refine ⟨h.permits (governs_settled incidental), fun made y step => ?_, fun result y step => ?_⟩
  · exact ⟨h.next step trivial .rfl, congrArg _ step.2⟩
  · exact ⟨Provision.next_error .. ▸ h.next step trivial .rfl, ofResult_ne _ result⟩

private theorem giveUp {handle : Handle kind}
    (h : Underway table (.asked r needs) (handle.object :: held) x)
    (same : handle.object = r.object) (lacks : table.Lacks r needs) :
    (provided W table).Keeps (Driver.release handle) x fun _ y => Refused table held y ∧
      y.2.map Exchange.call = .release handle.object :: x.2.map Exchange.call := by
  rw [keeps_release]
  refine ⟨h.permits (same ▸ governs_lacking lacks), fun y step => ⟨?_, congrArg _ step.2⟩⟩
  obtain ⟨t, history⟩ := y
  obtain ⟨rfl, -⟩ := watched_step.mp step
  refine ⟨rfl, ?_, h.balanced.cons .rfl⟩
  exact ⟨[], x.2, t, r, needs, by rw [same]; rfl, h.stage, lacks, List.forall_mem_nil _⟩

private theorem allocate {handle : Handle kind}
    (h : Underway rig.memory (.asked r needs) (handle.object :: held) x)
    (same : handle.object = r.object) :
    (provided W rig.memory).KeepsTask
      (Driver.undoing (Driver.release handle) (allocate rig needs r.flags)) x
      (fun memory =>
        Underway rig.memory (.allocated r memory) (handle.object :: memory.object :: held))
      fun e y => Broken rig.memory held e y ∨ e = .noCompatibleMemory ∧
        Refused rig.memory held y ∧
          y.2.map Exchange.call = .release handle.object :: x.2.map Exchange.call := by
  rw [keepsTask_undoing]
  unfold Vulkan.allocate
  cases found : rig.memory.typeFor? needs.typeBits r.flags with
  | none =>
    have lacks : rig.memory.Lacks r needs := MemoryTable.typeFor?_eq_none_iff.mp found
    exact (h.giveUp same lacks).mono fun _ y refused => .inr ⟨rfl, refused⟩
  | some type =>
    have least := MemoryTable.typeFor?_eq_some_iff.mp found
    have suited : Suited rig.memory (.asked r needs) := fun lacks => lacks type least.1
    rw [keepsTask_create]
    refine ⟨h.permits (governs_asked least), fun memory y step => ?_, fun result y step => ?_⟩
    · exact h.next step suited (.swap ..)
    · have h := h.next step suited .rfl
      exact h.release.mono fun _ y h => .inl ⟨h, ofResult_ne _ result⟩

private theorem bind {handle : Handle kind} {memory : Handle .memory} {operation : Operation}
    (h : Underway table (.allocated r memory) (handle.object :: memory.object :: held) x)
    (binds : r.binding memory 0 = .perform operation) :
    (provided W table).KeepsTask
      (Driver.undoing (do Driver.release handle; Driver.release memory)
        (Driver.perform operation)) x
      (fun _ => Underway table .settled (handle.object :: memory.object :: held))
      (Broken table held) := by
  rw [keepsTask_undoing]
  exact (h.performAny (binds ▸ governs_allocated) trivial).mono (fun _ _ => id) fun _ _ broken =>
    broken.releaseBoth

private theorem stagingCreate (h : Underway rig.memory .settled held x) (bytes : Nat) :
    (provided W rig.memory).KeepsTask (StagingBuffer.create rig bytes) x
      (fun staging => Underway rig.memory .settled
        (staging.buffer.object :: staging.memory.object :: held))
      fun e y => Broken rig.memory held e y ∨ e = .noCompatibleMemory ∧
        Unstaged rig.memory held bytes (x.2.map Exchange.call) y := by
  unfold StagingBuffer.create
  simp only [keepsTask_bind, keepsTask_liftM, keeps_bufferNeeds, keepsTask_pure]
  refine (h.create (.buffer { bytes }) trivial).mono ?_ fun _ _ => .inl
  rintro buffer t ⟨h, made⟩
  refine ⟨h.permits (governs_made (r := .buffer buffer)), fun needs u step => ?_⟩
  have h : Underway rig.memory (.asked (.buffer buffer) needs) (buffer.object :: held) u :=
    h.next step trivial .rfl
  have asked : u.2.map Exchange.call =
      .bufferNeeds buffer :: .create (.buffer { bytes }) :: x.2.map Exchange.call :=
    (congrArg _ step.2).trans (congrArg _ made)
  refine (h.allocate rfl).mono (fun memory v h => ?_) ?_
  · exact (h.bind rfl).mono (fun _ _ => id) fun _ _ => .inl
  · rintro e v (broken | ⟨rfl, refused, calls⟩)
    · exact .inl broken
    · exact .inr ⟨rfl, refused, buffer, calls.trans (congrArg _ asked)⟩

private theorem fill (h : Underway table .settled held x) (staging : StagingBuffer)
    (pixels : PixelBuffer) :
    (provided W table).KeepsTask (staging.fill pixels) x
      (fun _ => Underway table .settled held) (Broken table held) := by
  unfold StagingBuffer.fill
  simp only [keepsTask_bind, keepsTask_liftM, keeps_store, keeps_unmap]
  refine (h.perform (.mapMemory ..) trivial).mono (fun _ t h => ?_) fun _ _ => id
  refine ⟨h.permits (governs_settled trivial), fun u step => ?_⟩
  have h : Underway table .settled held u := h.next step trivial .rfl
  exact ⟨h.permits (governs_settled trivial), fun v step => h.next step trivial .rfl⟩

private theorem ofPixels (h : Underway rig.memory .settled held x) (pixels : PixelBuffer) :
    (provided W rig.memory).KeepsTask (StagingBuffer.ofPixels rig pixels) x
      (fun staging => Underway rig.memory .settled
        (staging.buffer.object :: staging.memory.object :: held))
      fun e y => Broken rig.memory held e y ∨ e = .noCompatibleMemory ∧
        Unstaged rig.memory held pixels.length (x.2.map Exchange.call) y := by
  unfold StagingBuffer.ofPixels
  simp only [keepsTask_bind, keepsTask_undoing, keepsTask_pure]
  refine (h.stagingCreate _).mono (fun staging t h => ?_) fun _ _ => id
  refine (h.fill staging pixels).mono (fun _ _ => id) fun e u broken => ?_
  exact broken.releaseBoth.mono fun _ _ => .inl

end Underway

namespace Refused

private theorem release {handle : Handle kind} (h : Refused table (handle.object :: held) x) :
    (provided W table).Keeps (Driver.release handle) x fun _ => Refused table held := by
  rw [keeps_release]
  refine ⟨permits_of_stage h.stage (governs_settled trivial), fun y step => ?_⟩
  obtain ⟨t, history⟩ := y
  obtain ⟨rfl, -⟩ := watched_step.mp step
  exact ⟨rfl, h.givenUp.cons rfl, h.balanced.cons .rfl⟩

private theorem releaseBoth {upper : Handle kind} {lower : Handle kind'}
    (h : Refused table (upper.object :: lower.object :: held) x) :
    (provided W table).Keeps (do Driver.release upper; Driver.release lower) x fun _ =>
      Refused table held := by
  rw [keeps_bind]
  exact h.release.mono fun _ _ h => h.release

end Refused

namespace Underway

/-! ### Images -/

private theorem createBare (h : Underway rig.memory .settled held x) (extent : Extent) :
    (provided W rig.memory).KeepsTask (SampledImage.createBare rig extent) x
      (fun made => Underway rig.memory .settled (made.1.object :: made.2.object :: held))
      fun e y => Broken rig.memory held e y ∨ e = .noCompatibleMemory ∧
        Refused rig.memory held y := by
  unfold SampledImage.createBare
  simp only [keepsTask_bind, keepsTask_liftM, keeps_imageNeeds, keepsTask_pure]
  refine (h.create (.image { format := textureFormat, extent }) trivial).mono ?_ fun _ _ => .inl
  rintro image t ⟨h, -⟩
  refine ⟨h.permits (governs_made (r := .image image)), fun needs u step => ?_⟩
  have h : Underway rig.memory (.asked (.image image) needs) (image.object :: held) u :=
    h.next step trivial .rfl
  refine (h.allocate rfl).mono (fun memory v h => ?_) ?_
  · exact (h.bind rfl).mono (fun _ _ => id) fun _ _ => .inl
  · rintro e v (broken | ⟨rfl, refused, -⟩)
    · exact .inl broken
    · exact .inr ⟨rfl, refused⟩

private theorem record (h : Underway table .settled held x) (commands : Handle .commandBuffer)
    (command : Command) :
    (provided W table).Keeps (Driver.record commands command) x fun _ =>
      Underway table .settled held := by
  rw [keeps_record]
  exact ⟨h.permits (governs_settled trivial), fun y step => h.next step trivial .rfl⟩

private theorem changeLayout (h : Underway table .settled held x)
    (commands : Handle .commandBuffer) (image : Handle .image) (old new : ImageLayout) :
    (provided W table).KeepsTask (changeLayout commands image old new) x
      (fun _ => Underway table .settled held) (Broken table held) := by
  unfold Vulkan.changeLayout
  cases LayoutChange.between? old new with
  | none => exact ⟨h, nofun⟩
  | some change =>
    rw [keepsTask_liftM]
    exact h.record ..

private theorem recordCopy (h : Underway table .settled held x) (commands : Handle .commandBuffer)
    (staging : StagingBuffer) (image : Handle .image) (extent : Extent) (old : ImageLayout) :
    (provided W table).KeepsTask (recordCopy commands staging image extent old) x
      (fun _ => Underway table .settled held) (Broken table held) := by
  simp only [Vulkan.recordCopy, keepsTask_bind, keepsTask_liftM]
  refine (h.perform (.beginCommands _) trivial).mono (fun _ _ h => ?_) fun _ _ => id
  refine (h.changeLayout ..).mono (fun _ _ h => ?_) fun _ _ => id
  refine (h.record ..).mono fun _ _ h => ?_
  refine (h.changeLayout ..).mono (fun _ _ h => ?_) fun _ _ => id
  exact h.perform (.endCommands _) trivial

private theorem freeCommands {commands : Handle .commandBuffer} (pool : Handle .commandPool)
    (h : Underway table .settled (commands.object :: held) x) :
    (provided W table).Keeps (Driver.freeCommands pool commands) x fun _ =>
      Underway table .settled held := by
  rw [keeps_freeCommands]
  exact ⟨h.permits (governs_settled trivial), fun y step => h.next step trivial .rfl⟩

private theorem copyIntoImage (h : Underway table .settled held x) (staging : StagingBuffer)
    (image : Handle .image) (extent : Extent) (old : ImageLayout) :
    (provided W table).KeepsTask (copyIntoImage rig staging image extent old) x
      (fun _ => Underway table .settled held) (Broken table held) := by
  unfold Vulkan.copyIntoImage
  simp only [keepsTask_bind, keepsTask_closing]
  refine (h.create (.commandBuffer rig.commandPool) trivial).mono ?_ fun _ _ => id
  rintro commands t ⟨h, -⟩
  have freed {e : GraphicsError} {y : γ × List (Exchange Driver γ)}
      (broken : Broken table (commands.object :: held) e y) :
      (provided W table).Keeps (Driver.freeCommands rig.commandPool commands) y fun _ =>
        Broken table held e :=
    (broken.freeCommands _).mono fun _ _ h => ⟨h, broken.other⟩
  refine (h.recordCopy ..).mono (fun _ _ h => ?_) fun _ _ => freed
  refine (h.perform (.submit ..) trivial).mono (fun _ _ h => ?_) fun _ _ => freed
  exact (h.perform (.queueIdle _) trivial).mono (fun _ _ h => h.freeCommands _) fun _ _ => freed

/-! ### Textures -/

-- The staging buffer goes first, though it was made first.
private theorem stagingRelease {staging : StagingBuffer} {image : Handle .image}
    {memory : Handle .memory}
    (h : Underway table .settled (image.object :: memory.object :: staging.buffer.object ::
      staging.memory.object :: held) x) :
    (provided W table).Keeps staging.release x fun _ =>
      Underway table .settled (image.object :: memory.object :: held) :=
  (h.perm (List.perm_append_comm_assoc [_, _] [_, _] held)).releaseBoth

private theorem showImage {staging : StagingBuffer} {image : Handle .image}
    {memory : Handle .memory}
    (h : Underway table .settled (image.object :: memory.object :: staging.buffer.object ::
      staging.memory.object :: held) x) (extent : Extent) :
    (provided W table).KeepsTask (do
        Driver.closing staging.release (Vulkan.copyIntoImage rig staging image extent .undefined)
        Driver.create (.view { image, format := textureFormat })) x
      (fun view => Underway table .settled
        (view.object :: image.object :: memory.object :: held))
      (Broken table (image.object :: memory.object :: held)) := by
  rw [keepsTask_bind, keepsTask_closing]
  refine (h.copyIntoImage staging image extent _).mono (fun _ t h => ?_) fun e t broken => ?_
  · refine h.stagingRelease.mono fun _ t h => ?_
    exact (h.create (.view _) trivial).mono (fun _ _ h => h.1) fun _ _ => id
  · exact broken.stagingRelease.mono fun _ _ h => ⟨h, broken.other⟩

private theorem createTexture (h : Underway rig.memory .settled held x) (pixels : PixelBuffer) :
    (provided W rig.memory).KeepsTask (SampledImage.create rig pixels) x
      (fun texture => Underway rig.memory .settled
        (texture.view.object :: texture.image.object :: texture.memory.object :: held))
      fun e y => Broken rig.memory held e y ∨ e = .noCompatibleMemory ∧
        Refused rig.memory held y := by
  unfold SampledImage.create
  rw [keepsTask_bind]
  refine (h.ofPixels pixels).mono (fun staging t h => ?_) ?_
  · rw [keepsTask_bind, keepsTask_undoing]
    refine (h.createBare _).mono ?_ ?_
    · rintro ⟨image, memory⟩ t h
      rw [keepsTask_bind, keepsTask_undoing]
      refine (h.showImage _).mono (fun view t h => ?_) fun _ _ broken =>
        broken.releaseBoth.mono fun _ _ => .inl
      rw [keepsTask_bind, keepsTask_driverLog]
      exact h
    · rintro e t (broken | ⟨rfl, refused⟩)
      · exact broken.releaseBoth.mono fun _ _ => .inl
      · exact refused.releaseBoth.mono fun _ _ h => .inr ⟨rfl, h⟩
  · rintro e t (broken | ⟨rfl, unstaged⟩)
    · exact .inl broken
    · exact .inr ⟨rfl, unstaged.toRefused⟩

private theorem updateTexture (h : Underway rig.memory .settled held x) (texture : SampledImage)
    (pixels : PixelBuffer) :
    (provided W rig.memory).KeepsTask (SampledImage.update rig texture pixels) x
      (fun _ => Underway rig.memory .settled held)
      fun e y => Broken rig.memory held e y ∨ e = .noCompatibleMemory ∧
        Unstaged rig.memory held pixels.length (x.2.map Exchange.call) y := by
  unfold SampledImage.update
  by_cases other : pixels.extent ≠ texture.extent
  · rw [if_pos other]
    exact .inl ⟨h, nofun⟩
  rw [if_neg other]
  simp only [keepsTask_bind, keepsTask_closing]
  refine (h.ofPixels pixels).mono (fun staging t h => ?_) fun _ _ => id
  refine (h.copyIntoImage staging _ _ _).mono (fun _ t h => h.releaseBoth) fun e t broken => ?_
  exact broken.releaseBoth.mono fun _ _ => .inl

end Underway

/-! ## Uploads -/

/-- What an upload ends with and what it exchanged. -/
structure Upload.Concludes (upload : Upload) (table : MemoryTable)
    (result : Except GraphicsError SampledImage) (history : List (Exchange Driver γ)) : Prop where
  /-- A lack of memory is reported as such, and nothing else is. -/
  refused : result = .error .noCompatibleMemory ↔ table.Refuses history
  givenUp : table.Refuses history → table.GivenUp history
  /-- Whatever it failed with, all that it made is gone. -/
  undone : ∀ e, result = .error e → madeIn history ~ freedIn history
  /-- A texture that was to be overwritten is not touched: there was a staging buffer only. -/
  untouched : ∀ texture pixels, upload = .update texture pixels → table.Refuses history →
    ∃ buffer : Handle .buffer, history.map Exchange.call =
      [.release buffer.object, .bufferNeeds buffer, .create (.buffer { bytes := pixels.length })]

variable {upload : Upload} {texture : SampledImage}

private theorem Underway.concludes (h : Underway table .settled held x) :
    upload.Concludes table (.ok texture) x.2 where
  refused := ⟨nofun, fun refuses => absurd refuses h.unrefused⟩
  givenUp refuses := absurd refuses h.unrefused
  undone := nofun
  untouched _ _ _ refuses := absurd refuses h.unrefused

private theorem Broken.concludes (h : Broken table [] e x) :
    upload.Concludes table (.error e) x.2 where
  refused := ⟨fun same => absurd (Except.error.inj same) h.other,
    fun refuses => absurd refuses h.unrefused⟩
  givenUp refuses := absurd refuses h.unrefused
  undone _ _ := by simpa [Balanced] using h.balanced
  untouched _ _ _ refuses := absurd refuses h.unrefused

private theorem Refused.concludes (h : Refused table [] x)
    (untouched : ∀ texture pixels, upload = .update texture pixels →
      ∃ buffer : Handle .buffer, x.2.map Exchange.call =
        [.release buffer.object, .bufferNeeds buffer,
          .create (.buffer { bytes := pixels.length })]) :
    upload.Concludes table (.error .noCompatibleMemory) x.2 where
  refused := ⟨fun _ => h.givenUp.refuses, fun _ => rfl⟩
  givenUp _ := h.givenUp
  undone _ _ := by simpa [Balanced] using h.balanced
  untouched texture pixels same _ := untouched texture pixels same

private theorem upload_provided (W : Program.World Driver γ) (rig : Rig) (upload : Upload) (s : γ) :
    (provided W rig.memory).Keeps (upload.task rig).run (s, []) fun result x =>
      upload.Concludes rig.memory result x.2 := by
  have start : Underway rig.memory .settled [] (s, ([] : List (Exchange Driver γ))) :=
    ⟨rfl, fun _ _ _ part _ _ => List.suffix_nil.mp part, .nil⟩
  rw [keepsTask_run]
  cases upload with
  | create pixels =>
    refine (start.createTexture pixels).mono (fun _ _ h => h.concludes) ?_
    rintro e t (broken | ⟨rfl, refused⟩)
    · exact broken.concludes
    · exact refused.concludes nofun
  | update texture pixels =>
    unfold Upload.task
    rw [keepsTask_bind]
    refine (start.updateTexture texture pixels).mono (fun _ _ h => h.concludes) ?_
    rintro e t (broken | ⟨rfl, unstaged⟩)
    · exact broken.concludes
    · apply unstaged.concludes
      rintro _ _ ⟨⟩
      exact unstaged.calls

private theorem upload_completes {good : (c : DriverCall) → c.Reply → Prop} (rig : Rig)
    (upload : Upload) : (upload.task rig).run.Completes DriverCall.Unfenced good := by
  cases upload with
  | create pixels => exact createTexture_completes rig pixels
  | update texture pixels =>
    exact ExceptT.completes_bind (updateTexture_completes rig texture pixels) fun _ => trivial

/-- Every upload makes the right calls for memory and comes to an end, whatever the memory types of
the device and whatever the driver replies. -/
theorem uploads_provide_memory (W : Program.World Driver γ) (rig : Rig) (upload : Upload) (s : γ) :
    (∀ c t history, (upload.task rig).run.Makes W.recorded (s, []) c (t, history) →
      rig.memory.Governs (provision history) c) ∧
    (upload.task rig).run.Surely W.recorded (s, []) fun result x =>
      upload.Concludes rig.memory result x.2 := by
  have kept := upload_provided W rig upload s
  refine ⟨fun c t history makes => kept.permits makes, ?_⟩
  have ended : (free W.recorded).Keeps (upload.task rig).run (s, []) fun result x =>
      upload.Concludes rig.memory result x.2 :=
    keeps_iff.mpr ⟨fun _ _ _ => trivial, fun _ _ ends => kept.ends ends⟩
  have completes : (upload.task rig).run.Completes DriverCall.Unfenced fun _ _ => True :=
    upload_completes rig upload
  exact completes.surely (fun _ _ _ _ _ => trivial) ended

/-- Replies of a driver whose buffers and images take memory of type 1 or 2. -/
def choosyReply : (c : DriverCall) → c.Reply
  | .bufferNeeds _ | .imageNeeds _ => ⟨16, 6⟩
  | c => c.granted 1

/-- A world in which that driver is the only one. -/
def choosy : Program.World Driver Unit where
  step _ c reply _ := reply = choosyReply c

/-- Of the types 1 and 2, the second is for the host and none for images. The other two have what is
asked for, but one is not allowed and one does not count. -/
def choosyRig : Rig := { plainRig with memory := .ofLists [7, 2, 6, 7] 3 [⟨0, 1⟩] 1 }

/-- What was exchanged, latest first. -/
def choosyRun : Program.Run (Unit × List (Exchange Driver Unit))
    (Except GraphicsError SampledImage) :=
  ((Upload.create onePixel).task choosyRig).run.run
    (fun c s => (.ok (choosyReply c), ((), ⟨c, choosyReply c, ()⟩ :: s.2))) ((), [])

/-- A staging buffer gets its memory, the image gets none. -/
theorem uploads_provide_memory_to_buffer_only :
    ((Upload.create onePixel).task choosyRig).run.Ends choosy.recorded ((), [])
      (.error .noCompatibleMemory) choosyRun.state ∧
    choosyRun.state.2.map Exchange.call =
      [.release ⟨.memory, 1⟩, .release ⟨.buffer, 1⟩, .release ⟨.image, 1⟩, .imageNeeds ⟨1⟩,
        .create (.image { format := textureFormat, extent := onePixel.extent }), .unmap ⟨1⟩,
        .store ⟨1⟩ onePixel.rgba, .perform (.mapMemory ⟨1⟩ 0 4),
        .perform (.bindBuffer ⟨1⟩ ⟨1⟩ 0), .create (.memory { bytes := 16, type := 2 }),
        .bufferNeeds ⟨1⟩, .create (.buffer { bytes := 4 })] ∧
    choosyRig.memory.GivenUp choosyRun.state.2 := by
  have ends : ((Upload.create onePixel).task choosyRig).run.Ends choosy.recorded ((), [])
      (.error .noCompatibleMemory) choosyRun.state := by
    have allows : choosy.recorded.Allows fun c s =>
        (.ok (choosyReply c), ((), ⟨c, choosyReply c, ()⟩ :: s.2)) := by
      rintro c s _ ⟨⟩
      exact ⟨rfl, rfl⟩
    exact allows.ends rfl
  have concludes := (uploads_provide_memory choosy choosyRig (.create onePixel) ()).2.ends ends
  exact ⟨ends, rfl, concludes.givenUp (concludes.refused.mp rfl)⟩

end PaintPresenter.Vulkan
