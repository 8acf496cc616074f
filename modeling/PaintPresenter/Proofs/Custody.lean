import Mathlib.Logic.Function.Basic
import PaintPresenter.Proofs.DriverConduct

/-!
# Custody of a driver's objects

A book of the objects that a driver was asked for: which of them exist and what each was made from,
which memory is mapped, and what was made and released so far. Every call has to fit the book: what
is made is made from objects that exist, and what is released exists, is not mapped, and is needed
by nothing that exists. `Holds` lists the objects that exist in an order in which they may be
released, so that a program that makes and releases objects is followed by pushing them onto a list
and popping them off again.
-/

namespace PaintPresenter.Vulkan

namespace ObjectKind

/-- The device makes the objects of this kind. -/
def OfDevice : ObjectKind → Bool
  | apiInstance | messenger | surface | physicalDevice | device => false
  | _ => true

/-- Every object of the second kind needs the one object of the first kind that there is. -/
def Supports : ObjectKind → ObjectKind → Bool
  | apiInstance, kind => kind != apiInstance
  | device, kind => kind.OfDevice
  | _, _ => false

end ObjectKind

/-! ## The book -/

/-- What is known of the objects of a driver. -/
structure Holdings where
  /-- The objects that exist, each with those that it was made from. -/
  live : Object → Option (List Object) := fun _ => none
  /-- The images that swapchains reported, latest first. -/
  images : List (Handle .image × Handle .swapchain) := []
  mapped : List (Handle .memory) := []
  /-- Latest first. -/
  made : List Object := []
  /-- Latest first. -/
  released : List Object := []

namespace Holdings

/-- The object was made and not yet released. -/
def Exists (s : Holdings) (o : Object) : Prop := (s.live o).isSome = true

/-- Looking the object up decides it. -/
instance (s : Holdings) (o : Object) : Decidable (s.Exists o) := by
  unfold Exists
  infer_instance

/-- An object that exists needs another one. -/
def Depends (s : Holdings) (child parent : Object) : Prop :=
  child ≠ parent ∧ ∃ needs, s.live child = some needs ∧
    (parent ∈ needs ∨ parent.kind.Supports child.kind = true)

/-- The object that an image ends with: itself, or the swapchain that reported it. -/
def home (s : Holdings) (image : Handle .image) : Object :=
  if s.Exists image.object then image.object
  else ((s.images.lookup image).map Handle.object).getD image.object

/-- What an object is made from. -/
def needs (s : Holdings) : Creation → List Object
  | .swapchain request => [request.surface.object]
  | .view request => [s.home request.image]
  | .framebuffer request => [request.renderPass.object, request.view.object]
  | .commandBuffer pool => [pool.object]
  | _ => []

/-- Everything that an object is made from exists. -/
structure MayMake (s : Holdings) (request : Creation) : Prop where
  parents : ∀ o ∈ s.needs request, s.Exists o
  support : ∀ kind : ObjectKind, kind.Supports request.kind = true →
    ∃ o, o.kind = kind ∧ s.Exists o

/-- An object exists, is not mapped, and nothing needs it. -/
structure MayRelease (s : Holdings) (o : Object) : Prop where
  real : o.number ≠ 0
  present : s.Exists o
  childless : ∀ child, ¬s.Depends child o
  unmapped : ∀ memory ∈ s.mapped, memory.object ≠ o

/-- A call fits the book. -/
def Proper (s : Holdings) : DriverCall → Prop
  | .create request => s.MayMake request
  | .release o => o.kind ≠ .commandBuffer ∧ s.MayRelease o
  | .freeCommands pool buffer =>
    s.live buffer.object = some [pool.object] ∧ s.MayRelease buffer.object
  | .perform (.bindBuffer buffer memory _) => s.Exists buffer.object ∧ s.Exists memory.object
  | .perform (.bindImage image memory _) => s.Exists image.object ∧ s.Exists memory.object
  | .perform (.mapMemory memory _ _) => s.Exists memory.object ∧ memory ∉ s.mapped
  | .store memory _ => memory ∈ s.mapped
  | .unmap memory => memory ∈ s.mapped
  | _ => True

/-- The book after an object was made. -/
def make (s : Holdings) (o : Object) (needs : List Object) : Holdings :=
  { s with live := Function.update s.live o (some needs), made := o :: s.made }

/-- The book after an object was released. -/
def drop (s : Holdings) (o : Object) : Holdings :=
  { s with live := Function.update s.live o none, released := o :: s.released }

/-- The book after memory was bound to an object: the object cannot do without it any more. -/
def bind (s : Holdings) (o : Object) (memory : Handle .memory) : Holdings :=
  { s with live := Function.update s.live o ((s.live o).map (memory.object :: ·)) }

/-- What a call and its reply do. A call that fails does nothing. -/
def Effect (s : Holdings) : (c : DriverCall) → c.Reply → Holdings → Prop
  | .create request, .ok made, t =>
    made ≠ .null ∧ s.live made.object = none ∧ t = s.make made.object (s.needs request)
  | .release o, (), t => t = s.drop o
  | .freeCommands _ buffer, (), t => t = s.drop buffer.object
  | .swapchainImages swapchain, .ok images, t =>
    (∀ image ∈ images, s.live image.object = none) ∧
      t = { s with images := images.map (·, swapchain) ++ s.images }
  | .perform (.bindBuffer buffer memory _), .ok (), t => t = s.bind buffer.object memory
  | .perform (.bindImage image memory _), .ok (), t => t = s.bind image.object memory
  | .perform (.mapMemory memory _ _), .ok (), t => t = { s with mapped := memory :: s.mapped }
  | .unmap memory, (), t => t = { s with mapped := s.mapped.erase memory }
  | _, _, t => t = s

end Holdings

/-- The driver as a keeper of the book. A call may fail at any time. -/
def custody : Contract Driver Holdings where
  step := Holdings.Effect
  permits := Holdings.Proper

/-! ## Lists of what exists -/

/-- An object that exists and what it was made from. -/
structure Entry where
  object : Object
  needs : List Object

/-- An entry needs an object. -/
def Entry.DependsOn (e : Entry) (o : Object) : Prop :=
  o ∈ e.needs ∨ o.kind.Supports e.object.kind = true

/-- The objects of a list of entries. -/
def objects (l : List Entry) : List Object := l.map Entry.object

/-- An empty list lists no objects. -/
@[simp] theorem objects_nil : objects [] = [] := rfl

/-- The object of the first entry comes first. -/
@[simp] theorem objects_cons (e : Entry) (l : List Entry) :
    objects (e :: l) = e.object :: objects l := rfl

/-- Appended lists list their objects one after the other. -/
@[simp] theorem objects_append (a b : List Entry) : objects (a ++ b) = objects a ++ objects b :=
  List.map_append

/-- The object of a listed entry is among the objects. -/
theorem mem_objects {e : Entry} {l : List Entry} (mem : e ∈ l) : e.object ∈ objects l :=
  List.mem_map_of_mem mem

/-- Exactly the listed objects exist, and they may be released from first to last. -/
structure Holds (s : Holdings) (l : List Entry) : Prop where
  live : ∀ o needs, s.live o = some needs ↔ ⟨o, needs⟩ ∈ l
  distinct : (objects l).Nodup
  real : ∀ e ∈ l, e.object.number ≠ 0
  closed : ∀ e ∈ l, ∀ o ∈ e.needs, o ∈ objects l
  ordered : l.Pairwise fun a b => ¬b.DependsOn a.object
  unmapped : s.mapped = []
  account : s.made.Perm (s.released ++ objects l)

variable {s t : Holdings} {l a b c : List Entry}

/-- At first nothing exists. -/
theorem holds_empty : Holds {} [] where
  live _ _ := by simp
  distinct := .nil
  real _ mem := absurd mem List.not_mem_nil
  closed _ mem := absurd mem List.not_mem_nil
  ordered := .nil
  unmapped := rfl
  account := .nil

/-- The objects that exist are the listed ones. -/
theorem Holds.exists_iff (h : Holds s l) {o : Object} : s.Exists o ↔ o ∈ objects l := by
  rw [Holdings.Exists, Option.isSome_iff_exists, objects, List.mem_map]
  constructor
  · rintro ⟨needs, found⟩
    exact ⟨⟨o, needs⟩, (h.live o needs).mp found, rfl⟩
  · rintro ⟨e, mem, rfl⟩
    exact ⟨e.needs, (h.live _ _).mpr mem⟩

private theorem Holds.absent_iff (h : Holds s l) {o : Object} :
    s.live o = none ↔ o ∉ objects l := by
  rw [← h.exists_iff, Holdings.Exists]
  simp

/-- Objects that are not images leave the homes of images as they are. -/
theorem Holds.home_eq (h : Holds s l) {e : Entry} (h' : Holds t (e :: l))
    (images : t.images = s.images) (other : e.object.kind ≠ .image) (image : Handle .image) :
    t.home image = s.home image := by
  have same : t.Exists image.object ↔ s.Exists image.object := by
    rw [h'.exists_iff, h.exists_iff, objects_cons, List.mem_cons]
    refine or_iff_right fun here => other ?_
    rw [← here]
    rfl
  unfold Holdings.home
  rw [images]
  exact if_congr same rfl rfl

/-- The order of a list may be changed as long as every object still comes before what it needs. -/
theorem Holds.reorder (h : Holds s a) (perm : a.Perm b)
    (ordered : b.Pairwise fun a b => ¬b.DependsOn a.object) : Holds s b where
  live o needs := (h.live o needs).trans perm.mem_iff
  distinct := (perm.map Entry.object).nodup_iff.mp h.distinct
  real e mem := h.real e (perm.mem_iff.mpr mem)
  closed e mem o needed :=
    (perm.map Entry.object).mem_iff.mp (h.closed e (perm.mem_iff.mpr mem) o needed)
  ordered := ordered
  unmapped := h.unmapped
  account := h.account.trans ((perm.map Entry.object).append_left _)

/-- What is needed by the entries of a part is in the part itself or in another one. -/
def WithinParts (a c : List Entry) : Prop :=
  ∀ e ∈ a, ∀ o ∈ e.needs, o ∈ objects a ∨ o ∈ objects c

/-- No object of a part supports all others. -/
def Upper (b : List Entry) : Prop :=
  ∀ e ∈ b, e.object.kind ≠ .apiInstance ∧ e.object.kind ≠ .device

private theorem not_supports {kind other : ObjectKind}
    (upper : kind ≠ .apiInstance ∧ kind ≠ .device) : kind.Supports other = false := by
  cases kind with
  | apiInstance => exact absurd rfl upper.1
  | device => exact absurd rfl upper.2
  | _ => rfl

/-- Two parts that do not need each other may change places. -/
theorem Holds.swap (h : Holds s (a ++ (b ++ c))) (within : WithinParts a c) (upper : Upper b) :
    Holds s (b ++ (a ++ c)) := by
  have distinct := h.distinct
  have ordered := h.ordered
  rw [objects_append, objects_append, List.nodup_append] at distinct
  rw [List.pairwise_append, List.pairwise_append] at ordered
  -- Only a pair from both parts changes its order: nothing in `a` may need anything in `b`.
  obtain ⟨ordered_a, ⟨ordered_b, ordered_c, ordered_bc⟩, ordered_abc⟩ := ordered
  obtain ⟨-, distinct_bc, distinct_abc⟩ := distinct
  apply h.reorder
  · rw [← List.append_assoc, ← List.append_assoc]
    exact List.perm_append_comm.append_right c
  · rw [List.pairwise_append, List.pairwise_append]
    refine ⟨ordered_b, ⟨ordered_a, ordered_c, fun x hx y hy => ordered_abc x hx y ?_⟩, ?_⟩
    · exact List.mem_append_right b hy
    intro x hx y hy
    obtain own | other := List.mem_append.mp hy
    · rintro (needed | supports)
      · have mem_b := mem_objects hx
        obtain mem | mem := within y own x.object needed
        · exact distinct_abc _ mem _ (List.mem_append_left _ mem_b) rfl
        · rw [List.nodup_append] at distinct_bc
          exact distinct_bc.2.2 _ mem_b _ mem rfl
      · rw [not_supports (upper x hx)] at supports
        exact Bool.false_ne_true supports
    · exact ordered_bc x hx y other

/-! ## Making and releasing -/

/-- A new object comes first: nothing can need it yet. -/
theorem Holds.make (h : Holds s l) {o : Object} {needs : List Object} (real : o.number ≠ 0)
    (fresh : s.live o = none) (known : ∀ p ∈ needs, p ∈ objects l)
    (first : ∀ e ∈ l, o.kind.Supports e.object.kind = false) :
    Holds (s.make o needs) (⟨o, needs⟩ :: l) where
  live p needs' := by
    by_cases same : p = o
    · subst same
      have absent : ⟨p, needs'⟩ ∉ l := fun mem => h.absent_iff.mp fresh (mem_objects mem)
      simp [Holdings.make, absent, eq_comm]
    · simp [Holdings.make, same, h.live]
  distinct := List.nodup_cons.mpr ⟨h.absent_iff.mp fresh, h.distinct⟩
  real e mem := by
    obtain rfl | mem := List.mem_cons.mp mem
    · exact real
    · exact h.real e mem
  closed e mem p needed := by
    obtain rfl | mem := List.mem_cons.mp mem
    · exact List.mem_cons_of_mem _ (known p needed)
    · exact List.mem_cons_of_mem _ (h.closed e mem p needed)
  ordered := by
    refine List.pairwise_cons.mpr ⟨fun e mem => ?_, h.ordered⟩
    rintro (needed | supports)
    · exact h.absent_iff.mp fresh (h.closed e mem o needed)
    · rw [first e mem] at supports
      exact Bool.false_ne_true supports
  unmapped := h.unmapped
  account := (h.account.cons o).trans List.perm_middle.symm

/-- The first object of a list may be released. -/
theorem Holds.mayRelease {e : Entry} (h : Holds s (e :: l)) : s.MayRelease e.object where
  real := h.real e List.mem_cons_self
  present := h.exists_iff.mpr List.mem_cons_self
  childless := by
    rintro child ⟨other, needs, found, depends⟩
    obtain same | mem := List.mem_cons.mp ((h.live child needs).mp found)
    · exact other (congrArg Entry.object same)
    · exact (List.pairwise_cons.mp h.ordered).1 _ mem depends
  unmapped := by
    rw [h.unmapped]
    exact fun memory mem => absurd mem List.not_mem_nil

/-- Once the first object is released, exactly the others exist. -/
theorem Holds.drop {e : Entry} (h : Holds s (e :: l)) : Holds (s.drop e.object) l where
  live p needs := by
    obtain ⟨absent, -⟩ := List.nodup_cons.mp h.distinct
    by_cases same : p = e.object
    · subst same
      have absent : ⟨e.object, needs⟩ ∉ l := by
        intro mem
        have mem := mem_objects mem
        exact absent mem
      simp [Holdings.drop, absent]
    · have other : ⟨p, needs⟩ ≠ e := fun here => same (congrArg Entry.object here)
      simp [Holdings.drop, same, h.live, other]
  distinct := (List.nodup_cons.mp h.distinct).2
  real p mem := h.real p (List.mem_cons_of_mem _ mem)
  closed p mem o needed := by
    obtain rfl | mem' := List.mem_cons.mp (h.closed p (List.mem_cons_of_mem _ mem) o needed)
    · exact absurd (.inl needed) ((List.pairwise_cons.mp h.ordered).1 p mem)
    · exact mem'
  ordered := (List.pairwise_cons.mp h.ordered).2
  unmapped := h.unmapped
  account := h.account.trans List.perm_middle

/-- Memory that is bound to an object has to stay until the object is released. -/
theorem Holds.bind {o : Object} {memory : Handle .memory}
    (h : Holds s (⟨memory.object, []⟩ :: ⟨o, []⟩ :: l))
    (upper : o.kind ≠ .apiInstance ∧ o.kind ≠ .device) :
    Holds (s.bind o memory) (⟨o, [memory.object]⟩ :: ⟨memory.object, []⟩ :: l) := by
  have distinct := h.distinct
  simp only [objects_cons, List.nodup_cons, List.mem_cons, not_or] at distinct
  obtain ⟨⟨other, absent_memory⟩, absent, nodup⟩ := distinct
  have ordered := h.ordered
  simp only [List.pairwise_cons, List.mem_cons, forall_eq_or_imp] at ordered
  -- The memory was made last, but the object that it is bound to now has to go before it.
  obtain ⟨⟨-, from_memory⟩, from_object, ordered⟩ := ordered
  constructor
  case live =>
    intro p needs
    by_cases same : p = o
    · subst same
      have found : s.live p = some [] := (h.live p []).mpr (by simp)
      have absent : ⟨p, needs⟩ ∉ l := by
        intro mem
        have mem := mem_objects mem
        exact absent mem
      simp [Holdings.bind, found, absent, Ne.symm other, eq_comm]
    · simp [Holdings.bind, same, h.live]
  case distinct =>
    simp [absent, absent_memory, Ne.symm other, nodup]
  case real =>
    intro e mem
    have real := h.real
    simp only [List.mem_cons, forall_eq_or_imp] at mem real
    obtain rfl | rfl | mem := mem
    · exact real.2.1
    · exact real.1
    · exact real.2.2 e mem
  case closed =>
    intro e mem p needed
    simp only [List.mem_cons] at mem
    obtain rfl | rfl | mem := mem
    · obtain rfl := List.mem_singleton.mp needed
      simp
    · exact absurd needed List.not_mem_nil
    · have known := h.closed e (by simp [mem]) p needed
      simp only [objects_cons, List.mem_cons] at known ⊢
      exact or_left_comm.mp known
  case ordered =>
    simp only [List.pairwise_cons, List.mem_cons, forall_eq_or_imp]
    refine ⟨⟨?_, from_object⟩, from_memory, ordered⟩
    rintro (needed | supports)
    · exact List.not_mem_nil needed
    · rw [not_supports upper] at supports
      exact Bool.false_ne_true supports
  case unmapped =>
    exact h.unmapped
  case account =>
    refine h.account.trans (List.Perm.append_left _ ?_)
    exact List.Perm.swap ..

/-! ## Calls -/

/-- The instance and a device exist. -/
structure Equipped (l : List Entry) : Prop where
  apiInstance : ∃ o ∈ objects l, o.kind = .apiInstance
  device : ∃ o ∈ objects l, o.kind = .device

/-- More entries in front take neither away. -/
theorem Equipped.append (equipped : Equipped l) (a : List Entry) : Equipped (a ++ l) := by
  obtain ⟨⟨o, mem, kind⟩, ⟨p, mem', kind'⟩⟩ := equipped
  exact ⟨⟨o, by simp [mem], kind⟩, ⟨p, by simp [mem'], kind'⟩⟩

/-- One more entry in front takes neither away. -/
theorem Equipped.cons (equipped : Equipped l) (e : Entry) : Equipped (e :: l) :=
  equipped.append [e]

/-- The entry of an object, unless its handle is null. -/
def unlessNull {kind : ObjectKind} (handle : Handle kind) (needs : List Object) : List Entry :=
  if handle.isNull then [] else [⟨handle.object, needs⟩]

/-- A null handle has no entry. -/
@[simp] theorem unlessNull_null {kind : ObjectKind} (needs : List Object) :
    unlessNull (.null : Handle kind) needs = [] := rfl

/-- Any other handle has one. -/
theorem unlessNull_of_ne {kind : ObjectKind} {handle : Handle kind} (real : handle ≠ .null)
    (needs : List Object) : unlessNull handle needs = [⟨handle.object, needs⟩] := by
  rw [unlessNull, if_neg]
  simpa using real

/-- The entry of an object, if there is one. -/
def ifAny {kind : ObjectKind} : Option (Handle kind) → List Entry
  | some handle => [⟨handle.object, []⟩]
  | none => []

/-- Operations that the book takes no note of. -/
def Operation.Untracked : Operation → Prop
  | .bindBuffer _ _ _ | .bindImage _ _ _ | .mapMemory _ _ _ => False
  | _ => True

section Calls

open Contract

variable {kind : ObjectKind} {needs : List Object}

/-- Questions may be asked at any time and change nothing in the book. -/
theorem custody_answers (l : List Entry) : custody.Answers fun s => Holds s l := by
  intro s c query h
  cases c with
  | create request => exact query.elim
  | release o => exact query.elim
  | swapchainImages swapchain => exact query.elim
  | perform operation => exact query.elim
  | acquire swapchain timeoutNs semaphore => exact query.elim
  | present queue wait swapchain image => exact query.elim
  | record buffer command => exact query.elim
  | freeCommands pool buffer => exact query.elim
  | store memory bytes => exact query.elim
  | unmap memory => exact query.elim
  | _ => exact ⟨trivial, fun reply t same => same ▸ h⟩

/-- What is made comes first on the list; a failure changes nothing. -/
theorem Holds.create (h : Holds s l) {request : Creation} (made_from : s.needs request = needs)
    (known : ∀ o ∈ needs, o ∈ objects l)
    (founded : ∀ kind : ObjectKind, kind.Supports request.kind = true →
      ∃ o ∈ objects l, o.kind = kind)
    (first : ∀ e ∈ l, request.kind.Supports e.object.kind = false) :
    custody.KeepsTask (Driver.create request) s
      (fun made t => made ≠ .null ∧ t.images = s.images ∧ Holds t (⟨made.object, needs⟩ :: l))
      fun _ t => t = s := by
  rw [keepsTask_create]
  refine ⟨⟨?_, ?_⟩, ?_, fun _ _ same => same⟩
  · rw [made_from]
    exact fun o mem => h.exists_iff.mpr (known o mem)
  · intro kind supports
    obtain ⟨o, mem, same⟩ := founded kind supports
    exact ⟨o, same, h.exists_iff.mpr mem⟩
  · rintro made t ⟨real, fresh, rfl⟩
    refine ⟨real, rfl, ?_⟩
    rw [made_from]
    refine h.make ?_ fresh known first
    obtain ⟨number⟩ := made
    rintro (rfl : number = 0)
    exact real rfl

/-- An object made from existing ones, neither instance nor device, may be put in front. -/
theorem Holds.createOnDevice (h : Holds s l) (equipped : Equipped l) {request : Creation}
    (made_from : s.needs request = needs) (known : ∀ o ∈ needs, o ∈ objects l)
    (upper : request.kind ≠ .apiInstance ∧ request.kind ≠ .device) :
    custody.KeepsTask (Driver.create request) s
      (fun made t => made ≠ .null ∧ t.images = s.images ∧ Holds t (⟨made.object, needs⟩ :: l))
      fun _ t => t = s := by
  refine h.create made_from known (fun kind supports => ?_) fun e _ => not_supports upper
  cases kind with
  | apiInstance => exact equipped.apiInstance
  | device => exact equipped.device
  | _ => exact absurd supports Bool.false_ne_true

/-- Most objects are made from nothing but the device. -/
theorem Holds.createAlone (h : Holds s l) (equipped : Equipped l) {request : Creation}
    (alone : s.needs request = [])
    (upper : request.kind ≠ .apiInstance ∧ request.kind ≠ .device) :
    custody.KeepsTask (Driver.create request) s
      (fun made t => made ≠ .null ∧ Holds t (⟨made.object, []⟩ :: l)) fun _ t => Holds t l := by
  have created := h.createOnDevice equipped alone (by simp) upper
  apply created.mono (fun made t ⟨real, _, h⟩ => ⟨real, h⟩)
  rintro _ _ rfl
  exact h

/-- The first object may be released. -/
theorem Holds.release {handle : Handle kind} (h : Holds s (⟨handle.object, needs⟩ :: l))
    (other : kind ≠ .commandBuffer) :
    custody.Keeps (Driver.release handle) s fun _ t => Holds t l := by
  rw [keeps_release]
  refine ⟨⟨other, h.mayRelease⟩, ?_⟩
  rintro t rfl
  exact h.drop

/-- A command buffer in front may be given back to its pool. -/
theorem Holds.freeCommands {pool : Handle .commandPool} {buffer : Handle .commandBuffer}
    (h : Holds s (⟨buffer.object, [pool.object]⟩ :: l)) :
    custody.Keeps (Driver.freeCommands pool buffer) s fun _ t => Holds t l := by
  rw [keeps_freeCommands]
  refine ⟨⟨(h.live _ _).mpr List.mem_cons_self, h.mayRelease⟩, ?_⟩
  rintro t rfl
  exact h.drop

/-- So may an object in front whose handle may be null. -/
theorem Holds.releaseUnlessNull {handle : Handle kind} (h : Holds s (unlessNull handle needs ++ l))
    (other : kind ≠ .commandBuffer) :
    custody.Keeps (Rig.releaseUnlessNull handle) s fun _ t => Holds t l := by
  unfold Rig.releaseUnlessNull
  unfold unlessNull at h
  by_cases null : handle.isNull = true
  · rw [if_pos null] at h ⊢
    exact h
  · rw [if_neg null] at h ⊢
    exact h.release other

/-- So may an object in front that may be missing. -/
theorem Holds.releaseIfAny {handle : Option (Handle kind)} (h : Holds s (ifAny handle ++ l))
    (other : kind ≠ .commandBuffer) :
    custody.Keeps (Rig.releaseIfAny handle) s fun _ t => Holds t l := by
  cases handle with
  | none => exact h
  | some handle => exact h.release other

/-- An operation that the book takes no note of changes nothing. -/
theorem Holds.perform (h : Holds s l) {operation : Operation} (untracked : operation.Untracked) :
    custody.KeepsTask (Driver.perform operation) s (fun _ t => Holds t l) fun _ t => Holds t l := by
  rw [keepsTask_perform]
  cases operation with
  | bindBuffer buffer memory offset => exact untracked.elim
  | bindImage image memory offset => exact untracked.elim
  | mapMemory memory offset bytes => exact untracked.elim
  | _ => exact ⟨trivial, fun t same => same ▸ h, fun _ t same => same ▸ h⟩

/-- Nor does a recorded command. -/
theorem Holds.record (h : Holds s l) (buffer : Handle .commandBuffer) (command : Command) :
    custody.Keeps (Driver.record buffer command) s fun _ t => Holds t l := by
  rw [keeps_record]
  exact ⟨trivial, fun t same => same ▸ h⟩

end Calls

end PaintPresenter.Vulkan
