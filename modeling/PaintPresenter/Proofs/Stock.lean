import PaintPresenter.Proofs.World
import PaintPresenter.Vulkan.Request

/-!
# The stock of a device

What is known of the objects that a device was asked for: which of them exist and what each was made
from, what was made and released so far, and how often the device failed. The device may refuse any
request, and it may give the name of an object that is gone to a new one. `Lists` compares the stock
with a list of what somebody knows to exist: what is made comes onto the list, and only what is on
it may be released.
-/

namespace PaintPresenter.Vulkan

/-- An object that exists and what it was made from. -/
structure Item where
  object : Object
  request : Creation
  /-- The images that a swapchain reported last. -/
  images : List (Handle .image) := []

/-- What is known of the objects of a device. -/
structure Stock where
  items : List Item := []
  /-- Latest first. -/
  made : List Object := []
  /-- Latest first. -/
  released : List Object := []
  /-- How many calls failed. -/
  failures : Nat := 0

variable {ε : Type} {kind : ObjectKind} {a b l : List Item}

namespace Stock

/-- The objects that exist. -/
def live (s : Stock) : List Object := s.items.map Item.object

/-- The stock after an object was made. -/
def make (s : Stock) (o : Object) (request : Creation) : Stock :=
  { s with items := ⟨o, request, []⟩ :: s.items, made := o :: s.made }

/-- The stock after an object was released. -/
def drop (s : Stock) (o : Object) : Stock :=
  { s with items := s.items.filter (·.object ≠ o), released := o :: s.released }

/-- The stock after a swapchain reported its images. -/
def report (s : Stock) (o : Object) (images : List (Handle .image)) : Stock :=
  { s with items := s.items.map fun item => if item.object = o then { item with images } else item }

/-- The stock after a call failed. -/
def fail (s : Stock) : Stock := { s with failures := s.failures + 1 }

/-- What becomes of a request: an object that nothing was named like, or a failure. -/
def Creates (s : Stock) (request : Creation) : Except ε (Handle request.kind) → Stock → Prop
  | .ok made, t => made ≠ .null ∧ made.object ∉ s.live ∧ t = s.make made.object request
  | .error _, t => t = s.fail

/-- An object may be released: it is there and not the one that null names. -/
def MayDrop (s : Stock) (o : Object) : Prop := o.number ≠ 0 ∧ o ∈ s.live

/-- A handle names an object that was made from a request and reported some images. -/
def Has (s : Stock) (handle : Handle kind) (request : Creation)
    (images : List (Handle .image)) : Prop :=
  handle ≠ .null ∧ ⟨handle.object, request, images⟩ ∈ s.items

/-! ## Lists of what exists -/

/-- Exactly the listed objects exist, each under a name of its own, and everything else that was
made has been released, as often as it was made. -/
structure Lists (s : Stock) (l : List Item) : Prop where
  items : s.items.Perm l
  distinct : (l.map Item.object).Nodup
  real : ∀ item ∈ l, item.object.number ≠ 0
  account : s.made.Perm (s.released ++ l.map Item.object)

variable {s t : Stock}

/-- At first nothing is listed. -/
theorem lists_empty : Lists {} [] where
  items := .nil
  distinct := .nil
  real _ mem := absurd mem List.not_mem_nil
  account := .nil

/-- The order of a list does not matter. -/
theorem Lists.perm (h : s.Lists a) (perm : a.Perm b) : s.Lists b where
  items := h.items.trans perm
  distinct := (perm.map Item.object).nodup_iff.mp h.distinct
  real item mem := h.real item (perm.mem_iff.mpr mem)
  account := h.account.trans ((perm.map Item.object).append_left _)

/-- What exists are the objects of the list. -/
theorem Lists.live (h : s.Lists l) : s.live.Perm (l.map Item.object) := h.items.map Item.object

/-- No object exists twice. -/
theorem Lists.nodup (h : s.Lists l) : s.live.Nodup := h.live.nodup_iff.mpr h.distinct

/-- What was made was released or exists. -/
theorem Lists.balance (h : s.Lists l) : s.made.Perm (s.released ++ s.live) :=
  h.account.trans (h.live.symm.append_left _)

/-- A listed object may be released. -/
theorem Lists.mayDrop {item : Item} (h : s.Lists l) (mem : item ∈ l) : s.MayDrop item.object :=
  ⟨h.real item mem, h.live.mem_iff.mpr (List.mem_map_of_mem mem)⟩

/-- A handle to a listed object has what the list says of it. -/
theorem Lists.has {handle : Handle kind} {request : Creation} {images : List (Handle .image)}
    (h : s.Lists l) (mem : ⟨handle.object, request, images⟩ ∈ l) : s.Has handle request images := by
  refine ⟨?_, h.items.mem_iff.mpr mem⟩
  rintro rfl
  exact h.real _ mem rfl

/-- A failure leaves the list as it is. -/
theorem Lists.fail (h : s.Lists l) : s.fail.Lists l := ⟨h.items, h.distinct, h.real, h.account⟩

/-- A new object may be put in front. -/
theorem Lists.make (h : s.Lists l) {o : Object} (real : o.number ≠ 0) (fresh : o ∉ s.live)
    (request : Creation) : (s.make o request).Lists (⟨o, request, []⟩ :: l) where
  items := h.items.cons _
  distinct := List.nodup_cons.mpr ⟨fun mem => fresh (h.live.mem_iff.mpr mem), h.distinct⟩
  real item mem := by
    obtain rfl | mem := List.mem_cons.mp mem
    · exact real
    · exact h.real item mem
  account := (h.account.cons o).trans List.perm_middle.symm

/-- No two entries of a list are of the same object. -/
theorem Lists.differs {item other : Item} (h : s.Lists (item :: l)) (mem : other ∈ l) :
    other.object ≠ item.object := by
  intro same
  have mem := List.mem_map_of_mem (f := Item.object) mem
  rw [same] at mem
  exact (List.nodup_cons.mp h.distinct).1 mem

/-- Once the first object is released, the others are listed. -/
theorem Lists.drop {item : Item} (h : s.Lists (item :: l)) : (s.drop item.object).Lists l := by
  constructor
  case items =>
    have others : (item :: l).filter (·.object ≠ item.object) = l := by
      rw [List.filter_cons_of_neg (by simp), List.filter_eq_self]
      exact fun other mem => decide_eq_true (h.differs mem)
    have kept := h.items.filter fun other => decide (other.object ≠ item.object)
    rwa [others] at kept
  case distinct => exact (List.nodup_cons.mp h.distinct).2
  case real => exact fun other mem => h.real other (List.mem_cons_of_mem _ mem)
  case account => exact h.account.trans List.perm_middle

/-- A swapchain that reports its images is listed with them. -/
theorem Lists.report {item : Item} (h : s.Lists (item :: l)) (images : List (Handle .image)) :
    (s.report item.object images).Lists ({ item with images } :: l) := by
  let change (other : Item) : Item :=
    if other.object = item.object then { other with images } else other
  have others : (item :: l).map change = { item with images } :: l := by
    have same : l.map change = l := by
      refine (List.map_congr_left fun other mem => ?_).trans (List.map_id l)
      exact if_neg (h.differs mem)
    rw [List.map_cons, same]
    simp [change]
  constructor
  case items => exact others ▸ h.items.map change
  case distinct => exact h.distinct
  case real =>
    intro other mem
    obtain rfl | mem := List.mem_cons.mp mem
    · exact h.real item List.mem_cons_self
    · exact h.real other (List.mem_cons_of_mem _ mem)
  case account => exact h.account

/-- What a request makes is listed first; a failure changes no list. -/
theorem Lists.made {request : Creation} (h : s.Lists l) {made : Handle request.kind}
    (creates : s.Creates request (Except.ok made : Except ε _) t) :
    t.Lists (⟨made.object, request, []⟩ :: l) := by
  obtain ⟨real, fresh, rfl⟩ := creates
  refine h.make ?_ fresh request
  obtain ⟨number⟩ := made
  rintro (rfl : number = 0)
  exact real rfl

/-- An entry may be looked for behind others. -/
theorem Lists.sink {item : Item} (h : s.Lists (item :: (a ++ b))) : s.Lists (a ++ item :: b) :=
  h.perm List.perm_middle.symm

/-- Two parts of a list may change places. -/
theorem Lists.swap (h : s.Lists (a ++ (b ++ l))) : s.Lists (b ++ (a ++ l)) :=
  h.perm (List.perm_append_comm_assoc ..)

/-! ## What happens between two moments -/

/-- What was made and released since an earlier moment, in order, and how many calls failed. -/
structure Follows (t s : Stock) (made released : List Object) (failures : Nat) : Prop where
  made : t.made = made.reverse ++ s.made
  released : t.released = released.reverse ++ s.released
  failures : t.failures = s.failures + failures

variable {u : Stock} {made released made' released' : List Object} {n m : Nat}

/-- Nothing happens in no time. -/
theorem Follows.refl (s : Stock) : s.Follows s [] [] 0 := ⟨rfl, rfl, rfl⟩

/-- What happens in two stretches of time happens one after the other. -/
theorem Follows.trans (later : u.Follows t made' released' m) (h : t.Follows s made released n) :
    u.Follows s (made ++ made') (released ++ released') (n + m) where
  made := by rw [later.made, h.made, List.reverse_append, List.append_assoc]
  released := by rw [later.released, h.released, List.reverse_append, List.append_assoc]
  failures := by rw [later.failures, h.failures, Nat.add_assoc]

/-- An object more is made. -/
theorem Follows.make (h : t.Follows s made released n) (o : Object) (request : Creation) :
    (t.make o request).Follows s (made ++ [o]) released n where
  made := by rw [List.reverse_append, Stock.make, h.made]; rfl
  released := h.released
  failures := h.failures

/-- An object more is released. -/
theorem Follows.drop (h : t.Follows s made released n) (o : Object) :
    (t.drop o).Follows s made (released ++ [o]) n where
  made := h.made
  released := by rw [List.reverse_append, Stock.drop, h.released]; rfl
  failures := h.failures

/-- A call more fails. -/
theorem Follows.fail (h : t.Follows s made released n) :
    t.fail.Follows s made released (n + 1) where
  made := h.made
  released := h.released
  failures := congrArg (· + 1) h.failures

/-- What a request leads to, on a list and in the record. -/
theorem Lists.created {request : Creation} {reply : Except ε (Handle request.kind)} {r : Stock}
    (h : s.Lists l) (follows : s.Follows r made released n) (creates : s.Creates request reply t) :
    match reply with
    | .ok handle => handle ≠ .null ∧ t.Lists (⟨handle.object, request, []⟩ :: l) ∧
        t.Follows r (made ++ [handle.object]) released n
    | .error _ => t.Lists l ∧ t.Follows r made released (n + 1) := by
  cases reply with
  | ok handle =>
    have listed := h.made creates
    obtain ⟨real, -, rfl⟩ := creates
    exact ⟨real, listed, follows.make _ _⟩
  | error e =>
    obtain rfl : t = s.fail := creates
    exact ⟨h.fail, follows.fail⟩

/-! ## A device that refuses now and then -/

/-- Numbers objects in the order in which they are asked for, and refuses some of them. -/
def ration (refused : List Nat) (e : ε) (request : Creation) (s : Stock) :
    Except Fault (Except ε (Handle request.kind)) × Stock :=
  let number := s.made.length + s.failures + 1
  let made : Handle request.kind := ⟨number⟩
  if number ∈ refused then (.ok (.error e), s.fail)
  else if made.object ∈ s.live then (.error .overflow, s)
  else (.ok (.ok made), s.make made.object request)

/-- The rationing device makes what was asked for, or fails and makes nothing. -/
theorem creates_ration {refused : List Nat} {e : ε} {request : Creation}
    {reply : Except ε (Handle request.kind)} (given : (s.ration refused e request).1 = .ok reply) :
    s.Creates request reply (s.ration refused e request).2 := by
  by_cases refusal : s.made.length + s.failures + 1 ∈ refused
  · simp only [ration, if_pos refusal] at given ⊢
    obtain rfl := Except.ok.inj given
    exact rfl
  by_cases taken : (⟨s.made.length + s.failures + 1⟩ : Handle request.kind).object ∈ s.live
  · simp only [ration, if_neg refusal, if_pos taken] at given
    exact nomatch given
  · simp only [ration, if_neg refusal, if_neg taken] at given ⊢
    obtain rfl := Except.ok.inj given
    exact ⟨by simp [Handle.null], taken, rfl⟩

end Stock

/-! ## What a handle holds -/

/-- The entry of an object, unless its handle is null. -/
def held (handle : Handle kind) (request : Creation) : List Item :=
  if handle.isNull then [] else [⟨handle.object, request, []⟩]

/-- A null handle holds nothing. -/
@[simp] theorem held_null (request : Creation) : held (.null : Handle kind) request = [] := rfl

/-- Any other handle holds its object. -/
theorem held_of_ne {handle : Handle kind} (real : handle ≠ .null) (request : Creation) :
    held handle request = [⟨handle.object, request, []⟩] := by
  rw [held, if_neg]
  simpa using real

/-- The object that a handle names, unless it is null. -/
def named (handle : Handle kind) : List Object := [handle.object].filter (·.number ≠ 0)

/-- A null handle names nothing. -/
@[simp] theorem named_null : named (.null : Handle kind) = [] := rfl

/-- Any other handle names its object. -/
theorem named_of_ne {handle : Handle kind} (real : handle ≠ .null) :
    named handle = [handle.object] := by
  obtain ⟨number⟩ := handle
  cases number with
  | zero => exact absurd rfl real
  | succ number => rfl

/-- What a handle holds is what it names. -/
theorem map_object_held (handle : Handle kind) (request : Creation) :
    (held handle request).map Item.object = named handle := by
  obtain ⟨number⟩ := handle
  cases number with
  | zero => rfl
  | succ number => rfl

end PaintPresenter.Vulkan
