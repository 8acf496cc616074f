import Mathlib.Order.Bounds.Defs
import PaintPresenter.Proofs.World
import PaintPresenter.Vulkan.Rig

/-!
# The search for a device

Devices are looked at in the driver's order, their queue families in theirs, and a family is asked
about only as long as the search needs the answer. What a search finds and what it asks are
functions of the driver's reports; so the search for the first device that qualifies, which stops
there, finds what the search through all devices puts first.
-/

namespace PaintPresenter

/-- A list up to and including its first element that has a property, all of it if none has. -/
def upToFirst {α : Type} (p : α → Bool) (l : List α) : List α := l.take (l.findIdx p + 1)

/-- Nothing is taken from an empty list. -/
@[simp] theorem upToFirst_nil {α : Type} (p : α → Bool) : upToFirst p [] = [] := rfl

private theorem upToFirst_cons {α : Type} (p : α → Bool) (a : α) (l : List α) :
    upToFirst p (a :: l) = a :: if p a then [] else upToFirst p l := by
  unfold upToFirst
  rw [List.findIdx_cons]
  cases p a <;> rfl

private theorem upToFirst_append {α : Type} {p : α → Bool} {before : List α} {a : α}
    (later : List α) (passed : ∀ b ∈ before, p b = false) (found : p a = true) :
    upToFirst p (before ++ a :: later) = (before ++ a :: later).take (before.length + 1) := by
  have none : ¬before.findIdx p < before.length := by
    rw [List.findIdx_eq_length_of_false passed]
    exact Nat.lt_irrefl _
  rw [upToFirst, List.findIdx_append, if_neg none, List.findIdx_cons, found, cond_true,
    Nat.zero_add]

namespace Vulkan

/-! ## Reports -/

/-- Bytes in the heaps on the device. -/
def MemoryTable.localBytes (table : MemoryTable) : Nat :=
  ((table.heaps.toList.take table.heapCount.toNat).filter fun h => hasFlags h.flags 1).foldl
    (fun total h => total + h.bytes) 0

private theorem MemoryTable.deviceLocalBytes?_eq (table : MemoryTable) :
    table.deviceLocalBytes? =
      if table.localBytes < UInt64.size then some table.localBytes else none := rfl

/-- What a driver reports about its devices. -/
structure DeviceReports where
  devices : List (Handle .physicalDevice)
  families : Handle .physicalDevice → List QueueFamily
  presents : Handle .physicalDevice → Nat → Handle .surface → Except ResultCode Bool
  properties : Handle .physicalDevice → DeviceProperties
  memory : Handle .physicalDevice → MemoryTable

namespace DeviceReports

/-- A reply about devices is as reported. -/
def Tells (reports : DeviceReports) : (c : DriverCall) → c.Reply → Prop
  | .devices, reply => reply = .ok reports.devices
  | .queueFamilies device, reply => reply = reports.families device
  | .presents device family surface, reply => reply = reports.presents device family surface
  | .properties device, reply => reply = reports.properties device
  | .memory device, reply => reply = reports.memory device
  | _, _ => True

/-- The driver that reports this. Its state is the list of the calls made, in their order. -/
def driver (reports : DeviceReports) : Program.World Driver (List DriverCall) where
  step asked c reply asked' := reports.Tells c reply ∧ asked' = asked ++ [c]

variable (reports : DeviceReports) (surface : Handle .surface)

/-- A family of a device has queues, and they can draw. -/
def Draws (device : Handle .physicalDevice) (family : Nat) : Prop :=
  ∃ f, (reports.families device)[family]? = some f ∧ 0 < f.count ∧ hasFlags f.flags 1 = true

/-- A family of a device draws and presents. -/
structure Suits (device : Handle .physicalDevice) (family : Nat) : Prop where
  draws : reports.Draws device family
  presents : reports.presents device family surface = .ok true

/-! ## What there is to be found -/

/-- The answer to a question about presenting; a question that fails is answered by no. -/
def presentsTo (device : Handle .physicalDevice) (family : Nat) : Bool :=
  (reports.presents device family surface).toOption.getD false

/-- The numbers of the families that draw, the first family being number `index`. -/
def drawingFrom (index : Nat) (families : List QueueFamily) : List Nat :=
  ((families.zipIdx index).filter fun f => f.1.canDraw).map Prod.snd

/-- The families of a device that draw, in their order. -/
def drawing (device : Handle .physicalDevice) : List Nat := drawingFrom 0 (reports.families device)

/-- The first family of a device that draws and presents. -/
def family? (device : Handle .physicalDevice) : Option Nat :=
  (reports.drawing device).find? (reports.presentsTo surface device)

/-- What a device offers, if it qualifies. -/
def offer? (index : Nat) (device : Handle .physicalDevice) : Option DeviceOffer :=
  (reports.family? surface device).map fun queueFamily =>
    ⟨index, device, (reports.properties device).type, (reports.memory device).localBytes,
      queueFamily⟩

/-- What devices offer, the first device being number `index`. -/
def offersFrom (index : Nat) (devices : List (Handle .physicalDevice)) : List DeviceOffer :=
  (devices.zipIdx index).filterMap fun device => reports.offer? surface device.2 device.1

/-- What all devices offer. -/
def offers : List DeviceOffer := reports.offersFrom surface 0 reports.devices

/-! ## What is asked -/

/-- Whether a device qualifies. -/
def qualifies (device : Handle .physicalDevice) : Bool := (reports.family? surface device).isSome

/-- The questions about one device: for its families; for families that draw, in their order, up to
the first one that presents; and if there is one, for what the device is. -/
def questions (device : Handle .physicalDevice) : List DriverCall :=
  .queueFamilies device ::
    ((upToFirst (reports.presentsTo surface device) (reports.drawing device)).map
        (DriverCall.presents device · surface) ++
      if reports.qualifies surface device then [.properties device, .memory device] else [])

/-! ## Runs -/

section Runs

variable {reports : DeviceReports} {surface : Handle .surface} {device : Handle .physicalDevice}
  {s t : List DriverCall}

/-- A question that the reports answer ends in one way. -/
theorem ends_ask {c : DriverCall} {told reply : c.Reply}
    (tells : ∀ reply, reports.Tells c reply ↔ reply = told) :
    (Program.call c .done).Ends reports.driver s reply t ↔ reply = told ∧ t = s ++ [c] := by
  rw [Program.ends_call_iff]
  constructor
  · rintro ⟨_, _, ⟨first, rfl⟩, ⟨⟩⟩
    exact ⟨(tells _).mp first, rfl⟩
  · rintro ⟨rfl, rfl⟩
    exact ⟨_, _, ⟨(tells _).mpr rfl, rfl⟩, .done⟩

/-- Without families none can draw. -/
@[simp] theorem drawingFrom_nil (index : Nat) : drawingFrom index [] = [] := rfl

private theorem drawingFrom_cons (index : Nat) (f : QueueFamily) (later : List QueueFamily) :
    drawingFrom index (f :: later) =
      if f.canDraw then index :: drawingFrom (index + 1) later
      else drawingFrom (index + 1) later := by
  by_cases draws : f.canDraw = true
  · simp [drawingFrom, draws]
  · simp [drawingFrom, draws]

private theorem ends_presents {family : Nat} {found : Bool} :
    (Rig.presents device surface family).Ends reports.driver s found t ↔
      found = reports.presentsTo surface device family ∧
        t = s ++ [.presents device family surface] := by
  unfold Rig.presents Program.ask
  rw [Program.ends_bind_of fun _ _ => ends_ask fun _ => Iff.rfl]
  exact Program.ends_done_iff

private theorem ends_searchFamilies {families : List QueueFamily} {index : Nat}
    {found : Option Nat} :
    (searchFamilies (Rig.presents device surface) families index).Ends reports.driver s found t ↔
      found = (drawingFrom index families).find? (reports.presentsTo surface device) ∧
        t = s ++ (upToFirst (reports.presentsTo surface device) (drawingFrom index families)).map
          (DriverCall.presents device · surface) := by
  induction families generalizing index s with
  | nil => simp [searchFamilies]
  | cons f later ih =>
    rw [searchFamilies, drawingFrom_cons]
    by_cases draws : f.canDraw = true
    · rw [if_pos draws, if_pos draws, upToFirst_cons, List.find?_cons]
      by_cases hit : reports.presentsTo surface device index = true
      · simp [ends_presents, hit]
      · simp [ends_presents, hit, ih]
    · rw [if_neg draws, if_neg draws, ih]

/-- What is asked about a device, and what comes of it: a fault if the device qualifies and its
memory cannot be counted. -/
theorem ends_offer {index : Nat} {offer : Option DeviceOffer} :
    (Rig.offer? surface index device).Ends reports.driver s offer t ↔
      (∀ o ∈ reports.offer? surface index device, o.localBytes < UInt64.size) ∧
        offer = reports.offer? surface index device ∧
        t = s ++ reports.questions surface device := by
  unfold Rig.offer? drawingFamily? Driver.queueFamilies Driver.properties Driver.memory
  rw [Program.ends_bind_of fun _ _ => ends_ask fun _ => Iff.rfl,
    Program.ends_bind_of fun _ _ => ends_searchFamilies]
  unfold questions qualifies offer? family? drawing
  cases (drawingFrom 0 (reports.families device)).find? (reports.presentsTo surface device) with
  | none => simp [Program.log]
  | some queueFamily =>
    simp only
    rw [Program.ends_bind_of fun _ _ => ends_ask fun _ => Iff.rfl,
      Program.ends_bind_of fun _ _ => ends_ask fun _ => Iff.rfl]
    rw [MemoryTable.deviceLocalBytes?_eq]
    by_cases counted : (reports.memory device).localBytes < UInt64.size
    · rw [if_pos counted]
      simp [Program.require, counted]
    · rw [if_neg counted]
      simp [Program.require, counted]

private theorem offersFrom_cons (index : Nat) (device : Handle .physicalDevice)
    (later : List (Handle .physicalDevice)) :
    reports.offersFrom surface index (device :: later) =
      (reports.offer? surface index device).toList ++
        reports.offersFrom surface (index + 1) later := by
  unfold offersFrom
  rw [List.zipIdx_cons, List.filterMap_cons]
  cases reports.offer? surface index device <;> rfl

/-- A device makes an offer exactly when it qualifies. -/
theorem isSome_offer (index : Nat) :
    (reports.offer? surface index device).isSome = reports.qualifies surface device := by
  rw [offer?, Option.isSome_map, qualifies]

/-- A search that does not stop looks at every device. -/
theorem ends_offers_all {devices : List (Handle .physicalDevice)} {index : Nat}
    {found : List DeviceOffer} :
    (Rig.offers .preferDiscrete surface devices index).Ends reports.driver s found t ↔
      (∀ o ∈ reports.offersFrom surface index devices, o.localBytes < UInt64.size) ∧
        found = reports.offersFrom surface index devices ∧
        t = s ++ devices.flatMap (reports.questions surface) := by
  induction devices generalizing index s t found with
  | nil => simp [Rig.offers, offersFrom]
  | cons device later ih =>
    rw [Rig.offers, Program.ends_bind_if fun _ _ => ends_offer, offersFrom_cons]
    cases reports.offer? surface index device with
    | none => simp [ih]
    | some offer =>
      simp only [reduceCtorEq, if_false]
      rw [Program.ends_bind_if fun _ _ => ih]
      simp [and_assoc]

/-- A search for the first device that qualifies stops there. -/
theorem ends_offers_first {devices : List (Handle .physicalDevice)} {index : Nat}
    {found : List DeviceOffer} :
    (Rig.offers .firstQualifying surface devices index).Ends reports.driver s found t ↔
      (∀ o ∈ (reports.offersFrom surface index devices).head?, o.localBytes < UInt64.size) ∧
        found = (reports.offersFrom surface index devices).head?.toList ∧
        t = s ++ (upToFirst (reports.qualifies surface) devices).flatMap
          (reports.questions surface) := by
  induction devices generalizing index s t found with
  | nil => simp [Rig.offers, offersFrom]
  | cons device later ih =>
    -- Whether the walk goes on depends on the offer, which says whether the device qualifies.
    rw [Rig.offers, Program.ends_bind_if fun _ _ => ends_offer, offersFrom_cons, upToFirst_cons,
      ← isSome_offer index]
    cases reports.offer? surface index device with
    | none => simp [ih]
    | some offer => simp

/-- The search for a device whose walk through the devices and whose choice follow policies of their
own. A walk for the preferred device does not stop early. -/
def selectBy (loop choice : SelectionPolicy) (surface : Handle .surface) :
    Driver.Task DeviceOffer := do
  let devices ← Driver.devices
  match DeviceOffer.pick? choice (← Rig.offers loop surface devices 0) with
  | some offer => return offer
  | none => throw .noSuitableDevice

/-- What a choice comes to. -/
def taken (choice : Option DeviceOffer) : Except GraphicsError DeviceOffer :=
  choice.elim (.error .noSuitableDevice) .ok

/-- A choice succeeds with the offer that was chosen. -/
theorem taken_eq_ok_iff {choice : Option DeviceOffer} {offer : DeviceOffer} :
    taken choice = .ok offer ↔ choice = some offer := by
  cases choice <;> simp [taken]

/-- A choice fails when there was no offer. -/
theorem taken_eq_error_iff {choice : Option DeviceOffer} :
    taken choice = .error .noSuitableDevice ↔ choice = none := by
  cases choice <;> simp [taken]

private theorem ends_selectBy {loop choice : SelectionPolicy} {found : List DeviceOffer} {P : Prop}
    {asked : List DriverCall} {result : Except GraphicsError DeviceOffer}
    (single : ∀ found' asked', (Rig.offers loop surface reports.devices 0).Ends reports.driver
      (s ++ [.devices]) found' asked' ↔ P ∧ found' = found ∧ asked' = asked) :
    (selectBy loop choice surface).run.Ends reports.driver s result t ↔
      P ∧ result = taken (DeviceOffer.pick? choice found) ∧ t = asked := by
  have listed : ∀ listed asked', Driver.devices.run.Ends reports.driver s listed asked' ↔
      listed = .ok reports.devices ∧ asked' = s ++ [.devices] := by
    intro listed asked'
    unfold Driver.devices Driver.checked
    rw [ExceptT.run_mk, Program.ends_bind_of fun _ _ => ends_ask fun _ => Iff.rfl]
    exact Program.ends_done_iff
  unfold selectBy
  rw [ExceptT.run_bind, Program.ends_bind_of listed]
  simp only
  rw [ExceptT.run_bind, Program.ends_bind_if fun _ _ => Program.ends_liftM_if single]
  simp only
  rw [taken]
  cases DeviceOffer.pick? choice found with
  | none => exact and_congr_right fun _ => Program.ends_done_iff
  | some offer => exact and_congr_right fun _ => Program.ends_done_iff

/-- The selection collects and chooses by one policy. -/
theorem selectDevice_eq (policy : SelectionPolicy) :
    Rig.selectDevice policy surface = selectBy policy policy surface := rfl

end Runs

/-! ## What is found -/

section Findings

variable {reports : DeviceReports} {surface : Handle .surface} {device : Handle .physicalDevice}

private theorem mem_drawing {family : Nat} :
    family ∈ reports.drawing device ↔ reports.Draws device family := by
  simp only [drawing, drawingFrom, Draws, QueueFamily.canDraw, List.mem_map, List.mem_filter,
    Bool.and_eq_true, decide_eq_true_eq, Prod.exists, exists_eq_right,
    List.mk_mem_zipIdx_iff_getElem?]

private theorem drawing_ascends (reports : DeviceReports) (device : Handle .physicalDevice) :
    (reports.drawing device).Pairwise (· < ·) := by
  have numbered := (List.filter_sublist (p := fun f : QueueFamily × Nat => f.1.canDraw)
    (l := (reports.families device).zipIdx)).map Prod.snd
  rw [List.zipIdx_map_snd] at numbered
  exact List.Pairwise.sublist numbered (List.pairwise_lt_range' 1)

private theorem presentsTo_iff {family : Nat} :
    reports.presentsTo surface device family = true ↔
      reports.presents device family surface = .ok true := by
  unfold presentsTo
  cases reports.presents device family surface with
  | error e => simp [Except.toOption]
  | ok answer => simp [Except.toOption]

private theorem suits_iff {family : Nat} :
    reports.Suits surface device family ↔
      family ∈ reports.drawing device ∧ reports.presentsTo surface device family = true := by
  rw [mem_drawing, presentsTo_iff]
  exact ⟨fun suits => ⟨suits.draws, suits.presents⟩, fun ⟨draws, presents⟩ => ⟨draws, presents⟩⟩

/-- A device does not qualify exactly when none of its families suits. -/
theorem not_qualifies_iff :
    reports.qualifies surface device = false ↔ ∀ family, ¬reports.Suits surface device family := by
  simp only [qualifies, family?, Option.isSome_eq_false_iff, Option.isNone_iff_eq_none,
    List.find?_eq_none, suits_iff, not_and]

/-- The family that is found is the least one that suits. -/
theorem isLeast_family {family : Nat} (found : reports.family? surface device = some family) :
    IsLeast {family | reports.Suits surface device family} family := by
  rw [family?, List.find?_eq_some_iff_append] at found
  obtain ⟨presents, before, later, split, refused⟩ := found
  refine ⟨suits_iff.mpr ⟨by simp [split], presents⟩, fun other suits => ?_⟩
  obtain ⟨draws, presentsToo⟩ := suits_iff.mp suits
  have ascends := drawing_ascends reports device
  rw [split] at draws ascends
  -- A family in front of the one found was refused; one behind it has a greater number.
  obtain passed | rfl | behind := by simpa using draws
  · have no := refused other passed
    rw [presentsToo] at no
    exact nomatch no
  · exact Nat.le_refl _
  · exact Nat.le_of_lt <| List.rel_of_pairwise_cons (List.pairwise_append.mp ascends).2.1 behind

private theorem head?_offersFrom {devices : List (Handle .physicalDevice)} {index : Nat}
    {offer : DeviceOffer} (first : (reports.offersFrom surface index devices).head? = some offer) :
    ∃ before device later, devices = before ++ device :: later ∧
      (∀ passed ∈ before, reports.qualifies surface passed = false) ∧
      reports.offer? surface (index + before.length) device = some offer := by
  induction devices generalizing index with
  | nil => exact nomatch first
  | cons device later ih =>
    rw [offersFrom_cons] at first
    cases offered : reports.offer? surface index device with
    | some found =>
      rw [offered] at first
      exact ⟨[], device, later, rfl, nofun, offered.trans first⟩
    | none =>
      rw [offered] at first
      obtain ⟨before, next, behind, split, passed, taken⟩ := ih first
      have refused : reports.qualifies surface device = false := by
        rw [← isSome_offer index, offered, Option.isSome_none]
      refine ⟨device :: before, next, behind, congrArg _ split, ?_, ?_⟩
      · exact List.forall_mem_cons.mpr ⟨refused, passed⟩
      · rw [List.length_cons, Nat.add_comm before.length, ← Nat.add_assoc]
        exact taken

private theorem offersFrom_eq_nil_iff {devices : List (Handle .physicalDevice)} {index : Nat} :
    reports.offersFrom surface index devices = [] ↔
      ∀ device ∈ devices, ∀ family, ¬reports.Suits surface device family := by
  induction devices generalizing index with
  | nil => exact ⟨fun _ => nofun, fun _ => rfl⟩
  | cons device later ih =>
    rw [offersFrom_cons, List.append_eq_nil_iff, ih, List.forall_mem_cons, ← not_qualifies_iff,
      ← isSome_offer index]
    cases reports.offer? surface index device <;> simp

/-- There is no offer exactly when no family of any device suits. -/
theorem offers_eq_nil_iff : reports.offers surface = [] ↔
    ∀ device ∈ reports.devices, ∀ family, ¬reports.Suits surface device family :=
  offersFrom_eq_nil_iff

end Findings

/-- An offer is the first one: no device in front of the one it is from has a family that suits,
and the family it names is the first of its device that does. -/
structure IsFirst (offer : DeviceOffer) : Prop where
  device : reports.devices[offer.index]? = some offer.device
  passed : ∀ device ∈ reports.devices.take offer.index,
    ∀ family, ¬reports.Suits surface device family
  family : IsLeast {family | reports.Suits surface offer.device family} offer.queueFamily

/-! ## The two searches -/

section Searches

variable {reports : DeviceReports} {surface : Handle .surface} {asked : List DriverCall}
  {result : Except GraphicsError DeviceOffer}

/-- The first offer comes from the first device that qualifies, and no later one is looked at. -/
theorem isFirst_of_head? {offer : DeviceOffer}
    (first : (reports.offers surface).head? = some offer) :
    reports.IsFirst surface offer ∧
      upToFirst (reports.qualifies surface) reports.devices =
        reports.devices.take (offer.index + 1) := by
  obtain ⟨before, device, later, split, passed, offered⟩ := head?_offersFrom first
  have qualifies : reports.qualifies surface device = true := by
    rw [← isSome_offer (0 + before.length), offered, Option.isSome_some]
  obtain ⟨family, found, rfl⟩ := Option.map_eq_some_iff.mp offered
  refine ⟨⟨?_, fun device passes => ?_, isLeast_family found⟩, ?_⟩
  · simp [split]
  · have behind : device ∈ before := by simpa [split] using passes
    exact not_qualifies_iff.mp (passed device behind)
  · rw [split, upToFirst_append later passed qualifies, Nat.zero_add]

/-- A search for the first device that qualifies. -/
theorem ends_selectDevice :
    (Rig.selectDevice .firstQualifying surface).run.Ends reports.driver [] result asked ↔
      (∀ o ∈ (reports.offers surface).head?, o.localBytes < UInt64.size) ∧
        result = taken (DeviceOffer.pick? .firstQualifying (reports.offers surface)) ∧
        asked = .devices :: (upToFirst (reports.qualifies surface) reports.devices).flatMap
          (reports.questions surface) := by
  rw [selectDevice_eq, ends_selectBy fun _ _ => ends_offers_first, ← offers]
  cases reports.offers surface <;> rfl

/-- A search through all devices. -/
theorem ends_selectBy_all {choice : SelectionPolicy} :
    (selectBy .preferDiscrete choice surface).run.Ends reports.driver [] result asked ↔
      (∀ o ∈ reports.offers surface, o.localBytes < UInt64.size) ∧
        result = taken (DeviceOffer.pick? choice (reports.offers surface)) ∧
        asked = .devices :: reports.devices.flatMap (reports.questions surface) := by
  rw [ends_selectBy fun _ _ => ends_offers_all]
  rfl

/-- The search fails exactly when no family of any device suits. -/
theorem finds_none_iff :
    (∃ asked, (Rig.selectDevice .firstQualifying surface).run.Ends reports.driver []
        (.error .noSuitableDevice) asked) ↔
      ∀ device ∈ reports.devices, ∀ family, ¬reports.Suits surface device family := by
  rw [← offers_eq_nil_iff]
  constructor
  · rintro ⟨_, ends⟩
    obtain ⟨-, none, -⟩ := ends_selectDevice.mp ends
    exact List.head?_eq_none_iff.mp (taken_eq_error_iff.mp none.symm)
  · -- Without an offer there is no memory to count, so the search does come to an end.
    intro none
    refine ⟨_, ends_selectDevice.mpr ⟨?_, ?_, rfl⟩⟩
    · rw [none]
      nofun
    · rw [none]
      rfl

/-- The search for the first device that qualifies finds what a search through all devices puts
first, and no device if and only if none has a family that draws and presents. It asks about the
devices up to the one it finds, and on each of them about the families that draw, in their order, up
to the first one that presents. Either search only comes to an end if words of 64 bits count the
memory of the devices whose memory it asks for. -/
theorem first_qualifying_suffices (reports : DeviceReports) (surface : Handle .surface) :
    (∀ result asked,
      (Rig.selectDevice .firstQualifying surface).run.Ends reports.driver [] result asked ↔
        (∀ o ∈ (reports.offers surface).head?, o.localBytes < UInt64.size) ∧
          result = taken (DeviceOffer.pick? .firstQualifying (reports.offers surface)) ∧
          asked = .devices :: (upToFirst (reports.qualifies surface) reports.devices).flatMap
            (reports.questions surface)) ∧
    (∀ result,
      (∃ asked, (selectBy .preferDiscrete .firstQualifying surface).run.Ends reports.driver []
        result asked) ↔
      (∀ o ∈ reports.offers surface, o.localBytes < UInt64.size) ∧
        ∃ asked, (Rig.selectDevice .firstQualifying surface).run.Ends reports.driver []
          result asked) ∧
    ((∃ asked, (Rig.selectDevice .firstQualifying surface).run.Ends reports.driver []
        (.error .noSuitableDevice) asked) ↔
      ∀ device ∈ reports.devices, ∀ family, ¬reports.Suits surface device family) ∧
    (∀ offer asked,
      (Rig.selectDevice .firstQualifying surface).run.Ends reports.driver [] (.ok offer) asked →
        reports.IsFirst surface offer ∧
          asked = .devices :: (reports.devices.take (offer.index + 1)).flatMap
            (reports.questions surface)) ∧
    ∀ device, (reports.drawing device).Pairwise (· < ·) ∧
      ∀ family, family ∈ reports.drawing device ↔ reports.Draws device family := by
  refine ⟨fun _ _ => ends_selectDevice, fun result => ?_, finds_none_iff,
    fun offer asked ends => ?_,
    fun device => ⟨drawing_ascends reports device, fun _ => mem_drawing⟩⟩
  · constructor
    · rintro ⟨_, ends⟩
      obtain ⟨counted, found, -⟩ := ends_selectBy_all.mp ends
      exact ⟨counted, _, ends_selectDevice.mpr
        ⟨fun o first => counted o (List.mem_of_head? first), found, rfl⟩⟩
    · rintro ⟨counted, _, ends⟩
      exact ⟨_, ends_selectBy_all.mpr ⟨counted, (ends_selectDevice.mp ends).2.1, rfl⟩⟩
  · obtain ⟨-, found, rfl⟩ := ends_selectDevice.mp ends
    obtain ⟨first, stops⟩ := isFirst_of_head? (taken_eq_ok_iff.mp found.symm)
    exact ⟨first, by rw [stops]⟩

/-- Three devices. Of the first, the family that has queues does not present. The second has a
family that cannot draw, one whose question fails, and two that suit. So has the third, which is a
device of a better kind. -/
def threeDevices : DeviceReports where
  devices := [⟨1⟩, ⟨2⟩, ⟨3⟩]
  families device :=
    if device.number = 1 then [⟨1, 0⟩, ⟨1, 1⟩] else [⟨2, 1⟩, ⟨1, 1⟩, ⟨3, 1⟩, ⟨1, 1⟩]
  presents device family _ :=
    if device.number = 1 then .ok false
    else if family = 1 then .error .initializationFailed
    else .ok true
  properties device :=
    { name := ⟨ByteArray.empty⟩, type := if device.number = 3 then .discrete else .integrated,
      anisotropyLimit := 1 }
  memory _ := .ofLists [] 0 [] 0

/-- Of three devices the second one qualifies, by its third family; the third device is not asked.
-/
theorem first_qualifying_suffices_second :
    (Rig.selectDevice .firstQualifying ⟨5⟩).run.Ends threeDevices.driver []
      (.ok ⟨1, ⟨2⟩, .integrated, 0, 2⟩)
      [.devices, .queueFamilies ⟨1⟩, .presents ⟨1⟩ 1 ⟨5⟩, .queueFamilies ⟨2⟩, .presents ⟨2⟩ 1 ⟨5⟩,
        .presents ⟨2⟩ 2 ⟨5⟩, .properties ⟨2⟩, .memory ⟨2⟩] :=
  ((first_qualifying_suffices threeDevices ⟨5⟩).1 _ _).mpr ⟨by decide, by rfl, by rfl⟩

end Searches

end DeviceReports

end Vulkan

end PaintPresenter
