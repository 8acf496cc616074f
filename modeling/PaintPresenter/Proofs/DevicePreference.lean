import Mathlib.Data.List.Nodup
import Mathlib.Data.Prod.Lex
import Mathlib.Order.OrderDual
import PaintPresenter.Proofs.DeviceSearch

/-!
# The preferred device

The offer that is kept while the list of offers is gone through is the least one in a linear order:
by kind, by memory, by place. Offers with places of their own never tie, so which one is preferred
depends neither on the order of the list nor on the offers that are beaten.
-/

namespace PaintPresenter.Vulkan

namespace DeviceOffer

variable {a b c o : DeviceOffer} {offers : List DeviceOffer}

/-! ## The order of offers -/

/-- The kinds of devices that differ in preference, best first. All other kinds come behind. -/
def kinds : List DeviceType := [.discrete, .integrated, .virtual, .software]

/-- One offer is preferred over another: for a better kind; in the same kind, for more memory; and
if there is as much of it, for an earlier place. -/
def Beats (a b : DeviceOffer) : Prop :=
  kinds.idxOf a.type < kinds.idxOf b.type ∨ kinds.idxOf a.type = kinds.idxOf b.type ∧
    (b.localBytes < a.localBytes ∨ b.localBytes = a.localBytes ∧ a.index < b.index)

private theorem rank_add_idxOf (t : DeviceType) : rank t + kinds.idxOf t = 4 := by
  unfold rank
  split_ifs with discrete integrated virtual software
  · rw [discrete]
    rfl
  · rw [integrated]
    rfl
  · rw [virtual]
    rfl
  · rw [software]
    rfl
  · have other : t ∉ kinds := by simp [kinds, discrete, integrated, virtual, software]
    rw [List.idxOf_eq_length other]
    rfl

/-- What offers are compared by. The preferred one has the smaller key. -/
def key (a : DeviceOffer) : Nat ×ₗ Natᵒᵈ ×ₗ Nat :=
  toLex (kinds.idxOf a.type, toLex (OrderDual.toDual a.localBytes, a.index))

/-- The offer with the smaller key is the preferred one. -/
theorem key_lt_key_iff : a.key < b.key ↔ a.Beats b := by
  simp only [key, Beats, Prod.Lex.toLex_lt_toLex, OrderDual.toDual_lt_toDual,
    OrderDual.toDual_inj, eq_comm]

/-- The comparison of two offers compares their keys. -/
theorem noWorse_iff : a.noWorse b = true ↔ a.key ≤ b.key := by
  have first := rank_add_idxOf a.type
  have second := rank_add_idxOf b.type
  simp only [key, Prod.Lex.toLex_le_toLex, OrderDual.toDual_lt_toDual, OrderDual.toDual_inj]
  unfold noWorse
  split_ifs <;> rw [decide_eq_true_eq] <;> omega

private theorem index_eq_of_key_eq (same : a.key = b.key) : a.index = b.index :=
  congrArg (fun k => (ofLex (ofLex k).2).2) same

/-! ## The best of a list -/

/-- Of the best so far and another offer, one is kept that is no worse than either. -/
theorem exists_better (a b : DeviceOffer) :
    ∃ c, better (some a) b = some c ∧ (c = a ∨ c = b) ∧ c.key ≤ a.key ∧ c.key ≤ b.key := by
  by_cases later : b.noWorse a = true
  · exact ⟨b, by rw [better, if_pos later], .inr rfl, noWorse_iff.mp later, le_rfl⟩
  · have earlier : a.key ≤ b.key := (not_le.mp (mt noWorse_iff.mpr later)).le
    exact ⟨a, by rw [better, if_neg later], .inl rfl, le_rfl, earlier⟩

private theorem exists_foldl_better (best : DeviceOffer) (offers : List DeviceOffer) :
    ∃ c ∈ best :: offers, offers.foldl better (some best) = some c ∧
      ∀ o ∈ best :: offers, c.key ≤ o.key := by
  induction offers generalizing best with
  | nil => exact ⟨best, List.mem_cons_self, rfl, by simp⟩
  | cons o later ih =>
    obtain ⟨kept, keeps, oneOf, below, belowNext⟩ := exists_better best o
    obtain ⟨c, among, found, least⟩ := ih kept
    obtain ⟨belowKept, belowLater⟩ := List.forall_mem_cons.mp least
    refine ⟨c, ?_, ?_, ?_⟩
    · obtain rfl | rfl := oneOf
      · exact List.mem_cons.mpr ((List.mem_cons.mp among).imp_right (List.mem_cons_of_mem o))
      · exact List.mem_cons_of_mem best among
    · rw [List.foldl_cons, keeps, found]
    · rw [List.forall_mem_cons, List.forall_mem_cons]
      exact ⟨belowKept.trans below, belowKept.trans belowNext, belowLater⟩

private theorem exists_best (nonempty : offers ≠ []) :
    ∃ c ∈ offers, best? offers = some c ∧ ∀ o ∈ offers, c.key ≤ o.key := by
  cases offers with
  | nil => exact absurd rfl nonempty
  | cons first later => exact exists_foldl_better first later

/-- Among offers with places of their own, the best one is the one that beats all others. -/
theorem best?_eq_some_iff (distinct : (offers.map DeviceOffer.index).Nodup) :
    best? offers = some c ↔ c ∈ offers ∧ ∀ o ∈ offers, o ≠ c → c.Beats o := by
  constructor
  · intro found
    have nonempty : offers ≠ [] := by
      rintro rfl
      exact nomatch found
    obtain ⟨d, among, same, least⟩ := exists_best nonempty
    obtain rfl := Option.some.inj (found.symm.trans same)
    refine ⟨among, fun o member other => key_lt_key_iff.mp (lt_of_le_of_ne (least o member) ?_)⟩
    intro tie
    exact other (List.inj_on_of_nodup_map distinct member among (index_eq_of_key_eq tie).symm)
  · rintro ⟨among, beats⟩
    obtain ⟨d, member, found, least⟩ := exists_best (List.ne_nil_of_mem among)
    by_cases same : d = c
    · rw [found, same]
    · exact absurd (least c among) (not_le.mpr (key_lt_key_iff.mpr (beats d member same)))

/-- Among offers with places of their own, one is preferred that beats all others. It is preferred
in whatever order the offers are listed, and with any other offer left out. -/
theorem preferred_beats_others (offers : List DeviceOffer) (nonempty : offers ≠ [])
    (distinct : (offers.map DeviceOffer.index).Nodup) :
    ∃ c ∈ offers, pick? .preferDiscrete offers = some c ∧
      (∀ o ∈ offers, o ≠ c → c.Beats o) ∧
      (∀ listed, listed.Perm offers → pick? .preferDiscrete listed = some c) ∧
      ∀ o ∈ offers, o ≠ c → pick? .preferDiscrete (offers.erase o) = some c := by
  obtain ⟨c, among, found, -⟩ := exists_best nonempty
  have beats := ((best?_eq_some_iff distinct).mp found).2
  refine ⟨c, among, found, beats, fun listed order => ?_, fun o _ other => ?_⟩
  · refine (best?_eq_some_iff ?_).mpr ⟨order.mem_iff.mpr among, fun o member => ?_⟩
    · exact (order.map _).nodup_iff.mpr distinct
    · exact beats o (order.mem_iff.mp member)
  · refine (best?_eq_some_iff ?_).mpr ⟨(List.mem_erase_of_ne other.symm).mpr among, ?_⟩
    · exact distinct.sublist (List.erase_sublist.map _)
    · exact fun o member => beats o (List.mem_of_mem_erase member)

/-- Five offers, two of them equally good ones of the best kind. -/
def fiveOffers : List DeviceOffer :=
  [⟨0, ⟨1⟩, ⟨9⟩, 100, 0⟩, ⟨1, ⟨2⟩, .integrated, 50, 0⟩, ⟨2, ⟨3⟩, .discrete, 8, 0⟩,
    ⟨3, ⟨4⟩, .discrete, 8, 1⟩, ⟨4, ⟨5⟩, .discrete, 4, 0⟩]

/-- Of five offers, the earlier of two equally good ones wins, also when the list is reversed. -/
theorem preferred_beats_others_tied :
    fiveOffers ≠ [] ∧ (fiveOffers.map DeviceOffer.index).Nodup ∧
      pick? .preferDiscrete fiveOffers = some ⟨2, ⟨3⟩, .discrete, 8, 0⟩ ∧
      pick? .preferDiscrete fiveOffers.reverse = some ⟨2, ⟨3⟩, .discrete, 8, 0⟩ := by
  have found : pick? .preferDiscrete fiveOffers = some ⟨2, ⟨3⟩, .discrete, 8, 0⟩ := by decide
  obtain ⟨c, -, same, -, listed, -⟩ := preferred_beats_others fiveOffers (by decide) (by decide)
  obtain rfl := Option.some.inj (found.symm.trans same)
  exact ⟨by decide, by decide, found, listed _ fiveOffers.reverse_perm⟩

end DeviceOffer

namespace DeviceReports

variable {reports : DeviceReports} {surface : Handle .surface}

/-! ## The preferred device of a search -/

private theorem nodup_index_offers (reports : DeviceReports) (surface : Handle .surface) :
    ((reports.offers surface).map DeviceOffer.index).Nodup := by
  have ascends : reports.devices.zipIdx.Pairwise fun a b => a.2 < b.2 := by
    rw [← List.pairwise_map, List.zipIdx_map_snd]
    exact List.pairwise_lt_range' 1
  have distinct := ascends.filterMap (S := fun a b => a.index ≠ b.index)
    (fun device => reports.offer? surface device.2 device.1) ?_
  · exact List.pairwise_map.mpr distinct
  · intro a b earlier o offered p offeredNext
    obtain ⟨_, -, rfl⟩ := Option.map_eq_some_iff.mp offered
    obtain ⟨_, -, rfl⟩ := Option.map_eq_some_iff.mp offeredNext
    exact earlier.ne

/-- A search for the preferred device that finds one looks at all of them and finds the offer that
beats all others. -/
theorem selectDevice_prefers {offer : DeviceOffer} {asked : List DriverCall}
    (ends : (Rig.selectDevice .preferDiscrete surface).run.Ends reports.driver [] (.ok offer)
      asked) :
    offer ∈ reports.offers surface ∧ (∀ o ∈ reports.offers surface, o ≠ offer → offer.Beats o) ∧
      asked = .devices :: reports.devices.flatMap (reports.questions surface) := by
  rw [selectDevice_eq] at ends
  obtain ⟨-, found, whole⟩ := ends_selectBy_all.mp ends
  obtain ⟨among, beats⟩ := (DeviceOffer.best?_eq_some_iff (nodup_index_offers reports surface)).mp
    (taken_eq_ok_iff.mp found.symm)
  exact ⟨among, beats, whole⟩

end DeviceReports

end PaintPresenter.Vulkan
