import Mathlib.Data.List.Forall2
import PaintPresenter.Graphics.Error
import PaintPresenter.Proofs.Stock

/-!
# Owners of a device's objects

Several owners share a device. Each is made by a program that may fail and then acts, also in ways
that may fail, on what it holds. When every single deed keeps its owner's part of the books,
whatever else is on them, then at any time the books are the parts of all owners taken together.
-/

namespace PaintPresenter.Vulkan

open Contract

variable {I : Interface} {γ κ ν μ : Type} {s t : Stock}

/-- How owners are made and how they act. -/
structure Ownership (I : Interface) (κ ν μ : Type) where
  found : ν → ExceptT GraphicsError (Program I) κ
  /-- An owner that fails to act is still there. -/
  act : μ → Stateful κ I GraphicsError Unit

/-- The owners and the state of the device after some deeds. Between two deeds the device may be
used in other ways. -/
inductive Ownership.Reaches (O : Ownership I κ ν μ) (W : Program.World I γ) (aside : γ → γ → Prop)
    (start : γ) : List κ → γ → Prop
  | start : Reaches O W aside start [] start
  | aside {owners : List κ} {s t : γ} (earlier : O.Reaches W aside start owners s)
      (used : aside s t) : Reaches O W aside start owners t
  | found {owners : List κ} {s t : γ} {owner : κ} (request : ν)
      (earlier : O.Reaches W aside start owners s)
      (ends : (O.found request).run.Ends W s (.ok owner) t) :
      Reaches O W aside start (owner :: owners) t
  | refused {owners : List κ} {s t : γ} {e : GraphicsError} (request : ν)
      (earlier : O.Reaches W aside start owners s)
      (ends : (O.found request).run.Ends W s (.error e) t) : Reaches O W aside start owners t
  | acted {before after : List κ} {owner changed : κ} {s t : γ}
      {result : Except GraphicsError Unit} (deed : μ)
      (earlier : O.Reaches W aside start (before ++ owner :: after) s)
      (ends : ((O.act deed).run owner).Ends W s (result, changed) t) :
      Reaches O W aside start (before ++ changed :: after) t

/-! ## The parts of the owners -/

/-- What exists is what the owners own. -/
def Owned (Owns : κ → List Item → Prop) (owners : List κ) (s : Stock) : Prop :=
  ∃ parts, List.Forall₂ Owns owners parts ∧ s.Lists parts.flatten

section Parts

variable {Owns : κ → List Item → Prop} {owner : κ} {owners before after : List κ}

-- The part of one owner is told from those of the others.
private theorem forall₂_around {parts : List (List Item)}
    (all : List.Forall₂ Owns (before ++ owner :: after) parts) :
    ∃ first own rest, parts = first ++ own :: rest ∧ List.Forall₂ Owns before first ∧
      Owns owner own ∧ List.Forall₂ Owns after rest := by
  induction before generalizing parts with
  | nil =>
    obtain ⟨own, rest, owns, later, rfl⟩ := List.forall₂_cons_left_iff.mp all
    exact ⟨[], own, rest, rfl, .nil, owns, later⟩
  | cons neighbour before ih =>
    obtain ⟨part, parts, owns, others, rfl⟩ := List.forall₂_cons_left_iff.mp all
    obtain ⟨first, own, rest, rfl, earlier, owned, later⟩ := ih others
    exact ⟨part :: first, own, rest, rfl, earlier.cons owns, owned, later⟩

private theorem flatten_around (first rest : List (List Item)) (own : List Item) :
    (first ++ own :: rest).flatten.Perm (own ++ (first.flatten ++ rest.flatten)) := by
  rw [List.flatten_append, List.flatten_cons, ← List.append_assoc, ← List.append_assoc]
  exact List.perm_append_comm.append_right _

/-- One owner may change its part of the books without looking at the others. -/
theorem Owned.focus (owned : Owned Owns (before ++ owner :: after) s) :
    ∃ own base, Owns owner own ∧ s.Lists (own ++ base) ∧ ∀ changed own' t, Owns changed own' →
      Stock.Lists t (own' ++ base) → Owned Owns (before ++ changed :: after) t := by
  obtain ⟨parts, all, h⟩ := owned
  obtain ⟨first, own, rest, rfl, earlier, owns, later⟩ := forall₂_around all
  refine ⟨own, first.flatten ++ rest.flatten, owns, h.perm (flatten_around first rest own), ?_⟩
  intro changed own' t owns' h'
  exact ⟨first ++ own' :: rest, List.rel_append earlier (later.cons owns'),
    h'.perm (flatten_around first rest own').symm⟩

/-- Every owner owns a part of what exists. -/
theorem Owned.of_mem (owned : Owned Owns owners s) (mem : owner ∈ owners) :
    ∃ own base, Owns owner own ∧ s.Lists (own ++ base) := by
  obtain ⟨before, after, rfl⟩ := List.append_of_mem mem
  obtain ⟨own, base, owns, h, -⟩ := owned.focus
  exact ⟨own, base, owns, h⟩

/-- When it is known which objects an owner owns, it is known which objects exist. -/
theorem Owned.live {objects : κ → List Object} (owned : Owned Owns owners s)
    (owns : ∀ {owner own}, Owns owner own → own.map Item.object = objects owner) :
    s.live.Perm (owners.flatMap objects) := by
  obtain ⟨parts, all, h⟩ := owned
  have same : parts.flatten.map Item.object = owners.flatMap objects := by
    clear h
    induction all with
    | nil => rfl
    | cons own _ ih => rw [List.flatten_cons, List.map_append, List.flatMap_cons, owns own, ih]
  exact same ▸ h.live

/-- When no owner owns anything, everything that was made has been released. -/
theorem Owned.settled {objects : κ → List Object} (owned : Owned Owns owners s)
    (owns : ∀ {owner own}, Owns owner own → own.map Item.object = objects owner)
    (nothing : ∀ owner ∈ owners, objects owner = []) :
    s.made.Perm s.released := by
  have live := owned.live owns
  rw [List.flatMap_eq_nil_iff.mpr nothing] at live
  obtain ⟨parts, -, h⟩ := owned
  have balance := h.balance
  rwa [live.eq_nil, List.append_nil] at balance

end Parts

/-! ## Deeds that keep the books -/

/-- Every deed keeps its owner's part of the books and leaves the rest of them alone. -/
structure Ownership.Accounts (O : Ownership I κ ν μ) (C : Contract I γ) (stock : γ → Stock)
    (Owns : κ → List Item → Prop) : Prop where
  found : ∀ {request s base}, (stock s).Lists base → C.KeepsTask (O.found request) s
    (fun owner t => ∃ own, Owns owner own ∧ (stock t).Lists (own ++ base))
    fun _ t => (stock t).Lists base
  act : ∀ {deed owner s own base}, Owns owner own → (stock s).Lists (own ++ base) →
    C.KeepsOp (O.act deed) owner s
      (fun _ changed t => ∃ own, Owns changed own ∧ (stock t).Lists (own ++ base))
      fun _ changed t => ∃ own, Owns changed own ∧ (stock t).Lists (own ++ base)

namespace Ownership.Accounts

variable {O : Ownership I κ ν μ} {C : Contract I γ} {stock : γ → Stock}
  {Owns : κ → List Item → Prop} {aside : γ → γ → Prop} {start s t : γ} {owners : List κ} {owner : κ}
  {c : I.Call}

/-- At any time exactly what the owners own exists. -/
theorem owned (accounts : O.Accounts C stock Owns)
    (apart : ∀ s t, aside s t → stock t = stock s) (nothing : (stock start).Lists [])
    (reached : O.Reaches C.toWorld aside start owners s) : Owned Owns owners (stock s) := by
  induction reached with
  | start => exact ⟨[], .nil, nothing⟩
  | aside _ used ih => exact apart _ _ used ▸ ih
  | found _ _ ends ih =>
    obtain ⟨parts, all, h⟩ := ih
    obtain ⟨own, owns, h⟩ := (accounts.found h).ends_ok ends
    exact ⟨own :: parts, all.cons owns, h⟩
  | refused _ _ ends ih =>
    obtain ⟨parts, all, h⟩ := ih
    exact ⟨parts, all, (accounts.found h).ends_error ends⟩
  | @acted _ _ _ _ _ _ result _ _ ends ih =>
    obtain ⟨own, base, owns, h, change⟩ := ih.focus
    cases result with
    | ok =>
      obtain ⟨own, owns, h⟩ := (accounts.act owns h).ends_ok ends
      exact change _ own _ owns h
    | error =>
      obtain ⟨own, owns, h⟩ := (accounts.act owns h).ends_error ends
      exact change _ own _ owns h

/-- Every call that an owner makes fits the books. -/
theorem permits_act (accounts : O.Accounts C stock Owns) (owned : Owned Owns owners (stock s))
    (mem : owner ∈ owners) {deed : μ} (makes : ((O.act deed).run owner).Makes C.toWorld s c t) :
    C.permits t c := by
  obtain ⟨own, base, owns, h⟩ := owned.of_mem mem
  exact (accounts.act owns h).permits makes

end Ownership.Accounts

end PaintPresenter.Vulkan
