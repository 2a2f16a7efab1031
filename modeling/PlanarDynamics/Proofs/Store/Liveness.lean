import Mathlib.Tactic.TFAE
import PlanarDynamics.Proofs.Store.Generations

/-!
# Views of the live entities

That a handle names a live entity can be seen in five ways: it is contained, it gets an entity, an
entity can be changed through it, it is the handle at its place, and it is listed among the entries.
The five views agree in every arena (`Arena.seenAlike`). The entries stand in the order of the
slots, each with the entity that its handle gets, and there are as many of them as live entities.

A handle that is rejected is rejected by all operations with one fault, which tells whether there is
a slot at its place (`Arena.Rejected`).
-/

set_option autoImplicit false

namespace PlanarDynamics

namespace Arena

variable {k : StoreKind} {ε : Type}

/-- A handle is rejected with a fault. -/
structure Rejected [Entity ε] (a : Arena k ε) (h : Handle k) (fault : Fault) : Prop where
  get : a.get h = .error fault
  modify : ∀ f, a.modify h f = .error fault
  destroy : a.destroy h = .error fault
  getPair : ∀ g, a.getPair h g = .error fault
  outOfRange_iff : fault = .outOfRange k h.index a.capacity ↔ a.capacity ≤ h.index
  stale : h.index < a.capacity → ∃ current, a.generation? h.index = some current ∧
    fault = .stale k h.index h.generation current

/-- All views of an arena show the same live entities. -/
structure SeenAlike [Entity ε] (a : Arena k ε) : Prop where
  alike : ∀ h, List.TFAE
    [a.contains h = true,
      ∃ v, a.get h = .ok v,
      ∀ f, ∃ b, a.modify h f = .ok b,
      a.handleAt? h.index = some h,
      ∃ v, (h, v) ∈ a.entries]
  ascending : a.entries.Pairwise fun x y => x.1.index < y.1.index
  paired : ∀ x ∈ a.entries, a.get x.1 = .ok x.2
  length : a.entries.length = a.liveCount
  within : a.liveCount ≤ a.capacity
  rejected : ∀ h, a.contains h = false → ∃ fault, a.Rejected h fault

variable [Entity ε] {a : Arena k ε} {h : Handle k} {v : ε}

/-! ## The entries -/

/-- The entities are listed with the handles that name them. -/
theorem mem_entries_iff : (h, v) ∈ a.entries ↔ a.get h = .ok v := by
  rw [entries, List.mem_filterMap, get_eq_ok_iff]
  constructor
  · rintro ⟨⟨s, i⟩, there, listed⟩
    obtain ⟨live, same⟩ := Option.ite_none_right_eq_some.mp listed
    obtain ⟨rfl, rfl⟩ := Prod.mk.inj (Option.some.inj same)
    rw [List.mem_zipIdx_iff_getElem?, Array.getElem?_toList] at there
    exact ⟨there, live⟩
  · rintro ⟨there, live⟩
    refine ⟨(⟨v, h.generation⟩, h.index), ?_, if_pos live⟩
    rwa [List.mem_zipIdx_iff_getElem?, Array.getElem?_toList]

/-- The entities are listed in the order of their slots. -/
theorem pairwise_entries (a : Arena k ε) :
    a.entries.Pairwise fun x y => x.1.index < y.1.index := by
  have places : a.slots.toList.zipIdx.Pairwise fun x y => x.2 < y.2 := by
    rw [← List.pairwise_map (R := (· < ·)), List.zipIdx_map_snd]
    exact List.pairwise_lt_range'
  refine places.filterMap _ fun x y before listed first listed' second => ?_
  obtain ⟨_, here⟩ := Option.ite_none_right_eq_some.mp first
  obtain ⟨_, there⟩ := Option.ite_none_right_eq_some.mp second
  obtain rfl := Option.some.inj here
  obtain rfl := Option.some.inj there
  exact before

theorem length_entries (a : Arena k ε) : a.entries.length = a.liveCount := by
  have listed : ∀ x : Slot ε × Nat, (if x.1.isLive then
      some ((⟨x.2, x.1.generation⟩ : Handle k), x.1.entity) else none).isSome = x.1.isLive := by
    intro x
    cases live : x.1.isLive <;> simp
  have slots := List.countP_map (p := Slot.isLive) (f := Prod.fst) (l := a.slots.toList.zipIdx)
  rw [List.zipIdx_map_fst, Array.countP_toList] at slots
  rw [entries, List.length_filterMap_eq_countP, liveCount, slots]
  exact List.countP_congr fun x _ => by rw [listed]; rfl

theorem liveCount_le_capacity (a : Arena k ε) : a.liveCount ≤ a.capacity := Array.countP_le_size

/-! ## Handles that are accepted -/

theorem inside_of_get (found : a.get h = .ok v) : h.index < a.capacity :=
  (Array.getElem?_eq_some_iff.mp (get_eq_ok_iff.mp found).1).1

theorem handleAt?_eq_some_iff {i : Nat} :
    a.handleAt? i = some h ↔ h.index = i ∧ ∃ v, a.get h = .ok v := by
  simp only [get_eq_ok_iff]
  unfold handleAt?
  cases there : a.slots[i]? with
  | none =>
      constructor
      · exact nofun
      · rintro ⟨rfl, _, here, _⟩
        cases there.symm.trans here
  | some s =>
      dsimp only
      rw [Option.ite_none_right_eq_some, Option.some.injEq]
      constructor
      · rintro ⟨live, rfl⟩
        exact ⟨rfl, s.entity, there, live⟩
      · rintro ⟨rfl, v, here, live⟩
        obtain rfl := Option.some.inj (there.symm.trans here)
        exact ⟨live, rfl⟩

theorem modify_of_get (found : a.get h = .ok v) (f : ε → ε) :
    a.modify h f = .ok (a.write h.index (f v)) := by
  simp only [Arena.modify, found]
  rfl

theorem exists_modify_iff {f : ε → ε} :
    (∃ b, a.modify h f = .ok b) ↔ ∃ v, a.get h = .ok v := by
  constructor
  · rintro ⟨b, done⟩
    obtain ⟨v, found, _⟩ := bind_pure_eq_ok_iff.mp done
    exact ⟨v, found⟩
  · rintro ⟨v, found⟩
    exact ⟨_, modify_of_get found f⟩

/-! ## Handles that are rejected -/

/-- A handle that is rejected names a place without a slot, or a slot of another generation or
without an entity. -/
theorem fault_of_get {fault : Fault} (rejected : a.get h = .error fault) :
    a.capacity ≤ h.index ∧ fault = .outOfRange k h.index a.capacity ∨
      h.index < a.capacity ∧ ∃ current, a.generation? h.index = some current ∧
        fault = .stale k h.index h.generation current := by
  unfold Arena.get at rejected
  cases there : a.slots[h.index]? with
  | none =>
      rw [there] at rejected
      exact .inl ⟨Array.getElem?_eq_none_iff.mp there, (Except.error.inj rejected).symm⟩
  | some s =>
      rw [there] at rejected
      dsimp only at rejected
      have inside : h.index < a.capacity := (Array.getElem?_eq_some_iff.mp there).1
      split at rejected
      · cases rejected
      · exact .inr ⟨inside, s.generation, by rw [generation?, there]; rfl,
          (Except.error.inj rejected).symm⟩

theorem rejected_of_get {fault : Fault} (rejected : a.get h = .error fault) :
    a.Rejected h fault where
  get := rejected
  modify f := by
    simp only [Arena.modify, rejected]
    rfl
  destroy := by
    simp only [destroy, rejected]
    rfl
  getPair g := by
    simp only [getPair, rejected]
    rfl
  outOfRange_iff := by
    rcases fault_of_get rejected with ⟨outside, rfl⟩ | ⟨inside, current, _, rfl⟩
    · exact ⟨fun _ => outside, fun _ => rfl⟩
    · constructor
      · intro same
        cases same
      · intro outside
        exact absurd inside (Nat.not_lt.mpr outside)
  stale inside := by
    rcases fault_of_get rejected with ⟨outside, _⟩ | ⟨_, current, reached, same⟩
    · exact absurd inside (Nat.not_lt.mpr outside)
    · exact ⟨current, reached, same⟩

/-! ## All views together -/

/-- **All views of an arena show the same live entities.** -/
theorem seenAlike (a : Arena k ε) : a.SeenAlike where
  alike h := by
    tfae_have 1 ↔ 2 := contains_iff_get_eq_ok a h
    tfae_have 3 ↔ 2 := by
      constructor
      · intro changed
        exact exists_modify_iff.mp (changed id)
      · intro found f
        exact exists_modify_iff.mpr found
    tfae_have 4 ↔ 2 := by
      rw [handleAt?_eq_some_iff]
      exact and_iff_right rfl
    tfae_have 5 ↔ 2 := exists_congr fun v => mem_entries_iff
    tfae_finish
  ascending := a.pairwise_entries
  paired _ listed := mem_entries_iff.mp listed
  length := a.length_entries
  within := a.liveCount_le_capacity
  rejected h missing := by
    cases found : a.get h with
    | error fault => exact ⟨fault, rejected_of_get found⟩
    | ok v =>
        have contained := (contains_iff_get_eq_ok a h).mpr ⟨v, found⟩
        exact absurd contained (Bool.eq_false_iff.mp missing)

end Arena

end PlanarDynamics
