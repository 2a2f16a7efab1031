import PlanarDynamics.Proofs.Store.Ledger

/-!
# Outlines of arenas

The outline of an arena is what is left when its entities are taken away: the generation of every
slot, and whether the slot is vacant. It decides which handles name something
(`Arena.contains_iff_outline`). Entities that are changed in place and stay live leave it as it is
(`Arena.sameOutline_write`, `Arena.sameOutline_mapLive`).
-/

set_option autoImplicit false

namespace PlanarDynamics

namespace Arena

variable {k : StoreKind} {ε : Type} [Entity ε] {a b c : Arena k ε} {h : Handle k}

/-- The generations of the slots, and whether they are occupied. -/
def outline (a : Arena k ε) : List (Nat × Bool) :=
  a.slots.toList.map fun s => (s.generation, s.isLive)

theorem getElem?_outline (a : Arena k ε) (i : Nat) :
    a.outline[i]? = a.slots[i]?.map fun s => (s.generation, s.isLive) := by
  rw [outline, List.getElem?_map, Array.getElem?_toList]

/-- The outline decides which handles name something. -/
theorem contains_iff_outline :
    a.contains h = true ↔ a.outline[h.index]? = some (h.generation, true) := by
  rw [contains_iff_get_eq_ok, getElem?_outline, Option.map_eq_some_iff]
  constructor
  · rintro ⟨v, found⟩
    obtain ⟨there, live⟩ := get_eq_ok_iff.mp found
    exact ⟨⟨v, h.generation⟩, there, Prod.ext rfl live⟩
  · rintro ⟨⟨v, generation⟩, there, same⟩
    obtain ⟨rfl, live⟩ := Prod.mk.inj same
    exact ⟨v, get_eq_ok_iff.mpr ⟨there, live⟩⟩

/-- The two arenas differ in what their entities are like at most. -/
structure SameOutline (a b : Arena k ε) : Prop where
  outline : b.outline = a.outline
  base : b.base = a.base
  growth : b.growth = a.growth
  blocks : b.blocks = a.blocks

theorem SameOutline.refl (a : Arena k ε) : a.SameOutline a := ⟨rfl, rfl, rfl, rfl⟩

theorem SameOutline.trans (first : a.SameOutline b) (second : b.SameOutline c) :
    a.SameOutline c :=
  ⟨second.outline.trans first.outline, second.base.trans first.base,
    second.growth.trans first.growth, second.blocks.trans first.blocks⟩

theorem SameOutline.contains (same : a.SameOutline b) (h : Handle k) :
    b.contains h = a.contains h := by
  rw [Bool.eq_iff_iff, contains_iff_outline, contains_iff_outline, same.outline]

/-- An entity is changed in place and stays live. -/
theorem sameOutline_write {v u : ε} (found : a.get h = .ok v) (live : Entity.isLive u = true) :
    a.SameOutline (a.write h.index u) where
  outline := by
    refine List.ext_getElem? fun i => ?_
    rw [getElem?_outline, getElem?_outline, slots_write]
    split
    · rename_i here
      rw [← here, (get_eq_ok_iff.mp found).1]
      exact congrArg (fun alive => some (h.generation, alive))
        (live.trans (get_eq_ok_iff.mp found).2.symm)
    · rfl
  base := rfl
  growth := rfl
  blocks := rfl

/-- All live entities are changed in place and stay live. -/
theorem sameOutline_mapLive {f : ε → ε} (live : ∀ v, Entity.isLive (f v) = Entity.isLive v) :
    a.SameOutline (a.mapLive f) where
  outline := by
    have slots : (a.mapLive f).slots.toList = a.slots.toList.map fun s : Slot ε =>
        if s.isLive then { s with entity := f s.entity } else s := Array.toList_map
    rw [outline, outline, slots, List.map_map]
    refine List.map_congr_left fun s _ => ?_
    rw [Function.comp_apply]
    split
    · exact congrArg (Prod.mk s.generation) (live s.entity)
    · rfl
  base := rfl
  growth := rfl
  blocks := rfl

end Arena

end PlanarDynamics
