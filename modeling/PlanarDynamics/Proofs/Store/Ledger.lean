import PlanarDynamics.Proofs.Store.Creation

/-!
# The ledger of an arena

What one step does to the names of an arena is summed up by `Arena.Evolves`: at most one handle
is issued, at most one entity is discarded (changed in place into one that is not live), and
every other entity stays under its handle or has its handle retired. A `Ledger` of an arena lists
the handles issued and the handles discarded so far, and every step carries it on
(`Ledger.step`).

The ledger decides when a handle is issued twice: the new handle was issued before if and only
if it was discarded (`Ledger.reissued_iff`).
-/

set_option autoImplicit false

namespace PlanarDynamics

namespace Arena

variable {k : StoreKind} {ε : Type} [Entity ε]

/-- One step of an arena, in which at most one handle is issued and at most one discarded. The
entities that stay are related to what they have become. -/
structure Evolves (same : Handle k → ε → ε → Prop) (a b : Arena k ε)
    (issued discarded : Option (Handle k)) : Prop where
  precedes : a.Precedes b
  /-- The handle that is issued is of the generation its place had reached. -/
  generation : ∀ h ∈ issued, a.generationAt h.index = h.generation
  vacant : ∀ h ∈ issued, ∀ v, a.get h ≠ .ok v
  filled : ∀ h ∈ issued, ∃ v, b.get h = .ok v
  held : ∀ h ∈ discarded, ∃ v, a.get h = .ok v
  /-- Every handle that names something named something before, or is issued. -/
  named : ∀ h v, b.get h = .ok v → (∃ u, a.get h = .ok u) ∨ h ∈ issued
  kept : ∀ h v, a.get h = .ok v → (∃ u, b.get h = .ok u ∧ same h v u) ∨ b.Retired h ∨ h ∈ discarded

variable {same : Handle k → ε → ε → Prop} {a b c : Arena k ε}

/-- Nothing is issued and nothing discarded when all entities keep their handles. -/
theorem Evolves.of_kept (precedes : a.Precedes b)
    (named : ∀ h v, b.get h = .ok v → ∃ u, a.get h = .ok u)
    (kept : ∀ h v, a.get h = .ok v → (∃ u, b.get h = .ok u ∧ same h v u) ∨ b.Retired h) :
    a.Evolves same b none none where
  precedes := precedes
  generation := nofun
  vacant := nofun
  filled := nofun
  held := nofun
  named := fun h v found => .inl (named h v found)
  kept := fun h v found => (kept h v found).imp_right .inl

theorem evolves_self (refl : ∀ h v, a.get h = .ok v → same h v v) : a.Evolves same a none none :=
  .of_kept (.refl a) (fun _ v found => ⟨v, found⟩) fun h v found => .inl ⟨v, found, refl h v found⟩

theorem evolves_refl (a : Arena k ε) : a.Evolves (fun _ => Eq) a none none :=
  evolves_self fun _ _ _ => rfl

theorem Evolves.mono {same' : Handle k → ε → ε → Prop} {issued discarded : Option (Handle k)}
    (weaker : ∀ h v u, same h v u → same' h v u) (evolves : a.Evolves same b issued discarded) :
    a.Evolves same' b issued discarded :=
  { evolves with
    kept := fun h v found =>
      (evolves.kept h v found).imp_left fun ⟨u, there, related⟩ =>
        ⟨u, there, weaker h v u related⟩ }

/-- Two steps without new names make one. -/
theorem Evolves.trans (compose : ∀ h u v w, same h u v → same h v w → same h u w)
    (first : a.Evolves same b none none) (second : b.Evolves same c none none) :
    a.Evolves same c none none := by
  refine .of_kept (first.precedes.trans second.precedes) ?_ ?_
  · intro h v found
    rcases second.named h v found with ⟨u, there⟩ | issued
    · exact (first.named h u there).resolve_right nofun
    · cases issued
  · intro h v found
    rcases first.kept h v found with ⟨u, there, related⟩ | retired | discarded
    · rcases second.kept h u there with ⟨t, further, related'⟩ | retired | discarded
      · exact .inl ⟨t, further, compose h v u t related related'⟩
      · exact .inr retired
      · cases discarded
    · exact .inr (retired.mono second.precedes)
    · cases discarded

/-! ## The steps of an arena -/

theorem Keeps.evolves (keeps : a.Keeps b) : a.Evolves (fun _ => Eq) b none none :=
  .of_kept keeps.precedes (fun h v found => ⟨v, (keeps.get h v).mp found⟩)
    fun h v found => .inl ⟨v, (keeps.get h v).mpr found, rfl⟩

theorem Fills.get {v : ε} {h : Handle k} (fills : a.Fills v h b) (live : Entity.isLive v = true) :
    b.get h = .ok v :=
  get_eq_ok_iff.mpr ⟨fills.here, live⟩

/-- What is named after a place has been filled. -/
theorem Fills.get_iff {v u : ε} {h g : Handle k} (fills : a.Fills v h b)
    (live : Entity.isLive v = true) : b.get g = .ok u ↔ g = h ∧ u = v ∨ a.get g = .ok u := by
  by_cases place : g.index = h.index
  · constructor
    · intro found
      obtain rfl := eq_of_get found (fills.get live) place
      exact .inl ⟨rfl, Except.ok.inj (found.symm.trans (fills.get live))⟩
    · rintro (⟨rfl, rfl⟩ | found)
      · exact fills.get live
      · exact absurd found (fills.vacant g place u)
  · rw [fills.elsewhere g place]
    exact ⟨.inr, fun named => named.resolve_left fun new => place (congrArg Handle.index new.1)⟩

/-- The entity that has just been put in may be exchanged at once. -/
theorem Fills.write {v : ε} {h : Handle k} (fills : a.Fills v h b) (u : ε) :
    a.Fills u h (b.write h.index u) where
  precedes := fills.precedes.trans (precedes_write b h.index u)
  generation := fills.generation
  vacant := fills.vacant
  here := by
    rw [slots_write, if_pos rfl, fills.here]
    rfl
  elsewhere := by
    intro g other w
    rw [← fills.elsewhere g other, get_eq_ok_iff, get_eq_ok_iff, slots_write,
      if_neg (Ne.symm other)]

theorem Fills.evolves {v : ε} {h : Handle k} (fills : a.Fills v h b)
    (live : Entity.isLive v = true) : a.Evolves (fun _ => Eq) b (some h) none where
  precedes := fills.precedes
  generation := by
    rintro _ ⟨⟩
    exact fills.generation
  vacant := by
    rintro _ ⟨⟩
    exact fills.vacant h rfl
  filled := by
    rintro _ ⟨⟩
    exact ⟨v, fills.get live⟩
  held := nofun
  named := by
    intro g u found
    rcases (fills.get_iff live).mp found with ⟨rfl, _⟩ | before
    · exact .inr rfl
    · exact .inl ⟨u, before⟩
  kept := fun _ u found => .inl ⟨u, (fills.get_iff live).mpr (.inr found), rfl⟩

/-- What is named after an entity has been destroyed. -/
theorem get_destroy_iff {h g : Handle k} {v : ε} (done : a.destroy h = .ok b) :
    b.get g = .ok v ↔ a.get g = .ok v ∧ g ≠ h := by
  by_cases place : g.index = h.index
  · obtain ⟨u, held⟩ := get_of_destroy done
    constructor
    · intro found
      obtain ⟨there, live⟩ := get_eq_ok_iff.mp found
      rw [slots_of_destroy done, if_pos place.symm] at there
      obtain ⟨s, _, same⟩ := Option.map_eq_some_iff.mp there
      have vacant : Entity.isLive (Entity.vacant : ε) = false := Entity.not_isLive_vacant
      obtain rfl : Entity.vacant = v := congrArg Slot.entity same
      exact absurd (vacant.symm.trans live) Bool.false_ne_true
    · exact fun ⟨found, other⟩ => absurd (eq_of_get found held place) other
  · have other : g ≠ h := fun same => place (congrArg Handle.index same)
    rw [get_eq_ok_iff, get_eq_ok_iff, slots_of_destroy done, if_neg (Ne.symm place)]
    exact (and_iff_left other).symm

theorem evolves_destroy {h : Handle k} (done : a.destroy h = .ok b) :
    a.Evolves (fun _ => Eq) b none none := by
  refine .of_kept (precedes_destroy done) ?_ ?_
  · exact fun g v found => ⟨v, ((get_destroy_iff done).mp found).1⟩
  · intro g v found
    by_cases same : g = h
    · exact .inr (same ▸ retired_of_destroy done)
    · exact .inl ⟨v, (get_destroy_iff done).mpr ⟨found, same⟩, rfl⟩

theorem evolves_cleared (a : Arena k ε) : a.Evolves (fun _ => Eq) a.cleared none none := by
  refine .of_kept (precedes_cleared a) ?_ ?_
  · intro h v found
    exact absurd (get_eq_ok_iff.mp found).1 (by rw [slots_cleared]; exact nofun)
  · exact fun h v found => .inr (issued_of_get found).retired_cleared

/-! ## Changes in place -/

theorem get_write_of_ne {i : Nat} {u v : ε} {h : Handle k} (place : h.index ≠ i) :
    (a.write i u).get h = .ok v ↔ a.get h = .ok v := by
  rw [get_eq_ok_iff, get_eq_ok_iff, slots_write, if_neg (Ne.symm place)]

theorem get_write_of_get {u v : ε} {h : Handle k} (found : a.get h = .ok v)
    (live : Entity.isLive u = true) : (a.write h.index u).get h = .ok u := by
  rw [get_eq_ok_iff, slots_write, if_pos rfl, (get_eq_ok_iff.mp found).1]
  exact ⟨rfl, live⟩

/-- What is named after an entity has been changed in place. -/
theorem get_write_iff {h g : Handle k} {v u t : ε} (found : a.get h = .ok v)
    (live : Entity.isLive u = true) :
    (a.write h.index u).get g = .ok t ↔ g = h ∧ t = u ∨ g ≠ h ∧ a.get g = .ok t := by
  by_cases same : g = h
  · subst same
    rw [get_write_of_get found live]
    simp [eq_comm]
  · simp only [same, false_and, false_or, ne_eq, not_false_eq_true, true_and]
    by_cases place : g.index = h.index
    · have neither : ∀ w, a.get g ≠ .ok w := fun w there => same (eq_of_get there found place)
      refine ⟨fun there => ?_, fun there => absurd there (neither t)⟩
      exact absurd (eq_of_get there (get_write_of_get found live) place) same
    · exact get_write_of_ne place

theorem eq_of_get_write {i : Nat} {u v : ε} {h : Handle k} (place : h.index = i)
    (found : (a.write i u).get h = .ok v) : v = u := by
  have there := (get_eq_ok_iff.mp found).1
  rw [slots_write, if_pos place.symm] at there
  obtain ⟨s, _, same⟩ := Option.map_eq_some_iff.mp there
  exact (congrArg Slot.entity same).symm

/-- An entity is changed in place and is live afterwards. -/
theorem evolves_write {h : Handle k} {v u : ε} (found : a.get h = .ok v)
    (live : Entity.isLive u = true) (related : same h v u) (refl : ∀ g ≠ h, ∀ t, same g t t) :
    a.Evolves same (a.write h.index u) none none := by
  have there := get_write_of_get found live
  refine .of_kept (precedes_write a h.index u) ?_ ?_
  · intro g t named
    by_cases place : g.index = h.index
    · exact eq_of_get there named place.symm ▸ ⟨v, found⟩
    · exact ⟨t, (get_write_of_ne place).mp named⟩
  · intro g t named
    by_cases place : g.index = h.index
    · obtain rfl := eq_of_get found named place.symm
      obtain rfl : v = t := Except.ok.inj (found.symm.trans named)
      exact .inl ⟨u, there, related⟩
    · exact .inl ⟨t, (get_write_of_ne place).mpr named,
        refl g (fun same => place (congrArg Handle.index same)) t⟩

/-- An entity is changed in place into one that is not live. -/
theorem evolves_write_dead {h : Handle k} {v u : ε} (found : a.get h = .ok v)
    (dead : Entity.isLive u = false) (refl : ∀ g ≠ h, ∀ t, same g t t) :
    a.Evolves same (a.write h.index u) none (some h) where
  precedes := precedes_write a h.index u
  generation := nofun
  vacant := nofun
  filled := nofun
  held := by
    rintro _ ⟨⟩
    exact ⟨v, found⟩
  named := by
    intro g t named
    by_cases place : g.index = h.index
    · obtain rfl := eq_of_get_write place named
      exact absurd (get_eq_ok_iff.mp named).2 (dead ▸ Bool.false_ne_true)
    · exact .inl ⟨t, (get_write_of_ne place).mp named⟩
  kept := by
    intro g t named
    by_cases place : g.index = h.index
    · exact .inr (.inr (congrArg some (eq_of_get found named place.symm)))
    · exact .inl ⟨t, (get_write_of_ne place).mpr named,
        refl g (fun same => place (congrArg Handle.index same)) t⟩

/-- The handle that a change in place discards. -/
theorem evolves_modify {h : Handle k} {f : ε → ε} {v : ε} (found : a.get h = .ok v)
    (related : same h v (f v)) (refl : ∀ g ≠ h, ∀ t, same g t t) (done : a.modify h f = .ok b) :
    a.Evolves same b none (if Entity.isLive (f v) = true then none else some h) := by
  obtain ⟨u, held, rfl⟩ := bind_pure_eq_ok_iff.mp done
  obtain rfl : v = u := Except.ok.inj (found.symm.trans held)
  split
  · rename_i live
    exact evolves_write found live related refl
  · rename_i dead
    exact evolves_write_dead found (Bool.not_eq_true _ ▸ dead) refl

theorem get_mapLive_iff {f : ε → ε} (live : ∀ v, Entity.isLive (f v) = Entity.isLive v)
    {h : Handle k} {v : ε} : (a.mapLive f).get h = .ok v ↔ ∃ u, a.get h = .ok u ∧ f u = v := by
  have slots : (a.mapLive f).slots[h.index]? = a.slots[h.index]?.map fun s : Slot ε =>
      if s.isLive then { s with entity := f s.entity } else s := Array.getElem?_map
  simp only [get_eq_ok_iff, slots, Option.map_eq_some_iff]
  constructor
  · rintro ⟨⟨⟨u, g⟩, there, same⟩, alive⟩
    by_cases before : Entity.isLive u = true
    · obtain ⟨rfl, rfl⟩ := Slot.mk.inj ((if_pos before).symm.trans same)
      exact ⟨u, ⟨there, before⟩, rfl⟩
    · obtain ⟨rfl, rfl⟩ := Slot.mk.inj ((if_neg before).symm.trans same)
      exact absurd alive before
  · rintro ⟨u, ⟨there, alive⟩, rfl⟩
    exact ⟨⟨⟨u, h.generation⟩, there, if_pos alive⟩, (live u).trans alive⟩

/-- Every live entity is changed in place and stays live. -/
theorem evolves_mapLive {f : ε → ε} (live : ∀ v, Entity.isLive (f v) = Entity.isLive v)
    (related : ∀ h v, same h v (f v)) : a.Evolves same (a.mapLive f) none none := by
  refine .of_kept (mapLive_eq_editLive a f ▸ precedes_editLive a _) ?_ ?_
  · intro h v found
    obtain ⟨u, before, _⟩ := (get_mapLive_iff live).mp found
    exact ⟨u, before⟩
  · exact fun h v found => .inl ⟨f v, (get_mapLive_iff live).mpr ⟨v, found, rfl⟩, related h v⟩

/-! ## The books -/

/-- The handles issued and the handles discarded up to now account for all names. -/
structure Ledger (a : Arena k ε) (past gone : List (Handle k)) : Prop where
  named : ∀ h v, a.get h = .ok v → h ∈ past
  known : ∀ h ∈ past, (∃ v, a.get h = .ok v) ∨ a.Retired h ∨ h ∈ gone
  held : ∀ h ∈ gone, h ∈ past

theorem get_empty (growth : Float32) (h : Handle k) (v : ε) :
    (empty growth : Arena k ε).get h ≠ .ok v :=
  fun found => nomatch (get_eq_ok_iff.mp found).1

theorem ledger_of_vacant (vacant : ∀ h v, a.get h ≠ .ok v) : a.Ledger [] [] :=
  ⟨fun h v found => absurd found (vacant h v), nofun, nofun⟩

theorem Ledger.step {past gone : List (Handle k)} {issued discarded : Option (Handle k)}
    (ledger : a.Ledger past gone) (evolves : a.Evolves same b issued discarded) :
    b.Ledger (past ++ issued.toList) (gone ++ discarded.toList) where
  named := by
    intro h v found
    rcases evolves.named h v found with ⟨u, before⟩ | new
    · exact List.mem_append_left _ (ledger.named h u before)
    · exact List.mem_append_right _ (Option.mem_toList.mpr new)
  known := by
    intro h member
    rcases List.mem_append.mp member with old | new
    · rcases ledger.known h old with ⟨v, found⟩ | retired | discarded
      · rcases evolves.kept h v found with ⟨u, there, _⟩ | retired | discarded
        · exact .inl ⟨u, there⟩
        · exact .inr (.inl retired)
        · exact .inr (.inr (List.mem_append_right _ (Option.mem_toList.mpr discarded)))
      · exact .inr (.inl (retired.mono evolves.precedes))
      · exact .inr (.inr (List.mem_append_left _ discarded))
    · exact .inl (evolves.filled h (Option.mem_toList.mp new))
  held := by
    intro h member
    refine List.mem_append_left _ ?_
    rcases List.mem_append.mp member with old | new
    · exact ledger.held h old
    · obtain ⟨v, found⟩ := evolves.held h (Option.mem_toList.mp new)
      exact ledger.named h v found

/-- **A handle is issued again exactly when it was discarded.** -/
theorem Ledger.reissued_iff {past gone : List (Handle k)} {h : Handle k}
    {discarded : Option (Handle k)} (ledger : a.Ledger past gone)
    (evolves : a.Evolves same b (some h) discarded) : h ∈ past ↔ h ∈ gone := by
  refine ⟨fun before => ?_, ledger.held h⟩
  rcases ledger.known h before with ⟨v, found⟩ | retired | discarded
  · exact absurd found (evolves.vacant h rfl v)
  · exact absurd retired (Nat.not_lt.mpr (Nat.le_of_eq (evolves.generation h rfl)))
  · exact discarded

end Arena

end PlanarDynamics
