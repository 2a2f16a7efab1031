import Mathlib.Order.Bounds.Basic
import PlanarDynamics.Proofs.Store.Ledger
import PlanarDynamics.Proofs.Store.Refusal
import PlanarDynamics.Proofs.Store.StaleHandles

/-!
# Arenas as finite maps

An arena stands for a map from handles to entities, `Arena.names`. Creating an entity adds one name
to the map, destroying one takes a name away, and what is written through two handles changes what
these two name. `Arena.Adds`, `Arena.Removes` and `Arena.Exchanges` say so together with what
becomes of the slots, the generations and the number of live entities. A change that is refused
leaves the arena as it is.

This holds of every arena and every memory (`Arena.actsAsMap`), so of those that any changes lead
to, with any growth factor.
-/

set_option autoImplicit false

namespace PlanarDynamics

/-- A refused request is an allocation that failed. -/
theorem Memory.allocationFailed_of_refused {m : Memory} {r : Request} {fault : Fault}
    (refused : (m.request r).answer = .error fault) :
    ∃ requested available, fault = .allocationFailed requested available := by
  induction m generalizing fault with
  | heap used => cases refused
  | linear capacity offset =>
      simp only [request] at refused
      split at refused
      · cases refused
        exact ⟨_, _, rfl⟩
      · cases refused
  | metered name inner stats ih =>
      simp only [request] at refused
      cases below : (inner.request r).answer with
      | ok _ =>
          rw [below] at refused
          cases refused
      | error earlier =>
          rw [below] at refused
          cases refused
          exact ih below

/-- The members of a list that pass a test, after one of them has changed. -/
theorem countP_modify {β : Type} {p : β → Bool} {l : List β} {i : Nat} {b : β}
    (there : l[i]? = some b) (f : β → β) :
    (l.modify i f).countP p + (if p b then 1 else 0) = l.countP p + if p (f b) then 1 else 0 := by
  induction l generalizing i with
  | nil => cases there
  | cons c l ih =>
      cases i with
      | zero =>
          obtain rfl := Option.some.inj there
          simp only [List.modify_zero_cons, List.countP_cons]
          omega
      | succ i =>
          have rest := ih there
          simp only [List.modify_succ_cons, List.countP_cons]
          omega

namespace Arena

variable {k : StoreKind} {ε : Type} [Entity ε]

/-- The map that an arena stands for: what each handle names. -/
def names (a : Arena k ε) (h : Handle k) : Option ε := (a.get h).toOption

theorem names_eq_some_iff {a : Arena k ε} {h : Handle k} {v : ε} :
    a.names h = some v ↔ a.get h = .ok v := by
  unfold names
  cases a.get h <;> simp [Except.toOption]

theorem names_eq_none_iff {a : Arena k ε} {h : Handle k} :
    a.names h = none ↔ ∀ v, a.get h ≠ .ok v := by
  simp only [Option.eq_none_iff_forall_ne_some, ne_eq, names_eq_some_iff]

/-- An arena stands for the map that its handles agree with. -/
theorem names_eq {a : Arena k ε} {m : Handle k → Option ε}
    (agree : ∀ h v, a.get h = .ok v ↔ m h = some v) : a.names = m := by
  funext h
  apply Option.ext
  intro v
  rw [names_eq_some_iff]
  exact agree h v

theorem Keeps.names_eq {a b : Arena k ε} (keeps : a.Keeps b) : b.names = a.names := by
  apply Arena.names_eq
  intro h v
  rw [names_eq_some_iff]
  exact keeps.get h v

/-! ## What the operations do to the map -/

/-- The second arena is the first with an entity under a new handle. -/
structure Adds (a : Arena k ε) (v : ε) (h : Handle k) (b : Arena k ε) : Prop where
  /-- The place is the first without an entity, in the row of slots or right behind it. -/
  place : IsLeast {i | ∀ g : Handle k, g.index = i → a.names g = none} h.index
  generation : a.generationAt h.index = h.generation
  names : b.names = Function.update a.names h (some v)
  liveCount : b.liveCount = a.liveCount + 1

/-- The second arena is the first without the entity of a handle. -/
structure Removes (a : Arena k ε) (h : Handle k) (b : Arena k ε) : Prop where
  names : b.names = Function.update a.names h none
  /-- The generation of the slot has risen by one, and no other has changed. -/
  generationAt : b.generationAt = Function.update a.generationAt h.index (h.generation + 1)
  liveCount : b.liveCount + 1 = a.liveCount
  elsewhere : ∀ i, i ≠ h.index → b.slots[i]? = a.slots[i]?
  frame : b.base = a.base ∧ b.growth = a.growth ∧ b.blocks = a.blocks

/-- The second arena is the first with other values in the slots of two handles. A value that is not
live is named by nothing. -/
structure Exchanges (a : Arena k ε) (g : Handle k) (v : ε) (h : Handle k) (u : ε) (b : Arena k ε) :
    Prop where
  first : b.slots[g.index]? = some ⟨v, g.generation⟩
  second : b.slots[h.index]? = some ⟨u, h.generation⟩
  elsewhere : ∀ i, i ≠ g.index → i ≠ h.index → b.slots[i]? = a.slots[i]?
  names : b.names = Function.update (Function.update a.names g (Option.guard Entity.isLive v)) h
    (Option.guard Entity.isLive u)
  frame : b.base = a.base ∧ b.growth = a.growth ∧ b.blocks = a.blocks

/-! ## Counting live entities -/

theorem liveCount_modify {a : Arena k ε} {i : Nat} {s : Slot ε} (there : a.slots[i]? = some s)
    (b : Arena k ε) (f : Slot ε → Slot ε) (slots : b.slots = a.slots.modify i f) :
    b.liveCount + (if s.isLive then 1 else 0) = a.liveCount + if (f s).isLive then 1 else 0 := by
  rw [liveCount, liveCount, slots, ← Array.countP_toList, ← Array.countP_toList,
    Array.toList_modify]
  apply countP_modify
  rw [Array.getElem?_toList]
  exact there

theorem liveCount_extend (a : Arena k ε) (length : Nat) (block : Request) :
    (a.extend length block).liveCount = a.liveCount := by
  have vacant : Entity.isLive (Entity.vacant : ε) = false := Entity.not_isLive_vacant
  simp [liveCount, extend, Array.countP_append, Array.countP_replicate, Slot.isLive, vacant]

theorem Padded.liveCount_eq {x y : Memory × Arena k ε} (pads : Padded x y) :
    y.2.liveCount = x.2.liveCount := by
  cases pads with
  | refl => rfl
  | grown _ _ _ => exact liveCount_extend x.2 _ _

/-! ## Creating -/

/-- The first vacant slot is the least place that no handle names. -/
theorem isLeast_firstVacant {a : Arena k ε} {i : Nat} (free : a.firstVacant? = some i) :
    IsLeast {i | ∀ g : Handle k, g.index = i → a.names g = none} i := by
  obtain ⟨inside, vacant, lower⟩ := Array.findIdx?_eq_some_iff_getElem.mp free
  constructor
  · rintro g rfl
    apply names_eq_none_iff.mpr
    intro v found
    obtain ⟨there, live⟩ := get_eq_ok_iff.mp found
    rw [Array.getElem?_eq_getElem inside] at there
    rw [Option.some.inj there] at vacant
    simp [Slot.isLive, live] at vacant
  · intro j unnamed
    apply Nat.le_of_not_lt
    intro before
    have taken : a.slots[j].isLive = true := by simpa using lower j before
    have named : a.get ⟨j, a.slots[j].generation⟩ = .ok a.slots[j].entity :=
      get_eq_ok_iff.mpr ⟨Array.getElem?_eq_getElem (before.trans inside), taken⟩
    exact names_eq_none_iff.mp (unnamed ⟨j, a.slots[j].generation⟩ rfl) _ named

theorem Fills.names_eq {a b : Arena k ε} {v : ε} {h : Handle k} (fills : a.Fills v h b)
    (live : Entity.isLive v = true) : b.names = Function.update a.names h (some v) := by
  apply Arena.names_eq
  intro g u
  rw [fills.get_iff live]
  by_cases same : g = h
  · subst same
    simp only [Function.update_self, Option.some.injEq, true_and]
    constructor
    · rintro (rfl | found)
      · rfl
      · exact absurd found (fills.vacant g rfl u)
    · intro equal
      exact .inl equal.symm
  · rw [Function.update_of_ne same, names_eq_some_iff]
    simp [same]

/-- **Creating an entity adds it in the first free place.** -/
theorem adds_of_create {v : ε} (live : Entity.isLive v = true) {s : Memory × Arena k ε}
    {h : Handle k} (created : ((create v).attempt.run s).answer = .ok h) :
    s.2.Adds v h ((create v).attempt.run s).state.2 := by
  have fills := create_fills created
  obtain ⟨a, pads, free, written⟩ := create_pads created
  have kept : a.names = s.2.names := pads.keeps.names_eq
  obtain ⟨inside, vacant, _⟩ := Array.findIdx?_eq_some_iff_getElem.mp free
  have there : a.slots[h.index]? = some a.slots[h.index] := Array.getElem?_eq_getElem inside
  refine ⟨kept ▸ isLeast_firstVacant free, fills.generation, fills.names_eq live, ?_⟩
  have counted := liveCount_modify there (a.write h.index v) (fun s => { s with entity := v }) rfl
  have empty : a.slots[h.index].isLive = false := by simpa using vacant
  rw [pads.liveCount_eq, empty, ← written] at counted
  simpa [Slot.isLive, live] using counted

theorem allocationFailed_of_reserve {length : Nat} {s : Memory × Arena k ε} {fault : Fault}
    (refused : ((reserve length).attempt.run s).answer = .error fault) :
    ∃ requested available, fault = .allocationFailed requested available := by
  rw [run_reserve] at refused
  split at refused
  · split at refused
    · cases refused
      exact ⟨_, _, rfl⟩
    · dsimp only at refused
      split at refused
      · cases refused
      · rename_i below
        cases refused
        exact Memory.allocationFailed_of_refused below
  · cases refused

/-- An entity is refused only for want of memory. -/
theorem allocationFailed_of_create {v : ε} {s : Memory × Arena k ε} {fault : Fault}
    (refused : ((create v).attempt.run s).answer = .error fault) :
    ∃ requested available, fault = .allocationFailed requested available := by
  rw [run_create] at refused
  split at refused
  · cases refused
  · dsimp only at refused
    split at refused
    · cases refused
    · rename_i below
      cases refused
      exact allocationFailed_of_reserve below

/-! ## Destroying -/

/-- **Destroying an entity removes it and nothing else.** -/
theorem removes_of_destroy {a b : Arena k ε} {h : Handle k} (done : a.destroy h = .ok b) :
    a.Removes h b := by
  obtain ⟨v, found⟩ := get_of_destroy done
  obtain ⟨there, live⟩ := get_eq_ok_iff.mp found
  have elsewhere : ∀ i, i ≠ h.index → b.slots[i]? = a.slots[i]? := by
    intro i other
    rw [slots_of_destroy done, if_neg (Ne.symm other)]
  have base := base_of_destroy done
  constructor
  case names =>
    apply Arena.names_eq
    intro g u
    rw [get_destroy_iff done]
    by_cases same : g = h
    · simp [same]
    · simp [same, names_eq_some_iff]
  case generationAt =>
    funext i
    by_cases same : i = h.index
    · subst same
      have here : b.slots[h.index]? = some ⟨Entity.vacant, h.generation + 1⟩ := by
        rw [slots_of_destroy done, if_pos rfl, there]
        rfl
      rw [Function.update_self, generationAt_of_slot here]
    · rw [Function.update_of_ne same, generationAt, generationAt, generation?, generation?,
        elsewhere i same, base]
  case liveCount =>
    obtain ⟨_, _, made⟩ := bind_pure_eq_ok_iff.mp done
    have counted := liveCount_modify there b (fun s => ⟨Entity.vacant, s.generation + 1⟩)
      (congrArg slots made).symm
    have vacant : Entity.isLive (Entity.vacant : ε) = false := Entity.not_isLive_vacant
    simpa [Slot.isLive, live, vacant] using counted
  case elsewhere => exact elsewhere
  case frame =>
    obtain ⟨_, _, rfl⟩ := bind_pure_eq_ok_iff.mp done
    exact ⟨rfl, rfl, rfl⟩

theorem destroy_of_get {a : Arena k ε} {h : Handle k} {v : ε} (found : a.get h = .ok v) :
    ∃ b, a.destroy h = .ok b := by
  simp only [destroy, found]
  exact ⟨_, rfl⟩

/-! ## Two entities at once -/

/-- Two handles are given together when both name something and their places differ. -/
theorem getPair_eq_ok_iff {a : Arena k ε} {g h : Handle k} {v u : ε} :
    a.getPair g h = .ok (v, u) ↔ a.get g = .ok v ∧ a.get h = .ok u ∧ g.index ≠ h.index := by
  refine ⟨get_of_getPair, ?_⟩
  rintro ⟨first, second, apart⟩
  simp only [getPair, first, second]
  exact if_neg apart

/-- What is written to the slot of a handle is what the handle names, if it is live. No other handle
names the slot, before or after. -/
theorem names_write {a : Arena k ε} {h : Handle k} {v : ε} (found : a.get h = .ok v) (u : ε) :
    (a.write h.index u).names =
      Function.update a.names h (Option.guard Entity.isLive u) := by
  have there := (get_eq_ok_iff.mp found).1
  apply names_eq
  intro g t
  by_cases place : g.index = h.index
  · have here : (a.write h.index u).slots[g.index]? = some ⟨u, h.generation⟩ := by
      rw [slots_write, if_pos place.symm, place, there]
      rfl
    by_cases same : g = h
    · subst same
      rw [Function.update_self, Option.guard_eq_some_iff, get_eq_ok_iff, here]
      simp only [Option.some.injEq, Slot.mk.injEq, and_true]
      constructor
      · rintro ⟨rfl, live⟩
        exact ⟨rfl, live⟩
      · rintro ⟨rfl, live⟩
        exact ⟨rfl, live⟩
    · rw [Function.update_of_ne same, names_eq_some_iff]
      constructor
      · intro named
        have slot := (get_eq_ok_iff.mp named).1
        rw [here] at slot
        exact absurd (Handle.ext place (congrArg Slot.generation (Option.some.inj slot)).symm) same
      · intro named
        exact absurd (eq_of_get named found place) same
  · have same : g ≠ h := fun equal => place (congrArg Handle.index equal)
    rw [Function.update_of_ne same, names_eq_some_iff]
    exact get_write_of_ne place

/-- **What is written through two handles changes what these two name.** -/
theorem exchanges_of_getPair {a : Arena k ε} {g h : Handle k} {v u : ε}
    (both : a.getPair g h = .ok (v, u)) (v' u' : ε) :
    a.Exchanges g v' h u' ((a.write g.index v').write h.index u') := by
  obtain ⟨first, second, apart⟩ := get_of_getPair both
  have second' : (a.write g.index v').get h = .ok u :=
    (get_write_of_ne apart.symm).mpr second
  constructor
  case first =>
    rw [slots_write, if_neg apart.symm, slots_write, if_pos rfl, (get_eq_ok_iff.mp first).1]
    rfl
  case second =>
    rw [slots_write, if_pos rfl, (get_eq_ok_iff.mp second').1]
    rfl
  case elsewhere =>
    intro i other other'
    rw [slots_write, if_neg other'.symm, slots_write, if_neg other.symm]
  case names => rw [names_write second' u', names_write first v']
  case frame => exact ⟨rfl, rfl, rfl⟩

/-- The entities of two handles can be changed whenever they can be given. -/
theorem modifyPair_eq_ok_iff {a b : Arena k ε} {g h : Handle k} {f : ε → ε → ε × ε} :
    a.modifyPair g h f = .ok b ↔ ∃ v u, a.getPair g h = .ok (v, u) ∧
      (a.write g.index (f v u).1).write h.index (f v u).2 = b := by
  constructor
  · intro done
    obtain ⟨⟨v, u⟩, both, same⟩ := bind_eq_ok_iff.mp done
    exact ⟨v, u, both, Except.ok.inj same⟩
  · rintro ⟨v, u, both, rfl⟩
    exact bind_eq_ok_iff.mpr ⟨(v, u), both, rfl⟩

end Arena

/-! ## Refused changes -/

/-- **A change that is refused leaves the arena as it is.** -/
theorem ArenaEdit.unchanged_of_refused {k : StoreKind} {ε : Type} [Entity ε]
    {edit : ArenaEdit k ε} {s : Memory × Arena k ε} {fault : Fault}
    (refused : (edit.outcome s).answer = .error fault) : (edit.outcome s).state.2 = s.2 := by
  have replaced : ∀ f : Arena k ε → Except Fault (Arena k ε),
      ((replace f).attempt.run s).answer = .error fault →
        ((replace f).attempt.run s).state.2 = s.2 := by
    intro f refused
    rw [run_replace] at refused ⊢
    cases made : f s.2 with
    | ok b =>
        rw [made] at refused
        cases refused
    | error _ => rfl
  cases edit with
  | create v =>
      rw [(outcome_create v s).2]
      rw [(outcome_create v s).1] at refused
      cases made : ((Arena.create v).attempt.run s).answer with
      | ok h =>
          rw [made] at refused
          cases refused
      | error _ => exact Arena.create_refused made
  | reserve length =>
      rw [state_reserve]
      cases made : ((Arena.reserve length).attempt.run s).answer with
      | ok _ =>
          simp only [outcome, perform, Fallible.run_bind, made] at refused
          cases refused
      | error _ => exact (Arena.refuses_reserve made).store
  | destroy h => exact replaced (·.destroy h) refused
  | modify h f => exact replaced (·.modify h f) refused
  | modifyPair g h f => exact replaced (·.modifyPair g h f) refused
  | modifyLive f => exact replaced (fun a => .ok (a.editLive f)) refused
  | clear => cases refused
  | share memory => cases refused

namespace Arena

variable {k : StoreKind} {ε : Type} [Entity ε]

/-! ## The operations together -/

/-- What is done to an arena is done to the map that it stands for. -/
structure ActsAsMap (s : Memory × Arena k ε) : Prop where
  /-- An entity is added in the first free place, or there is no memory for it. -/
  create : ∀ v, Entity.isLive v = true →
    let out := (create v).attempt.run s
    (∃ h, out.answer = .ok h ∧ s.2.Adds v h out.state.2) ∨
      ∃ requested available, out.answer = .error (.allocationFailed requested available) ∧
        out.state.2 = s.2
  destroy : ∀ h v, s.2.names h = some v → ∃ b, s.2.destroy h = .ok b ∧ s.2.Removes h b
  getPair : ∀ g h v u, s.2.getPair g h = .ok (v, u) ↔
    s.2.names g = some v ∧ s.2.names h = some u ∧ g.index ≠ h.index
  modifyPair : ∀ g h f, (∃ b, s.2.modifyPair g h f = .ok b) ↔ ∃ p, s.2.getPair g h = .ok p
  /-- The first value goes to the first handle and the second to the second. -/
  exchanges : ∀ g h f v u b, s.2.getPair g h = .ok (v, u) → s.2.modifyPair g h f = .ok b →
    s.2.Exchanges g (f v u).1 h (f v u).2 b
  refused : ∀ (edit : ArenaEdit k ε) fault, (edit.outcome s).answer = .error fault →
    (edit.outcome s).state.2 = s.2

/-- **An arena acts as the map that it stands for.** The arena and the memory behind it are
arbitrary, and so are the growth factor and what has been done before. -/
theorem actsAsMap (s : Memory × Arena k ε) : ActsAsMap s where
  create v live := by
    dsimp only
    cases made : ((create v).attempt.run s).answer with
    | ok h => exact .inl ⟨h, rfl, adds_of_create live made⟩
    | error fault =>
        obtain ⟨requested, available, rfl⟩ := allocationFailed_of_create made
        exact .inr ⟨requested, available, rfl, create_refused made⟩
  destroy h v named := by
    obtain ⟨b, done⟩ := destroy_of_get (names_eq_some_iff.mp named)
    exact ⟨b, done, removes_of_destroy done⟩
  getPair g h v u := by
    rw [getPair_eq_ok_iff, names_eq_some_iff, names_eq_some_iff]
  modifyPair g h f := by
    constructor
    · rintro ⟨b, done⟩
      obtain ⟨v, u, both, _⟩ := modifyPair_eq_ok_iff.mp done
      exact ⟨(v, u), both⟩
    · rintro ⟨⟨v, u⟩, both⟩
      exact ⟨_, modifyPair_eq_ok_iff.mpr ⟨v, u, both, rfl⟩⟩
  exchanges g h f v u b both done := by
    obtain ⟨v', u', both', rfl⟩ := modifyPair_eq_ok_iff.mp done
    cases both.symm.trans both'
    exact exchanges_of_getPair both _ _
  refused edit fault := ArenaEdit.unchanged_of_refused

end Arena

end PlanarDynamics
