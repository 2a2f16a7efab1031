import PlanarDynamics.Proofs.Execution
import PlanarDynamics.Store.Arena

/-!
# Generations of an arena

Two numbers of every place never fall, whatever is done to an arena: the generation of the slot
there, or the one it will have (`Arena.generationAt`), and the least generation above every
handle issued for it (`Arena.bound`). `Arena.Precedes` says so of two arenas, and every change
of an arena has a lemma of this form: `precedes_write`, `precedes_extend`, `precedes_destroy`,
`precedes_cleared`.

A handle is retired (`Arena.Retired`) when the generation of its place has passed it. A retired
handle names nothing (`Arena.Retired.rejects`) and stays retired (`Arena.Retired.mono`).
-/

set_option autoImplicit false

namespace PlanarDynamics

namespace Arena

variable {k : StoreKind} {ε : Type}

/-- The least generation above every one that a handle to this place has had. -/
def bound (a : Arena k ε) (i : Nat) : Nat := ((a.generation? i).map (· + 1)).getD a.base

/-- No place of the second arena has gone back behind the first. -/
structure Precedes (a b : Arena k ε) : Prop where
  generationAt : ∀ i, a.generationAt i ≤ b.generationAt i
  bound : ∀ i, a.bound i ≤ b.bound i

/-- The handle may have been issued: it is of a generation that its place has reached. -/
def Issued (a : Arena k ε) (h : Handle k) : Prop := h.generation < a.bound h.index

/-- The generation of the place has passed the handle. -/
def Retired (a : Arena k ε) (h : Handle k) : Prop := h.generation < a.generationAt h.index

instance (a : Arena k ε) (h : Handle k) : Decidable (a.Retired h) :=
  inferInstanceAs (Decidable (_ < _))

theorem Precedes.refl (a : Arena k ε) : a.Precedes a :=
  ⟨fun _ => Nat.le_refl _, fun _ => Nat.le_refl _⟩

theorem Precedes.trans {a b c : Arena k ε} (first : a.Precedes b) (second : b.Precedes c) :
    a.Precedes c :=
  ⟨fun i => Nat.le_trans (first.generationAt i) (second.generationAt i),
    fun i => Nat.le_trans (first.bound i) (second.bound i)⟩

/-- A change that raises no generation and keeps the base leaves both numbers alone. -/
theorem Precedes.of_generation?_eq {a b : Arena k ε} (base : b.base = a.base)
    (same : ∀ i, b.generation? i = a.generation? i) : a.Precedes b := by
  constructor <;> intro i <;> simp [Arena.generationAt, Arena.bound, same, base]

theorem Retired.mono {a b : Arena k ε} {h : Handle k} (precedes : a.Precedes b)
    (retired : a.Retired h) : b.Retired h :=
  Nat.lt_of_lt_of_le retired (precedes.generationAt h.index)

theorem Issued.mono {a b : Arena k ε} {h : Handle k} (precedes : a.Precedes b)
    (issued : a.Issued h) : b.Issued h :=
  Nat.lt_of_lt_of_le issued (precedes.bound h.index)

/-! ## Places and slots -/

theorem generationAt_of_slot {a : Arena k ε} {i : Nat} {s : Slot ε}
    (there : a.slots[i]? = some s) : a.generationAt i = s.generation := by
  simp [generationAt, generation?, there]

theorem bound_of_slot {a : Arena k ε} {i : Nat} {s : Slot ε}
    (there : a.slots[i]? = some s) : a.bound i = s.generation + 1 := by
  simp [bound, generation?, there]

theorem generationAt_of_none {a : Arena k ε} {i : Nat} (missing : a.slots[i]? = none) :
    a.generationAt i = a.base := by
  simp [generationAt, generation?, missing]

theorem bound_of_none {a : Arena k ε} {i : Nat} (missing : a.slots[i]? = none) :
    a.bound i = a.base := by
  simp [bound, generation?, missing]

theorem slots_write (a : Arena k ε) (i j : Nat) (v : ε) :
    (a.write i v).slots[j]? =
      if i = j then a.slots[j]?.map fun s => { s with entity := v } else a.slots[j]? := by
  simp only [write, Array.getElem?_modify]

variable [Entity ε]

theorem slots_extend (a : Arena k ε) (length : Nat) (block : Request) (j : Nat) :
    (a.extend length block).slots[j]? =
      if j < a.capacity then a.slots[j]?
      else if j < length then some ⟨Entity.vacant, a.base⟩ else none := by
  simp only [extend, capacity, Array.getElem?_append, Array.getElem?_replicate]
  by_cases old : j < a.slots.size
  · simp [old]
  · by_cases new : j < length
    · have : j - a.slots.size < length - a.slots.size := by omega
      simp [old, new, this]
    · have : ¬ j - a.slots.size < length - a.slots.size := by omega
      simp [old, new, this]

theorem capacity_extend (a : Arena k ε) (length : Nat) (block : Request) :
    (a.extend length block).capacity = a.capacity + (length - a.capacity) := by
  simp [capacity, extend]

/-! ## What a handle names -/

theorem get_eq_ok_iff {a : Arena k ε} {h : Handle k} {v : ε} :
    a.get h = .ok v ↔
      a.slots[h.index]? = some ⟨v, h.generation⟩ ∧ Entity.isLive v = true := by
  unfold Arena.get
  cases there : a.slots[h.index]? with
  | none => simp
  | some s =>
      by_cases named : s.generation = h.generation ∧ s.isLive
      · simp only [if_pos named, Except.ok.injEq, Option.some.injEq]
        constructor
        · rintro rfl
          exact ⟨Slot.ext rfl named.1, named.2⟩
        · rintro ⟨rfl, _⟩
          rfl
      · simp only [if_neg named, Option.some.injEq]
        constructor
        · exact nofun
        · rintro ⟨rfl, live⟩
          exact absurd ⟨rfl, live⟩ named

theorem get_of_getPair {a : Arena k ε} {g h : Handle k} {v u : ε}
    (both : a.getPair g h = .ok (v, u)) :
    a.get g = .ok v ∧ a.get h = .ok u ∧ g.index ≠ h.index := by
  obtain ⟨_, first, rest⟩ := bind_eq_ok_iff.mp both
  obtain ⟨_, second, rest⟩ := bind_eq_ok_iff.mp rest
  split at rest
  · cases rest
  · rename_i apart
    cases rest
    exact ⟨first, second, apart⟩

theorem not_retired_of_get {a : Arena k ε} {h : Handle k} {v : ε} (found : a.get h = .ok v) :
    ¬ a.Retired h := by
  rw [Retired, generationAt_of_slot (get_eq_ok_iff.mp found).1]
  exact Nat.lt_irrefl _

/-- A place is named by one handle at most. -/
theorem eq_of_get {a : Arena k ε} {g h : Handle k} {v u : ε} (first : a.get g = .ok v)
    (second : a.get h = .ok u) (place : g.index = h.index) : g = h := by
  have there := (get_eq_ok_iff.mp first).1
  rw [place, (get_eq_ok_iff.mp second).1] at there
  exact Handle.ext place (congrArg Slot.generation (Option.some.inj there)).symm

theorem issued_of_get {a : Arena k ε} {h : Handle k} {v : ε} (found : a.get h = .ok v) :
    a.Issued h := by
  rw [Issued, bound_of_slot (get_eq_ok_iff.mp found).1]
  exact Nat.lt_succ_self _

/-- Nothing can be done to an arena through the handle. -/
structure Rejects (a : Arena k ε) (h : Handle k) : Prop where
  get : ∃ fault, a.get h = .error fault
  contains : a.contains h = false
  destroy : ∃ fault, a.destroy h = .error fault
  modify : ∀ f, ∃ fault, a.modify h f = .error fault
  getPair_left : ∀ g, ∃ fault, a.getPair h g = .error fault
  getPair_right : ∀ g, ∃ fault, a.getPair g h = .error fault
  modifyPair_left : ∀ g f, ∃ fault, a.modifyPair h g f = .error fault
  modifyPair_right : ∀ g f, ∃ fault, a.modifyPair g h f = .error fault

theorem rejects_of_get {a : Arena k ε} {h : Handle k} {fault : Fault}
    (rejected : a.get h = .error fault) : a.Rejects h := by
  have left : ∀ g, a.getPair h g = .error fault := by
    intro g
    simp only [getPair, rejected]
    rfl
  have right : ∀ g, ∃ fault, a.getPair g h = .error fault := by
    intro g
    simp only [getPair, rejected]
    cases a.get g with
    | error earlier => exact ⟨earlier, rfl⟩
    | ok _ => exact ⟨fault, rfl⟩
  refine ⟨⟨fault, rejected⟩, ?_, ⟨fault, ?_⟩, fun f => ⟨fault, ?_⟩, fun g => ⟨fault, left g⟩, right,
    fun g f => ⟨fault, ?_⟩, fun g f => ?_⟩
  · simp only [contains, rejected]; rfl
  · simp only [destroy, rejected]; rfl
  · simp only [Arena.modify, rejected]; rfl
  · simp only [modifyPair, left]; rfl
  · obtain ⟨earlier, refused⟩ := right g
    exact ⟨earlier, by simp only [modifyPair, refused]; rfl⟩

/-- **A retired handle names nothing.** -/
theorem Retired.rejects {a : Arena k ε} {h : Handle k} (retired : a.Retired h) : a.Rejects h := by
  cases found : a.get h with
  | error fault => exact rejects_of_get found
  | ok v => exact absurd retired (not_retired_of_get found)

/-! ## No change takes a generation back -/

omit [Entity ε] in
theorem precedes_write (a : Arena k ε) (i : Nat) (v : ε) : a.Precedes (a.write i v) :=
  .of_generation?_eq rfl fun j => generation?_write a i j v

/-- The arena with every live entity changed, each by its handle. -/
def editLive (a : Arena k ε) (f : Handle k → ε → ε) : Arena k ε :=
  { a with
    slots := a.slots.mapIdx fun i s =>
      if s.isLive then { s with entity := f ⟨i, s.generation⟩ s.entity } else s }

theorem mapLive_eq_editLive (a : Arena k ε) (f : ε → ε) : a.mapLive f = a.editLive fun _ => f :=
  Arena.ext (Array.ext (by simp [mapLive, editLive]) (by simp [mapLive, editLive])) rfl rfl rfl

theorem generation?_editLive (a : Arena k ε) (f : Handle k → ε → ε) (i : Nat) :
    (a.editLive f).generation? i = a.generation? i := by
  simp only [generation?, editLive, Array.getElem?_mapIdx, Option.map_map]
  congr 1
  funext s
  simp only [Function.comp_apply]
  split <;> rfl

theorem precedes_editLive (a : Arena k ε) (f : Handle k → ε → ε) : a.Precedes (a.editLive f) :=
  .of_generation?_eq rfl (generation?_editLive a f)

theorem precedes_modify {a b : Arena k ε} {h : Handle k} {f : ε → ε}
    (done : a.modify h f = .ok b) : a.Precedes b := by
  obtain ⟨v, _, rfl⟩ := bind_pure_eq_ok_iff.mp done
  exact precedes_write a h.index (f v)

theorem precedes_modifyPair {a b : Arena k ε} {h₁ h₂ : Handle k} {f : ε → ε → ε × ε}
    (done : a.modifyPair h₁ h₂ f = .ok b) : a.Precedes b := by
  obtain ⟨_, _, same⟩ := bind_eq_ok_iff.mp done
  exact Except.ok.inj same ▸ (precedes_write a h₁.index _).trans (precedes_write _ h₂.index _)

/-- The slots that are added are of the generation their places were bound to have. -/
theorem generationAt_extend (a : Arena k ε) (length : Nat) (block : Request) (i : Nat) :
    (a.extend length block).generationAt i = a.generationAt i := by
  have base : (a.extend length block).base = a.base := rfl
  rcases Nat.lt_or_ge i a.capacity with old | new
  · simp [generationAt, generation?, slots_extend, old, base]
  · have missing : a.slots[i]? = none := Array.getElem?_eq_none new
    simp only [generationAt, generation?, slots_extend, Nat.not_lt.mpr new, missing, base, if_false]
    by_cases there : i < length <;> simp [there]

theorem precedes_extend (a : Arena k ε) (length : Nat) (block : Request) :
    a.Precedes (a.extend length block) := by
  refine ⟨fun i => Nat.le_of_eq (generationAt_extend a length block i).symm, fun i => ?_⟩
  have base : (a.extend length block).base = a.base := rfl
  rcases Nat.lt_or_ge i a.capacity with old | new
  · simp [bound, generation?, slots_extend, old, base]
  · have missing : a.slots[i]? = none := Array.getElem?_eq_none new
    simp only [bound, generation?, slots_extend, Nat.not_lt.mpr new, missing, base, if_false]
    by_cases there : i < length <;> simp [there]

theorem slots_of_destroy {a b : Arena k ε} {h : Handle k} (done : a.destroy h = .ok b) (j : Nat) :
    b.slots[j]? =
      if h.index = j then a.slots[j]?.map fun s => ⟨Entity.vacant, s.generation + 1⟩
      else a.slots[j]? := by
  obtain ⟨_, _, rfl⟩ := bind_pure_eq_ok_iff.mp done
  simp only [Array.getElem?_modify]

theorem get_of_destroy {a b : Arena k ε} {h : Handle k} (done : a.destroy h = .ok b) :
    ∃ v, a.get h = .ok v := by
  obtain ⟨v, found, _⟩ := bind_eq_ok_iff.mp done
  exact ⟨v, found⟩

theorem base_of_destroy {a b : Arena k ε} {h : Handle k} (done : a.destroy h = .ok b) :
    b.base = a.base := by
  obtain ⟨_, _, rfl⟩ := bind_pure_eq_ok_iff.mp done
  rfl

theorem precedes_destroy {a b : Arena k ε} {h : Handle k} (done : a.destroy h = .ok b) :
    a.Precedes b := by
  have base := base_of_destroy done
  constructor <;> intro i
  · simp only [generationAt, generation?, slots_of_destroy done, base]
    cases a.slots[i]? <;> split <;> simp
  · simp only [bound, generation?, slots_of_destroy done, base]
    cases a.slots[i]? <;> split <;> simp

theorem retired_of_destroy {a b : Arena k ε} {h : Handle k} (done : a.destroy h = .ok b) :
    b.Retired h := by
  obtain ⟨v, found⟩ := get_of_destroy done
  have there := (get_eq_ok_iff.mp found).1
  simp [Retired, generationAt, generation?, slots_of_destroy done, there]

omit [Entity ε] in
/-- The base of a cleared arena is above every generation there was. -/
theorem bound_le_base_cleared (a : Arena k ε) (i : Nat) : a.bound i ≤ a.cleared.base := by
  have above : ∀ (slots : List (Slot ε)) (b : Nat),
      b ≤ slots.foldl (fun b s => max b (s.generation + 1)) b ∧
        ∀ s ∈ slots, s.generation + 1 ≤ slots.foldl (fun b s => max b (s.generation + 1)) b := by
    intro slots
    induction slots with
    | nil => exact fun b => ⟨Nat.le_refl b, by simp⟩
    | cons s rest ih =>
        intro b
        obtain ⟨start, others⟩ := ih (max b (s.generation + 1))
        refine ⟨Nat.le_trans (Nat.le_max_left _ _) start, fun t member => ?_⟩
        rcases List.mem_cons.mp member with rfl | later
        · exact Nat.le_trans (Nat.le_max_right _ _) start
        · exact others t later
  have base : a.cleared.base = a.slots.toList.foldl (fun b s => max b (s.generation + 1)) a.base :=
    (Array.foldl_toList _).symm
  rw [base]
  obtain ⟨start, slots⟩ := above a.slots.toList a.base
  cases there : a.slots[i]? with
  | none => exact bound_of_none there ▸ start
  | some s =>
      rw [bound_of_slot there]
      exact slots s (Array.mem_toList_iff.mpr (Array.mem_of_getElem? there))

omit [Entity ε] in
theorem slots_cleared (a : Arena k ε) (i : Nat) : a.cleared.slots[i]? = none := rfl

omit [Entity ε] in
theorem precedes_cleared (a : Arena k ε) : a.Precedes a.cleared := by
  constructor <;> intro i
  · rw [generationAt_of_none (slots_cleared a i)]
    refine Nat.le_trans ?_ (bound_le_base_cleared a i)
    cases there : a.slots[i]? with
    | none => exact Nat.le_of_eq ((generationAt_of_none there).trans (bound_of_none there).symm)
    | some s =>
        rw [generationAt_of_slot there, bound_of_slot there]
        exact Nat.le_succ _
  · rw [bound_of_none (slots_cleared a i)]
    exact bound_le_base_cleared a i

omit [Entity ε] in
/-- Clearing retires every handle issued so far. -/
theorem Issued.retired_cleared {a : Arena k ε} {h : Handle k} (issued : a.Issued h) :
    a.cleared.Retired h := by
  rw [Retired, generationAt_of_none (slots_cleared a h.index)]
  exact Nat.lt_of_lt_of_le issued (bound_le_base_cleared a h.index)

end Arena

end PlanarDynamics
