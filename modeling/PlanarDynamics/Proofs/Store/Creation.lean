import PlanarDynamics.Proofs.Execution
import PlanarDynamics.Proofs.Store.Generations

/-!
# Growing and filling an arena

Growing an arena keeps every entity under its handles (`Arena.Keeps`). Creating an entity may
grow the arena, and then puts the entity into a place that was vacant until then, under a handle
of the generation that the place has reached (`Arena.Fills`); all other places keep their
entities. `reserve_keeps`, `create_fills` and `state_clear` say this of the operations, for every
memory behind the arena.
-/

set_option autoImplicit false

namespace PlanarDynamics

namespace Arena

variable {k : StoreKind} {ε : Type} [Entity ε]

/-- The second arena comes after the first and names the same entities. -/
structure Keeps (a b : Arena k ε) : Prop where
  precedes : a.Precedes b
  get : ∀ h v, b.get h = .ok v ↔ a.get h = .ok v

theorem Keeps.refl (a : Arena k ε) : a.Keeps a := ⟨.refl a, fun _ _ => Iff.rfl⟩

theorem Keeps.trans {a b c : Arena k ε} (first : a.Keeps b) (second : b.Keeps c) : a.Keeps c :=
  ⟨first.precedes.trans second.precedes, fun h v => (second.get h v).trans (first.get h v)⟩

/-- The second arena is the first with an entity put into a vacant place, under a handle. -/
structure Fills (a : Arena k ε) (v : ε) (h : Handle k) (b : Arena k ε) : Prop where
  precedes : a.Precedes b
  /-- The place had reached the generation of the handle. -/
  generation : a.generationAt h.index = h.generation
  /-- The place was vacant, or there was none. -/
  vacant : ∀ g : Handle k, g.index = h.index → ∀ u, a.get g ≠ .ok u
  here : b.slots[h.index]? = some ⟨v, h.generation⟩
  elsewhere : ∀ g : Handle k, g.index ≠ h.index → ∀ u, b.get g = .ok u ↔ a.get g = .ok u

theorem keeps_extend (a : Arena k ε) (length : Nat) (block : Request) :
    a.Keeps (a.extend length block) := by
  refine ⟨precedes_extend a length block, fun h v => ?_⟩
  rw [get_eq_ok_iff, get_eq_ok_iff, slots_extend]
  by_cases old : h.index < a.capacity
  · rw [if_pos old]
  · have missing : a.slots[h.index]? = none := Array.getElem?_eq_none (Nat.not_lt.mp old)
    have vacant : Entity.isLive (Entity.vacant : ε) = false := Entity.not_isLive_vacant
    rw [if_neg old, missing]
    constructor
    · rintro ⟨there, live⟩
      split at there
      · simp only [Option.some.injEq, Slot.mk.injEq] at there
        rw [← there.1, vacant] at live
        cases live
      · cases there
    · exact fun found => absurd found.1 (by simp)

/-- What is written to a vacant slot fills it. -/
theorem Keeps.fills_write {a b : Arena k ε} (keeps : a.Keeps b)
    (reached : ∀ i, b.generationAt i = a.generationAt i) {i : Nat} {s : Slot ε}
    (there : b.slots[i]? = some s) (vacant : s.isLive = false) (v : ε) :
    a.Fills v ⟨i, s.generation⟩ (b.write i v) where
  precedes := keeps.precedes.trans (precedes_write b i v)
  generation := (reached i).symm.trans (generationAt_of_slot there)
  vacant := by
    rintro g rfl u found
    obtain ⟨same, live⟩ := get_eq_ok_iff.mp ((keeps.get g u).mpr found)
    rw [there] at same
    cases same
    exact Bool.false_ne_true (vacant.symm.trans live)
  here := by
    rw [slots_write, if_pos rfl, there]
    rfl
  elsewhere := by
    intro g other u
    rw [← keeps.get g u, get_eq_ok_iff, get_eq_ok_iff, slots_write, if_neg (Ne.symm other)]

/-! ## The operations -/

theorem run_onMemory {σ β : Type} (m : Fallible MemoryNote Memory β) (s : Memory × σ) :
    (onMemory m).attempt.run s =
      ⟨(m.attempt.run s.1).answer, ((m.attempt.run s.1).state, s.2),
        (m.attempt.run s.1).notes.map .memory⟩ := rfl

theorem run_reserve (length : Nat) (s : Memory × Arena k ε) :
    (reserve length).attempt.run s =
      if s.2.capacity < length then
        match blockFor? ε (length - s.2.capacity) with
        | none => ⟨.error (.allocationFailed wordMax 0), s, []⟩
        | some block =>
          let memory := s.1.request block
          match memory.answer with
          | .ok _ => ⟨.ok (), (memory.state, s.2.extend length block),
              memory.notes.map .memory ++ [.grew k s.2.capacity length]⟩
          | .error fault => ⟨.error fault, (memory.state, s.2), memory.notes.map .memory⟩
      else ⟨.ok (), s, []⟩ := by
  have allocate : ∀ block : Request,
      (Memory.allocate block).attempt.run s.1 = s.1.request block := fun _ => rfl
  simp only [reserve, Fallible.run_bind, Fallible.run_get, Outcome.after_nil]
  split
  · cases found : blockFor? ε (length - s.2.capacity) with
    | none => rfl
    | some block =>
        simp only [Fallible.run_bind, run_onMemory, allocate]
        cases (s.1.request block).answer with
        | ok _ => rfl
        | error fault => rfl
  · rfl

/-- What was granted has become slots, against one block of memory. -/
theorem extend_of_reserve {length : Nat} {s : Memory × Arena k ε} (short : s.2.capacity < length)
    (granted : ((reserve length).attempt.run s).answer = .ok ()) :
    ∃ block, blockFor? ε (length - s.2.capacity) = some block ∧
      (s.1.request block).answer = .ok () ∧
      ((reserve length).attempt.run s).state =
        ((s.1.request block).state, s.2.extend length block) := by
  rw [run_reserve, if_pos short] at granted ⊢
  cases sized : blockFor? ε (length - s.2.capacity) with
  | none =>
      rw [sized] at granted
      cases granted
  | some block =>
      rw [sized] at granted
      dsimp only at granted ⊢
      cases answer : (s.1.request block).answer with
      | error fault =>
          rw [answer] at granted
          cases granted
      | ok _ => exact ⟨block, rfl, answer, rfl⟩

/-- **Reserving keeps every entity, whether or not it succeeds.** -/
theorem reserve_keeps (length : Nat) (s : Memory × Arena k ε) :
    s.2.Keeps ((reserve length).attempt.run s).state.2 := by
  rw [run_reserve]
  split
  · split
    · exact .refl s.2
    · dsimp only
      split
      · exact keeps_extend s.2 length _
      · exact .refl s.2
  · exact .refl s.2

theorem run_create (v : ε) (s : Memory × Arena k ε) :
    (create v).attempt.run s =
      match s.2.firstVacant? with
      | some i => ⟨.ok ⟨i, s.2.generationAt i⟩, (s.1, s.2.write i v), []⟩
      | none =>
        let grown := (reserve (nextLength s.2.capacity s.2.growth)).attempt.run s
        match grown.answer with
        | .ok _ => ⟨.ok ⟨s.2.capacity, s.2.generationAt s.2.capacity⟩,
            (grown.state.1, grown.state.2.write s.2.capacity v), grown.notes⟩
        | .error fault => ⟨.error fault, grown.state, grown.notes⟩ := by
  simp only [create, Fallible.run_bind, Fallible.run_get, Outcome.after_nil]
  cases s.2.firstVacant? with
  | some i => rfl
  | none =>
      simp only [Option.isNone_none, if_true, Fallible.run_bind, Fallible.run_modify,
        Fallible.run_pure]
      cases ((reserve (nextLength s.2.capacity s.2.growth)).attempt.run s).answer with
      | ok _ => exact Outcome.ext rfl rfl (List.append_nil _)
      | error fault => rfl

theorem capacity_lt_nextLength (length : Nat) (growth : Float32) :
    length < nextLength length growth :=
  Nat.lt_of_lt_of_le (Nat.lt_succ_self length) (Nat.le_max_right _ _)

/-- **Creating an entity fills one vacant place, or fails and leaves the arena as it is.** -/
theorem create_spec (v : ε) (s : Memory × Arena k ε) :
    match ((create v).attempt.run s).answer with
    | .ok h => s.2.Fills v h ((create v).attempt.run s).state.2
    | .error _ => ((create v).attempt.run s).state.2 = s.2 := by
  rw [run_create]
  cases free : s.2.firstVacant? with
  | some i =>
      obtain ⟨inside, vacant, _⟩ := Array.findIdx?_eq_some_iff_getElem.mp free
      have there : s.2.slots[i]? = some s.2.slots[i] := Array.getElem?_eq_getElem inside
      have generation := generationAt_of_slot there
      simp only [generation]
      exact (Keeps.refl s.2).fills_write (fun _ => rfl) there (by simpa using vacant) v
  | none =>
      have short := capacity_lt_nextLength s.2.capacity s.2.growth
      dsimp only
      rw [run_reserve, if_pos short]
      cases blockFor? ε (nextLength s.2.capacity s.2.growth - s.2.capacity) with
      | none => rfl
      | some block =>
          dsimp only
          cases (s.1.request block).answer with
          | error fault => rfl
          | ok _ =>
              have there : (s.2.extend (nextLength s.2.capacity s.2.growth) block).slots[
                  s.2.capacity]? = some ⟨Entity.vacant, s.2.base⟩ := by
                rw [slots_extend, if_neg (Nat.lt_irrefl _), if_pos short]
              have generation : s.2.generationAt s.2.capacity = s.2.base :=
                generationAt_of_none (Array.getElem?_eq_none (Nat.le_refl _))
              simp only [generation]
              exact (keeps_extend s.2 _ block).fills_write (generationAt_extend s.2 _ block) there
                Entity.not_isLive_vacant v

theorem create_fills {v : ε} {s : Memory × Arena k ε} {h : Handle k}
    (created : ((create v).attempt.run s).answer = .ok h) :
    s.2.Fills v h ((create v).attempt.run s).state.2 := by
  have spec := create_spec v s
  rwa [created] at spec

theorem create_refused {v : ε} {s : Memory × Arena k ε} {fault : Fault}
    (refused : ((create v).attempt.run s).answer = .error fault) :
    ((create v).attempt.run s).state.2 = s.2 := by
  have spec := create_spec v s
  rwa [refused] at spec

/-- An entity is refused only when every slot is live. -/
theorem isLive_of_refused {v : ε} {s : Memory × Arena k ε} {fault : Fault}
    (refused : ((create v).attempt.run s).answer = .error fault) :
    ∀ slot ∈ s.2.slots, slot.isLive = true := by
  rw [run_create] at refused
  cases free : s.2.firstVacant? with
  | some i =>
      rw [free] at refused
      cases refused
  | none => simpa [firstVacant?] using free

omit [Entity ε] in
theorem run_clear (s : Memory × Arena k ε) : (clear.run s).state.2 = s.2.cleared := by
  have blocks : ∀ (blocks : List Request) (s : Memory × Arena k ε),
      (((forIn blocks PUnit.unit fun block _ => do
          Recorded.zoom Prod.fst (fun memory s => (memory, s.2)) .memory (Memory.deallocate block)
          pure (ForInStep.yield PUnit.unit)) :
        Recorded StoreNote (Memory × Arena k ε) PUnit).run s).state.2 = s.2 := by
    intro blocks
    induction blocks with
    | nil => exact fun _ => rfl
    | cons block rest ih =>
        intro s
        simp only [List.forIn_cons, bind_assoc, pure_bind, Recorded.state_bind]
        exact ih _
  simp only [clear, Recorded.state_bind, Recorded.run_get, Recorded.run_modify]
  exact congrArg Arena.cleared (blocks s.2.blocks s)

end Arena

end PlanarDynamics
