import Mathlib.Data.Finset.Card
import PlanarDynamics.Proofs.Store.Books
import PlanarDynamics.Proofs.Store.FiniteMap
import PlanarDynamics.Proofs.Store.Liveness

/-!
# Geometry as three finite maps

The geometry of a world is edited by `ShapesEdit`s in any order, and between two edits the memory
behind it may be used by others. What is stored is a finite map from a place to a shape for each
kind (`ShapeMap`). An edit with its answer says what becomes of the maps (`ShapeMap.after`), and the
maps say what an edit may answer (`ShapeMap.Answers`): a shape is bound to the least unbound place
of its kind, what is taken from a place is what was last put there, and an unbound place is
reported as stale if there is a slot and as out of range if there is none.

Geometry that was empty is, after any edits, the maps that these edits add up to
(`ShapesEdit.maps_after`).
-/

set_option autoImplicit false

namespace PlanarDynamics

/-! ## Geometry by way of handles -/

namespace ShapePool

variable {kind : ShapeKind} {γ : Type} [Geometry γ] (p : ShapePool kind γ) (i : Nat)

/-- The geometry at a place with its handle, both by way of the arena. -/
def seek : Except Fault (Handle (.shape kind) × γ) :=
  match p.arena.handleAt? i with
  | none => .error (p.missing i)
  | some h => do
    match ← p.arena.get h with
    | none => .error (p.missing i)
    | some v => return (h, v)

/-- Take the geometry at a place out, by way of its handle. -/
def take : Except Fault (γ × ShapePool kind γ) := do
  let (h, v) ← p.seek i
  return (v, ⟨← p.arena.modify h fun _ => none⟩)

end ShapePool

/-- A piece of geometry changed. -/
def Reshape.apply {α : Type} : Reshape α → Shape α → Shape α
  | .circle f, .circle c => .circle (f c)
  | .rectangle f, .rectangle r => .rectangle (f r)
  | .polygon f, .polygon p => .polygon (f p)
  | _, shape => shape

namespace Shapes

variable {α : Type}

/-- Take the shape of a kind at a place out. There is nothing to take out for the empty kind. -/
def take (t : Shapes α) : ShapeKind → Nat → Except Fault (Shape α × Shapes α)
  | .empty, _ => .ok (.empty, t)
  | .circle, i => do
    let (c, pool) ← t.circles.take i
    return (.circle c, { t with circles := pool })
  | .rectangle, i => do
    let (r, pool) ← t.rectangles.take i
    return (.rectangle r, { t with rectangles := pool })
  | .polygon, i => do
    let (p, pool) ← t.polygons.take i
    return (.polygon p, { t with polygons := pool })

/-- The number of slots for a kind. -/
def slots (t : Shapes α) : ShapeKind → Nat
  | .empty => 0
  | .circle => t.circles.arena.capacity
  | .rectangle => t.rectangles.arena.capacity
  | .polygon => t.polygons.arena.capacity

/-- The number of shapes of a kind. -/
def size (t : Shapes α) : ShapeKind → Nat
  | .empty => 0
  | .circle => t.circles.size
  | .rectangle => t.rectangles.size
  | .polygon => t.polygons.size

end Shapes

/-! ## Edits -/

/-- A change of the geometry. -/
inductive ShapesEdit (α : Type)
  | insert (shape : Shape α)
  | remove (kind : ShapeKind) (i : Nat)
  /-- Remove a shape and answer it. -/
  | take (kind : ShapeKind) (i : Nat)
  | reshape (i : Nat) (r : Reshape α)
  | clear
  /-- Let others use the memory behind the geometry. -/
  | share (memory : Memory)

/-- What a change of the geometry answers. -/
inductive ShapesAnswer (α : Type)
  | done
  | place (kind : ShapeKind) (i : Nat)
  | shape (s : Shape α)

namespace ShapesEdit

variable {α : Type}

/-- Replace the geometry and answer something, unless that is refused. -/
def exchange (f : Shapes α → Except Fault (ShapesAnswer α × Shapes α)) :
    Fallible StoreNote (Memory × Shapes α) (ShapesAnswer α) := do
  let s ← get
  let (answer, t) ← Fallible.ofExcept (f s.2)
  set (s.1, t)
  return answer

/-- Carry out a change. -/
def perform : ShapesEdit α → Fallible StoreNote (Memory × Shapes α) (ShapesAnswer α)
  | insert shape => .place shape.kind <$> Shapes.insert shape
  | remove kind i => exchange fun t => return (.done, ← t.remove kind i)
  | take kind i => exchange fun t => do
    let (shape, u) ← t.take kind i
    return (.shape shape, u)
  | reshape i r => exchange fun t => do
    let (shape, u) ← t.reshape i r
    return (.shape shape, u)
  | clear => do
    Fallible.always Shapes.clear
    return .done
  | share memory => do
    modifyThe (Memory × Shapes α) fun s => (memory, s.2)
    return .done

/-- What a change leaves behind. -/
def outcome (edit : ShapesEdit α) (s : Memory × Shapes α) :
    Outcome StoreNote (Memory × Shapes α) (Except Fault (ShapesAnswer α)) :=
  edit.perform.attempt.run s

/-- The memory and the geometry after several changes. -/
def runFrom (s : Memory × Shapes α) (edits : List (ShapesEdit α)) : Memory × Shapes α :=
  edits.foldl (fun s edit => (edit.outcome s).state) s

/-- A change asks for what is at a place of a kind. -/
def Accesses (kind : ShapeKind) (i : Nat) : ShapesEdit α → Prop
  | remove kind' j => kind' = kind ∧ j = i
  | take kind' j => kind' = kind ∧ j = i
  | reshape j r => r.kind = kind ∧ j = i
  | _ => False

end ShapesEdit

/-! ## Maps -/

/-- For every kind, a map from places to shapes. -/
abbrev ShapeMap (α : Type) : Type := ShapeKind → Nat → Option (Shape α)

/-- The fault of a place that holds nothing, by the number of slots. -/
structure Absent (kind : ShapeKind) (i slots : Nat) (fault : Fault) : Prop where
  stale_iff : (∃ generation, fault = .stale (.shape kind) i generation generation) ↔ i < slots
  outOfRange_iff : fault = .outOfRange (.shape kind) i slots ↔ slots ≤ i

namespace ShapeMap

variable {α : Type}

/-- The maps without bindings. -/
def empty : ShapeMap α := fun _ _ => none

/-- The maps with a place bound to a shape, or unbound. -/
def set (m : ShapeMap α) (kind : ShapeKind) (i : Nat) (x : Option (Shape α)) : ShapeMap α :=
  fun kind' j => if kind' = kind ∧ j = i then x else m kind' j

/-- The maps after a change that has answered this. -/
def after (m : ShapeMap α) : ShapesEdit α → Except Fault (ShapesAnswer α) → ShapeMap α
  | .insert shape, .ok (.place kind i) => m.set kind i (some shape)
  | .remove kind i, .ok _ => m.set kind i none
  | .take kind i, .ok _ => m.set kind i none
  | .reshape i r, .ok _ => m.set r.kind i ((m r.kind i).map r.apply)
  | .clear, .ok _ => empty
  | _, _ => m

/-- What a change may answer, by the maps and the numbers of slots. -/
inductive Answers (m : ShapeMap α) (slots : ShapeKind → Nat) :
    ShapesEdit α → Except Fault (ShapesAnswer α) → Prop
  /-- A shape is put into the first free place of its kind. -/
  | placed {shape : Shape α} {i : Nat} (real : shape.kind ≠ .empty)
      (least : IsLeast {j | m shape.kind j = none} i) :
      Answers m slots (.insert shape) (.ok (.place shape.kind i))
  | allocationFailed {shape : Shape α} {requested available : Nat} (real : shape.kind ≠ .empty)
      (full : ∀ i < slots shape.kind, m shape.kind i ≠ none) :
      Answers m slots (.insert shape) (.error (.allocationFailed requested available))
  | nothingToStore : Answers m slots (.insert .empty) (.error .nothingToStore)
  | removed {kind : ShapeKind} {i : Nat} {shape : Shape α} (bound : m kind i = some shape) :
      Answers m slots (.remove kind i) (.ok .done)
  | taken {kind : ShapeKind} {i : Nat} {shape : Shape α} (bound : m kind i = some shape) :
      Answers m slots (.take kind i) (.ok (.shape shape))
  | reshaped {i : Nat} {r : Reshape α} {shape : Shape α} (bound : m r.kind i = some shape) :
      Answers m slots (.reshape i r) (.ok (.shape (r.apply shape)))
  | absent {edit : ShapesEdit α} {kind : ShapeKind} {i : Nat} {fault : Fault}
      (accesses : edit.Accesses kind i) (real : kind ≠ .empty) (unbound : m kind i = none)
      (absent : Absent kind i (slots kind) fault) : Answers m slots edit (.error fault)
  /-- The empty kind has its one shape at every place, and keeps it. -/
  | removedEmpty {i : Nat} : Answers m slots (.remove .empty i) (.ok .done)
  | takenEmpty {i : Nat} : Answers m slots (.take .empty i) (.ok (.shape .empty))
  | cleared : Answers m slots .clear (.ok .done)
  | shared {memory : Memory} : Answers m slots (.share memory) (.ok .done)

/-- The maps after several changes, by what they have answered one after the other. -/
def replay (m : ShapeMap α) (s : Memory × Shapes α) : List (ShapesEdit α) → ShapeMap α
  | [] => m
  | edit :: rest => (m.after edit (edit.outcome s).answer).replay (edit.outcome s).state rest

end ShapeMap

/-- A change of the geometry is one of the maps. -/
structure ShapesEdit.Steps {α : Type} (edit : ShapesEdit α) (s : Memory × Shapes α)
    (m : ShapeMap α) : Prop where
  answers : m.Answers s.2.slots edit (edit.outcome s).answer
  after : (edit.outcome s).state.2.get? = m.after edit (edit.outcome s).answer
  /-- A change that is refused changes nothing. -/
  refused : ∀ fault, (edit.outcome s).answer = .error fault → (edit.outcome s).state.2 = s.2
  absent : ∀ kind i, edit.Accesses kind i → kind ≠ .empty → m kind i = none →
    (edit.outcome s).state = s
  /-- Only a new shape adds slots, of its kind, and only clearing gives them up. -/
  slots : ∀ kind, (∀ shape, edit = .insert shape → shape.kind ≠ kind) → edit ≠ .clear →
    (edit.outcome s).state.2.slots kind = s.2.slots kind

/-- The geometry shows these maps, and is changed as they are. -/
structure Shapes.ActsAsMaps {α : Type} [Scalar α] (s : Memory × Shapes α) (m : ShapeMap α) :
    Prop where
  /-- At a bound place is the shape of the map, also when it is moved into the world. -/
  bound : ∀ kind i shape, m kind i = some shape → shape.kind = kind ∧ s.2.get kind i = .ok shape ∧
    ∀ offset, s.2.placed kind i offset = .ok (shape.translate offset)
  unbound : ∀ kind i, kind ≠ .empty → m kind i = none → ∃ fault,
    Absent kind i (s.2.slots kind) fault ∧ s.2.get kind i = .error fault ∧
      ∀ offset, s.2.placed kind i offset = .error fault
  /-- There are as many shapes of a kind as bound places. -/
  size : ∀ kind, ∃ places : Finset Nat,
    (∀ i, i ∈ places ↔ m kind i ≠ none) ∧ places.card = s.2.size kind
  steps : ∀ edit : ShapesEdit α, edit.Steps s m

/-- What the insertion into a store may answer, by the free places and the number of slots. -/
inductive Inserts (free : Set Nat) (slots : Nat) : Except Fault Nat → Prop
  | placed {i : Nat} (least : IsLeast free i) : Inserts free slots (.ok i)
  | allocationFailed {requested available : Nat} (full : ∀ i < slots, i ∉ free) :
      Inserts free slots (.error (.allocationFailed requested available))

/-! ## One pool -/

namespace ShapePool

variable {kind : ShapeKind} {γ : Type} {p : ShapePool kind γ} {i : Nat} {v : γ}

theorem get_of_none (free : p.get? i = none) : p.get i = .error (p.missing i) := by
  simp only [ShapePool.get, free]

theorem absent_missing (p : ShapePool kind γ) (i : Nat) :
    Absent kind i p.arena.capacity (p.missing i) := by
  unfold missing
  cases there : p.arena.generation? i with
  | some generation =>
      obtain ⟨_, slot, _⟩ := Option.map_eq_some_iff.mp there
      have inside : i < p.arena.capacity := (Array.getElem?_eq_some_iff.mp slot).1
      exact ⟨⟨fun _ => inside, fun _ => ⟨generation, rfl⟩⟩,
        ⟨nofun, fun outside => absurd inside (Nat.not_lt.mpr outside)⟩⟩
  | none =>
      have outside : p.arena.capacity ≤ i :=
        Array.getElem?_eq_none_iff.mp (Option.map_eq_none_iff.mp there)
      exact ⟨⟨nofun, fun inside => absurd inside (Nat.not_lt.mpr outside)⟩,
        ⟨fun _ => outside, fun _ => rfl⟩⟩

variable [Geometry γ]

/-- What is found by way of a handle is what is at the place. -/
theorem seek_eq (p : ShapePool kind γ) (i : Nat) :
    p.seek i = (fun v => (⟨i, p.arena.generationAt i⟩, v)) <$> p.get i := by
  unfold seek Arena.handleAt? ShapePool.get get?
  cases there : p.arena.slots[i]? with
  | none => rfl
  | some s =>
      obtain ⟨entity, generation⟩ := s
      cases entity with
      | none => rfl
      | some v =>
          have found : p.arena.get ⟨i, generation⟩ = .ok (some v) :=
            Arena.get_eq_ok_iff.mpr ⟨there, rfl⟩
          have live : Slot.isLive (⟨some v, generation⟩ : Slot (Option γ)) = true := rfl
          simp only [live, if_true, found, Arena.generationAt_of_slot there]
          rfl

theorem take_eq (p : ShapePool kind γ) (i : Nat) :
    p.take i = (fun v => (v, ⟨p.arena.write i none⟩)) <$> p.get i := by
  rw [take, seek_eq]
  cases found : p.get i with
  | error fault => rfl
  | ok v =>
      obtain ⟨h, rfl, named⟩ := get?_eq_some_iff.mp (get_eq_ok_iff.mp found)
      have there := Arena.generationAt_of_slot (Arena.get_eq_ok_iff.mp named).1
      have changed := Arena.modify_of_get named fun _ => none
      rw [there]
      show (do return (v, ⟨← p.arena.modify h fun _ => none⟩) :
        Except Fault (γ × ShapePool kind γ)) = _
      rw [changed]
      rfl

theorem remove_eq_take (p : ShapePool kind γ) (i : Nat) :
    p.remove i = Prod.snd <$> p.take i := by
  rw [remove, take_eq]
  cases p.get i <;> rfl

theorem get?_eq_none_iff :
    p.get? i = none ↔ ∀ h : Handle (.shape kind), h.index = i → p.arena.names h = none := by
  constructor
  · intro free h place
    apply Arena.names_eq_none_iff.mpr
    intro x found
    cases x with
    | none => cases (Arena.get_eq_ok_iff.mp found).2
    | some v => cases free.symm.trans (get?_eq_some_iff.mpr ⟨h, place, found⟩)
  · intro unnamed
    apply Option.eq_none_iff_forall_ne_some.mpr
    intro v held
    obtain ⟨h, place, found⟩ := get?_eq_some_iff.mp held
    exact Arena.names_eq_none_iff.mp (unnamed h place) _ found

/-- **Geometry is put into the first free place.** -/
theorem inserts (v : γ) (s : Memory × ShapePool kind γ) :
    Inserts {j | s.2.get? j = none} s.2.arena.capacity ((insert v).attempt.run s).answer := by
  rw [run_insert]
  dsimp only
  cases made : ((Arena.create (some v)).attempt.run (s.1, s.2.arena)).answer with
  | ok h =>
      have least := (Arena.adds_of_create rfl made).place
      simp only [← get?_eq_none_iff] at least
      exact .placed least
  | error fault =>
      obtain ⟨requested, available, rfl⟩ := Arena.allocationFailed_of_create made
      refine .allocationFailed fun i inside free => ?_
      have live := Arena.isLive_of_refused made _ (Array.getElem_mem inside)
      have missing : s.2.get? i = none := free
      rw [get?, Array.getElem?_eq_getElem inside] at missing
      exact Option.isSome_iff_ne_none.mp live missing

/-- There are as many pieces of geometry as places that hold one. -/
theorem exists_places (p : ShapePool kind γ) :
    ∃ places : Finset Nat, (∀ i, i ∈ places ↔ p.get? i ≠ none) ∧ places.card = p.size := by
  refine ⟨(p.arena.entries.map fun x => x.1.index).toFinset, fun i => ?_, ?_⟩
  · rw [List.mem_toFinset, List.mem_map, Option.ne_none_iff_exists']
    constructor
    · rintro ⟨⟨h, x⟩, listed, rfl⟩
      have found := Arena.mem_entries_iff.mp listed
      cases x with
      | none => cases (Arena.get_eq_ok_iff.mp found).2
      | some v => exact ⟨v, get?_eq_some_iff.mpr ⟨h, rfl, found⟩⟩
    · rintro ⟨v, held⟩
      obtain ⟨h, place, found⟩ := get?_eq_some_iff.mp held
      exact ⟨(h, some v), Arena.mem_entries_iff.mpr found, place⟩
  · have distinct : (p.arena.entries.map fun x => x.1.index).Nodup :=
      List.pairwise_map.mpr (p.arena.pairwise_entries.imp Nat.ne_of_lt)
    rw [List.toFinset_card_of_nodup distinct, List.length_map, Arena.length_entries, size]

end ShapePool

/-! ## All pools -/

namespace Shapes

variable {α : Type} {t : Shapes α} {kind : ShapeKind} {i : Nat} {shape : Shape α}

theorem remove_eq_take (t : Shapes α) (kind : ShapeKind) (i : Nat) :
    t.remove kind i = Prod.snd <$> t.take kind i := by
  cases kind with
  | empty => rfl
  | circle =>
      simp only [remove, take, ShapePool.remove_eq_take]
      cases t.circles.take i <;> rfl
  | rectangle =>
      simp only [remove, take, ShapePool.remove_eq_take]
      cases t.rectangles.take i <;> rfl
  | polygon =>
      simp only [remove, take, ShapePool.remove_eq_take]
      cases t.polygons.take i <;> rfl

/-- What is taken out is what is there. -/
theorem take_of_get? (held : t.get? kind i = some shape) : ∃ u, t.take kind i = .ok (shape, u) := by
  cases kind with
  | empty => cases held
  | circle | rectangle | polygon =>
      obtain ⟨v, there, rfl⟩ := Option.map_eq_some_iff.mp held
      simp only [take, ShapePool.take_eq, ShapePool.get_eq_ok_iff.mpr there]
      exact ⟨_, rfl⟩

/-- What is there is changed in place. -/
theorem reshape_of_get? {r : Reshape α} (held : t.get? r.kind i = some shape) :
    ∃ u, t.reshape i r = .ok (r.apply shape, u) := by
  cases r with
  | circle | rectangle | polygon =>
      obtain ⟨v, there, rfl⟩ := Option.map_eq_some_iff.mp held
      simp only [reshape, ShapePool.modify, ShapePool.get_eq_ok_iff.mpr there]
      exact ⟨_, rfl⟩

/-- Nothing is found, taken or changed at a place that holds nothing, all for one fault. -/
theorem absent_of_get? (real : kind ≠ .empty) (free : t.get? kind i = none) :
    ∃ fault, Absent kind i (t.slots kind) fault ∧ t.get kind i = .error fault ∧
      t.take kind i = .error fault ∧ ∀ r, r.kind = kind → t.reshape i r = .error fault := by
  cases kind with
  | empty => exact absurd rfl real
  | circle | rectangle | polygon =>
      have missing := ShapePool.get_of_none (Option.map_eq_none_iff.mp free)
      refine ⟨_, ShapePool.absent_missing _ i, ?_, ?_, fun r same => ?_⟩
      · simp only [Shapes.get, missing]
        rfl
      · simp only [take, ShapePool.take_eq, missing]
        rfl
      · cases r <;> cases same
        simp only [reshape, missing]
        rfl

/-- There are as many shapes of a kind as places that hold one. -/
theorem exists_places (t : Shapes α) (kind : ShapeKind) :
    ∃ places : Finset Nat, (∀ i, i ∈ places ↔ t.get? kind i ≠ none) ∧
      places.card = t.size kind := by
  cases kind with
  | empty => exact ⟨∅, fun i => ⟨fun none => absurd none (Finset.notMem_empty i),
      fun some => absurd rfl some⟩, rfl⟩
  | circle | rectangle | polygon =>
      simp only [get?, ne_eq, Option.map_eq_none_iff]
      exact ShapePool.exists_places _

theorem inserts (shape : Shape α) (real : shape.kind ≠ .empty) (s : Memory × Shapes α) :
    Inserts {j | s.2.get? shape.kind j = none} (s.2.slots shape.kind)
      ((insert shape).attempt.run s).answer := by
  cases shape with
  | empty => exact absurd rfl real
  | circle c =>
      simp only [Shape.kind, get?, Option.map_eq_none_iff]
      exact ShapePool.inserts c (s.1, s.2.circles)
  | rectangle r =>
      simp only [Shape.kind, get?, Option.map_eq_none_iff]
      exact ShapePool.inserts r (s.1, s.2.rectangles)
  | polygon p =>
      simp only [Shape.kind, get?, Option.map_eq_none_iff]
      exact ShapePool.inserts p (s.1, s.2.polygons)

theorem slots_insert (shape : Shape α) (s : Memory × Shapes α) (other : shape.kind ≠ kind) :
    ((insert shape).attempt.run s).state.2.slots kind = s.2.slots kind := by
  cases shape <;> cases kind <;> first | rfl | exact absurd rfl other

theorem slots_of_sameSize {u : Shapes α} (same : t.SameSize u) : u.slots = t.slots := by
  funext kind
  cases kind with
  | empty => rfl
  | circle => exact same.circles.capacity
  | rectangle => exact same.rectangles.capacity
  | polygon => exact same.polygons.capacity

end Shapes

/-! ## One change -/

namespace ShapesEdit

variable {α : Type} {s : Memory × Shapes α} {edit : ShapesEdit α} {kind : ShapeKind} {i : Nat}

theorem run_exchange (f : Shapes α → Except Fault (ShapesAnswer α × Shapes α))
    (s : Memory × Shapes α) :
    (exchange f).attempt.run s =
      match f s.2 with
      | .ok (answer, t) => ⟨.ok answer, (s.1, t), []⟩
      | .error fault => ⟨.error fault, s, []⟩ := by
  simp only [exchange, Fallible.run_bind, Fallible.run_get, Fallible.run_ofExcept,
    Outcome.after_nil]
  cases f s.2 <;> rfl

theorem Accesses.unique {kind' : ShapeKind} {j : Nat} (first : edit.Accesses kind i)
    (second : edit.Accesses kind' j) : kind = kind' ∧ i = j := by
  cases edit with
  | remove | take | reshape =>
      obtain ⟨rfl, rfl⟩ := first
      exact second
  | insert | clear | share => exact first.elim

theorem after_error (m : ShapeMap α) (edit : ShapesEdit α) (fault : Fault) :
    m.after edit (.error fault) = m := by
  cases edit <;> rfl

/-- A change that does not find what it asks for is refused. -/
theorem steps_of_absent {fault : Fault} (accesses : edit.Accesses kind i) (real : kind ≠ .empty)
    (free : s.2.get? kind i = none) (absent : Absent kind i (s.2.slots kind) fault)
    (outcome : edit.outcome s = ⟨.error fault, s, []⟩) : edit.Steps s s.2.get? where
  answers := outcome ▸ .absent accesses real free absent
  after := by rw [outcome, after_error]
  refused _ _ := by rw [outcome]
  absent _ _ _ _ _ := by rw [outcome]
  slots _ _ _ := by rw [outcome]

/-- A change that finds what it asks for changes the maps. It asks for one place only, so it does
not ask for a free one. -/
theorem steps_of_found {answer : ShapesAnswer α} {t : Shapes α} (accesses : edit.Accesses kind i)
    (found : kind = .empty ∨ s.2.get? kind i ≠ none)
    (outcome : edit.outcome s = ⟨.ok answer, (s.1, t), []⟩) (same : s.2.SameSize t)
    (answers : ShapeMap.Answers s.2.get? s.2.slots edit (.ok answer))
    (after : t.get? = ShapeMap.after s.2.get? edit (.ok answer)) : edit.Steps s s.2.get? where
  answers := outcome ▸ answers
  after := by rw [outcome, ← after]
  refused _ refused := by rw [outcome] at refused; cases refused
  absent _ _ accesses' real free := by
    obtain ⟨rfl, rfl⟩ := accesses.unique accesses'
    exact found.elim (fun empty => absurd empty real) (fun found => absurd free found)
  slots _ _ _ := by rw [outcome, Shapes.slots_of_sameSize same]

theorem steps_insert (shape : Shape α) (s : Memory × Shapes α) :
    (insert shape).Steps s s.2.get? := by
  have outcome : ((insert shape).outcome s).answer =
      .place shape.kind <$> ((Shapes.insert shape).attempt.run s).answer ∧
        ((insert shape).outcome s).state = ((Shapes.insert shape).attempt.run s).state := by
    have unfolded : (insert shape).outcome s =
        (Shapes.insert shape >>= fun i => pure (.place shape.kind i) :
          Fallible StoreNote (Memory × Shapes α) (ShapesAnswer α)).attempt.run s := rfl
    rw [unfolded, Fallible.run_bind]
    cases ((Shapes.insert shape).attempt.run s).answer with
    | ok i => exact ⟨rfl, rfl⟩
    | error fault => exact ⟨rfl, rfl⟩
  obtain ⟨answer, state⟩ := outcome
  have slots : ∀ kind, (∀ other, insert shape = insert other → other.kind ≠ kind) →
      ((insert shape).outcome s).state.2.slots kind = s.2.slots kind := by
    intro kind other
    rw [state]
    exact Shapes.slots_insert shape s (other shape rfl)
  cases inserted : ((Shapes.insert shape).attempt.run s).answer with
  | ok i =>
      rw [inserted] at answer
      obtain ⟨_, put⟩ := Shapes.get?_insert inserted
      have real : shape.kind ≠ .empty := by
        cases shape with
        | empty => cases inserted
        | circle | rectangle | polygon => exact nofun
      have least := Shapes.inserts shape real s
      rw [inserted] at least
      cases least with
      | placed least =>
          exact
            { answers := answer ▸ .placed real least
              after := by
                rw [answer, state]
                funext k j
                exact put k j
              refused := fun _ refused => by rw [answer] at refused; cases refused
              absent := fun _ _ accesses => accesses.elim
              slots := fun kind other _ => slots kind other }
  | error fault =>
      rw [inserted] at answer
      have kept := Shapes.insert_refused inserted
      refine
        { answers := ?_
          after := by rw [answer, state, kept]; rfl
          refused := fun _ _ => by rw [state, kept]
          absent := fun _ _ accesses => accesses.elim
          slots := fun kind other _ => slots kind other }
      rw [answer]
      by_cases real : shape.kind = .empty
      · cases shape with
        | empty => exact Except.error.inj inserted ▸ .nothingToStore
        | circle | rectangle | polygon => cases real
      · have spec := Shapes.inserts shape real s
        rw [inserted] at spec
        cases spec with
        | allocationFailed full => exact .allocationFailed real full

/-- Taking something out and removing it differ in the answer only. -/
theorem steps_exchange (edit : ShapesEdit α) (answer : Shape α → ShapesAnswer α)
    (accesses : edit.Accesses kind i)
    (outcome : edit.outcome s = match s.2.take kind i with
      | .ok (shape, u) => ⟨.ok (answer shape), (s.1, u), []⟩
      | .error fault => ⟨.error fault, s, []⟩)
    (ofEmpty : kind = .empty →
      ShapeMap.Answers s.2.get? s.2.slots edit (.ok (answer .empty)))
    (answers : ∀ shape, s.2.get? kind i = some shape →
      ShapeMap.Answers s.2.get? s.2.slots edit (.ok (answer shape)))
    (after : ∀ shape, ShapeMap.after s.2.get? edit (.ok (answer shape)) =
      ShapeMap.set s.2.get? kind i none) : edit.Steps s s.2.get? := by
  cases held : s.2.get? kind i with
  | some shape =>
      obtain ⟨u, taken⟩ := Shapes.take_of_get? held
      have removed : s.2.remove kind i = .ok u := by
        rw [Shapes.remove_eq_take, taken]
        rfl
      rw [taken] at outcome
      refine steps_of_found accesses (.inr (by simp [held])) outcome
        (Shapes.sameSize_remove removed) (answers shape held) ?_
      rw [after]
      funext k j
      exact Shapes.get?_remove removed k j
  | none =>
      by_cases empty : kind = .empty
      · subst empty
        refine steps_of_found accesses (.inl rfl) outcome (.refl s.2) (ofEmpty rfl) ?_
        rw [after]
        funext k j
        have removed : s.2.remove .empty i = .ok s.2 := rfl
        exact Shapes.get?_remove removed k j
      · obtain ⟨fault, absent, _, refused, _⟩ := Shapes.absent_of_get? empty held
        rw [refused] at outcome
        exact steps_of_absent accesses empty held absent outcome

theorem steps_take (kind : ShapeKind) (i : Nat) (s : Memory × Shapes α) :
    (take kind i).Steps s s.2.get? := by
  apply steps_exchange (take kind i) .shape ⟨rfl, rfl⟩
  case outcome =>
    rw [outcome, perform, run_exchange]
    cases s.2.take kind i <;> rfl
  case ofEmpty => exact fun empty => empty ▸ .takenEmpty
  case answers => exact fun shape held => .taken held
  case after => exact fun _ => rfl

theorem steps_remove (kind : ShapeKind) (i : Nat) (s : Memory × Shapes α) :
    (remove kind i).Steps s s.2.get? := by
  apply steps_exchange (remove kind i) (fun _ => .done) ⟨rfl, rfl⟩
  case outcome =>
    rw [outcome, perform, run_exchange, Shapes.remove_eq_take]
    cases s.2.take kind i <;> rfl
  case ofEmpty => exact fun empty => empty ▸ .removedEmpty
  case answers => exact fun shape held => .removed held
  case after => exact fun _ => rfl

theorem steps_reshape (i : Nat) (r : Reshape α) (s : Memory × Shapes α) :
    (reshape i r).Steps s s.2.get? := by
  have outcome : (reshape i r).outcome s = match s.2.reshape i r with
      | .ok (shape, u) => ⟨.ok (.shape shape), (s.1, u), []⟩
      | .error fault => ⟨.error fault, s, []⟩ := by
    rw [ShapesEdit.outcome, perform, run_exchange]
    cases s.2.reshape i r <;> rfl
  cases held : s.2.get? r.kind i with
  | some shape =>
      obtain ⟨u, changed⟩ := Shapes.reshape_of_get? held
      rw [changed] at outcome
      refine steps_of_found ⟨rfl, rfl⟩ (.inr (by simp [held])) outcome
        (Shapes.sameSize_reshape changed) (.reshaped held) ?_
      funext k j
      simp only [ShapeMap.after, held]
      exact (Shapes.get?_reshape changed).2 k j
  | none =>
      have real : r.kind ≠ .empty := by cases r <;> exact nofun
      obtain ⟨fault, absent, _, _, refused⟩ := Shapes.absent_of_get? real held
      rw [refused r rfl] at outcome
      exact steps_of_absent ⟨rfl, rfl⟩ real held absent outcome

theorem steps_clear (s : Memory × Shapes α) : (clear : ShapesEdit α).Steps s s.2.get? where
  answers := .cleared
  after := funext fun _ => funext fun _ => Shapes.get?_clear s
  refused _ refused := by cases refused
  absent _ _ accesses := accesses.elim
  slots _ _ other := absurd rfl other

theorem steps_share (memory : Memory) (s : Memory × Shapes α) :
    (share memory).Steps s s.2.get? where
  answers := .shared
  after := rfl
  refused _ refused := by cases refused
  absent _ _ accesses := accesses.elim
  slots _ _ _ := rfl

/-- **Every change of the geometry is one of its maps.** -/
theorem steps (edit : ShapesEdit α) (s : Memory × Shapes α) : edit.Steps s s.2.get? := by
  cases edit with
  | insert shape => exact steps_insert shape s
  | remove kind i => exact steps_remove kind i s
  | take kind i => exact steps_take kind i s
  | reshape i r => exact steps_reshape i r s
  | clear => exact steps_clear s
  | share memory => exact steps_share memory s

/-! ## Whole runs -/

/-- What is stored after several changes is what they add up to. -/
theorem get?_runFrom (edits : List (ShapesEdit α)) (s : Memory × Shapes α) :
    (runFrom s edits).2.get? = ShapeMap.replay s.2.get? s edits := by
  induction edits generalizing s with
  | nil => rfl
  | cons edit rest ih =>
      rw [ShapeMap.replay, ← (steps edit s).after]
      exact ih (edit.outcome s).state

end ShapesEdit

theorem Shapes.actsAsMaps {α : Type} [Scalar α] (s : Memory × Shapes α) :
    Shapes.ActsAsMaps s s.2.get? where
  bound kind i shape held := by
    obtain ⟨same, real⟩ := kind_of_get? held
    have found := (get_eq_ok_iff real).mpr held
    exact ⟨same, found, fun offset => by rw [placed, found]; rfl⟩
  unbound kind i real free := by
    obtain ⟨fault, absent, missing, _⟩ := absent_of_get? real free
    exact ⟨fault, absent, missing, fun offset => by rw [placed, missing]; rfl⟩
  size := s.2.exists_places
  steps edit := edit.steps s

/-- **Geometry is three finite maps.** -/
theorem ShapesEdit.maps_after {α : Type} [Scalar α] (growth : Float32) (memory : Memory)
    (edits : List (ShapesEdit α)) :
    let start : Memory × Shapes α := (memory, .empty growth)
    Shapes.ActsAsMaps (runFrom start edits) (ShapeMap.replay ShapeMap.empty start edits) := by
  intro start
  have blank : start.2.get? = ShapeMap.empty :=
    funext fun _ => funext fun _ => Shapes.get?_empty growth
  rw [← blank, ← get?_runFrom]
  exact Shapes.actsAsMaps _

end PlanarDynamics
