import PlanarDynamics.Proofs.Store.Places
import PlanarDynamics.Proofs.Store.Renaming

/-!
# Refusals, and what is taken back

A store that finds no slot for a new entity stays as it is, and so do the bytes in use behind it;
as long as these do not change it refuses again (`Refuses`). A store that finds one may have grown
before, by vacant slots at its end and one block of memory (`Arena.Padded`), and beyond that only
the slot of the entity has changed (`Arena.create_pads`).

For geometry the second can be undone: removing a shape that has just been put in leaves the
stores padded, in the one kind of the shape and in nothing else, and the next shape of the kind
goes to the same place without asking for memory (`Shapes.insert_then_remove`).
-/

set_option autoImplicit false

namespace PlanarDynamics

/-! ## Refusals -/

/-- A refused request changes counters that only grow. -/
theorem Memory.withoutTotals_of_refused {m : Memory} {r : Request} {fault : Fault}
    (refused : (m.request r).answer = .error fault) :
    (m.request r).state.withoutTotals = m.withoutTotals := by
  induction m generalizing fault with
  | heap used => cases refused
  | linear capacity offset =>
      simp only [request] at refused ⊢
      split at refused
      · rename_i short
        rw [if_pos short]
      · cases refused
  | metered name inner stats ih =>
      simp only [request] at refused ⊢
      cases below : (inner.request r).answer with
      | ok _ =>
          rw [below] at refused
          cases refused
      | error _ =>
          simp only [withoutTotals, ih below]
          rfl

/-- The counters that only grow do not count the bytes in use. -/
theorem Memory.used_congr {m m' : Memory} (same : m.withoutTotals = m'.withoutTotals) :
    m.used = m'.used := by
  rw [← m.usage_withoutTotals.1, same, m'.usage_withoutTotals.1]

/-- The computation is refused with a fault. It leaves the store and the bytes in use as they are,
and every memory with the same bytes in use refuses it too. -/
structure Refuses {σ β : Type} (m : Fallible StoreNote (Memory × σ) β) (s : Memory × σ)
    (fault : Fault) : Prop where
  store : (m.attempt.run s).state.2 = s.2
  memory : (m.attempt.run s).state.1.withoutTotals = s.1.withoutTotals
  again : ∀ memory : Memory, memory.withoutTotals = s.1.withoutTotals →
    (m.attempt.run (memory, s.2)).answer = .error fault

/-- What one of several stores refuses is refused by all of them together. -/
theorem Refuses.zoom {σ τ β : Type} {part : τ → σ} {m : Fallible StoreNote (Memory × σ) β}
    {s : Memory × τ} {fault : Fault} (refused : Refuses m (s.1, part s.2) fault)
    (put : σ → τ → τ) (unchanged : put (part s.2) s.2 = s.2) :
    Refuses (Fallible.zoom (fun s => (s.1, part s.2)) (fun t s => (t.1, put t.2 s.2)) id m) s
      fault where
  store := (congrArg (put · s.2) refused.store).trans unchanged
  memory := refused.memory
  again := refused.again

namespace Arena

variable {k : StoreKind} {ε : Type} [Entity ε]

theorem refuses_reserve {length : Nat} {s : Memory × Arena k ε} {fault : Fault}
    (refused : ((reserve length).attempt.run s).answer = .error fault) :
    Refuses (reserve length) s fault := by
  rw [run_reserve] at refused
  split at refused
  case isFalse => cases refused
  case isTrue short =>
    cases found : blockFor? ε (length - s.2.capacity) with
    | none =>
        rw [found] at refused
        cases refused
        constructor <;> simp [run_reserve, short, found]
    | some block =>
        rw [found] at refused
        dsimp only at refused
        cases asked : (s.1.request block).answer with
        | ok _ =>
            rw [asked] at refused
            cases refused
        | error _ =>
            rw [asked] at refused
            cases refused
            constructor
            case store => simp [run_reserve, short, found, asked]
            case memory =>
              simp [run_reserve, short, found, asked, Memory.withoutTotals_of_refused asked]
            case again =>
              intro memory same
              have asked' := (Memory.request_congr same block).1.trans asked
              simp [run_reserve, short, found, asked']

/-- **An entity that finds no slot is refused for good.** -/
theorem refuses_create {v : ε} {s : Memory × Arena k ε} {fault : Fault}
    (refused : ((create v).attempt.run s).answer = .error fault) :
    Refuses (create v) s fault := by
  cases free : s.2.firstVacant? with
  | some i =>
      rw [run_create, free] at refused
      cases refused
  | none =>
      rw [run_create, free] at refused
      dsimp only at refused
      cases grown : ((reserve (nextLength s.2.capacity s.2.growth)).attempt.run s).answer with
      | ok _ =>
          rw [grown] at refused
          cases refused
      | error _ =>
          rw [grown] at refused
          cases refused
          obtain ⟨store, memory, again⟩ := refuses_reserve grown
          constructor
          case store => simp [run_create, free, grown, store]
          case memory => simp [run_create, free, grown, memory]
          case again =>
            intro memory same
            simp [run_create, free, again memory same]

/-! ## Padding -/

/-- The store of a memory has grown by vacant slots at its end, or not at all. -/
inductive Padded : Memory × Arena k ε → Memory × Arena k ε → Prop
  | refl (x : Memory × Arena k ε) : Padded x x
  /-- One block for the slots was asked for and granted. -/
  | grown {x : Memory × Arena k ε} {slots : Nat} {block : Request} (positive : 0 < slots)
      (sized : blockFor? ε slots = some block) (granted : (x.1.request block).answer = .ok ()) :
      Padded x ((x.1.request block).state, x.2.extend (x.2.capacity + slots) block)

theorem Padded.keeps {x y : Memory × Arena k ε} (pads : Padded x y) : x.2.Keeps y.2 := by
  cases pads with
  | refl => exact .refl x.2
  | grown _ _ _ => exact keeps_extend x.2 _ _

/-- The first slot that growth adds is the first vacant one of a full store. -/
theorem firstVacant?_extend {a : Arena k ε} {length : Nat} (block : Request)
    (full : a.firstVacant? = none) (more : a.capacity < length) :
    (a.extend length block).firstVacant? = some a.capacity := by
  have live : ∀ s ∈ a.slots, s.isLive = true := by
    simpa [firstVacant?, Array.findIdx?_eq_none_iff] using full
  have there : (a.extend length block).slots[a.capacity]? = some ⟨Entity.vacant, a.base⟩ := by
    rw [slots_extend, if_neg (Nat.lt_irrefl _), if_pos more]
  obtain ⟨inside, same⟩ := Array.getElem?_eq_some_iff.mp there
  refine Array.findIdx?_eq_some_iff_getElem.mpr ⟨inside, ?_, fun j before => ?_⟩
  · rw [same]
    simp [Slot.isLive, Entity.not_isLive_vacant]
  · have within : j < (a.extend length block).slots.size := before.trans inside
    have earlier : j < a.slots.size := before
    have old : (a.extend length block).slots[j]? = some a.slots[j] := by
      rw [slots_extend, if_pos before, Array.getElem?_eq_getElem earlier]
    have held : (a.extend length block).slots[j] = a.slots[j] :=
      Option.some.inj ((Array.getElem?_eq_getElem within).symm.trans old)
    rw [held, live _ (Array.getElem_mem earlier)]
    decide

/-- **A new entity goes to the first vacant slot of a store that is padded at most.** -/
theorem create_pads {v : ε} {s : Memory × Arena k ε} {h : Handle k}
    (created : ((create v).attempt.run s).answer = .ok h) :
    ∃ a, Padded s (((create v).attempt.run s).state.1, a) ∧ a.firstVacant? = some h.index ∧
      ((create v).attempt.run s).state.2 = a.write h.index v := by
  rw [run_create] at created ⊢
  cases free : s.2.firstVacant? with
  | some i =>
      rw [free] at created
      cases created
      exact ⟨s.2, .refl s, free, rfl⟩
  | none =>
      have short := capacity_lt_nextLength s.2.capacity s.2.growth
      rw [free] at created
      dsimp only at created ⊢
      cases granted : ((reserve (nextLength s.2.capacity s.2.growth)).attempt.run s).answer with
      | error _ =>
          rw [granted] at created
          cases created
      | ok _ =>
          rw [granted] at created
          cases created
          obtain ⟨block, sized, answer, state⟩ := extend_of_reserve short granted
          have pads := Padded.grown (x := s) (Nat.sub_pos_of_lt short) sized answer
          rw [Nat.add_sub_cancel' (Nat.le_of_lt short)] at pads
          dsimp only
          rw [state]
          exact ⟨_, pads, firstVacant?_extend block free short, rfl⟩

end Arena

/-! ## Taking geometry back -/

namespace ShapePool

variable {kind : ShapeKind} {γ : Type} [Geometry γ]

theorem refuses_insert {v : γ} {s : Memory × ShapePool kind γ} {fault : Fault}
    (refused : ((insert v).attempt.run s).answer = .error fault) :
    Refuses (insert v) s fault := by
  rw [run_insert] at refused
  dsimp only at refused
  cases made : ((Arena.create (some v)).attempt.run (s.1, s.2.arena)).answer with
  | ok h =>
      rw [made] at refused
      cases refused
  | error _ =>
      rw [made] at refused
      cases refused
      obtain ⟨store, memory, again⟩ := Arena.refuses_create made
      constructor
      case store =>
        rw [run_insert]
        exact congrArg ShapePool.mk store
      case memory =>
        rw [run_insert]
        exact memory
      case again =>
        intro m same
        rw [run_insert]
        exact congrArg (Except.map Handle.index) (again m same)

/-- A pool that names the same geometry has it at the same places. -/
theorem get?_of_keeps {p q : ShapePool kind γ} (keeps : p.arena.Keeps q.arena) (i : Nat) :
    q.get? i = p.get? i := by
  refine Option.ext fun v => ?_
  rw [get?_eq_some_iff, get?_eq_some_iff]
  exact exists_congr fun h => and_congr_right fun _ => keeps.get h _

/-- A vacant place that has been filled and freed is as it was. -/
theorem write_then_none {a : Arena (.shape kind) (Option γ)} {i : Nat}
    (free : a.firstVacant? = some i) (v : γ) : (a.write i (some v)).write i none = a := by
  obtain ⟨inside, vacant, _⟩ := Array.findIdx?_eq_some_iff_getElem.mp free
  have there : a.slots[i]? = some a.slots[i] := Array.getElem?_eq_getElem inside
  have nothing : a.slots[i].entity = none := by simpa [Slot.isLive, Entity.isLive] using vacant
  rw [Arena.write_write, ← nothing]
  exact Arena.write_self there

/-- Removing geometry that has just been put in leaves a padded pool, where the place is the next
to be filled. -/
theorem insert_then_remove {v : γ} {s : Memory × ShapePool kind γ} {i : Nat}
    (stored : ((insert v).attempt.run s).answer = .ok i) :
    let out := (insert v).attempt.run s
    ∃ p : ShapePool kind γ, Arena.Padded (s.1, s.2.arena) (out.state.1, p.arena) ∧
      out.state.2.remove i = .ok p ∧
      ∀ memory, ((insert v).attempt.run (memory, p)).answer = .ok i ∧
        ((insert v).attempt.run (memory, p)).state = (memory, out.state.2) := by
  have put := (get?_insert stored).2 i
  rw [run_insert] at stored put ⊢
  dsimp only at stored put ⊢
  cases made : ((Arena.create (some v)).attempt.run (s.1, s.2.arena)).answer with
  | error _ =>
      rw [made] at stored
      cases stored
  | ok h =>
      rw [made] at stored
      cases stored
      obtain ⟨a, pads, free, written⟩ := Arena.create_pads made
      rw [if_pos rfl] at put
      refine ⟨⟨a⟩, pads, ?_, fun memory => ?_⟩
      · rw [remove_of_get? put, written]
        exact congrArg (Except.ok ∘ ShapePool.mk) (write_then_none free v)
      · rw [run_insert, Arena.run_create]
        simp only [free, written, and_true]
        rfl

end ShapePool

namespace Shapes

variable {α : Type}

theorem refuses_insert {shape : Shape α} {s : Memory × Shapes α} {fault : Fault}
    (refused : ((insert shape).attempt.run s).answer = .error fault) :
    Refuses (insert shape) s fault := by
  cases shape with
  | empty => exact ⟨rfl, rfl, fun _ _ => refused⟩
  | circle c =>
      have pool := ShapePool.refuses_insert (s := (s.1, s.2.circles)) refused
      exact pool.zoom (fun q t => { t with circles := q }) rfl
  | rectangle r =>
      have pool := ShapePool.refuses_insert (s := (s.1, s.2.rectangles)) refused
      exact pool.zoom (fun q t => { t with rectangles := q }) rfl
  | polygon p =>
      have pool := ShapePool.refuses_insert (s := (s.1, s.2.polygons)) refused
      exact pool.zoom (fun q t => { t with polygons := q }) rfl

/-- The stores differ by free places at the end of one of them, that of the kind. -/
def Padded : ShapeKind → Memory × Shapes α → Memory × Shapes α → Prop
  | .empty, x, y => y = x
  | .circle, x, y => Arena.Padded (x.1, x.2.circles.arena) (y.1, y.2.circles.arena) ∧
      y.2.rectangles = x.2.rectangles ∧ y.2.polygons = x.2.polygons
  | .rectangle, x, y => Arena.Padded (x.1, x.2.rectangles.arena) (y.1, y.2.rectangles.arena) ∧
      y.2.circles = x.2.circles ∧ y.2.polygons = x.2.polygons
  | .polygon, x, y => Arena.Padded (x.1, x.2.polygons.arena) (y.1, y.2.polygons.arena) ∧
      y.2.circles = x.2.circles ∧ y.2.rectangles = x.2.rectangles

theorem Padded.refl (kind : ShapeKind) (x : Memory × Shapes α) : Padded kind x x := by
  cases kind with
  | empty => exact rfl
  | circle | rectangle | polygon => exact ⟨.refl _, rfl, rfl⟩

/-- Padding adds no shape and moves none. -/
theorem Padded.get? {kind : ShapeKind} {x y : Memory × Shapes α} (pads : Padded kind x y)
    (k : ShapeKind) (i : Nat) : y.2.get? k i = x.2.get? k i := by
  cases kind with
  | empty => exact congrArg (fun z => z.2.get? k i) pads
  | circle | rectangle | polygon =>
      obtain ⟨pads, first, second⟩ := pads
      cases k <;> simp only [Shapes.get?, ShapePool.get?_of_keeps pads.keeps, first, second]

/-- **A shape that has just been put in can be taken back.** What is left are free places of its
kind, and the next shape of the kind goes to the same place without asking for memory. -/
theorem insert_then_remove {shape : Shape α} {s : Memory × Shapes α} {i : Nat}
    (stored : ((insert shape).attempt.run s).answer = .ok i) :
    let out := (insert shape).attempt.run s
    ∃ t, Padded shape.kind s (out.state.1, t) ∧ out.state.2.remove shape.kind i = .ok t ∧
      ∀ memory, ((insert shape).attempt.run (memory, t)).answer = .ok i ∧
        ((insert shape).attempt.run (memory, t)).state = (memory, out.state.2) := by
  cases shape with
  | empty => cases stored
  | circle c =>
      obtain ⟨p, pads, removed, again⟩ :=
        ShapePool.insert_then_remove (s := (s.1, s.2.circles)) stored
      refine ⟨{ s.2 with circles := p }, ⟨pads, rfl, rfl⟩, ?_, fun memory => ?_⟩
      · exact bind_pure_eq_ok_iff.mpr ⟨p, removed, rfl⟩
      · obtain ⟨answer, state⟩ := again memory
        exact ⟨answer, congrArg (fun x => (x.1, { s.2 with circles := x.2 })) state⟩
  | rectangle r =>
      obtain ⟨p, pads, removed, again⟩ :=
        ShapePool.insert_then_remove (s := (s.1, s.2.rectangles)) stored
      refine ⟨{ s.2 with rectangles := p }, ⟨pads, rfl, rfl⟩, ?_, fun memory => ?_⟩
      · exact bind_pure_eq_ok_iff.mpr ⟨p, removed, rfl⟩
      · obtain ⟨answer, state⟩ := again memory
        exact ⟨answer, congrArg (fun x => (x.1, { s.2 with rectangles := x.2 })) state⟩
  | polygon q =>
      obtain ⟨p, pads, removed, again⟩ :=
        ShapePool.insert_then_remove (s := (s.1, s.2.polygons)) stored
      refine ⟨{ s.2 with polygons := p }, ⟨pads, rfl, rfl⟩, ?_, fun memory => ?_⟩
      · exact bind_pure_eq_ok_iff.mpr ⟨p, removed, rfl⟩
      · obtain ⟨answer, state⟩ := again memory
        exact ⟨answer, congrArg (fun x => (x.1, { s.2 with polygons := x.2 })) state⟩

end Shapes

end PlanarDynamics
