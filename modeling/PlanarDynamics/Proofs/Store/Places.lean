import PlanarDynamics.Proofs.Store.Ledger
import PlanarDynamics.World.Entities

/-!
# Places of geometry

The geometry of a world is a finite map from a kind and a place to a shape. `ShapePool.get?` is
the map within one kind and `Shapes.get?` the map over all kinds, and for every operation there
is an equation for the map that it leaves behind: a new shape goes to a place that was free
(`Shapes.get?_insert`), removing frees exactly one place (`Shapes.get?_remove`), and reshaping
changes exactly one shape (`Shapes.get?_reshape`).

`Shapes.Stores` says that there is a shape of a kind at a place.
-/

set_option autoImplicit false

namespace PlanarDynamics

namespace ShapePool

variable {kind : ShapeKind} {γ : Type} {p q : ShapePool kind γ} {i : Nat} {v : γ}

/-! ## One kind -/

theorem get_eq_ok_iff : p.get i = .ok v ↔ p.get? i = some v := by
  unfold ShapePool.get
  cases p.get? i <;> simp

theorem get?_write (held : p.get? i = some v) (x : Option γ) (j : Nat) :
    (⟨p.arena.write i x⟩ : ShapePool kind γ).get? j = if j = i then x else p.get? j := by
  simp only [get?, Arena.slots_write]
  by_cases same : j = i
  · subst same
    obtain ⟨s, there, _⟩ := Option.bind_eq_some_iff.mp held
    rw [if_pos rfl, if_pos rfl, there]
    rfl
  · rw [if_neg (Ne.symm same), if_neg same]

theorem remove_of_get? (held : p.get? i = some v) : p.remove i = .ok ⟨p.arena.write i none⟩ := by
  simp only [remove, get_eq_ok_iff.mpr held]
  rfl

theorem get?_remove (removed : p.remove i = .ok q) (j : Nat) :
    q.get? j = if j = i then none else p.get? j := by
  cases held : p.get? i with
  | none =>
      simp only [remove, ShapePool.get, held] at removed
      cases removed
  | some v =>
      rw [remove_of_get? held] at removed
      exact Except.ok.inj removed ▸ get?_write held none j

theorem get?_modify {f : γ → γ} (held : p.get? i = some v) (changed : p.modify i f = .ok q)
    (j : Nat) : q.get? j = if j = i then some (f v) else p.get? j := by
  simp only [ShapePool.modify, get_eq_ok_iff.mpr held] at changed
  exact Except.ok.inj changed ▸ get?_write held (some (f v)) j

/-- What has been looked up and then changed is exchanged. -/
theorem exchanged {δ σ : Type} {f : γ → γ} {make : γ → δ} {put : ShapePool kind γ → σ} {shape : δ}
    {t : σ}
    (changed : (do
      let v ← p.get i
      return (make (f v), put (← p.modify i f)) : Except Fault (δ × σ)) = .ok (shape, t)) :
    ∃ v q, p.get? i = some v ∧ make (f v) = shape ∧ put q = t ∧
      ∀ j, q.get? j = if j = i then some (f v) else p.get? j := by
  obtain ⟨v, found, rest⟩ := bind_eq_ok_iff.mp changed
  obtain ⟨q, edited, same⟩ := bind_pure_eq_ok_iff.mp rest
  have held := get_eq_ok_iff.mp found
  exact ⟨v, q, held, congrArg Prod.fst same, congrArg Prod.snd same, get?_modify held edited⟩

/-- The place of a kind in the geometry of all kinds. -/
theorem map_get_eq_ok_iff {δ : Type} {f : γ → δ} {shape : δ} :
    f <$> p.get i = .ok shape ↔ (p.get? i).map f = some shape := by
  unfold ShapePool.get
  cases p.get? i with
  | none => exact ⟨nofun, nofun⟩
  | some v => exact ⟨fun same => congrArg some (Except.ok.inj same),
      fun same => congrArg Except.ok (Option.some.inj same)⟩

theorem get?_clear (s : Memory × ShapePool kind γ) :
    (clear.run s).state.2.get? i = none := by
  simp only [clear, Recorded.run_zoom, get?, Arena.run_clear]
  rfl

variable [Geometry γ]

theorem get?_eq_some_iff :
    p.get? i = some v ↔ ∃ h : Handle (.shape kind), h.index = i ∧ p.arena.get h = .ok (some v) := by
  constructor
  · intro held
    obtain ⟨⟨_, generation⟩, there, rfl⟩ := Option.bind_eq_some_iff.mp held
    exact ⟨⟨i, generation⟩, rfl, Arena.get_eq_ok_iff.mpr ⟨there, rfl⟩⟩
  · rintro ⟨h, rfl, found⟩
    exact Option.bind_eq_some_iff.mpr ⟨_, (Arena.get_eq_ok_iff.mp found).1, rfl⟩

/-- A filled place was free, and no other place has changed. -/
theorem get?_of_fills {h : Handle (.shape kind)} (fills : p.arena.Fills (some v) h q.arena) :
    p.get? h.index = none ∧ ∀ j, q.get? j = if j = h.index then some v else p.get? j := by
  constructor
  · refine Option.eq_none_iff_forall_ne_some.mpr fun u held => ?_
    obtain ⟨g, place, found⟩ := get?_eq_some_iff.mp held
    exact fills.vacant g place _ found
  · intro j
    split
    · rename_i here
      exact get?_eq_some_iff.mpr ⟨h, here.symm, fills.get rfl⟩
    · rename_i elsewhere
      refine Option.ext fun u => ?_
      rw [get?_eq_some_iff, get?_eq_some_iff]
      refine exists_congr fun g => and_congr_right fun place => ?_
      exact fills.elsewhere g (place ▸ elsewhere) _

theorem run_insert (v : γ) (s : Memory × ShapePool kind γ) :
    (insert v).attempt.run s =
      let made := (Arena.create (some v)).attempt.run (s.1, s.2.arena)
      ⟨made.answer.map Handle.index, (made.state.1, ⟨made.state.2⟩), made.notes⟩ := by
  simp only [insert, Fallible.run_bind, Fallible.run_zoom, List.map_id]
  cases ((Arena.create (some v)).attempt.run (s.1, s.2.arena)).answer with
  | ok h => exact Outcome.ext rfl rfl (List.append_nil _)
  | error fault => rfl

/-- Geometry is put into a free place. -/
theorem get?_insert {m : Memory × ShapePool kind γ}
    (stored : ((insert v).attempt.run m).answer = .ok i) :
    m.2.get? i = none ∧ ∀ j,
      ((insert v).attempt.run m).state.2.get? j = if j = i then some v else m.2.get? j := by
  rw [run_insert] at stored ⊢
  dsimp only at stored ⊢
  cases made : ((Arena.create (some v)).attempt.run (m.1, m.2.arena)).answer with
  | error fault =>
      rw [made] at stored
      cases stored
  | ok h =>
      rw [made] at stored
      obtain rfl : h.index = i := Except.ok.inj stored
      exact get?_of_fills (p := m.2) (Arena.create_fills made)

theorem insert_refused {m : Memory × ShapePool kind γ} {fault : Fault}
    (refused : ((insert v).attempt.run m).answer = .error fault) :
    ((insert v).attempt.run m).state.2 = m.2 := by
  rw [run_insert] at refused ⊢
  dsimp only at refused ⊢
  cases made : ((Arena.create (some v)).attempt.run (m.1, m.2.arena)).answer with
  | error fault => exact congrArg ShapePool.mk (Arena.create_refused made)
  | ok h =>
      rw [made] at refused
      cases refused

end ShapePool

namespace Shapes

variable {α : Type} {s t : Shapes α} {kind : ShapeKind} {i : Nat}

/-! ## All kinds -/

/-- The shape of a kind at a place, if there is any. There is none of the empty kind. -/
def get? (s : Shapes α) : ShapeKind → Nat → Option (Shape α)
  | .empty, _ => none
  | .circle, i => (s.circles.get? i).map .circle
  | .rectangle, i => (s.rectangles.get? i).map .rectangle
  | .polygon, i => (s.polygons.get? i).map .polygon

/-- There is a shape of a kind at a place. Shapes of the empty kind are not stored. -/
def Stores (s : Shapes α) (kind : ShapeKind) (i : Nat) : Prop :=
  kind ≠ .empty ∧ ∃ shape, s.get kind i = .ok shape

theorem get_eq_ok_iff {shape : Shape α} (real : kind ≠ .empty) :
    s.get kind i = .ok shape ↔ s.get? kind i = some shape := by
  cases kind with
  | empty => exact absurd rfl real
  | circle | rectangle | polygon => exact ShapePool.map_get_eq_ok_iff

/-- What is at a place of a kind is of this kind. -/
theorem kind_of_get? {shape : Shape α} (held : s.get? kind i = some shape) :
    shape.kind = kind ∧ kind ≠ .empty := by
  cases kind with
  | empty => cases held
  | circle | rectangle | polygon =>
      obtain ⟨v, _, rfl⟩ := Option.map_eq_some_iff.mp held
      exact ⟨rfl, nofun⟩

theorem stores_iff_get? : s.Stores kind i ↔ ∃ shape, s.get? kind i = some shape := by
  constructor
  · rintro ⟨real, shape, found⟩
    exact ⟨shape, (get_eq_ok_iff real).mp found⟩
  · rintro ⟨shape, held⟩
    have real := (kind_of_get? held).2
    exact ⟨real, shape, (get_eq_ok_iff real).mpr held⟩

theorem get?_empty (growth : Float32) : (empty growth : Shapes α).get? kind i = none := by
  cases kind <;> rfl

theorem get?_clear (s : Memory × Shapes α) : (clear.run s).state.2.get? kind i = none := by
  cases kind with
  | empty => rfl
  | circle | rectangle | polygon =>
      simp only [clear, Recorded.state_bind, Recorded.run_zoom, get?, ShapePool.get?_clear,
        Option.map_none]

/-! ## Changing one place -/

theorem get?_with_circles {q : ShapePool .circle (Circle α)} {x : Option (Circle α)}
    (pool : ∀ j, q.get? j = if j = i then x else s.circles.get? j) (k : ShapeKind) (j : Nat) :
    ({ s with circles := q } : Shapes α).get? k j =
      if k = .circle ∧ j = i then x.map .circle else s.get? k j := by
  by_cases here : j = i <;> cases k <;> simp [get?, pool, here]

theorem get?_with_rectangles {q : ShapePool .rectangle (Rectangle α)} {x : Option (Rectangle α)}
    (pool : ∀ j, q.get? j = if j = i then x else s.rectangles.get? j) (k : ShapeKind) (j : Nat) :
    ({ s with rectangles := q } : Shapes α).get? k j =
      if k = .rectangle ∧ j = i then x.map .rectangle else s.get? k j := by
  by_cases here : j = i <;> cases k <;> simp [get?, pool, here]

theorem get?_with_polygons {q : ShapePool .polygon (Polygon α)} {x : Option (Polygon α)}
    (pool : ∀ j, q.get? j = if j = i then x else s.polygons.get? j) (k : ShapeKind) (j : Nat) :
    ({ s with polygons := q } : Shapes α).get? k j =
      if k = .polygon ∧ j = i then x.map .polygon else s.get? k j := by
  by_cases here : j = i <;> cases k <;> simp [get?, pool, here]

/-- A new shape is put into a free place of its kind. -/
theorem get?_insert {shape : Shape α} {m : Memory × Shapes α}
    (stored : ((insert shape).attempt.run m).answer = .ok i) :
    m.2.get? shape.kind i = none ∧ ∀ k j, ((insert shape).attempt.run m).state.2.get? k j =
      if k = shape.kind ∧ j = i then some shape else m.2.get? k j := by
  cases shape with
  | empty => cases stored
  | circle c =>
      obtain ⟨free, pool⟩ := ShapePool.get?_insert (m := (m.1, m.2.circles)) stored
      exact ⟨Option.map_eq_none_iff.mpr free, get?_with_circles pool⟩
  | rectangle r =>
      obtain ⟨free, pool⟩ := ShapePool.get?_insert (m := (m.1, m.2.rectangles)) stored
      exact ⟨Option.map_eq_none_iff.mpr free, get?_with_rectangles pool⟩
  | polygon p =>
      obtain ⟨free, pool⟩ := ShapePool.get?_insert (m := (m.1, m.2.polygons)) stored
      exact ⟨Option.map_eq_none_iff.mpr free, get?_with_polygons pool⟩

/-- A shape that finds no place leaves the geometry as it is. -/
theorem insert_refused {shape : Shape α} {m : Memory × Shapes α} {fault : Fault}
    (refused : ((insert shape).attempt.run m).answer = .error fault) :
    ((insert shape).attempt.run m).state.2 = m.2 := by
  cases shape with
  | empty => rfl
  | circle c =>
      exact congrArg (fun q => { m.2 with circles := q })
        (ShapePool.insert_refused (m := (m.1, m.2.circles)) refused)
  | rectangle r =>
      exact congrArg (fun q => { m.2 with rectangles := q })
        (ShapePool.insert_refused (m := (m.1, m.2.rectangles)) refused)
  | polygon p =>
      exact congrArg (fun q => { m.2 with polygons := q })
        (ShapePool.insert_refused (m := (m.1, m.2.polygons)) refused)

/-- Removing frees one place. -/
theorem get?_remove (removed : s.remove kind i = .ok t) (k : ShapeKind) (j : Nat) :
    t.get? k j = if k = kind ∧ j = i then none else s.get? k j := by
  cases kind with
  | empty =>
      cases removed
      cases k <;> simp [get?]
  | circle =>
      obtain ⟨q, freed, rfl⟩ := bind_pure_eq_ok_iff.mp removed
      exact get?_with_circles (ShapePool.get?_remove freed) k j
  | rectangle =>
      obtain ⟨q, freed, rfl⟩ := bind_pure_eq_ok_iff.mp removed
      exact get?_with_rectangles (ShapePool.get?_remove freed) k j
  | polygon =>
      obtain ⟨q, freed, rfl⟩ := bind_pure_eq_ok_iff.mp removed
      exact get?_with_polygons (ShapePool.get?_remove freed) k j

/-- A shape that is there can be removed. -/
theorem exists_remove (stored : s.Stores kind i) : ∃ t, s.remove kind i = .ok t := by
  obtain ⟨shape, held⟩ := stores_iff_get?.mp stored
  cases kind with
  | empty => exact ⟨s, rfl⟩
  | circle | rectangle | polygon =>
      obtain ⟨v, there, _⟩ := Option.map_eq_some_iff.mp held
      exact ⟨_, bind_pure_eq_ok_iff.mpr ⟨_, ShapePool.remove_of_get? there, rfl⟩⟩

/-- Reshaping exchanges a shape that is there by another. -/
theorem get?_reshape {r : Reshape α} {shape : Shape α} (changed : s.reshape i r = .ok (shape, t)) :
    (∃ old, s.get? r.kind i = some old) ∧
      ∀ k j, t.get? k j = if k = r.kind ∧ j = i then some shape else s.get? k j := by
  cases r with
  | circle f =>
      obtain ⟨c, q, held, rfl, rfl, pool⟩ := ShapePool.exchanged changed
      exact ⟨⟨_, congrArg (Option.map Shape.circle) held⟩, get?_with_circles pool⟩
  | rectangle f =>
      obtain ⟨r, q, held, rfl, rfl, pool⟩ := ShapePool.exchanged changed
      exact ⟨⟨_, congrArg (Option.map Shape.rectangle) held⟩, get?_with_rectangles pool⟩
  | polygon f =>
      obtain ⟨p, q, held, rfl, rfl, pool⟩ := ShapePool.exchanged changed
      exact ⟨⟨_, congrArg (Option.map Shape.polygon) held⟩, get?_with_polygons pool⟩

/-- Reshaping leaves every other shape as it is. -/
theorem get_reshape {r : Reshape α} {shape : Shape α} (changed : s.reshape i r = .ok (shape, t))
    {k : ShapeKind} {j : Nat} (stored : s.Stores k j) (elsewhere : ¬ (k = r.kind ∧ j = i)) :
    t.get k j = s.get k j := by
  obtain ⟨real, old, found⟩ := stored
  rw [found, get_eq_ok_iff real, (get?_reshape changed).2, if_neg elsewhere]
  exact (get_eq_ok_iff real).mp found

/-! ## Where there are shapes -/

theorem stores_insert {shape : Shape α} {m : Memory × Shapes α}
    (stored : ((insert shape).attempt.run m).answer = .ok i) :
    ¬ m.2.Stores shape.kind i ∧ ∀ k j, ((insert shape).attempt.run m).state.2.Stores k j ↔
      k = shape.kind ∧ j = i ∨ m.2.Stores k j := by
  obtain ⟨free, put⟩ := get?_insert stored
  constructor
  · rw [stores_iff_get?, free]
    exact nofun
  · intro k j
    rw [stores_iff_get?, stores_iff_get?, put k j]
    by_cases here : k = shape.kind ∧ j = i <;> simp [here]

theorem stores_remove (removed : s.remove kind i = .ok t) (k : ShapeKind) (j : Nat) :
    t.Stores k j ↔ s.Stores k j ∧ ¬ (k = kind ∧ j = i) := by
  rw [stores_iff_get?, stores_iff_get?, get?_remove removed k j]
  by_cases here : k = kind ∧ j = i <;> simp [here]

theorem stores_reshape {r : Reshape α} {shape : Shape α} (changed : s.reshape i r = .ok (shape, t))
    (k : ShapeKind) (j : Nat) : t.Stores k j ↔ s.Stores k j := by
  obtain ⟨held, exchanged⟩ := get?_reshape changed
  rw [stores_iff_get?, stores_iff_get?, exchanged k j]
  split
  · rename_i here
    exact ⟨fun _ => here.1 ▸ here.2 ▸ held, fun _ => ⟨shape, rfl⟩⟩
  · exact Iff.rfl

end Shapes

end PlanarDynamics
