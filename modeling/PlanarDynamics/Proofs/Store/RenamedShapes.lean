import PlanarDynamics.Proofs.Store.Renaming

/-!
# Geometry that is ahead

Geometry is named by its place alone, so pools whose generations are ahead hold the same geometry at
the same places (`ShapePool.Mirrors.get?`). Only the fault of a vacant place tells that they are
ahead. Looking up, changing, freeing and storing geometry answer alike and keep it so
(`Shapes.Mirrors.get`, `Shapes.Mirrors.reshape`, `Shapes.Mirrors.remove`,
`Shapes.Mirrors.insert`).
-/

set_option autoImplicit false

namespace PlanarDynamics

variable {δ : Offsets}

namespace ShapePool

variable {kind : ShapeKind} {γ : Type} [Geometry γ]

/-- The first pool is ahead of the second and holds the same geometry. -/
structure Mirrors (δ : Offsets) (p q : ShapePool kind γ) : Prop where
  arena : p.arena.Mirrors δ id q.arena

section Mirrors

variable {p q : ShapePool kind γ} (mirrors : p.Mirrors δ q) (i : Nat)

include mirrors

theorem Mirrors.get? : p.get? i = q.get? i := by
  have slot := mirrors.arena.slot i
  unfold ShapePool.get?
  generalize p.arena.slots[i]? = s, q.arena.slots[i]? = t at slot ⊢
  cases slot with
  | none => rfl
  | @some s t same =>
      have isLive : s.entity.isSome = t.entity.isSome := same.isLive
      show s.entity = t.entity
      cases held : t.entity with
      | none =>
          rw [held] at isLive
          exact Option.isSome_eq_false_iff.mp isLive |> Option.isNone_iff_eq_none.mp
      | some v =>
          have live : t.isLive = true := congrArg Option.isSome held
          exact (same.entity live).trans held

theorem Mirrors.missing : p.missing i = (q.missing i).raise δ := by
  unfold ShapePool.missing
  rw [mirrors.arena.generation? i, mirrors.arena.capacity]
  cases q.arena.generation? i <;> rfl

theorem Mirrors.get : Alike δ Eq (p.get i) (q.get i) := by
  unfold ShapePool.get
  rw [mirrors.get? i, mirrors.missing i]
  cases q.get? i with
  | some v => exact .ok rfl
  | none => exact .error _

theorem Mirrors.write (v : Option γ) :
    (⟨p.arena.write i v⟩ : ShapePool kind γ).Mirrors δ ⟨q.arena.write i v⟩ :=
  ⟨mirrors.arena.write (fun _ => rfl) i v⟩

theorem Mirrors.modify (f : γ → γ) : Alike δ (Mirrors δ) (p.modify i f) (q.modify i f) := by
  refine (mirrors.get i).bind fun v u same => .ok ?_
  exact same ▸ mirrors.write i (some (f v))

theorem Mirrors.remove : Alike δ (Mirrors δ) (p.remove i) (q.remove i) :=
  (mirrors.get i).bind fun _ _ _ => .ok (mirrors.write i none)

theorem Mirrors.cleared :
    (⟨p.arena.cleared⟩ : ShapePool kind γ).Mirrors δ ⟨q.arena.cleared⟩ :=
  ⟨mirrors.arena.cleared⟩

theorem Mirrors.insert {m m' : Memory} (memory : m.withoutTotals = m'.withoutTotals) (v : γ) :
    let out := (ShapePool.insert v).attempt.run (m, p)
    let out' := (ShapePool.insert v).attempt.run (m', q)
    Alike δ Eq out.answer out'.answer ∧
      out.state.1.withoutTotals = out'.state.1.withoutTotals ∧
      out.state.2.Mirrors δ out'.state.2 := by
  obtain ⟨alike, made⟩ := (mirrors.arena.beside memory).create (fun _ => rfl) (some v)
  dsimp only
  rw [run_insert, run_insert]
  refine ⟨alike.map fun g h same => ?_, made.memory, ⟨made.arena⟩⟩
  subst same
  rfl

end Mirrors

end ShapePool

namespace Shapes

variable {α : Type}

/-- The first geometry is ahead of the second, kind by kind. -/
structure Mirrors (δ : Offsets) (s t : Shapes α) : Prop where
  circles : s.circles.Mirrors δ t.circles
  rectangles : s.rectangles.Mirrors δ t.rectangles
  polygons : s.polygons.Mirrors δ t.polygons

section Mirrors

variable {s t : Shapes α} (mirrors : s.Mirrors δ t) (kind : ShapeKind) (i : Nat)

include mirrors

theorem Mirrors.get : Alike δ Eq (s.get kind i) (t.get kind i) := by
  cases kind with
  | empty => exact .ok rfl
  | circle => exact (mirrors.circles.get i).map fun _ _ => congrArg Shape.circle
  | rectangle => exact (mirrors.rectangles.get i).map fun _ _ => congrArg Shape.rectangle
  | polygon => exact (mirrors.polygons.get i).map fun _ _ => congrArg Shape.polygon

theorem Mirrors.placed [Scalar α] (offset : Vector2 α) :
    Alike δ Eq (s.placed kind i offset) (t.placed kind i offset) :=
  (mirrors.get kind i).map fun _ _ => congrArg (Shape.translate · offset)

theorem Mirrors.remove : Alike δ (Mirrors δ) (s.remove kind i) (t.remove kind i) := by
  cases kind with
  | empty => exact .ok mirrors
  | circle =>
      exact (mirrors.circles.remove i).bind fun _ _ freed => .ok { mirrors with circles := freed }
  | rectangle =>
      exact (mirrors.rectangles.remove i).bind fun _ _ freed =>
        .ok { mirrors with rectangles := freed }
  | polygon =>
      exact (mirrors.polygons.remove i).bind fun _ _ freed => .ok { mirrors with polygons := freed }

theorem Mirrors.reshape (r : Reshape α) :
    Alike δ (fun x y => x.1 = y.1 ∧ x.2.Mirrors δ y.2) (s.reshape i r) (t.reshape i r) := by
  cases r with
  | circle f =>
      refine (mirrors.circles.get i).bind fun c c' same => ?_
      exact (mirrors.circles.modify i f).bind fun _ _ changed =>
        .ok ⟨congrArg (Shape.circle ∘ f) same, { mirrors with circles := changed }⟩
  | rectangle f =>
      refine (mirrors.rectangles.get i).bind fun c c' same => ?_
      exact (mirrors.rectangles.modify i f).bind fun _ _ changed =>
        .ok ⟨congrArg (Shape.rectangle ∘ f) same, { mirrors with rectangles := changed }⟩
  | polygon f =>
      refine (mirrors.polygons.get i).bind fun c c' same => ?_
      exact (mirrors.polygons.modify i f).bind fun _ _ changed =>
        .ok ⟨congrArg (Shape.polygon ∘ f) same, { mirrors with polygons := changed }⟩

theorem Mirrors.insert {m m' : Memory} (memory : m.withoutTotals = m'.withoutTotals)
    (shape : Shape α) :
    let out := (Shapes.insert shape).attempt.run (m, s)
    let out' := (Shapes.insert shape).attempt.run (m', t)
    Alike δ Eq out.answer out'.answer ∧
      out.state.1.withoutTotals = out'.state.1.withoutTotals ∧
      out.state.2.Mirrors δ out'.state.2 := by
  cases shape with
  | empty => exact ⟨.error .nothingToStore, memory, mirrors⟩
  | circle c =>
      obtain ⟨alike, memory, made⟩ := mirrors.circles.insert memory c
      exact ⟨alike, memory, { mirrors with circles := made }⟩
  | rectangle r =>
      obtain ⟨alike, memory, made⟩ := mirrors.rectangles.insert memory r
      exact ⟨alike, memory, { mirrors with rectangles := made }⟩
  | polygon p =>
      obtain ⟨alike, memory, made⟩ := mirrors.polygons.insert memory p
      exact ⟨alike, memory, { mirrors with polygons := made }⟩

end Mirrors

end Shapes

end PlanarDynamics
