import PlanarDynamics.Proofs.Store.Refusal
import PlanarDynamics.Proofs.World.Books
import PlanarDynamics.Proofs.World.Telling

/-!
# Attaching colliders

A collider and its shape come together or not at all. When there is no body, no place for the
shape or no slot for the collider, attaching is refused (`World.Refused`), and a shape that is in
its place by then is taken back. What is left are free places in the store of its kind, with their
bytes (`World.Spares`); asked again, the world refuses in the same way, and no further bytes go
(`World.Refused.again`). Otherwise the world has gained a collider and its shape, and nothing else
has changed (`World.Gains`).

`World.attach_or_spare` puts this together for every world that a run passes through.
-/

set_option autoImplicit false

namespace PlanarDynamics

namespace World

variable {α L ρ : Type} [Scalar α]

/-! ## Refusals -/

section Refusals

variable {b : BodyRef} {shape : Shape α} {w : World α L} {fault : Fault} {memory : Memory}
  {shapes : Shapes α}

/-- Attaching a collider is refused with a fault, and leaves this memory and this geometry. -/
inductive Refused (b : BodyRef) (shape : Shape α) (w : World α L) (fault : Fault) :
    Memory → Shapes α → Prop
  /-- There is no such body. -/
  | body (gone : w.bodies.get b = .error fault) : Refused b shape w fault w.memory w.shapes
  /-- There is no place for the shape. -/
  | shape {body : Body α} (held : w.bodies.get b = .ok body)
      (refused : ((Shapes.insert shape).attempt.run (w.memory, w.shapes)).answer = .error fault) :
      Refused b shape w fault
        ((Shapes.insert shape).attempt.run (w.memory, w.shapes)).state.1 w.shapes
  /-- There is no slot for the collider, and the shape is taken back. -/
  | collider {body : Body α} {put : Memory × Shapes α} {place : Nat} {shapes : Shapes α}
      (held : w.bodies.get b = .ok body)
      (stored : ((Shapes.insert shape).attempt.run (w.memory, w.shapes)).answer = .ok place)
      (left : ((Shapes.insert shape).attempt.run (w.memory, w.shapes)).state = put)
      (refused : ((Arena.create (Collider.make b shape.kind place)).attempt.run
        (put.1, w.colliders)).answer = .error fault)
      (taken : put.2.remove shape.kind place = .ok shapes) :
      Refused b shape w fault ((Arena.create (Collider.make b shape.kind place)).attempt.run
        (put.1, w.colliders)).state.1 shapes

/-- What is left of a world that has refused to attach a collider. -/
theorem Refused.run (refused : Refused b shape w fault memory shapes) :
    let out := (attach b shape : Attempt α L ρ ColliderRef).attempt.run w
    out.answer = .error fault ∧ out.state = { w with memory := memory, shapes := shapes } := by
  rw [run_attach]
  cases refused with
  | body gone =>
      rw [gone]
      exact ⟨rfl, rfl⟩
  | shape held refused =>
      have same := Shapes.insert_refused refused
      simp only [held, refused, same, and_self]
  | collider held stored left refused taken =>
      have same := Arena.create_refused refused
      simp only [held, stored, left, refused, taken, same, and_self]

/-- Nothing is left of a refusal but free places in the store of a kind, and their bytes. -/
structure Spares (kind : ShapeKind) (w w' : World α L) : Prop where
  rest : w' = { w with memory := w'.memory, shapes := w'.shapes }
  /-- There are the same shapes at the same places. -/
  held : ∀ k i, w'.shapes.get? k i = w.shapes.get? k i
  padded : ∃ memory, Shapes.Padded kind (w.memory, w.shapes) (memory, w'.shapes) ∧
    w'.memory.withoutTotals = memory.withoutTotals

theorem Refused.spares (refused : Refused b shape w fault memory shapes) :
    w.Spares shape.kind { w with memory := memory, shapes := shapes } := by
  suffices padded : ∃ m, Shapes.Padded shape.kind (w.memory, w.shapes) (m, shapes) ∧
      memory.withoutTotals = m.withoutTotals by
    have ⟨_, pads, _⟩ := padded
    exact ⟨rfl, fun k i => pads.get? k i, padded⟩
  cases refused with
  | body gone => exact ⟨_, .refl _ _, rfl⟩
  | shape held refused => exact ⟨_, .refl _ _, (Shapes.refuses_insert refused).memory⟩
  | collider held stored left refused taken =>
      obtain ⟨shapes', pads, removed, _⟩ := Shapes.insert_then_remove stored
      rw [left] at pads removed
      obtain rfl : shapes' = shapes := Except.ok.inj (removed.symm.trans taken)
      exact ⟨_, pads, (Arena.refuses_create refused).memory⟩

/-- Asked again, the world refuses again, and no further bytes go. -/
theorem Refused.again (refused : Refused b shape w fault memory shapes) :
    ∃ memory', Refused b shape { w with memory := memory, shapes := shapes } fault memory' shapes ∧
      memory'.withoutTotals = memory.withoutTotals := by
  cases refused with
  | body gone => exact ⟨_, .body gone, rfl⟩
  | shape held refused =>
      have before := Shapes.refuses_insert refused
      have refused' := before.again _ before.memory
      exact ⟨_, .shape (w := { w with memory := _, shapes := w.shapes }) held refused',
        (Shapes.refuses_insert refused').memory⟩
  | collider held stored left refused taken =>
      obtain ⟨shapes', _, removed, again⟩ := Shapes.insert_then_remove stored
      rw [left] at removed again
      obtain rfl : shapes' = shapes := Except.ok.inj (removed.symm.trans taken)
      obtain ⟨stored', left'⟩ := again _
      have before := Arena.refuses_create refused
      have refused' := before.again _ before.memory
      exact ⟨_, .collider (w := { w with memory := _, shapes := shapes' }) held stored' left'
        refused' taken, (Arena.refuses_create refused').memory⟩

end Refusals

/-! ## Success -/

/-- The world has gained a collider of a body with a shape, under a handle of its own. -/
structure Gains (b : BodyRef) (shape : Shape α) (c : ColliderRef) (w w' : World α L) : Prop where
  rest : w' =
    { w with memory := w'.memory, shapes := w'.shapes, colliders := w'.colliders }
  /-- The handle named nothing. -/
  fresh : ∀ v, w.colliders.get c ≠ .ok v
  live : w'.colliders.contains c = true
  placed : ∃ body, w.bodies.get b = .ok body ∧
    w'.placedShape c = .ok (shape.translate body.position)
  others : ∀ d v, d ≠ c → (w'.colliders.get d = .ok v ↔ w.colliders.get d = .ok v)
  /-- The shape went to a place that was free, and no other place has changed. -/
  put : ∃ place, w.shapes.get? shape.kind place = none ∧
    w'.colliders.get c = .ok { Collider.make b shape.kind place with self := c } ∧ ∀ k i,
      w'.shapes.get? k i = if k = shape.kind ∧ i = place then some shape else w.shapes.get? k i

theorem gains_of_fills {b : BodyRef} {shape : Shape α} {w : World α L} {body : Body α}
    {place : Nat} {c : ColliderRef} {memory : Memory} {colliders : Arena .collider (Collider α)}
    (held : w.bodies.get b = .ok body)
    (stored : ((Shapes.insert shape).attempt.run (w.memory, w.shapes)).answer = .ok place)
    (fills : w.colliders.Fills { Collider.make b shape.kind place with self := c } c colliders) :
    w.Gains b shape c { w with
      memory := memory
      shapes := ((Shapes.insert shape).attempt.run (w.memory, w.shapes)).state.2
      colliders := colliders } := by
  have kind := kind_of_insert stored
  have live : Entity.isLive ({ Collider.make b shape.kind place with self := c } : Collider α) =
      true := decide_eq_true kind
  have found := fills.get live
  obtain ⟨free, put⟩ := Shapes.get?_insert stored
  constructor
  case rest => rfl
  case fresh => exact fills.vacant c rfl
  case live => exact (Arena.contains_iff_get_eq_ok _ _).mpr ⟨_, found⟩
  case placed =>
    have there := (Shapes.get_eq_ok_iff kind).mpr ((put _ _).trans (if_pos ⟨rfl, rfl⟩))
    exact ⟨body, held, placedShape_eq_ok_iff.mpr ⟨_, body, found, held,
      congrArg (Except.map fun s : Shape α => s.translate body.position) there⟩⟩
  case others =>
    intro d v other
    exact (fills.get_iff live).trans (or_iff_right fun new => other new.1)
  case put => exact ⟨place, free, found, put⟩

/-! ## Attaching -/

/-- Attaching a collider succeeds, or it is refused in one of the three ways. Taking the shape back
cannot fail, since its place has just been filled. -/
theorem attach_cases (b : BodyRef) (shape : Shape α) (w : World α L) :
    let out := (attach b shape : Attempt α L ρ ColliderRef).attempt.run w
    match out.answer with
    | .ok c => w.Gains b shape c out.state
    | .error fault => ∃ memory shapes, Refused b shape w fault memory shapes := by
  rw [run_attach]
  dsimp only
  cases held : w.bodies.get b with
  | error fault => exact ⟨_, _, .body held⟩
  | ok body =>
      dsimp only
      cases stored : ((Shapes.insert shape).attempt.run (w.memory, w.shapes)).answer with
      | error fault => exact ⟨_, _, .shape held stored⟩
      | ok place =>
          dsimp only
          cases made : ((Arena.create (Collider.make b shape.kind place)).attempt.run
            (((Shapes.insert shape).attempt.run (w.memory, w.shapes)).state.1, w.colliders)).answer
            with
          | error fault =>
              obtain ⟨shapes, _, taken, _⟩ := Shapes.insert_then_remove stored
              dsimp only
              rw [taken]
              exact ⟨_, _, .collider held stored rfl made taken⟩
          | ok c =>
              have live : Entity.isLive (Collider.make b shape.kind place : Collider α) = true :=
                decide_eq_true (kind_of_insert stored)
              have fills := Arena.create_fills made
              simp only [Arena.modify, fills.get live]
              exact gains_of_fills held stored (fills.write _)

/-- The bytes that attaching takes are those of the slots that it adds. -/
theorem used_attach {s : MemorySettings} {denied peak : Nat} {w : World α L}
    (balanced : w.holding.Balanced s denied peak) (b : BodyRef) (shape : Shape α) :
    let out := (attach b shape : Attempt α L ρ ColliderRef).attempt.run w
    out.state.slotBytes ≤ wordMax →
      out.state.memory.used + w.slotBytes = w.memory.used + out.state.slotBytes := by
  intro out word
  have before := used_of_balanced balanced
  have after := used_of_balanced ((grows_attach s w b shape (ρ := ρ)).balanced balanced word)
  rw [before, Nat.add_comm]
  exact congrArg (w.slotBytes + ·) after

/-- **A collider is attached whole or not at all.** At every point of a run, whatever the memory,
the body and the shape, a refusal leaves the world as it was except for free places in the store of
the shape's kind and the bytes of these, and asked again the world refuses in the same way without
using another byte. A success adds a live collider with the shape at its body, and all that was
there before stays. -/
theorem attach_or_spare (react : Reaction α L ρ) {settings : WorldSettings α} {start : World α L}
    (made : make settings = .ok start) (ops : List (Operation α L)) {past : List (Moment α L ρ)}
    {w : World α L} (passes : Passes (history react ops start) (after react ops start) past w)
    (b : BodyRef) (shape : Shape α) :
    let out := (attach b shape : Attempt α L ρ ColliderRef).attempt.run w
    match out.answer with
    | .ok c => w.Gains b shape c out.state
    | .error fault =>
      let again := (attach b shape : Attempt α L ρ ColliderRef).attempt.run out.state
      w.Spares shape.kind out.state ∧
        (settings.memory.Sized → Countable past w → out.state.slotBytes ≤ wordMax →
          out.state.memory.used + w.slotBytes = w.memory.used + out.state.slotBytes) ∧
        again.answer = .error fault ∧
        again.state = { out.state with memory := again.state.memory } ∧
        again.state.memory.used = out.state.memory.used := by
  intro out
  have outcome : match out.answer with
      | .ok c => w.Gains b shape c out.state
      | .error fault => ∃ memory shapes, Refused b shape w fault memory shapes :=
    attach_cases b shape w
  dsimp only
  cases answered : out.answer with
  | ok c =>
      rw [answered] at outcome
      exact outcome
  | error fault =>
      rw [answered] at outcome
      obtain ⟨memory, shapes, refused⟩ := outcome
      obtain ⟨_, state⟩ := refused.run (ρ := ρ)
      obtain ⟨memory', refused', same⟩ := refused.again
      obtain ⟨answer', state'⟩ := refused'.run (ρ := ρ)
      change out.state = _ at state
      have bytes : settings.memory.Sized → Countable past w → out.state.slotBytes ≤ wordMax →
          out.state.memory.used + w.slotBytes = w.memory.used + out.state.slotBytes := by
        intro sized countable word
        obtain ⟨peak, balanced, _⟩ := keepsBooks_of_passes react sized made ops passes countable
        exact used_attach balanced b shape word
      have spares : w.Spares shape.kind out.state := state ▸ refused.spares
      refine ⟨spares, bytes, ?_⟩
      rw [state, answer', state']
      exact ⟨rfl, rfl, Memory.used_congr same⟩

/-- A linear memory of 100 bytes, metered: a body and a circle fit in, a collider does not. -/
def cramped : WorldSettings Float32 :=
  { WorldSettings.standard with memory := ⟨.linear 100, true⟩ }

theorem attach_or_spare_cramped :
    let start : World Float32 Unit := blank cramped
    let react : Reaction Float32 Unit Unit := fun l _ _ => .done (l, ())
    let past := history react [.createBody] start
    let w := after react [.createBody] start
    let attached : Attempt Float32 Unit Unit ColliderRef := attach ⟨0, 0⟩ (.standard .circle)
    let out := attached.attempt.run w
    make cramped = .ok start ∧ Passes past w past w ∧ cramped.memory.Sized ∧ Countable past w ∧
      out.answer = .error (.allocationFailed 64 36) ∧ w.Spares .circle out.state ∧
      w.memory.used = 40 ∧ out.state.memory.used = 64 ∧
      (attached.attempt.run out.state).state.memory.used = 64 := by
  intro start react past w attached out
  have made : make cramped = .ok start := rfl
  have passes : Passes past w past w := .inl ⟨rfl, rfl⟩
  have sized : cramped.memory.Sized := by
    rintro capacity ⟨⟩
    decide
  have countable : Countable past w := by decide +kernel
  have answered : ((attach ⟨0, 0⟩ (.standard .circle) :
      Attempt Float32 Unit Unit ColliderRef).attempt.run w).answer =
        .error (.allocationFailed 64 36) := by decide +kernel
  have before : w.memory.used = 40 ∧ w.slotBytes = 40 := by decide +kernel
  have more : out.state.slotBytes = 64 := by decide +kernel
  have outcome := attach_or_spare react made [.createBody] passes ⟨0, 0⟩ (.standard .circle)
  dsimp only at outcome
  rw [answered] at outcome
  obtain ⟨spares, bytes, _, _, unused⟩ := outcome
  have full : out.state.memory.used = 64 := by
    have balance := bytes sized countable (more ▸ by decide)
    rw [before.1, before.2, Nat.add_comm] at balance
    exact (Nat.add_left_cancel balance).trans more
  exact ⟨made, passes, sized, countable, answered, spares, before.1, full, unused.trans full⟩

end World

end PlanarDynamics
