import PlanarDynamics.Proofs.Contact.Response
import PlanarDynamics.Proofs.Scalar.Binary32Signs

/-!
# The order of two bodies in a contact

A contact seen from the other body has the other normal, and resolving it with the bodies exchanged
does the same to each of them (`Solver.alike_resolve_flip`). The two computations are not the same:
the one pushes along the normal where the other pulls against its negative, sums are taken in the
other order and differences the other way round. So what they give is only alike, and all they can
disagree on is the sign of a zero. This needs the laws of signs only, and so is as true of binary32
numbers (`Solver.resolve_in_either_order`) as of exact ones.
-/

set_option autoImplicit false

namespace PlanarDynamics

section Alike

variable {α : Type} [Scalar α]

/-- Two bodies of the same mass, force and kind, alike in place and velocity. -/
structure Body.Alike (b b' : Body α) : Prop where
  position : b.position.Alike b'.position
  velocity : b.velocity.Alike b'.velocity
  mass : b.mass = b'.mass
  force : b.force = b'.force
  kind : b.kind = b'.kind

/-- Two resolutions that leave the bodies alike and have alike impulses. -/
structure Resolution.Alike (r r' : Resolution α) : Prop where
  first : r.first.Alike r'.first
  second : r.second.Alike r'.second
  impulse : Scalar.Alike r.impulse r'.impulse

theorem Body.Alike.refl (b : Body α) : b.Alike b := ⟨.refl _, .refl _, rfl, rfl, rfl⟩

theorem Resolution.Alike.refl (r : Resolution α) : r.Alike r := ⟨.refl _, .refl _, .refl _⟩

theorem Body.Alike.isMoving {b b' : Body α} (alike : b.Alike b') : b.isMoving = b'.isMoving := by
  rw [Body.isMoving, Body.isMoving, alike.kind]

theorem Body.Alike.inverseMass {b b' : Body α} (alike : b.Alike b') :
    b.inverseMass = b'.inverseMass := by
  rw [Body.inverseMass, Body.inverseMass, alike.isMoving, alike.mass]

/-- Alike bodies put at alike places are alike, whether they can be moved or not. -/
theorem Body.Alike.shift {b b' : Body α} (alike : b.Alike b') {p p' : Vector2 α}
    (places : p.Alike p') :
    (if b.isMoving then { b with position := p } else b).Alike
      (if b'.isMoving then { b' with position := p' } else b') := by
  rw [← alike.isMoving]
  split
  · exact ⟨places, alike.velocity, alike.mass, alike.force, alike.kind⟩
  · exact alike

end Alike

/-! ## The steps of a resolution, seen from the other body -/

variable {α : Type} [Scalar α] [SymmetricScalar α]

theorem Contact.flip_flip (c : Contact α) : c.flip.flip = c :=
  Contact.ext (Vector2.neg_neg c.normal) rfl rfl

theorem pairRestitution_alike_comm (massA ra massB rb : α) :
    Scalar.Alike (pairRestitution massA ra massB rb) (pairRestitution massB rb massA ra) := by
  unfold pairRestitution
  rw [SymmetricScalar.add_comm massB, SymmetricScalar.add_comm (rb * massB)]
  split
  · exact Scalar.lower_alike_comm ra rb
  · exact .refl _

namespace Solver

theorem separating_flip (a b : Body α) (normal : Vector2 α) :
    separating b a (-normal) = separating a b normal := by
  have turned := Vector2.dot_alike_of_turned a.velocity b.velocity normal
  exact decide_eq_decide.mpr ((Scalar.Alike.refl 0).lt_iff turned).symm

theorem impulse_flip (a b : Body α) {e e' : α} (alike : Scalar.Alike e e') (normal : Vector2 α)
    (m : α) : Scalar.Alike (impulse a b e normal m) (impulse b a e' (-normal) m) :=
  ((((Scalar.Alike.refl 1).add alike).neg).mul (Vector2.dot_alike_of_turned _ _ _)).div m

/-- What pushes a body along a normal pulls it against the turned normal. -/
theorem push_alike_pull (b : Body α) (normal : Vector2 α) {j j' : α} (alike : Scalar.Alike j j') :
    (push b normal j).Alike (pull b (-normal) j') := by
  unfold push pull
  split
  · refine ⟨.refl _, ?_, rfl, rfl, rfl⟩
    dsimp only
    rw [Vector2.neg_mul, Vector2.sub_neg]
    exact (Vector2.Alike.refl _).add (Vector2.mul_alike normal (alike.mul (.refl _)))
  · exact .refl b

/-- What pulls a body against a normal pushes it along the turned normal. -/
theorem pull_alike_push (b : Body α) (normal : Vector2 α) {j j' : α} (alike : Scalar.Alike j j') :
    (pull b normal j).Alike (push b (-normal) j') := by
  unfold push pull
  split
  · refine ⟨.refl _, ?_, rfl, rfl, rfl⟩
    dsimp only
    rw [Vector2.neg_mul, ← Vector2.sub_eq_add_neg]
    exact (Vector2.Alike.refl _).sub (Vector2.mul_alike normal (alike.mul (.refl _)))
  · exact .refl b

theorem correction_flip (s : Solver α) (c : Contact α) (m : α) :
    s.correction c.flip m = -s.correction c m :=
  Vector2.neg_mul c.normal _

theorem separate_flip (s : Solver α) {a a' b b' : Body α} (first : a.Alike a') (second : b.Alike b')
    (c : Contact α) (m : α) :
    (s.separate a b c m).1.Alike (s.separate b' a' c.flip m).2 ∧
      (s.separate a b c m).2.Alike (s.separate b' a' c.flip m).1 := by
  have excess : s.excess c.flip = s.excess c := rfl
  unfold separate
  rw [excess]
  split
  · exact ⟨first, second⟩
  · dsimp only
    rw [correction_flip, Vector2.neg_mul, Vector2.neg_mul, Vector2.sub_neg,
      ← Vector2.sub_eq_add_neg, ← first.inverseMass, ← second.inverseMass]
    exact ⟨first.shift (first.position.add (.refl _)), second.shift (second.position.sub (.refl _))⟩

theorem settle_flip (s : Solver α) (a b : Body α) (ra rb : α) (c : Contact α) :
    (s.settle a b ra rb c).Alike (s.settle b a rb ra c.flip).swap := by
  have normal : c.flip.normal = -c.normal := rfl
  unfold settle
  dsimp only
  rw [normal, separating_flip, SymmetricScalar.add_comm b.inverseMass]
  split
  · exact .refl _
  · split
    · obtain ⟨first, second⟩ :=
        s.separate_flip (.refl a) (.refl b) c (a.inverseMass + b.inverseMass)
      exact ⟨first, second, .refl 0⟩
    · have impulses := impulse_flip a b (pairRestitution_alike_comm a.mass ra b.mass rb) c.normal
        (a.inverseMass + b.inverseMass)
      obtain ⟨first, second⟩ := s.separate_flip (push_alike_pull a c.normal impulses)
        (pull_alike_push b c.normal impulses) c (a.inverseMass + b.inverseMass)
      exact ⟨first, second, impulses⟩

/-- Resolving a contact in either order leaves both bodies alike. When one body is fixed, the other
one comes first in both orders. -/
theorem alike_resolve_flip (s : Solver α) (a b : Body α) (ra rb : α) (c : Contact α) :
    (s.resolve a b ra rb c).Alike (s.resolve b a rb ra c.flip).swap := by
  unfold resolve
  rw [c.flip_flip, a.isMoving_eq_not_isFixed, b.isMoving_eq_not_isFixed]
  cases a.isFixed <;> cases b.isFixed
  · exact s.settle_flip a b ra rb c
  · exact .refl _
  · exact .refl _
  · exact s.settle_flip a b ra rb c

/-- **The order of the bodies does not matter.** With binary32 numbers, and for every two bodies,
restitutions and contact, the body of one order is alike to the same body of the other order in
every field, and the impulses are alike. -/
theorem resolve_in_either_order (s : Solver Float32) (a b : Body Float32) (ra rb : Float32)
    (c : Contact Float32) :
    let r := s.resolve a b ra rb c
    let r' := s.resolve b a rb ra c.flip
    r.first.Alike r'.second ∧ r.second.Alike r'.first ∧ Scalar.Alike r.impulse r'.impulse :=
  let alike := s.alike_resolve_flip a b ra rb c
  ⟨alike.first, alike.second, alike.impulse⟩

end Solver

end PlanarDynamics
