import PlanarDynamics.Contact.Solver

/-!
# What motion and contacts change

A step of time changes the place and the velocity of a moving body and uses up the force
(`Body.step_of_isFixed`). A contact changes place and velocity only: mass, force and kind of both
bodies stay, and a fixed body stays as it is altogether (`Body.Nudged`, `Solver.nudged_resolve`).
Nothing is assumed of the numbers, so all of this is as true of infinities as of numbers.
-/

set_option autoImplicit false

namespace PlanarDynamics

variable {α : Type} [Scalar α]

namespace Body

/-! ## A step of time -/

theorem mass_step (b : Body α) (gravity : Vector2 α) (dt : α) :
    (b.step gravity dt).mass = b.mass :=
  (mass_integrate _ dt).trans (mass_applyGravity b gravity)

theorem kind_step (b : Body α) (gravity : Vector2 α) (dt : α) :
    (b.step gravity dt).kind = b.kind :=
  (kind_integrate _ dt).trans (kind_applyGravity b gravity)

theorem force_step (b : Body α) (gravity : Vector2 α) (dt : α) : (b.step gravity dt).force = 0 :=
  force_integrate _ dt

/-- A fixed body only loses its force. -/
theorem step_of_isFixed {b : Body α} (fixed : b.kind = .fixed) (gravity : Vector2 α) (dt : α) :
    b.step gravity dt = b.clearForce := by
  have still : b.isMoving = false := by rw [isMoving, fixed]; rfl
  have free : b.applyGravity gravity = b := by rw [applyGravity, still]; rfl
  rw [step, free, integrate, still]
  rfl

theorem isLive_of_mass_eq {a b : Body α} (same : a.mass = b.mass) : a.isLive = b.isLive := by
  unfold isLive
  rw [same]

theorem isLive_step (b : Body α) (gravity : Vector2 α) (dt : α) :
    (b.step gravity dt).isLive = b.isLive :=
  isLive_of_mass_eq (mass_step b gravity dt)

/-! ## A contact -/

/-- What a contact can do to a body: give it another place and another velocity, unless it is
fixed. -/
structure Nudged (b b' : Body α) : Prop where
  mass : b'.mass = b.mass
  force : b'.force = b.force
  kind : b'.kind = b.kind
  fixed : b.kind = .fixed → b' = b

omit [Scalar α] in
theorem Nudged.refl (b : Body α) : b.Nudged b := ⟨rfl, rfl, rfl, fun _ => rfl⟩

omit [Scalar α] in
theorem Nudged.trans {b b' b'' : Body α} (first : b.Nudged b') (second : b'.Nudged b'') :
    b.Nudged b'' where
  mass := second.mass.trans first.mass
  force := second.force.trans first.force
  kind := second.kind.trans first.kind
  fixed := fun fixed => (second.fixed (first.kind.trans fixed)).trans (first.fixed fixed)

omit [Scalar α] in
/-- A moving body is put elsewhere. -/
theorem nudged_of_isMoving {b : Body α} (moving : b.isMoving = true) (position : Vector2 α)
    (velocity : Vector2 α) : b.Nudged { b with position := position, velocity := velocity } where
  mass := rfl
  force := rfl
  kind := rfl
  fixed := by
    intro fixed
    rw [isMoving, fixed] at moving
    cases moving

theorem Nudged.isLive {b b' : Body α} (nudged : b.Nudged b') : b'.isLive = b.isLive :=
  isLive_of_mass_eq nudged.mass

end Body

namespace Solver

theorem nudged_push (b : Body α) (normal : Vector2 α) (j : α) : b.Nudged (push b normal j) := by
  unfold push
  split
  · rename_i moving
    exact Body.nudged_of_isMoving moving b.position _
  · exact .refl b

theorem nudged_pull (b : Body α) (normal : Vector2 α) (j : α) : b.Nudged (pull b normal j) := by
  unfold pull
  split
  · rename_i moving
    exact Body.nudged_of_isMoving moving b.position _
  · exact .refl b

theorem nudged_separate (s : Solver α) (a b : Body α) (c : Contact α) (m : α) :
    a.Nudged (s.separate a b c m).1 ∧ b.Nudged (s.separate a b c m).2 := by
  have shifted : ∀ (v : Body α) (position : Vector2 α),
      v.Nudged (if v.isMoving then { v with position := position } else v) := by
    intro v position
    split
    · rename_i moving
      exact Body.nudged_of_isMoving moving position v.velocity
    · exact .refl v
  unfold separate
  split
  · exact ⟨.refl a, .refl b⟩
  · exact ⟨shifted a _, shifted b _⟩

theorem nudged_settle (s : Solver α) (a b : Body α) (ra rb : α) (c : Contact α) :
    a.Nudged (s.settle a b ra rb c).first ∧ b.Nudged (s.settle a b ra rb c).second := by
  unfold settle
  dsimp only
  split
  · exact ⟨.refl a, .refl b⟩
  · split
    · exact nudged_separate s a b c _
    · obtain ⟨first, second⟩ := nudged_separate s
        (push a c.normal (impulse a b (pairRestitution a.mass ra b.mass rb) c.normal _))
        (pull b c.normal (impulse a b (pairRestitution a.mass ra b.mass rb) c.normal _)) c _
      exact ⟨(nudged_push a _ _).trans first, (nudged_pull b _ _).trans second⟩

/-- **Resolving a contact nudges both bodies.** -/
theorem nudged_resolve (s : Solver α) (a b : Body α) (ra rb : α) (c : Contact α) :
    a.Nudged (s.resolve a b ra rb c).first ∧ b.Nudged (s.resolve a b ra rb c).second := by
  unfold resolve
  split
  · exact (nudged_settle s b a rb ra c.flip).symm
  · exact nudged_settle s a b ra rb c

end Solver

end PlanarDynamics
