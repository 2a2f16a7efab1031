import PlanarDynamics.Proofs.Scalar.Binary32
import PlanarDynamics.Proofs.World.Frames

/-!
# When a handle is issued twice

A handle is meant to name one entity for ever. The stores of a world keep to this with one
exception: an entity that is changed in place into one that is not live leaves its slot vacant
without a new generation, and the next entity in the slot gets the same handle. A run therefore
issues a handle that it has issued before exactly when that handle was discarded in the meantime
(`World.reissued_iff_discarded`), at the top level as well as inside callbacks, and for bodies as
for colliders.
-/

set_option autoImplicit false

namespace PlanarDynamics

variable {α L ρ : Type}

namespace Moment

/-- The body that is created at a moment. -/
def issuedBody? : Moment α L ρ → Option BodyRef
  | asked _ op answer => op.issuedBody? answer
  | told _ => none

/-- The collider that is created at a moment. -/
def issuedCollider? : Moment α L ρ → Option ColliderRef
  | asked _ op answer => op.issuedCollider? answer
  | told _ => none

variable [Scalar α]

/-- The body that is changed at a moment into one that is not live. -/
def discardedBody? : Moment α L ρ → Option BodyRef
  | asked _ op answer => op.discardedBody? answer
  | told _ => none

/-- The collider that is changed at a moment into one that is not live. -/
def discardedCollider? : Moment α L ρ → Option ColliderRef
  | asked _ op answer => op.discardedCollider? answer
  | told _ => none

/-- A moment issues a handle again only if it has been discarded. -/
def ReissuesDiscarded (earlier : List (Moment α L ρ)) (m : Moment α L ρ) : Prop :=
  (∀ b ∈ m.issuedBody?,
      b ∈ earlier.filterMap issuedBody? ↔ b ∈ earlier.filterMap discardedBody?) ∧
    ∀ c ∈ m.issuedCollider?,
      c ∈ earlier.filterMap issuedCollider? ↔ c ∈ earlier.filterMap discardedCollider?

end Moment

namespace World

variable [Scalar α]

/-- The ledgers of the bodies and of the colliders agree with the past, which has issued again
what was discarded and nothing else. -/
structure Accounts (past : List (Moment α L ρ)) (w : World α L) : Prop where
  bodies : w.bodies.Ledger (past.filterMap Moment.issuedBody?)
    (past.filterMap Moment.discardedBody?)
  colliders : w.colliders.Ledger (past.filterMap Moment.issuedCollider?)
    (past.filterMap Moment.discardedCollider?)
  reissued : ∀ earlier m later, past = earlier ++ m :: later → m.ReissuesDiscarded earlier

theorem Accounts.concat {past : List (Moment α L ρ)} {w w' : World α L} {m : Moment α L ρ}
    {same : BodyRef → Body α → Body α → Prop} {same' : ColliderRef → Collider α → Collider α → Prop}
    (accounts : Accounts past w)
    (bodies : w.bodies.Evolves same w'.bodies m.issuedBody? m.discardedBody?)
    (colliders : w.colliders.Evolves same' w'.colliders m.issuedCollider? m.discardedCollider?) :
    Accounts (past ++ [m]) w' where
  bodies := by
    rw [filterMap_concat, filterMap_concat]
    exact accounts.bodies.step bodies
  colliders := by
    rw [filterMap_concat, filterMap_concat]
    exact accounts.colliders.step colliders
  reissued := by
    intro earlier n later split
    rcases split_concat split with ⟨rfl, rfl⟩ | ⟨rest, inside⟩
    · constructor
      · intro b issued
        rw [Option.mem_def.mp issued] at bodies
        exact accounts.bodies.reissued_iff bodies
      · intro c issued
        rw [Option.mem_def.mp issued] at colliders
        exact accounts.colliders.reissued_iff colliders
    · exact accounts.reissued earlier n rest inside

/-- A world without entities has nothing to account for. -/
theorem accounts_of_vacant {w : World α L} (bodies : ∀ b v, w.bodies.get b ≠ .ok v)
    (colliders : ∀ c v, w.colliders.get c ≠ .ok v) :
    Accounts ([] : List (Moment α L ρ)) w where
  bodies := Arena.ledger_of_vacant bodies
  colliders := Arena.ledger_of_vacant colliders
  reissued := fun _ _ _ split => absurd split (by simp)

/-- What changes no name needs no new account. -/
theorem Accounts.of_evolves {past : List (Moment α L ρ)} {w w' : World α L}
    {same : BodyRef → Body α → Body α → Prop} {same' : ColliderRef → Collider α → Collider α → Prop}
    (accounts : Accounts past w) (bodies : w.bodies.Evolves same w'.bodies none none)
    (colliders : w.colliders.Evolves same' w'.colliders none none) : Accounts past w' where
  bodies := by
    have step := accounts.bodies.step bodies
    rwa [Option.toList_none, List.append_nil, List.append_nil] at step
  colliders := by
    have step := accounts.colliders.step colliders
    rwa [Option.toList_none, List.append_nil, List.append_nil] at step
  reissued := accounts.reissued

theorem accounts_inside [OrderedScalar α] :
    CarriedInside (Accounts : List (Moment α L ρ) → World α L → Prop) := by
  intro past w op accounts
  have effect := op.effect_perform w (ρ := ρ)
  exact accounts.concat effect.bodies effect.colliders

theorem accounts_drift : KeptByDrift (Accounts : List (Moment α L ρ) → World α L → Prop) := by
  intro past w w' accounts drifts
  have colliders : w.colliders.Evolves (fun _ => Eq) w'.colliders none none := by
    rw [drifts.colliders]
    exact Arena.evolves_refl w.colliders
  exact accounts.of_evolves drifts.bodies colliders

theorem accounts_told : KeptByTelling (Accounts : List (Moment α L ρ) → World α L → Prop) := by
  intro past c accounts
  exact accounts.concat (Arena.evolves_refl _) (Arena.evolves_refl _)

theorem accounts_tracking :
    KeptByTracking (Accounts : List (Moment α L ρ) → World α L → Prop) :=
  fun _ _ _ accounts => ⟨accounts.bodies, accounts.colliders, accounts.reissued⟩

/-- The ledgers account for every run. -/
theorem accounts_history [OrderedScalar α] (react : Reaction α L ρ) (ops : List (Operation α L))
    {w : World α L} (start : Accounts ([] : List (Moment α L ρ)) w) :
    Accounts (history react ops w) (after react ops w) :=
  holds_history accounts_inside
    (carriedByUpdates_of_carries accounts_inside
      (carries_update accounts_inside accounts_drift accounts_told accounts_tracking))
    ops [] w start

/-! ## Runs from the start -/

/-- A new world has no entities. -/
theorem vacant_of_make {settings : WorldSettings α} {w : World α L} (made : make settings = .ok w) :
    (∀ b v, w.bodies.get b ≠ .ok v) ∧ ∀ c v, w.colliders.get c ≠ .ok v := by
  have settles := settles_of_make made
  exact ⟨fun b v found => Arena.get_empty _ b v ((settles.bodies.get b v).mp found),
    fun c v found => Arena.get_empty _ c v ((settles.colliders.get c v).mp found)⟩

/-- **A handle is issued again exactly when it was discarded.** In every run from the creation of
a world, a body or a collider gets a handle that was issued before if and only if, at an earlier
moment, the entity under that handle was changed in place into one that is not live. -/
theorem reissued_iff_discarded [OrderedScalar α] (react : Reaction α L ρ)
    (settings : WorldSettings α) {w : World α L} (made : make settings = .ok w)
    (ops : List (Operation α L)) {earlier later : List (Moment α L ρ)} {m : Moment α L ρ}
    (split : history react ops w = earlier ++ m :: later) : m.ReissuesDiscarded earlier :=
  (accounts_history react ops
    (accounts_of_vacant (vacant_of_make made).1 (vacant_of_make made).2)).reissued earlier m later
    split

/-- A body that loses its mass gives its handle to the next one. -/
theorem reissued_after_losing_mass :
    let start : World Float32 Unit := blank .standard
    let idle : Reaction Float32 Unit Unit := fun l _ _ => .done (l, ())
    let before : List (Operation Float32 Unit) :=
      [.createBody, .editBody ⟨0, 0⟩ fun b => { b with mass := 0 }]
    let last : Moment Float32 Unit Unit := .asked (after idle before start) .createBody
      ((createBody : Attempt Float32 Unit Unit BodyRef).attempt.run
        (after idle before start)).answer
    last.issuedBody? = some ⟨0, 0⟩ ∧
      ⟨0, 0⟩ ∈ (history idle before start).filterMap Moment.issuedBody? ∧
      last.ReissuesDiscarded (history idle before start) := by
  intro start idle before last
  have split : history idle (before ++ [.createBody]) start =
      history idle before start ++ [last] := by
    have one : history idle [.createBody] (after idle before start) = [last] := by
      rw [history, moments_of_ne_update (by simp)]
      rfl
    rw [history_append, one]
  have reissued := reissued_iff_discarded idle .standard (w := start) rfl _ split
  have issued : last.issuedBody? = some ⟨0, 0⟩ := by decide +kernel
  have discarded : ⟨0, 0⟩ ∈ (history idle before start).filterMap Moment.discardedBody? := by
    decide +kernel
  exact ⟨issued, (reissued.1 _ issued).mpr discarded, reissued⟩

end World

end PlanarDynamics
