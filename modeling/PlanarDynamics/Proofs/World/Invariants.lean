import PlanarDynamics.Proofs.World.Frames

/-!
# Invariants of worlds

A run passes through a world at each of its moments, at any depth, and through the one it ends in
(`World.Passes`). What operations, motion, telling the listener and keeping track of the touching
pairs carry on is true of every past and the world it has led to (`World.along_history`).

In particular, a property of worlds that operations keep, as long as callers keep to some rule, and
that neither motion nor the touching pairs can break is true of every world that a run passes
through after moments that keep to the rule (`World.throughout_history`).
-/

set_option autoImplicit false

namespace PlanarDynamics

variable {α L ρ : Type}

namespace World

/-- With these moments behind it, the run is at the world: at the end, or at its next moment. -/
def Passes (whole : List (Moment α L ρ)) (final : World α L) (past : List (Moment α L ρ))
    (w : World α L) : Prop :=
  past = whole ∧ w = final ∨ ∃ m later, whole = past ++ m :: later ∧ w = m.world

/-- One more moment adds the world that comes after it. -/
theorem passes_concat {whole past : List (Moment α L ρ)} {m : Moment α L ρ} {final w : World α L}
    (passes : Passes (whole ++ [m]) final past w) :
    past = whole ++ [m] ∧ w = final ∨ Passes whole m.world past w := by
  rcases passes with last | ⟨n, later, split, here⟩
  · exact .inl last
  · rcases split_concat split with ⟨rfl, rfl⟩ | ⟨rest, before⟩
    · exact .inr (.inl ⟨rfl, here⟩)
    · exact .inr (.inr ⟨n, rest, before, here⟩)

/-- The property is true of every past of a run and the world it has led to. -/
def Along (holds : List (Moment α L ρ) → World α L → Prop) (whole : List (Moment α L ρ))
    (final : World α L) : Prop :=
  ∀ past w, Passes whole final past w → holds past w

/-- The property is true of every world so far, as long as the moments before it keep to the
rule. -/
def Throughout (rule : Moment α L ρ → Prop) (P : World α L → Prop) (whole : List (Moment α L ρ))
    (final : World α L) : Prop :=
  ∀ past w, Passes whole final past w → (∀ m ∈ past, rule m) → P w

section Along

variable {holds : List (Moment α L ρ) → World α L → Prop} {whole : List (Moment α L ρ)}
  {w w' : World α L}

/-- The start of a run. -/
theorem along_nil (start : holds [] w) : Along holds [] w := by
  rintro past v (⟨rfl, rfl⟩ | ⟨m, later, split, _⟩)
  · exact start
  · exact absurd split (by simp)

/-- A change without a moment need only keep the property. -/
theorem Along.change (along : Along holds whole w) (keeps : holds whole w → holds whole w') :
    Along holds whole w' := by
  rintro past v (⟨rfl, rfl⟩ | before)
  · exact keeps (along past w (.inl ⟨rfl, rfl⟩))
  · exact along past v (.inr before)

/-- A moment need only keep the property. -/
theorem Along.concat {m : Moment α L ρ} (along : Along holds whole m.world)
    (keeps : holds whole m.world → holds (whole ++ [m]) w') : Along holds (whole ++ [m]) w' := by
  intro past w passes
  rcases passes_concat passes with ⟨rfl, rfl⟩ | before
  · exact keeps (along whole m.world (.inl ⟨rfl, rfl⟩))
  · exact along past w before

variable [Scalar α]

/-- **What operations, drift, telling and tracking carry on is true all along a run.** -/
theorem along_history (inside : CarriedInside holds) (drift : KeptByDrift holds)
    (told : KeptByTelling holds) (tracking : KeptByTracking holds) (react : Reaction α L ρ)
    (ops : List (Operation α L)) {start : World α L} (initially : holds [] start) :
    Along holds (history react ops start) (after react ops start) := by
  have inside' : CarriedInside (Along holds) := fun past w op along =>
    along.concat (inside past w op)
  have drift' : KeptByDrift (Along holds) := fun past w w' along drifts =>
    along.change fun held => drift past w w' held drifts
  have told' : KeptByTelling (Along holds) := fun past c along => along.concat (told past c)
  have tracking' : KeptByTracking (Along holds) := fun past w touching along =>
    along.change (tracking past w touching)
  exact holds_history inside'
    (carriedByUpdates_of_carries inside' (carries_update inside' drift' told' tracking'))
    ops [] start (along_nil initially)

end Along

variable [Scalar α] {rule : Moment α L ρ → Prop} {P : World α L → Prop}

/-- What operations within the rule keep true. -/
def KeptByOperations (rule : Moment α L ρ → Prop) (P : World α L → Prop) : Prop :=
  ∀ (w : World α L) (op : Operation α L),
    let out := (op.perform (refuseUpdate : α → Action α L ρ Unit)).run w
    rule (.asked w op out.answer) → P w → P out.state

/-- **A property that operations keep is true throughout a run.** -/
theorem throughout_history (operations : KeptByOperations rule P)
    (drift : ∀ w w' : World α L, w.Drifts w' → P w → P w')
    (tracking : ∀ (w : World α L) touching, P w → P { w with touching := touching })
    (react : Reaction α L ρ) (ops : List (Operation α L)) {start : World α L}
    (initially : P start) :
    Throughout rule P (history react ops start) (after react ops start) := by
  let holds : List (Moment α L ρ) → World α L → Prop := fun past w => (∀ m ∈ past, rule m) → P w
  have inside : CarriedInside holds := by
    intro past w op held out kept
    obtain ⟨kept, last⟩ := List.forall_mem_append.mp kept
    exact operations w op (last _ (List.mem_singleton_self _)) (held kept)
  have drifting : KeptByDrift holds := fun past w w' held drifts kept =>
    drift w w' drifts (held kept)
  have telling : KeptByTelling holds := fun past c held kept =>
    held (List.forall_mem_append.mp kept).1
  have tracked : KeptByTracking holds := fun past w touching held kept =>
    tracking w touching (held kept)
  exact along_history inside drifting telling tracked react ops fun _ => initially

end World

end PlanarDynamics
