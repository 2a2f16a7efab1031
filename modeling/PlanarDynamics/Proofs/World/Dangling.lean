import PlanarDynamics.Proofs.World.Housing

/-!
# Colliders that have lost their geometry

Destroying a collider takes it out of its slot first and frees the place of its shape then. The
second step fails for a collider that dangles: it says that its shape is at a place where there is
none (`World.Dangles`). The answer is then a fault of the shapes, while the collider is gone, and
only the collider (`World.run_destroyCollider_of_dangles`). Whatever else goes wrong leaves the
world as it is (`World.state_destroyCollider_of_error`).

A collider dangles only after its kind, its place or its handle have been edited: in a world that
is housed every collider has its shape. `World.half_destroyed_iff` puts this together for every
world that a run passes through.
-/

set_option autoImplicit false

namespace PlanarDynamics

/-! ## Freeing places -/

theorem ShapePool.get?_of_remove {kind : ShapeKind} {γ : Type} {p q : ShapePool kind γ} {i : Nat}
    (removed : p.remove i = .ok q) : ∃ v, p.get? i = some v := by
  obtain ⟨v, found, _⟩ := bind_pure_eq_ok_iff.mp removed
  exact ⟨v, get_eq_ok_iff.mp found⟩

/-- A place that can be freed holds a shape. -/
theorem Shapes.stores_of_remove {α : Type} {s t : Shapes α} {kind : ShapeKind} {i : Nat}
    (real : kind ≠ .empty) (removed : s.remove kind i = .ok t) : s.Stores kind i := by
  refine stores_iff_get?.mpr ?_
  cases kind with
  | empty => exact absurd rfl real
  | circle | rectangle | polygon =>
      obtain ⟨_, freed, _⟩ := bind_pure_eq_ok_iff.mp removed
      obtain ⟨v, held⟩ := ShapePool.get?_of_remove freed
      exact ⟨_, congrArg (Option.map _) held⟩

namespace World

variable {α L ρ : Type} [Scalar α] {w : World α L} {c : ColliderRef}

/-- The collider has its geometry at a place where there is none. -/
def Dangles (w : World α L) (c : ColliderRef) : Prop :=
  ∃ kind i, w.Occupies c kind i ∧ ¬ w.shapes.Stores kind i

theorem Housed.not_dangles (housed : w.Housed) : ¬ w.Dangles c :=
  fun ⟨kind, i, occupied, missing⟩ => missing (housed.home c kind i occupied)

/-! ## Destroying -/

/-- A collider that dangles is gone although the answer is a fault of the shapes. -/
theorem run_destroyCollider_of_dangles (dangles : w.Dangles c) :
    ∃ v fault colliders, w.colliders.get c = .ok v ∧
      w.shapes.remove v.kind v.place = .error fault ∧ w.colliders.destroy c = .ok colliders ∧
      (destroyCollider c : Attempt α L ρ Unit).attempt.run w =
        ⟨.error fault, { w with colliders := colliders }, []⟩ := by
  obtain ⟨_, _, ⟨v, found, rfl, rfl⟩, missing⟩ := dangles
  have real : v.kind ≠ .empty := of_decide_eq_true (Arena.get_eq_ok_iff.mp found).2
  obtain ⟨colliders, done⟩ : ∃ colliders, w.colliders.destroy c = .ok colliders :=
    ⟨_, by rw [Arena.destroy, found]; rfl⟩
  cases removed : w.shapes.remove v.kind v.place with
  | ok shapes => exact absurd (Shapes.stores_of_remove real removed) missing
  | error fault =>
      refine ⟨v, fault, colliders, found, removed, done, ?_⟩
      rw [run_destroyCollider, found, done]
      dsimp only
      rw [removed]

/-- Destroying any other collider is all or nothing. -/
theorem state_destroyCollider_of_error (tied : ¬ w.Dangles c) {fault : Fault}
    (answered : ((destroyCollider c : Attempt α L ρ Unit).attempt.run w).answer = .error fault) :
    ((destroyCollider c : Attempt α L ρ Unit).attempt.run w).state = w := by
  rw [run_destroyCollider] at answered ⊢
  cases found : w.colliders.get c with
  | error _ => rfl
  | ok v =>
      cases done : w.colliders.destroy c with
      | error _ => rfl
      | ok colliders =>
          have stored : w.shapes.Stores v.kind v.place := by
            by_contra missing
            exact tied ⟨_, _, ⟨v, found, rfl, rfl⟩, missing⟩
          obtain ⟨shapes, removed⟩ := Shapes.exists_remove stored
          rw [found, done] at answered
          dsimp only at answered
          rw [removed] at answered
          cases answered

/-- **A collider is destroyed halfway exactly when it dangles.** At every point of a run, destroying
a collider that dangles answers a fault, and the collider is gone while everything else stays; any
other fault leaves the world as it is. No collider dangles as long as edits leave alone what ties
colliders to their geometry. -/
theorem half_destroyed_iff (react : Reaction α L ρ) {settings : WorldSettings α}
    {start : World α L} (made : make settings = .ok start) (ops : List (Operation α L))
    {past : List (Moment α L ρ)}
    (passes : Passes (history react ops start) (after react ops start) past w) (c : ColliderRef) :
    let out := (destroyCollider c : Attempt α L ρ Unit).attempt.run w
    ((∃ fault, out.answer = .error fault) ∧ out.state ≠ w ↔ w.Dangles c) ∧
      (w.Dangles c → ∃ colliders, w.colliders.destroy c = .ok colliders ∧
        out.state = { w with colliders := colliders }) ∧
      ((∀ m ∈ past, m.KeepsLinks) → ¬ w.Dangles c) := by
  intro out
  have halfway : w.Dangles c → ∃ fault colliders, w.colliders.destroy c = .ok colliders ∧
      out.answer = .error fault ∧ out.state = { w with colliders := colliders } := by
    intro dangles
    obtain ⟨_, fault, colliders, _, _, done, run⟩ :=
      run_destroyCollider_of_dangles dangles (ρ := ρ)
    exact ⟨fault, colliders, done, congrArg Outcome.answer run, congrArg Outcome.state run⟩
  refine ⟨⟨?_, ?_⟩, ?_, ?_⟩
  · rintro ⟨⟨fault, answered⟩, changed⟩
    by_contra tied
    exact changed (state_destroyCollider_of_error tied answered)
  · intro dangles
    obtain ⟨fault, colliders, done, answered, state⟩ := halfway dangles
    refine ⟨⟨fault, answered⟩, fun same => ?_⟩
    obtain ⟨_, _, ⟨v, found, _⟩, _⟩ := dangles
    have kept : colliders = w.colliders := congrArg World.colliders (state.symm.trans same)
    exact ((Arena.get_destroy_iff done).mp (kept ▸ found)).2 rfl
  · intro dangles
    obtain ⟨_, colliders, done, _, state⟩ := halfway dangles
    exact ⟨colliders, done, state⟩
  · exact fun kept => (housed_of_passes react made ops passes kept).not_dangles

/-- A collider is told that its circle is at the eighth place. -/
def misplacing : List (Operation Float32 Unit) :=
  [.createBody, .createCollider ⟨0, 0⟩ .circle,
    .editCollider ⟨0, 0⟩ fun c => { c with place := 7 }]

theorem half_destroyed_iff_misplacing :
    let start : World Float32 Unit := blank .standard
    let react : Reaction Float32 Unit Unit := fun l _ _ => .done (l, ())
    let past := history react misplacing start
    let w := after react misplacing start
    let out := (destroyCollider ⟨0, 0⟩ : Attempt Float32 Unit Unit Unit).attempt.run w
    make .standard = .ok start ∧ Passes past w past w ∧ w.Dangles ⟨0, 0⟩ ∧
      (∃ fault, out.answer = .error fault) ∧ out.state ≠ w := by
  intro start react past w out
  have made : make .standard = .ok start := rfl
  have passes : Passes past w past w := .inl ⟨rfl, rfl⟩
  have misplaced : ∃ v, w.colliders.get ⟨0, 0⟩ = .ok v ∧ v.kind = .circle ∧ v.place = 7 := by
    decide +kernel
  have vacant : (w.shapes.get .circle 7).isOk = false := by decide +kernel
  have dangles : w.Dangles ⟨0, 0⟩ := by
    refine ⟨.circle, 7, misplaced, ?_⟩
    rintro ⟨_, shape, held⟩
    rw [held] at vacant
    cases vacant
  have halfway := half_destroyed_iff react made misplacing passes ⟨0, 0⟩
  exact ⟨made, passes, dangles, halfway.1.mpr dangles⟩

/-- Destroying the collider fails, and there is one collider less. -/
theorem fewer_colliders_of_misplacing :
    let react : Reaction Float32 Unit Unit := fun l _ _ => .done (l, ())
    let w : World Float32 Unit := after react misplacing (blank .standard)
    let out := (destroyCollider ⟨0, 0⟩ : Attempt Float32 Unit Unit Unit).attempt.run w
    out.answer = .error (.outOfRange (.shape .circle) 7 1) ∧ w.colliders.liveCount = 1 ∧
      out.state.colliders.liveCount = 0 ∧ w.colliders.generation? 0 = some 0 ∧
      out.state.colliders.generation? 0 = some 1 := by
  decide +kernel

end World

end PlanarDynamics
