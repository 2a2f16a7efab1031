import PlanarDynamics.Proofs.World.Frames

/-!
# Worlds that age

A world ages when its bodies and colliders either stay under their handles or have their handles
retired, colliders stay with their bodies, and new colliders come with live ones
(`World.Ages`). Motion ages a world, and so does every operation that a caller may ask without
editing what ties entities together (`Moment.Permitted`, `World.ages_perform`).

A collider is gone once its handle is retired or its body's is, and that lasts
(`World.Gone.ages`). In a sound world every touching pair is active or lost to a collider that is
gone (`World.Sound.active_or_lost`).
-/

set_option autoImplicit false

namespace PlanarDynamics

variable {α L ρ : Type} [Scalar α]

namespace Moment

/-- What callers of a world keep to. Edits leave masses positive and the ties of a collider alone,
triggers are not switched while they touch something, and every frame has a listener. -/
def Permitted : Moment α L ρ → Prop
  | asked w (.editBody b f) _ => ∀ v, w.bodies.get b = .ok v → (f v).isLive = true
  | asked w (.editCollider c f) _ => ∀ v, w.colliders.get c = .ok v →
      (f v).kind = v.kind ∧ (f v).place = v.place ∧ (f v).self = v.self ∧ (f v).body = v.body ∧
        ((∃ p ∈ w.touching, p.contains c = true) → (f v).isTrigger = v.isTrigger)
  | asked w (.update _) _ => w.updating = false → w.listener.isSome = true
  | _ => True

instance (w : World α L) (c : ColliderRef) : Decidable (∃ p ∈ w.touching, p.contains c = true) :=
  inferInstanceAs (Decidable (∃ p ∈ w.touching.toList, p.contains c = true))

instance : (m : Moment α L ρ) → Decidable m.Permitted
  | asked w (.editBody b f) _ =>
      inferInstanceAs (Decidable (∀ v, w.bodies.get b = .ok v → (f v).isLive = true))
  | asked w (.editCollider c f) _ =>
      inferInstanceAs (Decidable (∀ v, w.colliders.get c = .ok v →
        (f v).kind = v.kind ∧ (f v).place = v.place ∧ (f v).self = v.self ∧ (f v).body = v.body ∧
          ((∃ p ∈ w.touching, p.contains c = true) → (f v).isTrigger = v.isTrigger)))
  | asked w (.update _) _ =>
      inferInstanceAs (Decidable (w.updating = false → w.listener.isSome = true))
  | asked _ .look _ | asked _ (.restart ..) _ | asked _ .vacate _ | asked _ (.setGravity _) _
  | asked _ (.installListener _) _ | asked _ .removeListener _ | asked _ .createBody _
  | asked _ (.destroyBody _) _ | asked _ (.createCollider ..) _ | asked _ (.attach ..) _
  | asked _ (.destroyCollider _) _ | asked _ (.reshapeAt ..) _ | asked _ (.reshape ..) _
  | told _ => isTrue trivial

/-- Edits of a collider leave its kind and its body alone. -/
def KeepsTies : Moment α L ρ → Prop
  | asked w (.editCollider c f) _ => ∀ v, w.colliders.get c = .ok v →
      (f v).kind = v.kind ∧ (f v).body = v.body
  | _ => True

instance : (m : Moment α L ρ) → Decidable m.KeepsTies
  | asked w (.editCollider c f) _ =>
      inferInstanceAs (Decidable (∀ v, w.colliders.get c = .ok v →
        (f v).kind = v.kind ∧ (f v).body = v.body))
  | asked _ .look _ | asked _ (.restart ..) _ | asked _ .vacate _ | asked _ (.setGravity _) _
  | asked _ (.installListener _) _ | asked _ .removeListener _ | asked _ .createBody _
  | asked _ (.destroyBody _) _ | asked _ (.editBody ..) _ | asked _ (.createCollider ..) _
  | asked _ (.attach ..) _ | asked _ (.destroyCollider _) _ | asked _ (.reshapeAt ..) _
  | asked _ (.reshape ..) _ | asked _ (.update _) _ | told _ => isTrue trivial

theorem Permitted.keepsTies {m : Moment α L ρ} (permitted : m.Permitted) : m.KeepsTies := by
  cases m with
  | told c => trivial
  | asked w op answer =>
      cases op with
      | editCollider c f =>
          intro v found
          obtain ⟨kind, _, _, body, _⟩ := permitted v found
          exact ⟨kind, body⟩
      | _ => trivial

end Moment

namespace World

/-! ## Ageing -/

/-- The second world is the first at a later time. -/
structure Ages (w w' : World α L) : Prop where
  bodies : w.bodies.Precedes w'.bodies
  colliders : w.colliders.Precedes w'.colliders
  /-- A body stays or its handle is retired. -/
  keptBody : ∀ b v, w.bodies.get b = .ok v → (∃ u, w'.bodies.get b = .ok u) ∨ w'.bodies.Retired b
  /-- A collider stays with its body or its handle is retired. -/
  kept : ∀ c v, w.colliders.get c = .ok v →
    (∃ u, w'.colliders.get c = .ok u ∧ u.body = v.body) ∨ w'.colliders.Retired c
  /-- A collider that was not there before belongs to a body that is live or has been. -/
  fresh : ∀ c u, w'.colliders.get c = .ok u →
    (∃ v, w.colliders.get c = .ok v ∧ u.body = v.body) ∨
      (∃ v, w'.bodies.get u.body = .ok v) ∨ w'.bodies.Retired u.body

theorem Ages.refl (w : World α L) : w.Ages w where
  bodies := .refl _
  colliders := .refl _
  keptBody := fun _ v found => .inl ⟨v, found⟩
  kept := fun _ v found => .inl ⟨v, found, rfl⟩
  fresh := fun _ u found => .inl ⟨u, found, rfl⟩

theorem Ages.trans {u v w : World α L} (first : u.Ages v) (second : v.Ages w) : u.Ages w where
  bodies := first.bodies.trans second.bodies
  colliders := first.colliders.trans second.colliders
  keptBody := by
    intro b x found
    rcases first.keptBody b x found with ⟨y, there⟩ | retired
    · exact second.keptBody b y there
    · exact .inr (retired.mono second.bodies)
  kept := by
    intro c x found
    rcases first.kept c x found with ⟨y, there, same⟩ | retired
    · rcases second.kept c y there with ⟨z, further, same'⟩ | retired
      · exact .inl ⟨z, further, same'.trans same⟩
      · exact .inr retired
    · exact .inr (retired.mono second.colliders)
  fresh := by
    intro c z found
    rcases second.fresh c z found with ⟨y, there, same⟩ | known
    · rcases first.fresh c y there with ⟨x, before, same'⟩ | ⟨x, live⟩ | retired
      · exact .inl ⟨x, before, same.trans same'⟩
      · exact .inr (same ▸ second.keptBody y.body x live)
      · exact .inr (.inr (same ▸ retired.mono second.bodies))
    · exact .inr known

/-- Motion ages a world. -/
theorem Drifts.ages {w w' : World α L} (drifts : w.Drifts w') : w.Ages w' where
  bodies := drifts.bodies.precedes
  colliders := drifts.colliders ▸ .refl _
  keptBody := by
    intro b v found
    rcases drifts.bodies.kept b v found with ⟨u, there, _⟩ | retired | discarded
    · exact .inl ⟨u, there⟩
    · exact .inr retired
    · cases discarded
  kept := fun _ v found => .inl ⟨v, drifts.colliders ▸ found, rfl⟩
  fresh := fun _ u found => .inl ⟨u, drifts.colliders ▸ found, rfl⟩

/-! ## Colliders and their bodies -/

section Ties

variable {op : Operation α L} {w : World α L}

omit [Scalar α] in
/-- An operation edits a collider, or leaves it as it is. -/
theorem colliderEdit_cases (op : Operation α L) (c : ColliderRef) (v : Collider α) :
    (∃ f, op = .editCollider c f ∧ op.colliderEdit c v = f v) ∨ op.colliderEdit c v = v := by
  cases op with
  | editCollider d f =>
      by_cases same : c = d
      · subst same
        exact .inl ⟨f, rfl, if_pos rfl⟩
      · exact .inr (if_neg same)
  | _ => exact .inr rfl

/-- What an operation makes of a collider when it keeps the ties. -/
theorem colliderEdit_of_ties {answer : op.Answer}
    (ties : (Moment.asked w op answer : Moment α L ρ).KeepsTies) {c : ColliderRef}
    {v : Collider α} (found : w.colliders.get c = .ok v) :
    (op.colliderEdit c v).kind = v.kind ∧ (op.colliderEdit c v).body = v.body := by
  rcases colliderEdit_cases op c v with ⟨f, rfl, edit⟩ | edit
  · rw [edit]
    exact ties v found
  · rw [edit]
    exact ⟨rfl, rfl⟩

/-- An operation that keeps the ties discards no collider. -/
theorem discardedCollider?_of_ties :
    let out := (op.perform (refuseUpdate : α → Action α L ρ Unit)).run w
    (Moment.asked w op out.answer : Moment α L ρ).KeepsTies →
      op.discardedCollider? out.answer = none := by
  intro out ties
  cases op with
  | editCollider c f =>
      have run : out = (editCollider c f : Attempt α L ρ (Collider α)).attempt.run w := rfl
      rw [run_editCollider] at run
      cases found : w.colliders.get c with
      | error fault =>
          rw [found] at run
          rw [run]
          rfl
      | ok v =>
          rw [found] at run
          rw [run]
          have live : (f v).isLive = v.isLive := by
            unfold Collider.isLive
            rw [(ties v found).1]
          exact if_pos (live.trans (Arena.get_eq_ok_iff.mp found).2)
  | _ => rfl

/-- **Where the ties are kept, a collider stays with its body or its handle is retired.** -/
theorem kept_of_ties [OrderedScalar α] :
    let out := (op.perform (refuseUpdate : α → Action α L ρ Unit)).run w
    (Moment.asked w op out.answer : Moment α L ρ).KeepsTies →
      ∀ c v, w.colliders.get c = .ok v →
        (∃ u, out.state.colliders.get c = .ok u ∧ u.body = v.body) ∨
          out.state.colliders.Retired c := by
  intro out ties c v found
  have effect : op.Effect out.answer w out.state := op.effect_perform w
  rcases effect.colliders.kept c v found with ⟨u, there, same⟩ | retired | discarded
  · exact .inl ⟨u, there, same ▸ (colliderEdit_of_ties ties found).2⟩
  · exact .inr retired
  · exact nomatch (discardedCollider?_of_ties ties).symm.trans discarded

end Ties

/-! ## Permitted operations -/

section Permitted

variable {op : Operation α L} {w : World α L}

/-- A permitted operation switches no trigger that touches something. -/
theorem isTrigger_of_permitted {answer : op.Answer}
    (permitted : (Moment.asked w op answer : Moment α L ρ).Permitted) {c : ColliderRef}
    {v : Collider α} (found : w.colliders.get c = .ok v)
    (touches : ∃ p ∈ w.touching, p.contains c = true) :
    (op.colliderEdit c v).isTrigger = v.isTrigger := by
  rcases colliderEdit_cases op c v with ⟨f, rfl, edit⟩ | edit
  · rw [edit]
    exact (permitted v found).2.2.2.2 touches
  · rw [edit]

/-- A permitted operation discards no body. -/
theorem discardedBody?_of_permitted :
    let out := (op.perform (refuseUpdate : α → Action α L ρ Unit)).run w
    (Moment.asked w op out.answer : Moment α L ρ).Permitted →
      op.discardedBody? out.answer = none := by
  intro out permitted
  cases op with
  | editBody b f =>
      have run : out = (editBody b f : Attempt α L ρ (Body α)).attempt.run w := rfl
      rw [run_editBody] at run
      cases found : w.bodies.get b with
      | error fault =>
          rw [found] at run
          rw [run]
          rfl
      | ok v =>
          rw [found] at run
          rw [run]
          exact if_pos (permitted v found)
  | _ => rfl

/-- **A permitted operation ages a world.** -/
theorem ages_perform [OrderedScalar α] :
    let out := (op.perform (refuseUpdate : α → Action α L ρ Unit)).run w
    (Moment.asked w op out.answer : Moment α L ρ).Permitted → w.Ages out.state := by
  intro out permitted
  have effect : op.Effect out.answer w out.state := op.effect_perform w
  have noBody := discardedBody?_of_permitted permitted
  have kept := kept_of_ties permitted.keepsTies
  exact
    { bodies := effect.bodies.precedes
      colliders := effect.colliders.precedes
      keptBody := by
        intro b v found
        rcases effect.bodies.kept b v found with ⟨u, there, _⟩ | retired | discarded
        · exact .inl ⟨u, there⟩
        · exact .inr retired
        · exact nomatch noBody.symm.trans discarded
      kept := kept
      fresh := by
        intro c u there
        rcases effect.colliders.named c u there with ⟨v, found⟩ | issued
        · rcases kept c v found with ⟨x, there', same⟩ | retired
          · obtain rfl : u = x := Except.ok.inj (there.symm.trans there')
            exact .inl ⟨v, found, same⟩
          · exact absurd retired (Arena.not_retired_of_get there)
        · obtain ⟨x, there', _, live⟩ := effect.attached c issued
          obtain rfl : u = x := Except.ok.inj (there.symm.trans there')
          exact .inr (.inl ((Arena.contains_iff_get_eq_ok _ _).mp live)) }

end Permitted

/-! ## Colliders that are gone -/

/-- The collider is live, or has been. -/
def Met (w : World α L) (c : ColliderRef) : Prop :=
  (∃ v, w.colliders.get c = .ok v) ∨ w.colliders.Retired c

/-- The collider or its body is gone for good. -/
def Gone (w : World α L) (c : ColliderRef) : Prop :=
  w.colliders.Retired c ∨ ∃ v, w.colliders.get c = .ok v ∧ w.bodies.Retired v.body

/-- Both colliders of a pair and their bodies are live. -/
def Active (w : World α L) (p : ColliderPair) : Prop :=
  (w.active? p.first).isSome = true ∧ (w.active? p.second).isSome = true

instance (w : World α L) (p : ColliderPair) : Decidable (w.Active p) :=
  inferInstanceAs (Decidable (_ ∧ _))

/-- A collider of the pair is gone for good. -/
def Lost (w : World α L) (p : ColliderPair) : Prop := w.Gone p.first ∨ w.Gone p.second

theorem active?_eq_some_iff {w : World α L} {c : ColliderRef} {v : Collider α} :
    w.active? c = some v ↔ w.colliders.get c = .ok v ∧ ∃ u, w.bodies.get v.body = .ok u := by
  unfold active?
  cases found : w.colliders.get c with
  | error fault => simp
  | ok x =>
      dsimp only
      rw [← Arena.contains_iff_get_eq_ok]
      constructor
      · intro live
        split at live
        · rename_i contained
          obtain rfl := Option.some.inj live
          exact ⟨rfl, contained⟩
        · cases live
      · rintro ⟨same, contained⟩
        obtain rfl := Except.ok.inj same
        exact if_pos contained

theorem Met.ages {w w' : World α L} (ages : w.Ages w') {c : ColliderRef} (met : w.Met c) :
    w'.Met c := by
  rcases met with ⟨v, found⟩ | retired
  · exact (ages.kept c v found).imp_left fun ⟨u, there, _⟩ => ⟨u, there⟩
  · exact .inr (retired.mono ages.colliders)

/-- A collider that is gone stays gone as long as it stays with its body. -/
theorem Gone.kept {w w' : World α L} {c : ColliderRef} (gone : w.Gone c)
    (bodies : w.bodies.Precedes w'.bodies) (colliders : w.colliders.Precedes w'.colliders)
    (kept : ∀ v, w.colliders.get c = .ok v →
      (∃ u, w'.colliders.get c = .ok u ∧ u.body = v.body) ∨ w'.colliders.Retired c) :
    w'.Gone c := by
  rcases gone with retired | ⟨v, found, retired⟩
  · exact .inl (retired.mono colliders)
  · rcases kept v found with ⟨u, there, same⟩ | retired'
    · exact .inr ⟨u, there, same ▸ retired.mono bodies⟩
    · exact .inl retired'

theorem Gone.ages {w w' : World α L} (ages : w.Ages w') {c : ColliderRef} (gone : w.Gone c) :
    w'.Gone c :=
  gone.kept ages.bodies ages.colliders (ages.kept c)

theorem Lost.ages {w w' : World α L} (ages : w.Ages w') {p : ColliderPair} (lost : w.Lost p) :
    w'.Lost p :=
  lost.imp (Gone.ages ages) (Gone.ages ages)

theorem not_gone_of_active {w : World α L} {c : ColliderRef}
    (active : (w.active? c).isSome = true) :
    ¬ w.Gone c := by
  obtain ⟨v, some⟩ := Option.isSome_iff_exists.mp active
  obtain ⟨found, u, live⟩ := active?_eq_some_iff.mp some
  rintro (retired | ⟨x, there, retired⟩)
  · exact Arena.not_retired_of_get found retired
  · obtain rfl : v = x := Except.ok.inj (found.symm.trans there)
    exact Arena.not_retired_of_get live retired

theorem Active.not_lost {w : World α L} {p : ColliderPair} (active : w.Active p) : ¬ w.Lost p :=
  fun lost => lost.elim (not_gone_of_active active.1) (not_gone_of_active active.2)

/-- Colliders belong to bodies that are live or have been, and touching pairs consist of colliders
that are live or have been. -/
structure Sound (w : World α L) : Prop where
  bodies : ∀ c v, w.colliders.get c = .ok v →
    (∃ u, w.bodies.get v.body = .ok u) ∨ w.bodies.Retired v.body
  touching : ∀ p ∈ w.touching, w.Met p.first ∧ w.Met p.second

theorem Sound.active_or_gone {w : World α L} (sound : w.Sound) {c : ColliderRef} (met : w.Met c) :
    (w.active? c).isSome = true ∨ w.Gone c := by
  rcases met with ⟨v, found⟩ | retired
  · rcases sound.bodies c v found with live | retired
    · exact .inl (Option.isSome_iff_exists.mpr ⟨v, active?_eq_some_iff.mpr ⟨found, live⟩⟩)
    · exact .inr (.inr ⟨v, found, retired⟩)
  · exact .inr (.inl retired)

/-- A pair whose colliders have been met is active or lost. -/
theorem Sound.active_or_lost {w : World α L} (sound : w.Sound) {p : ColliderPair}
    (met : w.Met p.first ∧ w.Met p.second) : w.Active p ∨ w.Lost p := by
  rcases sound.active_or_gone met.1 with first | gone
  · rcases sound.active_or_gone met.2 with second | gone
    · exact .inl ⟨first, second⟩
    · exact .inr (.inr gone)
  · exact .inr (.inl gone)

theorem Active.met {w : World α L} {p : ColliderPair} (active : w.Active p) :
    w.Met p.first ∧ w.Met p.second := by
  have met : ∀ c, (w.active? c).isSome = true → w.Met c := by
    intro c active
    obtain ⟨v, some⟩ := Option.isSome_iff_exists.mp active
    exact .inl ⟨v, (active?_eq_some_iff.mp some).1⟩
  exact ⟨met _ active.1, met _ active.2⟩

/-- Ageing keeps a world sound when every touching pair has been met. -/
theorem Sound.ages {w w' : World α L} (sound : w.Sound) (ages : w.Ages w')
    (touching : ∀ p ∈ w'.touching, p ∈ w.touching ∨ w'.Met p.first ∧ w'.Met p.second) :
    w'.Sound where
  bodies := by
    intro c u found
    rcases ages.fresh c u found with ⟨v, before, same⟩ | known
    · rcases sound.bodies c v before with ⟨x, live⟩ | retired
      · exact same ▸ ages.keptBody v.body x live
      · exact .inr (same ▸ retired.mono ages.bodies)
    · exact known
  touching := by
    intro p member
    rcases touching p member with before | met
    · obtain ⟨first, second⟩ := sound.touching p before
      exact ⟨first.ages ages, second.ages ages⟩
    · exact met

end World

end PlanarDynamics
