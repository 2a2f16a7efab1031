import PlanarDynamics.Proofs.Scalar.Binary32
import PlanarDynamics.Proofs.Store.Places
import PlanarDynamics.Proofs.World.Invariants

/-!
# Colliders and their geometry

A world is housed when its colliders and the shapes of its stores correspond one to one: every
collider knows its own handle and occupies a place where there is a shape, no two occupy the same
place, and no shape is without a collider (`World.Housed`). A new shape and its collider come
together, or the shape is taken back, and both go together; so operations keep a world housed as
long as callers leave alone what ties a collider to its geometry (`Moment.KeepsLinks`,
`World.housed_perform`).

Hence every world of a run is housed, inside callbacks as outside, and reshaping one collider
there changes the placed shape of no other (`World.housed_in_run`).
-/

set_option autoImplicit false

namespace PlanarDynamics

variable {α L ρ : Type} [Scalar α]

namespace Moment

/-- Edits of a collider leave its kind, its place and its handle alone. -/
def KeepsLinks : Moment α L ρ → Prop
  | asked w (.editCollider c f) _ => ∀ v, w.colliders.get c = .ok v →
      (f v).kind = v.kind ∧ (f v).place = v.place ∧ (f v).self = v.self
  | _ => True

instance : (m : Moment α L ρ) → Decidable m.KeepsLinks
  | asked w (.editCollider c f) _ =>
      inferInstanceAs (Decidable (∀ v, w.colliders.get c = .ok v →
        (f v).kind = v.kind ∧ (f v).place = v.place ∧ (f v).self = v.self))
  | asked _ .look _ | asked _ (.restart ..) _ | asked _ .vacate _ | asked _ (.setGravity _) _
  | asked _ (.installListener _) _ | asked _ .removeListener _ | asked _ .createBody _
  | asked _ (.destroyBody _) _ | asked _ (.editBody ..) _ | asked _ (.createCollider ..) _
  | asked _ (.attach ..) _ | asked _ (.destroyCollider _) _ | asked _ (.reshapeAt ..) _
  | asked _ (.reshape ..) _ | asked _ (.update _) _ | told _ => isTrue trivial

end Moment

namespace World

/-- The collider has its geometry at a place of a kind. -/
def Occupies (w : World α L) (c : ColliderRef) (kind : ShapeKind) (i : Nat) : Prop :=
  ∃ v, w.colliders.get c = .ok v ∧ v.kind = kind ∧ v.place = i

/-- Colliders and shapes correspond one to one. -/
structure Housed (w : World α L) : Prop where
  /-- A collider knows its own handle. -/
  self : ∀ c v, w.colliders.get c = .ok v → v.self = c
  /-- There is a shape where a collider has its geometry. -/
  home : ∀ c kind i, w.Occupies c kind i → w.shapes.Stores kind i
  /-- Two colliders never share their geometry. -/
  apart : ∀ c d kind i, w.Occupies c kind i → w.Occupies d kind i → c = d
  /-- A shape belongs to one collider. -/
  owned : ∀ kind i, w.shapes.Stores kind i → ∃! c, w.Occupies c kind i

variable {w w' : World α L}

/-- A shape belongs to one collider when it belongs to some, and no two share. -/
theorem housed_of_owners (self : ∀ c v, w.colliders.get c = .ok v → v.self = c)
    (home : ∀ c kind i, w.Occupies c kind i → w.shapes.Stores kind i)
    (apart : ∀ c d kind i, w.Occupies c kind i → w.Occupies d kind i → c = d)
    (owner : ∀ kind i, w.shapes.Stores kind i → ∃ c, w.Occupies c kind i) : w.Housed where
  self := self
  home := home
  apart := apart
  owned := by
    intro kind i stored
    obtain ⟨c, occupies⟩ := owner kind i stored
    exact ⟨c, occupies, fun d other => apart d c kind i other occupies⟩

/-! ## Who occupies what -/

theorem occupies_iff_of_fills {v : Collider α} {c : ColliderRef}
    (fills : w.colliders.Fills v c w'.colliders) (live : v.isLive = true) (d : ColliderRef)
    (kind : ShapeKind) (i : Nat) :
    w'.Occupies d kind i ↔ (d = c ∧ kind = v.kind ∧ i = v.place) ∨ w.Occupies d kind i := by
  constructor
  · rintro ⟨u, found, rfl, rfl⟩
    rcases (fills.get_iff live).mp found with ⟨rfl, rfl⟩ | before
    · exact .inl ⟨rfl, rfl, rfl⟩
    · exact .inr ⟨u, before, rfl, rfl⟩
  · rintro (⟨rfl, rfl, rfl⟩ | ⟨u, before, rfl, rfl⟩)
    · exact ⟨v, fills.get live, rfl, rfl⟩
    · exact ⟨u, (fills.get_iff live).mpr (.inr before), rfl, rfl⟩

theorem occupies_iff_of_destroy {c : ColliderRef}
    (done : w.colliders.destroy c = .ok w'.colliders) (d : ColliderRef) (kind : ShapeKind)
    (i : Nat) : w'.Occupies d kind i ↔ w.Occupies d kind i ∧ d ≠ c := by
  constructor
  · rintro ⟨u, there, same⟩
    obtain ⟨before, other⟩ := (Arena.get_destroy_iff done).mp there
    exact ⟨⟨u, before, same⟩, other⟩
  · rintro ⟨⟨u, before, same⟩, other⟩
    exact ⟨u, (Arena.get_destroy_iff done).mpr ⟨before, other⟩, same⟩

/-- An edit that leaves kind and place alone leaves the collider where it is. -/
theorem occupies_iff_of_write {c : ColliderRef} {v u : Collider α}
    (found : w.colliders.get c = .ok v) (live : u.isLive = true)
    (written : w'.colliders = w.colliders.write c.index u) (kind : u.kind = v.kind)
    (place : u.place = v.place) (d : ColliderRef) (k : ShapeKind) (i : Nat) :
    w'.Occupies d k i ↔ w.Occupies d k i := by
  unfold Occupies
  rw [written]
  constructor
  · rintro ⟨t, there, rfl, rfl⟩
    rcases (Arena.get_write_iff found live).mp there with ⟨rfl, rfl⟩ | ⟨_, before⟩
    · exact ⟨v, found, kind.symm, place.symm⟩
    · exact ⟨t, before, rfl, rfl⟩
  · rintro ⟨t, before, rfl, rfl⟩
    by_cases same : d = c
    · subst same
      obtain rfl : v = t := Except.ok.inj (found.symm.trans before)
      exact ⟨u, (Arena.get_write_iff found live).mpr (.inl ⟨rfl, rfl⟩), kind, place⟩
    · exact ⟨t, (Arena.get_write_iff found live).mpr (.inr ⟨same, before⟩), rfl, rfl⟩

/-! ## Steps -/

/-- A world without colliders and shapes is housed. -/
theorem housed_of_empty (colliders : ∀ c v, w.colliders.get c ≠ .ok v)
    (shapes : ∀ kind i, w.shapes.get? kind i = none) : w.Housed := by
  have unoccupied : ∀ c kind i, ¬ w.Occupies c kind i := fun c _ _ ⟨v, found, _⟩ =>
    colliders c v found
  refine housed_of_owners (fun c v found => absurd found (colliders c v))
    (fun c kind i occupies => absurd occupies (unoccupied c kind i))
    (fun c _ kind i occupies => absurd occupies (unoccupied c kind i)) fun kind i stored => ?_
  obtain ⟨shape, held⟩ := Shapes.stores_iff_get?.mp stored
  exact nomatch (shapes kind i).symm.trans held

/-- Nothing that matters has changed when the same colliders occupy the same places and there are
shapes at the same places. -/
theorem Housed.of_iff (housed : w.Housed)
    (self : ∀ c v, w'.colliders.get c = .ok v → v.self = c)
    (occupies : ∀ c kind i, w'.Occupies c kind i ↔ w.Occupies c kind i)
    (stores : ∀ kind i, w'.shapes.Stores kind i ↔ w.shapes.Stores kind i) : w'.Housed := by
  refine housed_of_owners self ?_ ?_ ?_
  · intro c kind i occupied
    exact (stores kind i).mpr (housed.home c kind i ((occupies c kind i).mp occupied))
  · intro c d kind i first second
    exact housed.apart c d kind i ((occupies c kind i).mp first) ((occupies d kind i).mp second)
  · intro kind i stored
    obtain ⟨c, occupied, _⟩ := housed.owned kind i ((stores kind i).mp stored)
    exact ⟨c, (occupies c kind i).mpr occupied⟩

/-- Nothing that matters has changed when the colliders are the same and there are shapes at the
same places. -/
theorem Housed.of_colliders_eq (housed : w.Housed) (colliders : w'.colliders = w.colliders)
    (stores : ∀ kind i, w'.shapes.Stores kind i ↔ w.shapes.Stores kind i) : w'.Housed := by
  refine housed.of_iff ?_ ?_ stores
  · rw [colliders]
    exact housed.self
  · intro c kind i
    rw [Occupies, colliders]
    rfl

theorem Housed.settles (housed : w.Housed) (settles : w.Settles w') : w'.Housed := by
  refine housed.of_iff ?_ ?_ fun kind i => by rw [settles.shapes]
  · exact fun c v found => housed.self c v ((settles.colliders.get c v).mp found)
  · exact fun c kind i => exists_congr fun v => and_congr_left fun _ => settles.colliders.get c v

/-- A collider comes with a shape at a place that was free. -/
theorem Housed.fills (housed : w.Housed) {v : Collider α} {c : ColliderRef}
    (fills : w.colliders.Fills v c w'.colliders) (live : v.isLive = true) (self : v.self = c)
    (free : ¬ w.shapes.Stores v.kind v.place)
    (stores : ∀ kind i, w'.shapes.Stores kind i ↔
      kind = v.kind ∧ i = v.place ∨ w.shapes.Stores kind i) : w'.Housed := by
  have occupies := occupies_iff_of_fills fills live
  have unoccupied : ∀ d, ¬ w.Occupies d v.kind v.place := fun d before =>
    free (housed.home d _ _ before)
  refine housed_of_owners ?_ ?_ ?_ ?_
  · intro d u found
    rcases (fills.get_iff live).mp found with ⟨rfl, rfl⟩ | before
    · exact self
    · exact housed.self d u before
  · intro d kind i occupied
    exact (stores kind i).mpr (((occupies d kind i).mp occupied).imp And.right
      (housed.home d kind i))
  · intro d e kind i first second
    rcases (occupies d kind i).mp first with ⟨rfl, rfl, rfl⟩ | before
    · rcases (occupies e _ _).mp second with ⟨rfl, _⟩ | before
      · rfl
      · exact absurd before (unoccupied e)
    · rcases (occupies e kind i).mp second with ⟨rfl, rfl, rfl⟩ | before'
      · exact absurd before (unoccupied d)
      · exact housed.apart d e kind i before before'
  · intro kind i stored
    rcases (stores kind i).mp stored with new | old
    · exact ⟨c, (occupies c kind i).mpr (.inl ⟨rfl, new⟩)⟩
    · obtain ⟨d, occupied, _⟩ := housed.owned kind i old
      exact ⟨d, (occupies d kind i).mpr (.inr occupied)⟩

/-- A collider goes with its shape. -/
theorem Housed.destroy (housed : w.Housed) {v : Collider α} {c : ColliderRef}
    (found : w.colliders.get c = .ok v) (done : w.colliders.destroy c = .ok w'.colliders)
    (stores : ∀ kind i, w'.shapes.Stores kind i ↔
      w.shapes.Stores kind i ∧ ¬ (kind = v.kind ∧ i = v.place)) : w'.Housed := by
  have occupies := occupies_iff_of_destroy done
  refine housed_of_owners ?_ ?_ ?_ ?_
  · exact fun d u there => housed.self d u ((Arena.get_destroy_iff done).mp there).1
  · intro d kind i occupied
    obtain ⟨before, other⟩ := (occupies d kind i).mp occupied
    refine (stores kind i).mpr ⟨housed.home d kind i before, ?_⟩
    rintro ⟨rfl, rfl⟩
    exact other (housed.apart d c _ _ before ⟨v, found, rfl, rfl⟩)
  · intro d e kind i first second
    exact housed.apart d e kind i ((occupies d kind i).mp first).1 ((occupies e kind i).mp second).1
  · intro kind i stored
    obtain ⟨before, other⟩ := (stores kind i).mp stored
    obtain ⟨d, occupied, _⟩ := housed.owned kind i before
    refine ⟨d, (occupies d kind i).mpr ⟨occupied, ?_⟩⟩
    rintro rfl
    obtain ⟨u, there, rfl, rfl⟩ := occupied
    obtain rfl : v = u := Except.ok.inj (found.symm.trans there)
    exact other ⟨rfl, rfl⟩

/-! ## Operations -/

/-- Attaching houses the new collider, or takes the shape back that was put in for it. -/
theorem housed_attach (housed : w.Housed) (b : BodyRef) (shape : Shape α) :
    ((attach b shape : Attempt α L ρ ColliderRef).attempt.run w).state.Housed := by
  rw [run_attach]
  cases w.bodies.get b with
  | error fault => exact housed
  | ok _ =>
      dsimp only
      cases stored : ((Shapes.insert shape).attempt.run (w.memory, w.shapes)).answer with
      | error fault =>
          have same := Shapes.insert_refused stored
          exact housed.of_colliders_eq rfl fun kind i => by rw [same]
      | ok place =>
          obtain ⟨free, put⟩ := Shapes.stores_insert stored
          dsimp only
          cases made : ((Arena.create (Collider.make b shape.kind place)).attempt.run
            (((Shapes.insert shape).attempt.run (w.memory, w.shapes)).state.1, w.colliders)).answer
            with
          | error fault =>
              obtain ⟨shapes, removed⟩ := Shapes.exists_remove ((put _ _).mpr (.inl ⟨rfl, rfl⟩))
              dsimp only
              rw [removed]
              refine housed.of_colliders_eq (Arena.create_refused made) fun kind i => ?_
              rw [Shapes.stores_remove removed, put]
              constructor
              · exact fun ⟨either, other⟩ => either.resolve_left other
              · exact fun before => ⟨.inr before, fun here => free (here.1 ▸ here.2 ▸ before)⟩
          | ok c =>
              have live : Entity.isLive (Collider.make b shape.kind place : Collider α) = true :=
                decide_eq_true (kind_of_insert stored)
              have fills := Arena.create_fills made
              simp only [Arena.modify, fills.get live]
              exact housed.fills (fills.write _) live rfl free put

theorem housed_destroyCollider (housed : w.Housed) (c : ColliderRef) :
    ((destroyCollider c : Attempt α L ρ Unit).attempt.run w).state.Housed := by
  rw [run_destroyCollider]
  cases found : w.colliders.get c with
  | error fault => exact housed
  | ok v =>
      cases done : w.colliders.destroy c with
      | error fault => exact housed
      | ok colliders =>
          obtain ⟨shapes, removed⟩ :=
            Shapes.exists_remove (housed.home c v.kind v.place ⟨v, found, rfl, rfl⟩)
          dsimp only
          rw [removed]
          exact housed.destroy found done (Shapes.stores_remove removed)

theorem housed_editCollider (housed : w.Housed) (c : ColliderRef) (f : Collider α → Collider α)
    (keeps : ∀ v, w.colliders.get c = .ok v →
      (f v).kind = v.kind ∧ (f v).place = v.place ∧ (f v).self = v.self) :
    ((editCollider c f : Attempt α L ρ (Collider α)).attempt.run w).state.Housed := by
  rw [run_editCollider]
  cases found : w.colliders.get c with
  | error fault => exact housed
  | ok v =>
      obtain ⟨kind, place, self⟩ := keeps v found
      have live : Entity.isLive (f v) = true := by
        have before : v.isLive = true := (Arena.get_eq_ok_iff.mp found).2
        exact decide_eq_true (kind ▸ of_decide_eq_true before)
      refine housed.of_iff (fun d u there => ?_) (occupies_iff_of_write found live rfl kind place)
        fun _ _ => Iff.rfl
      rcases (Arena.get_write_iff found live).mp there with ⟨rfl, rfl⟩ | ⟨_, before⟩
      · exact self.trans (housed.self d v found)
      · exact housed.self d u before

theorem housed_reshapeAt (housed : w.Housed) (i : Nat) (r : Reshape α) :
    ((reshapeAt i r : Attempt α L ρ (Shape α)).attempt.run w).state.Housed := by
  rw [run_reshapeAt]
  cases changed : w.shapes.reshape i r with
  | error fault => exact housed
  | ok made => exact housed.of_colliders_eq rfl (Shapes.stores_reshape changed)

theorem housed_reshape (housed : w.Housed) (c : ColliderRef) (r : Reshape α) :
    ((reshape c r : Attempt α L ρ (Shape α)).attempt.run w).state.Housed := by
  rw [run_reshape]
  split
  · split
    · exact housed_reshapeAt housed _ r
    · exact housed
  · exact housed

theorem housed_vacate (w : World α L) :
    ((vacate : Action α L ρ Unit).run w).state.Housed := by
  obtain ⟨_, colliders, _, _⟩ := state_vacate w (ρ := ρ)
  refine housed_of_empty (fun c v found => ?_) fun kind i => ?_
  · rw [colliders, Arena.get_eq_ok_iff] at found
    exact nomatch found.1
  · simp only [vacate, Recorded.state_bind, Recorded.run_modify, onShapes, onColliders, onBodies,
      Recorded.run_zoom, Shapes.get?_clear]

theorem housed_restart (gravity : Vector2 α) (slots : Int) (w : World α L) :
    ((restart gravity slots : Attempt α L ρ Unit).attempt.run w).state.Housed :=
  (housed_vacate w).settles (settles_restart gravity slots w)

/-- What happens to bodies does not matter. -/
theorem Housed.bodies (housed : w.Housed) (memory : Memory) (bodies : Arena .body (Body α)) :
    Housed { w with memory := memory, bodies := bodies } :=
  housed.of_colliders_eq rfl fun _ _ => Iff.rfl

theorem housed_createBody (housed : w.Housed) :
    ((createBody : Attempt α L ρ BodyRef).attempt.run w).state.Housed := by
  rw [run_createBody]
  dsimp only
  split <;> exact housed.bodies _ _

theorem housed_destroyBody (housed : w.Housed) (b : BodyRef) :
    ((destroyBody b : Attempt α L ρ Unit).attempt.run w).state.Housed := by
  rw [run_destroyBody]
  split
  · exact housed.bodies _ _
  · exact housed

theorem housed_editBody (housed : w.Housed) (b : BodyRef) (f : Body α → Body α) :
    ((editBody b f : Attempt α L ρ (Body α)).attempt.run w).state.Housed := by
  rw [run_editBody]
  split
  · exact housed.bodies _ _
  · exact housed

theorem housed_createCollider (housed : w.Housed) (b : BodyRef) (kind : ShapeKind) :
    ((createCollider b kind : Attempt α L ρ ColliderRef).attempt.run w).state.Housed := by
  unfold createCollider
  split
  · exact housed
  · exact housed_attach housed b _

/-- **Every operation keeps a world housed when it leaves the links of colliders alone.** -/
theorem housed_perform : KeptByOperations (Moment.KeepsLinks : Moment α L ρ → Prop) Housed := by
  intro w op out keeps housed
  cases op with
  | createBody => exact housed_createBody housed
  | destroyBody b => exact housed_destroyBody housed b
  | editBody b f => exact housed_editBody housed b f
  | createCollider b kind => exact housed_createCollider housed b kind
  | attach b shape => exact housed_attach housed b shape
  | destroyCollider c => exact housed_destroyCollider housed c
  | editCollider c f => exact housed_editCollider housed c f keeps
  | vacate => exact housed_vacate w
  | restart gravity slots => exact housed_restart gravity slots w
  | reshapeAt i r => exact housed_reshapeAt housed i r
  | reshape c r => exact housed_reshape housed c r
  | look | setGravity _ | installListener _ | removeListener | update _ =>
      exact housed.of_colliders_eq rfl fun _ _ => Iff.rfl

/-! ## Runs -/

/-- A new world is housed. -/
theorem housed_of_make {settings : WorldSettings α} (made : make settings = .ok w) : w.Housed := by
  have blank : (blank settings : World α L).Housed :=
    housed_of_empty (Arena.get_empty _) fun _ _ => Shapes.get?_empty _
  exact blank.settles (settles_of_make made)

/-- In a housed world, reshaping a collider leaves the placed shape of every other as it is. -/
theorem Housed.placedShape_reshape (housed : w.Housed) {c d : ColliderRef} (other : d ≠ c)
    (r : Reshape α) :
    ((reshape c r : Attempt α L ρ (Shape α)).attempt.run w).state.placedShape d =
      w.placedShape d := by
  rw [run_reshape]
  cases found : w.colliders.get c with
  | error fault => rfl
  | ok v =>
      dsimp only
      split
      · rename_i kind
        rw [run_reshapeAt]
        cases changed : w.shapes.reshape v.place r with
        | error fault => rfl
        | ok made =>
            simp only [placedShape, bind, Except.bind]
            cases there : w.colliders.get d with
            | error fault => rfl
            | ok u =>
                have occupied : w.Occupies d u.kind u.place := ⟨u, there, rfl, rfl⟩
                have elsewhere : ¬ (u.kind = r.kind ∧ u.place = v.place) := fun ⟨same, place⟩ =>
                  other (housed.apart d c u.kind u.place occupied
                    ⟨v, found, kind.trans same.symm, place.symm⟩)
                simp only [Shapes.placed,
                  Shapes.get_reshape changed (housed.home d _ _ occupied) elsewhere]
      · rfl

/-- A world that a run passes through is housed. -/
theorem housed_of_passes (react : Reaction α L ρ) {settings : WorldSettings α} {start : World α L}
    (made : make settings = .ok start) (ops : List (Operation α L)) {past : List (Moment α L ρ)}
    (passes : Passes (history react ops start) (after react ops start) past w)
    (kept : ∀ m ∈ past, m.KeepsLinks) : w.Housed :=
  throughout_history housed_perform
    (fun _ _ drifts housed => housed.of_colliders_eq drifts.colliders fun _ _ => by
      rw [drifts.shapes])
    (fun _ _ housed => housed.of_colliders_eq rfl fun _ _ => Iff.rfl)
    react ops (housed_of_make made) past w passes kept

/-- **Every world of a run is housed, and reshaping one collider there reshapes no other.** -/
theorem housed_in_run (react : Reaction α L ρ) {settings : WorldSettings α} {start : World α L}
    (made : make settings = .ok start) (ops : List (Operation α L)) {past : List (Moment α L ρ)}
    (passes : Passes (history react ops start) (after react ops start) past w)
    (kept : ∀ m ∈ past, m.KeepsLinks) :
    w.Housed ∧ ∀ c d r, d ≠ c →
      let out := (reshape c r : Attempt α L ρ (Shape α)).attempt.run w
      out.state.placedShape d = w.placedShape d := by
  have housed : w.Housed := housed_of_passes react made ops passes kept
  exact ⟨housed, fun c d r other => housed.placedShape_reshape other r⟩

/-- Two bodies meet, with a trigger, under a listener. -/
def meeting : List (Operation Float32 Unit) :=
  [.createBody, .createBody, .createCollider ⟨0, 0⟩ .rectangle, .createCollider ⟨1, 0⟩ .rectangle,
    .editCollider ⟨0, 0⟩ fun c => { c with isTrigger := true }, .installListener (), .update 0.5]

/-- A listener that exchanges the first collider of a pair that has met for a circle. -/
def exchanging : Reaction Float32 Unit Unit
  | _, .enter, p => .ask (.destroyCollider p.first) fun _ =>
      .ask (.createCollider ⟨0, 0⟩ .circle) fun _ => .done ((), ())
  | _, _, _ => .done ((), ())

theorem housed_in_run_of_meeting :
    let start : World Float32 Unit := blank .standard
    let w := after exchanging meeting start
    make .standard = .ok start ∧ (∀ m ∈ history exchanging meeting start, m.KeepsLinks) ∧
      w.colliders.entries.map (fun entry => (entry.1, entry.2.kind, entry.2.place)) =
        [(⟨0, 1⟩, .circle, 0), (⟨1, 0⟩, .rectangle, 1)] ∧
      w.Housed ∧ ∀ r : Reshape Float32,
        let out := (reshape ⟨0, 1⟩ r : Attempt Float32 Unit Unit (Shape Float32)).attempt.run w
        out.state.placedShape ⟨1, 0⟩ = w.placedShape ⟨1, 0⟩ := by
  intro start w
  have made : make .standard = .ok start := rfl
  have kept : ∀ m ∈ history exchanging meeting start, m.KeepsLinks := by decide +kernel
  have housed := housed_in_run exchanging made meeting (.inl ⟨rfl, rfl⟩) kept
  exact ⟨made, kept, by decide +kernel, housed.1, fun r => housed.2 ⟨0, 1⟩ ⟨1, 0⟩ r (by decide)⟩

end World

end PlanarDynamics
