import PlanarDynamics.Proofs.World.Invariants
import PlanarDynamics.Proofs.World.Reentry

/-!
# Colliders whose bodies are destroyed

Destroying a body leaves its colliders behind. They are orphans from then on: no other body takes
them in, also not one that is created in the slot of theirs. For the handle that they hold is
retired, and that lasts (`World.gone_of_orphaned`).

Every place where a frame could take an orphan up rejects it. It has no shape, so it is not put
into the broad phase and no pair with it is tested; the listener is told of no such pair, and the
touching pairs are without it once a frame has closed (`World.absent_update`). All this is so for
every run, inside callbacks as outside (`World.orphans_stay_out`).
-/

set_option autoImplicit false

namespace PlanarDynamics

variable {α L ρ : Type} [Scalar α]

theorem ColliderPair.contains_iff {p : ColliderPair} {c : ColliderRef} :
    p.contains c = true ↔ p.first = c ∨ p.second = c := by
  simp [ColliderPair.contains]

/-- The moment takes the body of the collider away. -/
def Moment.Orphans (c : ColliderRef) : Moment α L ρ → Prop
  | asked w (.destroyBody b) (.ok ()) => ∃ v, w.colliders.get c = .ok v ∧ v.body = b
  | _ => False

instance (c : ColliderRef) : (m : Moment α L ρ) → Decidable (m.Orphans c)
  | .asked w (.destroyBody b) (.ok ()) =>
      inferInstanceAs (Decidable (∃ v, w.colliders.get c = .ok v ∧ v.body = b))
  | .asked _ (.destroyBody _) (.error _) | .asked _ .look _ | .asked _ (.restart ..) _
  | .asked _ .vacate _ | .asked _ (.setGravity _) _ | .asked _ (.installListener _) _
  | .asked _ .removeListener _ | .asked _ .createBody _ | .asked _ (.editBody ..) _
  | .asked _ (.createCollider ..) _ | .asked _ (.attach ..) _ | .asked _ (.destroyCollider _) _
  | .asked _ (.editCollider ..) _ | .asked _ (.reshapeAt ..) _ | .asked _ (.reshape ..) _
  | .asked _ (.update _) _ | .told _ => isFalse id

namespace World

/-- The body of the collider has been destroyed, and no collider has been edited into another kind
or attached to another body since. -/
def Orphaned (c : ColliderRef) (past : List (Moment α L ρ)) : Prop :=
  ∃ earlier m later, past = earlier ++ m :: later ∧ m.Orphans c ∧ ∀ n ∈ later, n.KeepsTies

/-- Neither the broad phase nor the touching pairs know the collider. -/
structure Absent (w : World α L) (c : ColliderRef) : Prop where
  entries : ∀ e ∈ w.tree.root.contents, e.collider ≠ c
  touching : ∀ p ∈ w.touching, p.contains c = false

/-- Where a frame is once it has turned to some pairs. Having turned to all its candidates it is
where its visits end. -/
def midway (react : Reaction α L ρ) (dt : α) (w : World α L) (turned : List ColliderPair) :
    Outcome (Note α L ρ) (World α L) (Progress L) :=
  (turned.foldlM (visit react) ⟨w.listener, [], 0⟩).run
    ((opening dt : Action α L ρ Unit).run w).state

/-- A run keeps orphans out of the simulation. -/
structure Excludes (react : Reaction α L ρ) (ops : List (Operation α L)) (start : World α L) :
    Prop where
  /-- An orphan has no shape in the world. -/
  shapeless : ∀ past v c, Passes (history react ops start) (after react ops start) past v →
    Orphaned c past → ∃ fault, v.placedShape c = .error fault
  /-- The listener is told of no orphan. -/
  untold : ∀ past call later c, history react ops start = past ++ .told call :: later →
    Orphaned c past → call.pair.contains c = false
  /-- After a frame there is no trace of an orphan. -/
  absent : ∀ dt c, Orphaned c (history react ops start) →
    (∀ m ∈ (Operation.update dt).moments react (after react ops start), m.KeepsTies) →
      ((update react dt).run (after react ops start)).state.Absent c
  /-- A frame that turns to a pair with an orphan leaves everything as it is. -/
  unmoved : ∀ dt turned p c, let there := midway react dt (after react ops start) turned
    Orphaned c (history react ops start ++
      .asked (after react ops start) (.update dt) () :: there.notes.flatMap (Note.moments react)) →
        p.contains c = true → ((visit react there.answer p).run there.state).answer = there.answer ∧
          ((visit react there.answer p).run there.state).state = there.state

/-! ## Orphans are gone -/

section Orphaned

variable {c : ColliderRef} {past : List (Moment α L ρ)} {m : Moment α L ρ}

/-- A collider is orphaned at the last moment, or has been before and keeps to its tie. -/
theorem orphaned_concat (orphaned : Orphaned c (past ++ [m])) :
    m.Orphans c ∨ Orphaned c past ∧ m.KeepsTies := by
  obtain ⟨earlier, n, later, split, orphans, kept⟩ := orphaned
  rcases List.eq_nil_or_concat later with rfl | ⟨rest, last, rfl⟩
  · obtain ⟨_, last⟩ := List.append_inj' split rfl
    exact .inl (List.singleton_inj.mp last ▸ orphans)
  · rw [List.concat_eq_append] at split kept
    rw [← List.cons_append, ← List.append_assoc] at split
    obtain ⟨rfl, same⟩ := List.append_inj' split rfl
    obtain ⟨kept, now⟩ := List.forall_mem_append.mp kept
    exact .inr ⟨⟨earlier, n, rest, rfl, orphans, kept⟩,
      now m (List.mem_singleton.mpr (List.singleton_inj.mp same))⟩

theorem orphaned_cons :
    Orphaned c (m :: past) ↔ (m.Orphans c ∧ ∀ n ∈ past, n.KeepsTies) ∨ Orphaned c past := by
  constructor
  · rintro ⟨earlier, n, later, split, orphans, kept⟩
    cases earlier with
    | nil =>
        obtain ⟨rfl, rfl⟩ := List.cons.inj split
        exact .inl ⟨orphans, kept⟩
    | cons _ earlier =>
        exact .inr ⟨earlier, n, later, (List.cons.inj split).2, orphans, kept⟩
  · rintro (⟨orphans, kept⟩ | ⟨earlier, n, later, rfl, orphaned⟩)
    · exact ⟨[], m, past, rfl, orphans, kept⟩
    · exact ⟨m :: earlier, n, later, rfl, orphaned⟩

theorem not_orphaned_nil : ¬ Orphaned c ([] : List (Moment α L ρ)) :=
  fun ⟨_, _, _, split, _⟩ => absurd split (by simp)

instance decidableOrphaned (c : ColliderRef) :
    (past : List (Moment α L ρ)) → Decidable (Orphaned c past)
  | [] => isFalse not_orphaned_nil
  | m :: past =>
      have : Decidable (Orphaned c past) := decidableOrphaned c past
      decidable_of_iff ((m.Orphans c ∧ ∀ n ∈ past, n.KeepsTies) ∨ Orphaned c past)
        orphaned_cons.symm

variable {w : World α L} {op : Operation α L}

/-- A collider is gone once its body has been taken away. -/
theorem gone_of_orphans :
    let out := (op.perform (refuseUpdate : α → Action α L ρ Unit)).run w
    (Moment.asked w op out.answer : Moment α L ρ).Orphans c → out.state.Gone c := by
  intro out orphans
  cases op with
  | destroyBody b =>
      have run : out = (destroyBody b : Attempt α L ρ Unit).attempt.run w := rfl
      rw [run_destroyBody] at run
      cases done : w.bodies.destroy b with
      | error fault =>
          rw [done] at run
          rw [run] at orphans
          exact orphans.elim
      | ok bodies =>
          rw [done] at run
          rw [run] at orphans ⊢
          obtain ⟨v, found, rfl⟩ := orphans
          exact .inr ⟨v, found, Arena.retired_of_destroy done⟩
  | _ => exact orphans.elim

/-- A collider that is gone stays gone as long as the ties are kept. -/
theorem Gone.perform [OrderedScalar α] (gone : w.Gone c) :
    let out := (op.perform (refuseUpdate : α → Action α L ρ Unit)).run w
    (Moment.asked w op out.answer : Moment α L ρ).KeepsTies → out.state.Gone c := by
  intro out ties
  have effect : op.Effect out.answer w out.state := op.effect_perform w
  exact gone.kept effect.bodies.precedes effect.colliders.precedes (kept_of_ties ties c)

/-- All orphans are gone. -/
def OrphansGone (past : List (Moment α L ρ)) (w : World α L) : Prop :=
  ∀ c, Orphaned c past → w.Gone c

theorem orphansGone_inside [OrderedScalar α] :
    CarriedInside (OrphansGone : List (Moment α L ρ) → World α L → Prop) := by
  intro past w op gone out c orphaned
  rcases orphaned_concat orphaned with now | ⟨before, ties⟩
  · exact gone_of_orphans now
  · exact (gone c before).perform ties

theorem orphansGone_drift :
    KeptByDrift (OrphansGone : List (Moment α L ρ) → World α L → Prop) :=
  fun _ _ _ gone drifts c orphaned => (gone c orphaned).ages drifts.ages

theorem orphansGone_told :
    KeptByTelling (OrphansGone : List (Moment α L ρ) → World α L → Prop) := by
  intro past call gone c orphaned
  rcases orphaned_concat orphaned with now | ⟨before, _⟩
  · exact now.elim
  · exact gone c before

theorem orphansGone_tracking :
    KeptByTracking (OrphansGone : List (Moment α L ρ) → World α L → Prop) :=
  fun _ _ _ gone => gone

end Orphaned

/-- **An orphan is gone for good.** -/
theorem gone_of_orphaned [OrderedScalar α] (react : Reaction α L ρ) (ops : List (Operation α L))
    (start : World α L) : Along OrphansGone (history react ops start) (after react ops start) :=
  along_history orphansGone_inside orphansGone_drift orphansGone_told orphansGone_tracking
    react ops fun _ orphaned => absurd orphaned not_orphaned_nil

/-! ## What is gone takes part in nothing -/

section Gone

variable {w : World α L} {c : ColliderRef} {p : ColliderPair}

theorem Gone.placedShape (gone : w.Gone c) : ∃ fault, w.placedShape c = .error fault := by
  cases placed : w.placedShape c with
  | error fault => exact ⟨fault, rfl⟩
  | ok shape => exact absurd gone (not_gone_of_active (active_of_placedShape placed))

theorem Gone.not_contains (gone : w.Gone c) (active : w.Active p) : p.contains c = false := by
  rw [← Bool.not_eq_true, ColliderPair.contains_iff]
  rintro (rfl | rfl)
  · exact not_gone_of_active active.1 gone
  · exact not_gone_of_active active.2 gone

/-- A frame passes over a pair with a collider that is gone. -/
theorem Gone.visit (gone : w.Gone c) (contains : p.contains c = true) (react : Reaction α L ρ)
    (done : Progress L) :
    ((visit react done p).run w).answer = done ∧ ((visit react done p).run w).state = w := by
  have inactive : ¬ w.Active p := fun active =>
    Bool.false_ne_true ((gone.not_contains active).symm.trans contains)
  have handled := handled react done p w
  generalize (World.visit react done p).run w = out at handled ⊢
  cases handled with
  | passed _ _ => exact ⟨rfl, rfl⟩
  | silent found _ _ => exact absurd (active_of_found? found) inactive
  | told _ verdict _ =>
      obtain ⟨_, found, _⟩ := verdict?_eq_some_iff.mp verdict
      exact absurd (active_of_found? found) inactive

end Gone

/-! ## Frames -/

section Frame

variable [OrderedScalar α] (react : Reaction α L ρ) (dt : α) {past : List (Moment α L ρ)}
  {w : World α L}

/-- Orphans are gone wherever a frame is. -/
theorem orphansGone_midway (gone : OrphansGone past w) (turned : List ColliderPair) :
    let there := midway react dt w turned
    OrphansGone (past ++ .asked w (.update dt) () :: there.notes.flatMap (Note.moments react))
      there.state := by
  have asked : OrphansGone (past ++ [.asked w (.update dt) ()]) w :=
    orphansGone_inside past w (.update dt) gone
  have opening' : Carries react OrphansGone (opening dt) := carries_opening orphansGone_drift dt
  have visits' : Carries react OrphansGone (turned.foldlM (visit react) ⟨w.listener, [], 0⟩) :=
    carries_foldlM (carries_visit orphansGone_inside orphansGone_drift orphansGone_told
      orphansGone_tracking) _ _
  have opened := opening' _ w asked
  rw [moments_opening, List.append_nil] at opened
  have visited := visits' _ _ opened
  rw [List.append_assoc] at visited
  exact visited

end Frame

/-- The collider is gone, the broad phase does not know it, and touching pairs have it only where
that is allowed. -/
structure Fades (c : ColliderRef) (allowed : ColliderPair → Prop) (w : World α L) : Prop where
  gone : w.Gone c
  entries : ∀ e ∈ w.tree.root.contents, e.collider ≠ c
  touching : ∀ p ∈ w.touching, p.contains c = true → allowed p

/-- The collider fades as long as the ties are kept. -/
def Fading (c : ColliderRef) (allowed : ColliderPair → Prop) (past : List (Moment α L ρ))
    (w : World α L) : Prop :=
  (∀ m ∈ past, m.KeepsTies) → Fades c allowed w

section Fading

variable {c : ColliderRef} {allowed : ColliderPair → Prop} {past : List (Moment α L ρ)}
  {w : World α L}

/-- A pair that is tested does not have the collider. -/
theorem Fades.tracked {tested : List ColliderPair} {p : ColliderPair} {touches : Bool}
    (fades : Fades c (· ∉ tested) w) (found : w.found? p = some touches) :
    Fades c (· ∉ p :: tested) (w.tracked p) := by
  obtain ⟨touching, same, others, _⟩ := tracked_eq found
  have without := fades.gone.not_contains (active_of_found? found)
  rw [same]
  refine ⟨fades.gone, fades.entries, fun q member contains => ?_⟩
  have other : q ≠ p := by
    rintro rfl
    exact Bool.false_ne_true (without.symm.trans contains)
  rw [List.mem_cons, not_or]
  exact ⟨other, fades.touching q ((others q other).mp member) contains⟩

/-- A pair that is released does not touch any more. -/
theorem Fades.released {rest : List ColliderPair} {p : ColliderPair}
    (fades : Fades c (· ∈ p :: rest) w) : Fades c (· ∈ rest) (w.released p) := by
  refine ⟨fades.gone, fades.entries, fun q member contains => ?_⟩
  obtain ⟨before, other⟩ := PairSet.mem_erase.mp member
  exact (List.mem_cons.mp (fades.touching q before contains)).resolve_left other

theorem fading_inside [OrderedScalar α] (c : ColliderRef) (allowed : ColliderPair → Prop) :
    CarriedInside (Fading c allowed : List (Moment α L ρ) → World α L → Prop) := by
  intro past w op fading out kept
  obtain ⟨kept, now⟩ := List.forall_mem_append.mp kept
  have fades := fading kept
  have effect : op.Effect out.answer w out.state := op.effect_perform w
  constructor
  case gone => exact fades.gone.perform (now _ (List.mem_singleton_self _))
  case entries =>
    rcases effect.tree with same | emptied
    · exact same ▸ fades.entries
    · have holds := QuadTree.holds_empty w.tree.boundary w.tree.settings
      rw [emptied]
      exact fun e member => nomatch holds.contents.mem_iff.mp member
  case touching =>
    rcases effect.touching with same | ⟨emptied, _⟩
    · exact same ▸ fades.touching
    · exact fun p member => absurd (emptied ▸ member) (PairSet.not_mem_empty p)

variable [OrderedScalar α] (react : Reaction α L ρ)

/-- No pair with the collider is tested. -/
theorem fading_visits (c : ColliderRef) : KeptByTurns react (visit react) fun _ done past w =>
    Fading c (· ∉ done.tested) past w := by
  intro p rest done past w fading
  have handled := handled react done p w
  generalize (visit react done p).run w = out at handled ⊢
  cases handled with
  | passed untested logs =>
      simp only [logs.moments, List.append_nil]
      exact fading
  | silent found silence logs =>
      simp only [logs.moments, List.append_nil]
      intro kept
      have fades := (fading kept).tracked found
      obtain ⟨bodies, parted⟩ := parted_eq w p
      exact
        { gone := (fading kept).gone.ages (drifts_parted w p).ages
          entries := by
            rw [parted]
            exact (fading kept).entries
          touching := fades.touching }
  | told listening verdict called =>
      obtain ⟨_, found, _⟩ := verdict?_eq_some_iff.mp verdict
      subst called
      exact holds_dispatch (fading_inside c _) _ _ p past _ fun report kept =>
        (fading (List.forall_mem_append.mp kept).1).tracked found

/-- Every touching pair with the collider is released. -/
theorem fading_releases (c : ColliderRef) :
    KeptByTurns react (release react) fun rest _ past w => Fading c (· ∈ rest) past w := by
  intro p rest listener past w fading
  have letGo := letGo react listener p w
  generalize (release react listener p).run w = out at letGo ⊢
  cases letGo with
  | silent silence logs =>
      simp only [logs.moments, List.append_nil]
      exact fun kept => (fading kept).released
  | told listening farewell called =>
      subst called
      exact holds_dispatch (fading_inside c _) _ _ p past _ fun report kept =>
        (fading (List.forall_mem_append.mp kept).1).released

omit [OrderedScalar α] in
/-- A frame that opens does not list what is gone. -/
theorem fades_opening (dt : α) (gone : w.Gone c) :
    Fades c (· ∉ ([] : List ColliderPair)) ((opening dt : Action α L ρ Unit).run w).state := by
  have moved : (w.moved dt).Gone c := gone.ages (drifts_integrate (ρ := ρ) dt w).ages
  have holds : (w.moved dt).rebuilt.Holds
      ((w.moved dt).colliders.entries.filterMap (w.moved dt).entryOf?) :=
    QuadTree.holds_map_insert _ _ _
  rw [state_opening]
  refine ⟨moved, fun e member => ?_, fun _ _ _ => List.not_mem_nil⟩
  obtain ⟨shape, placed, _⟩ := mem_filterMap_entryOf?_iff.mp (holds.contents.mem_iff.mp member)
  rintro rfl
  obtain ⟨fault, refused⟩ := moved.placedShape
  exact nomatch refused.symm.trans placed

omit [OrderedScalar α] in
/-- Since no pair with the collider is tested, all that touch are left over. -/
theorem fading_between (c : ColliderRef) (done : Progress L) (past : List (Moment α L ρ))
    (v : World α L) (fading : Fading c (· ∉ done.tested) past v) :
    Fading c (· ∈ (v.touching.filter fun p => !done.tested.contains p).toList) past v := by
  intro kept
  have fades := fading kept
  refine ⟨fades.gone, fades.entries, fun p member contains => ?_⟩
  refine PairSet.mem_toList.mpr (PairSet.mem_filter.mpr ⟨member, ?_⟩)
  simpa using fades.touching p member contains

/-- **After a frame there is no trace of a collider that was gone before.** -/
theorem absent_update (dt : α) (idle : w.updating = false) (gone : w.Gone c)
    (kept : ∀ m ∈ (Operation.update dt).moments react w, m.KeepsTies) :
    ((update react dt).run w).state.Absent c := by
  rw [moments_update, run_update idle] at kept
  have opened : Fading c (· ∉ ([] : List ColliderPair)) ([] : List (Moment α L ρ))
      ((opening dt : Action α L ρ Unit).run w).state := fun _ => fades_opening dt gone
  have closed := holds_advance react dt (fading_visits react c) (fading_between c)
    (fading_releases react c) opened
  rw [List.nil_append] at closed
  have fades := closed (List.forall_mem_cons.mp kept).2
  rw [run_update idle]
  constructor
  case entries =>
    rw [tree_advance]
    exact fades.entries
  case touching =>
    rw [touching_advance]
    intro p member
    rw [← Bool.not_eq_true]
    exact fun contains => List.not_mem_nil (fades.touching p member contains)

end Fading

/-- **Orphans are never adopted.** In every run from the creation of a world, a collider whose body
has been destroyed stays out of the simulation, whatever is created, edited or destroyed afterwards,
as long as no collider is edited into another kind or attached to another body. -/
theorem orphans_stay_out [OrderedScalar α] (react : Reaction α L ρ) {settings : WorldSettings α}
    {start : World α L} (made : make settings = .ok start) (ops : List (Operation α L)) :
    Excludes react ops start := by
  have along := gone_of_orphaned react ops start
  have gone : OrphansGone (history react ops start) (after react ops start) :=
    along _ _ (.inl ⟨rfl, rfl⟩)
  have reliable := reliable_history react made ops
  constructor
  case shapeless =>
    intro past v c passes orphaned
    exact (along past v passes c orphaned).placedShape
  case untold =>
    intro past call later c split orphaned
    have told : .told call ∈ history react ops start := by
      rw [split]
      exact List.mem_append_right _ List.mem_cons_self
    have gone : call.world.Gone c := along past call.world (.inr ⟨_, later, split, rfl⟩) c orphaned
    exact gone.not_contains (reliable.fits call told).active
  case absent =>
    intro dt c orphaned kept
    exact absent_update react dt reliable.updating (gone c orphaned) kept
  case unmoved =>
    intro dt turned p c there orphaned contains
    have gone' : there.state.Gone c := orphansGone_midway react dt gone turned c orphaned
    exact gone'.visit contains react there.answer

/-- A trigger on one of three bodies that overlap. -/
def crowded : List (Operation Float32 Nat) :=
  [.createBody, .createBody, .createBody, .createCollider ⟨0, 0⟩ .circle,
    .createCollider ⟨1, 0⟩ .circle, .createCollider ⟨2, 0⟩ .circle,
    .editCollider ⟨0, 0⟩ fun c => { c with isTrigger := true }, .installListener 0, .update 0.5,
    .editBody ⟨0, 1⟩ fun b => { b with mass := 2 }]

/-- A listener that counts entries. On each it destroys a body and creates another one. -/
def evicting : Reaction Float32 Nat Unit
  | n, .enter, _ => .ask (.destroyBody ⟨0, 0⟩) fun _ => .ask .createBody fun _ => .done (n + 1, ())
  | n, _, _ => .done (n, ())

theorem orphans_stay_out_evicting :
    let start : World Float32 Nat := blank .standard
    let w := after evicting crowded start
    make .standard = .ok start ∧ Orphaned ⟨0, 0⟩ (history evicting crowded start) ∧
      w.bodies.contains ⟨0, 1⟩ = true ∧ w.colliders.contains ⟨0, 0⟩ = true ∧
      w.listener = some 1 ∧ Excludes evicting crowded start := by
  intro start
  have made : make .standard = .ok start := rfl
  exact ⟨made, by decide +kernel, by decide +kernel, by decide +kernel, by decide +kernel,
    orphans_stay_out evicting made crowded⟩

end World

end PlanarDynamics
