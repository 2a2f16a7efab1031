import PlanarDynamics.Proofs.World.Mirrors

/-!
# Frames of worlds that mirror each other

A frame goes through bodies, colliders and candidates by their handles, and meets them in the same
order in both worlds, since that order does not notice generations (`World.Mirrors.candidates`). It
finds the same out about each pair (`World.Mirrors.examination`), so it moves the same bodies and
tells the listener of the same events. A listener acts by programs that mirror each other, and these
go through moments that do (`Program.simulates_run`). Hence updates mirror each other
(`World.simulates_update`), and so do whole runs (`World.mirrors_history`).
-/

set_option autoImplicit false

namespace PlanarDynamics

variable {α L ρ β γ σ τ : Type} {δ : Offsets}

/-- What was found out about a pair, by the handles of a world that is ahead. -/
def Examination.raise (δ : Offsets) (x : Examination α) : Examination α :=
  { x with bodyA := x.bodyA.raise δ, bodyB := x.bodyB.raise δ }

variable [Scalar α] {same : L → L → Prop} {k : Likeness α L ρ}

/-! ## Programs of listeners -/

/-- Inside a callback, programs that mirror each other answer alike, leave worlds that mirror each
other, and go through moments that do. -/
theorem Program.simulates_run {R : β → γ → Prop} {p : Program α L β} {q : Program α L γ}
    (mirrors : Program.Mirrors k.offsets k.same R p q) {v w : World α L}
    (worlds : v.Mirrors k.offsets k.same w) :
    let out := (p.run World.refuseUpdate : Action α L ρ β).run v
    let out' := (q.run World.refuseUpdate : Action α L ρ γ).run w
    R out.answer out'.answer ∧ out.state.Mirrors k.offsets k.same out'.state ∧
      List.Forall₂ (Moment.Mirrors k.offsets k.same k.said) (p.moments v) (q.moments w) := by
  induction mirrors generalizing v w with
  | done results => exact ⟨results, worlds, .nil⟩
  | @ask op op' answers next next' asked rest ih =>
      have first := Operation.simulates_perform asked (k := k)
        (fun _ => simulates_log .nestedUpdate .nestedUpdate) v w worlds
      obtain ⟨result, state, moments⟩ := ih _ _ first.answer first.state
      exact ⟨result, state, .cons (.asked worlds asked first.answer) moments⟩

namespace World

/-! ## Going through lists -/

/-- Two folds over lists of related items simulate each other when their steps do. -/
theorem simulates_foldlM {Q : σ → τ → Prop} {R : β → γ → Prop} {f : β → σ → Action α L ρ β}
    {g : γ → τ → Action α L ρ γ}
    (each : ∀ x y b c, Q x y → R b c → Simulates k R (f b x) (g c y)) {items : List σ}
    {items' : List τ} (related : List.Forall₂ Q items items') {b : β} {c : γ} (start : R b c) :
    Simulates k R (items.foldlM f b) (items'.foldlM g c) := by
  induction related generalizing b c with
  | nil => exact simulates_pure start
  | cons head _ ih => exact (each _ _ b c head start).bind fun _ _ related => ih related

theorem simulates_forM {Q : σ → τ → Prop} {f : σ → Action α L ρ PUnit}
    {g : τ → Action α L ρ PUnit} (each : ∀ x y, Q x y → Simulates k Eq (f x) (g y))
    {items : List σ} {items' : List τ} (related : List.Forall₂ Q items items') :
    Simulates k Eq (items.forM f) (items'.forM g) := by
  induction related with
  | nil => exact simulates_pure rfl
  | cons head _ ih => exact (each _ _ head).bind fun _ _ _ => ih

/-- A list is related to the list that it was renamed to. -/
theorem forall₂_map (f : τ → σ) (items : List τ) :
    List.Forall₂ (fun x y => x = f y) (items.map f) items :=
  List.forall₂_map_left_iff.mpr (List.forall₂_same.mpr fun _ _ => rfl)

/-! ## Motion and broad phase -/

section Looking

variable {v w : World α L} (mirrors : v.Mirrors δ same w)

include mirrors

theorem Mirrors.set_tree (t : QuadTree α) :
    ({ v with tree := t.raise δ } : World α L).Mirrors δ same { w with tree := t } :=
  { mirrors with tree := rfl }

theorem Mirrors.set_touching (s : PairSet) :
    ({ v with touching := s.raise δ } : World α L).Mirrors δ same { w with touching := s } :=
  { mirrors with touching := rfl }

theorem Mirrors.boxOf (c : Collider α) :
    Alike δ Eq (v.boxOf (c.raise δ)) (w.boxOf c) := by
  have body : (c.raise δ).body = c.body.raise δ := rfl
  unfold World.boxOf
  rw [body]
  rcases (mirrors.bodies.get c.body).cases with ⟨held, _, found, found', rfl⟩ |
    ⟨fault, missing, missing'⟩
  · rw [found, found']
    exact (mirrors.shapes.placed c.kind c.place held.position).map fun _ _ => congrArg Shape.bounds?
  · rw [missing, missing']
    exact .ok rfl

theorem Mirrors.candidates : v.candidates = w.candidates.raise δ := by
  rw [World.candidates, World.candidates, mirrors.tree, QuadTree.pairs_raise, PairSet.ofList_raise]

end Looking

theorem simulates_integrate (dt : α) :
    Simulates k Eq (integrate dt : Action α L ρ Unit) (integrate dt) := by
  refine simulates_get.bind fun v w _ => Simulates.bind (R := Eq) ?_ fun _ _ _ => simulates_log _ _
  refine simulates_modify fun v w mirrors => ?_
  rw [mirrors.settings]
  have moved := mirrors.bodies.mapLive (fun _ => rfl) (f := (·.step w.settings.gravity dt))
    (g := (·.step w.settings.gravity dt)) fun _ => rfl
  exact { mirrors with settings := rfl, bodies := moved }

theorem simulates_enlist (entry : ColliderRef × Collider α) :
    Simulates k Eq (enlist (entry.1.raise k.offsets, entry.2.raise k.offsets) : Action α L ρ Unit)
      (enlist entry) := by
  refine simulates_get.bind fun v w mirrors => ?_
  rcases (mirrors.boxOf entry.2).cases with
    ⟨box, _, found, found', rfl⟩ | ⟨fault, missing, missing'⟩
  · dsimp only
    rw [found, found']
    cases box with
    | none => exact simulates_pure rfl
    | some box =>
        refine simulates_of_quiet (quiet_onTree _) (quiet_onTree _) fun v w mirrors => ⟨rfl, ?_⟩
        have inserted := QuadTree.insert_raise (δ := k.offsets) ⟨box, entry.1⟩ w.tree
        simp only [onTree, Recorded.run_zoom, mirrors.tree]
        rw [show (⟨box, entry.1.raise k.offsets⟩ : TreeEntry α) =
          TreeEntry.raise k.offsets ⟨box, entry.1⟩ from rfl, inserted]
        exact mirrors.set_tree _
  · dsimp only
    rw [missing, missing']
    exact simulates_log _ _

theorem simulates_populate : Simulates k Eq (populate : Action α L ρ Unit) populate := by
  refine Simulates.bind (R := Eq) ?_ fun _ _ _ => simulates_get.bind fun v w mirrors => ?_
  · refine simulates_modify fun v w mirrors => ?_
    rw [mirrors.tree, QuadTree.clear_raise]
    exact mirrors.set_tree _
  rw [mirrors.colliders.entries]
  refine Simulates.bind (R := Eq) ?_ fun _ _ _ => simulates_get.bind fun _ _ _ => simulates_log _ _
  refine simulates_forM (fun _ entry (renamed : _ = _) => ?_) (forall₂_map _ w.colliders.entries)
  rw [renamed]
  exact simulates_enlist entry

/-! ## One pair -/

section Pair

variable {v w : World α L} (mirrors : v.Mirrors δ same w) (p : ColliderPair)

include mirrors

theorem Mirrors.examination : Alike δ (fun x y => x = y.map (Examination.raise δ))
    (v.examination (p.raise δ)) (w.examination p) := by
  refine (mirrors.colliders.get p.first).bind fun _ a found => ?_
  refine (mirrors.colliders.get p.second).bind fun _ b found' => ?_
  subst found found'
  have bodies : (a.raise δ).body = (b.raise δ).body ↔ a.body = b.body := Handle.raise_inj
  by_cases shared : a.body = b.body
  · rw [if_pos shared, if_pos (bodies.mpr shared)]
    exact .ok rfl
  · rw [if_neg shared, if_neg (mt bodies.mp shared)]
    rcases (mirrors.placedShape p.first).cases with ⟨shapeA, _, placed, placed', rfl⟩ |
      ⟨_, missing, missing'⟩
    · rcases (mirrors.placedShape p.second).cases with ⟨shapeB, _, placed₂, placed₂', rfl⟩ |
        ⟨_, missing, missing'⟩
      · rw [ColliderPair.first_raise, ColliderPair.second_raise, placed, placed', placed₂, placed₂']
        exact .ok rfl
      · rw [ColliderPair.first_raise, ColliderPair.second_raise, placed, placed', missing, missing']
        exact .ok rfl
    · rw [ColliderPair.first_raise, missing, missing']
      exact .ok rfl

theorem Mirrors.mem_touching : p.raise δ ∈ v.touching ↔ p ∈ w.touching := by
  rw [mirrors.touching, PairSet.mem_raise]

end Pair

theorem simulates_examine (p : ColliderPair) :
    Simulates k (fun x y => x = y.map (Examination.raise k.offsets))
      (examine (p.raise k.offsets) : Action α L ρ (Option (Examination α))) (examine p) := by
  refine simulates_get.bind fun v w mirrors => ?_
  rcases (mirrors.examination p).cases with ⟨_, _, found, found', same⟩ | ⟨fault, missing, missing'⟩
  · rw [found, found']
    exact simulates_pure same
  · rw [missing, missing']
    exact (simulates_log _ _).bind fun _ _ _ => simulates_pure rfl

omit [Scalar α] in
theorem quiet_track (p : ColliderPair) (touches : Bool) :
    Quiet (track p touches : Action α L ρ (Option TriggerEvent)) := by
  intro w
  rw [run_track]
  split <;> exact logs_nil

theorem simulates_track (p : ColliderPair) (touches : Bool) :
    Simulates k Eq (track (p.raise k.offsets) touches : Action α L ρ (Option TriggerEvent))
      (track p touches) := by
  refine simulates_of_quiet (quiet_track _ _) (quiet_track _ _) fun v w mirrors => ?_
  rw [run_track, run_track, decide_eq_decide.mpr (mirrors.mem_touching p), mirrors.touching]
  cases touches with
  | true =>
      cases decide (p ∈ w.touching) with
      | true => exact ⟨rfl, mirrors⟩
      | false => exact ⟨rfl, PairSet.insert_raise _ _ ▸ mirrors.set_touching _⟩
  | false =>
      cases decide (p ∈ w.touching) with
      | true => exact ⟨rfl, PairSet.erase_raise _ _ ▸ mirrors.set_touching _⟩
      | false => exact ⟨rfl, mirrors⟩

/-- **Related listeners are told the same and go on related.** -/
theorem simulates_dispatch {l l' : L} (listeners : k.same l l') (event : TriggerEvent)
    (p : ColliderPair) :
    Simulates k k.same (dispatch k.react l event (p.raise k.offsets))
      (dispatch k.react' l' event p) := by
  intro v w mirrors
  obtain ⟨answer, state, moments⟩ :=
    Program.simulates_run (k.reactions l l' event p listeners) mirrors
  refine ⟨answer.1, state, ?_⟩
  rw [moments_dispatch_eq, moments_dispatch_eq]
  exact .cons (.told mirrors listeners answer.2) moments

theorem simulates_notify {listener listener' : Option L}
    (listeners : Option.Rel k.same listener listener') (event : TriggerEvent) (p : ColliderPair) :
    Simulates k (Option.Rel k.same) (notify k.react listener event (p.raise k.offsets))
      (notify k.react' listener' event p) := by
  cases listeners with
  | none => exact simulates_pure .none
  | some listeners =>
      exact (simulates_dispatch listeners event p).bind fun _ _ related =>
        simulates_pure (.some related)

theorem simulates_resolve (x : Examination α) (c : Contact α) :
    Simulates k Eq (resolve (x.raise k.offsets) c : Action α L ρ Bool) (resolve x c) := by
  refine simulates_get.bind fun v w mirrors => ?_
  dsimp only [Examination.raise, Handle.index_raise]
  rw [mirrors.solver]
  have bodies := mirrors.bodies.getPair x.bodyA x.bodyB
  rcases bodies.cases with ⟨_, ⟨a, b⟩, both, both', rfl⟩ | ⟨fault, missing, missing'⟩
  · rw [both, both']
    dsimp only [id]
    generalize w.solver.resolve a b x.restitutionA x.restitutionB c = r
    refine Simulates.bind (R := Eq) ?_ fun _ _ _ => ?_
    · have nudged := (mirrors.bodies.write (fun _ => rfl) x.bodyA.index r.first).write
        (fun _ => rfl) x.bodyB.index r.second
      exact simulates_of_quiet (fun _ _ member => nomatch member)
        (fun _ _ member => nomatch member) fun _ _ _ =>
          ⟨rfl, { mirrors with bodies := nudged, solver := rfl }⟩
    · cases r.settled with
      | none => exact simulates_pure rfl
      | some settled => exact (simulates_log _ _).bind fun _ _ _ => simulates_pure rfl
  · rw [missing, missing']
    exact simulates_pure rfl

/-- Two frames have got equally far. -/
structure SameProgress (k : Likeness α L ρ) (done done' : Progress L) : Prop where
  listener : Option.Rel k.same done.listener done'.listener
  tested : done.tested = done'.tested.map (ColliderPair.raise k.offsets)
  resolved : done.resolved = done'.resolved

theorem simulates_visit {done done' : Progress L} (progress : SameProgress k done done')
    (p : ColliderPair) :
    Simulates k (SameProgress k) (visit k.react done (p.raise k.offsets))
      (visit k.react' done' p) := by
  refine (simulates_examine p).bind fun _ found renamed => ?_
  rw [renamed]
  cases found with
  | none => exact simulates_pure progress
  | some x =>
      refine (simulates_track p x.meeting.isTouching).bind fun event _ same => ?_
      subst same
      have next : ∀ {l l' : Option L}, Option.Rel k.same l l' → ∀ {n n' : Nat}, n = n' →
          SameProgress k ⟨l, p.raise k.offsets :: done.tested, n⟩ ⟨l', p :: done'.tested, n'⟩ :=
        fun listeners _ _ resolved => ⟨listeners, by rw [progress.tested, List.map_cons], resolved⟩
      by_cases trigger : x.isTrigger = true
      · have trigger' : (x.raise k.offsets).isTrigger = true := trigger
        dsimp only [Option.map_some]
        rw [if_pos trigger, if_pos trigger']
        cases event with
        | none => exact simulates_pure (next progress.listener progress.resolved)
        | some event =>
            exact (simulates_notify progress.listener event p).bind fun _ _ listeners =>
              simulates_pure (next listeners progress.resolved)
      · have solid : ¬ (x.raise k.offsets).isTrigger = true := trigger
        have meeting : (x.raise k.offsets).meeting = x.meeting := rfl
        dsimp only [Option.map_some]
        rw [if_neg trigger, if_neg solid, meeting]
        cases x.meeting.contact? with
        | none => exact simulates_pure (next progress.listener progress.resolved)
        | some c =>
            refine (simulates_resolve x c).bind fun resolved _ same => ?_
            subst same
            exact simulates_pure (next progress.listener (by rw [progress.resolved]))

/-- The same pairs have not been examined. -/
theorem SameProgress.filter_gone {done done' : Progress L} (progress : SameProgress k done done')
    (s : PairSet) :
    ((s.raise k.offsets).filter fun p => !done.tested.contains p) =
      (s.filter fun p => !done'.tested.contains p).raise k.offsets := by
  refine s.filter_raise fun p => congrArg not ?_
  rw [progress.tested, Bool.eq_iff_iff, List.contains_iff_mem, List.contains_iff_mem]
  exact List.mem_map_of_injective fun _ _ => ColliderPair.raise_inj.mp

/-! ## The whole frame -/

theorem simulates_release {listener listener' : Option L}
    (listeners : Option.Rel k.same listener listener') (p : ColliderPair) :
    Simulates k (Option.Rel k.same) (release k.react listener (p.raise k.offsets))
      (release k.react' listener' p) := by
  refine Simulates.bind (R := Eq) ?_ fun _ _ _ => simulates_get.bind fun v w mirrors => ?_
  · refine simulates_modify fun v w mirrors => ?_
    rw [mirrors.touching, PairSet.erase_raise]
    exact mirrors.set_touching _
  · rw [ColliderPair.first_raise, ColliderPair.second_raise, mirrors.active?, mirrors.active?]
    have dropped : Simulates k (Option.Rel k.same)
        (log (.dropped (p.raise k.offsets)) >>= fun _ => pure listener)
        (log (.dropped p) >>= fun _ => pure listener') :=
      (simulates_log _ _).bind fun _ _ _ => simulates_pure listeners
    cases w.active? p.first with
    | none => exact dropped
    | some a =>
        cases w.active? p.second with
        | none => exact dropped
        | some b =>
            have triggers : ((a.raise k.offsets).isTrigger || (b.raise k.offsets).isTrigger) =
                (a.isTrigger || b.isTrigger) := rfl
            simp only [Option.map_some, triggers]
            split
            · exact simulates_notify listeners .exit p
            · exact simulates_pure listeners

theorem simulates_opening (dt : α) : Simulates k Eq (opening dt) (opening dt) := by
  refine Simulates.bind (R := Eq) ?_ fun _ _ _ =>
    (simulates_integrate dt).bind fun _ _ _ => simulates_populate
  exact simulates_modify fun v w mirrors => { mirrors with listener := .none, updating := rfl }

/-- With mirrored candidates, frames go on to do the same. A listener that was installed in the
meantime takes precedence in both. -/
theorem simulates_conclude (dt : α) {listener listener' : Option L}
    (listeners : Option.Rel k.same listener listener') (candidates : PairSet) :
    Simulates k Eq (conclude k.react dt listener (candidates.raise k.offsets))
      (conclude k.react' dt listener' candidates) := by
  unfold conclude
  rw [PairSet.toList_raise]
  have visits : ∀ (q p : ColliderPair) (done done' : Progress L), q = p.raise k.offsets →
      SameProgress k done done' →
      Simulates k (SameProgress k) (visit k.react done q) (visit k.react' done' p) :=
    fun _ p _ _ renamed progress => renamed ▸ simulates_visit progress p
  have outset : SameProgress k ⟨listener, [], 0⟩ ⟨listener', [], 0⟩ := ⟨listeners, rfl, rfl⟩
  refine (simulates_foldlM visits (forall₂_map _ candidates.toList) outset).bind
    fun done done' progress => ?_
  refine simulates_get.bind fun v w mirrors => ?_
  rw [mirrors.touching, progress.filter_gone]
  have releases : ∀ (q p : ColliderPair) (listener listener' : Option L), q = p.raise k.offsets →
      Option.Rel k.same listener listener' →
      Simulates k (Option.Rel k.same) (release k.react listener q)
        (release k.react' listener' p) :=
    fun _ p _ _ renamed listeners => renamed ▸ simulates_release listeners p
  refine (simulates_foldlM releases (forall₂_map _ _) progress.listener).bind
    fun listener listener' listeners => ?_
  refine simulates_get.bind fun v w mirrors => (simulates_log _ _).bind fun _ _ _ => ?_
  refine simulates_modify fun v w mirrors => { mirrors with listener := ?_, updating := rfl }
  have installed := mirrors.listener
  generalize v.listener = l, w.listener = l' at installed ⊢
  cases installed with
  | none => exact listeners
  | some related => exact .some related

theorem simulates_advance (dt : α) :
    Simulates k Eq (advance k.react dt) (advance k.react' dt) := by
  refine simulates_get.bind fun v₀ w₀ start => (simulates_opening dt).bind fun _ _ _ => ?_
  refine simulates_get.bind fun v w mirrors => ?_
  rw [mirrors.candidates]
  exact simulates_conclude dt start.listener w.candidates

/-- **Updates of worlds that mirror each other do the same.** -/
theorem simulates_update (dt : α) : Simulates k Eq (update k.react dt) (update k.react' dt) := by
  refine simulates_get.bind fun v w mirrors => ?_
  rw [mirrors.updating]
  split
  · exact simulates_log .nestedUpdate .nestedUpdate
  · exact simulates_advance dt

/-! ## Whole runs -/

/-- The two lists ask for the same, operation by operation. -/
def MirroredOperations (δ : Offsets) (same : L → L → Prop) :
    List (Operation α L) → List (Operation α L) → Prop :=
  List.Forall₂ fun op op' => ∃ answers, Operation.Mirrors δ same op op' answers

/-- **Runs of worlds that mirror each other do**, at every moment and in the end. -/
theorem mirrors_history {ops ops' : List (Operation α L)}
    (asked : MirroredOperations k.offsets k.same ops ops') {v w : World α L}
    (mirrors : v.Mirrors k.offsets k.same w) :
    List.Forall₂ (Moment.Mirrors k.offsets k.same k.said) (history k.react ops v)
        (history k.react' ops' w) ∧
      (after k.react ops v).Mirrors k.offsets k.same (after k.react' ops' w) := by
  unfold MirroredOperations at asked
  induction asked generalizing v w with
  | nil => exact ⟨.nil, mirrors⟩
  | cons head _ ih =>
      obtain ⟨answers, operations⟩ := head
      have step := Operation.simulates_perform operations simulates_update v w mirrors
      obtain ⟨moments, final⟩ := ih step.state
      exact ⟨List.rel_append (.cons (.asked mirrors operations step.answer) step.moments) moments,
        final⟩

end World

end PlanarDynamics
