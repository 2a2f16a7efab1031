import PlanarDynamics.Proofs.Scalar.Binary32
import PlanarDynamics.Proofs.Store.Outline
import PlanarDynamics.Proofs.World.Candidates

/-!
# Frames without a listener

Without a listener nothing but the frame itself acts on a world. It moves the bodies, fills the
broad phase anew and goes through the candidate pairs, and each of these is examined with the
bodies where the contacts before it have left them (`World.examinations`). What is found out
depends on the bodies, the colliders and the geometry alone (`World.SameScene`), so the touching
pairs and the broad phase of the frame before have no influence.

`World.state_update_unheard` says all that such a frame does: the contacts move the bodies, and
the touching pairs are those that were found to touch.
-/

set_option autoImplicit false

namespace PlanarDynamics

/-- A set of pairs is determined by its members. -/
theorem PairSet.eq_of_mem_iff {s t : PairSet} (same : ∀ p, p ∈ s ↔ p ∈ t) : s = t := by
  have perm : s.toList.Perm t.toList := (List.perm_ext_iff_of_nodup s.nodup t.nodup).mpr same
  have antisymm : ∀ p q : ColliderPair, p ∈ s.toList → q ∈ t.toList → p < q → q < p → p = q :=
    fun p q _ _ less greater => absurd greater.1 less.2
  exact PairSet.ext (perm.eq_of_pairwise antisymm s.ascending t.ascending)

variable {α L ρ : Type} [Scalar α]

namespace World

/-! ## What the contacts of a frame depend on -/

/-- The two worlds have the same bodies, colliders and geometry, and the same solver. -/
structure SameScene (w w' : World α L) : Prop where
  bodies : w'.bodies = w.bodies
  colliders : w'.colliders = w.colliders
  shapes : w'.shapes = w.shapes
  solver : w'.solver = w.solver

/-- The pairs in the order in which they are examined, with what is found out about each once the
contacts before it have been resolved. -/
def examinations : List ColliderPair → World α L →
    List (ColliderPair × Except Fault (Option (Examination α)))
  | [], _ => []
  | p :: rest, w => (p, w.examination p) :: examinations rest (w.parted p)

/-- The pair is examined in its turn, and this is found out about it. -/
def Examined (items : List ColliderPair) (w : World α L) (p : ColliderPair)
    (x : Examination α) : Prop :=
  (p, .ok (some x)) ∈ examinations items w

section Scene

variable {w w' : World α L} {p q : ColliderPair} {x : Examination α}
  {items rest : List ColliderPair}

theorem SameScene.examination (same : w.SameScene w') (p : ColliderPair) :
    w'.examination p = w.examination p := by
  have placed := placedShape_congr same.bodies same.colliders same.shapes
  rw [World.examination, World.examination, same.colliders, placed, placed]

/-- Contacts are resolved alike in worlds with the same scene. -/
theorem SameScene.parted (same : w.SameScene w') (p : ColliderPair) :
    (w.parted p).SameScene (w'.parted p) := by
  have collides : w'.collision? p = w.collision? p := by
    rw [collision?, collision?, same.examination]
  rw [World.parted, World.parted, collides]
  split
  · rw [run_resolve, run_resolve, same.bodies]
    split
    · exact same
    · refine ⟨?_, same.colliders, same.shapes, same.solver⟩
      dsimp only
      rw [same.solver]
  · exact same

theorem SameScene.examinations (same : w.SameScene w') (items : List ColliderPair) :
    examinations items w' = examinations items w := by
  induction items generalizing w w' with
  | nil => rfl
  | cons p rest ih =>
      rw [World.examinations, World.examinations, same.examination, ih (same.parted p)]

/-- Resolving contacts leaves everything but the bodies alone, and what becomes of these depends
on the scene. -/
theorem SameScene.foldl_parted (same : w.SameScene w') (items : List ColliderPair) :
    items.foldl World.parted w' = { w' with bodies := (items.foldl World.parted w).bodies } := by
  induction items generalizing w w' with
  | nil =>
      rw [List.foldl_nil, List.foldl_nil, ← same.bodies]
  | cons p rest ih =>
      obtain ⟨bodies, moved⟩ := parted_eq w' p
      rw [List.foldl_cons, List.foldl_cons, ih (same.parted p), moved]

theorem examined_cons :
    Examined (p :: rest) w q x ↔
      q = p ∧ w.examination p = .ok (some x) ∨ Examined rest (w.parted p) q x := by
  simp only [Examined, examinations, List.mem_cons, Prod.mk.injEq]
  exact or_congr_left (and_congr_right fun _ => eq_comm)

theorem not_examined_nil : ¬ Examined [] w q x := List.not_mem_nil

theorem examined_singleton :
    Examined [p] w q x ↔ q = p ∧ w.examination p = .ok (some x) :=
  examined_cons.trans (or_iff_left not_examined_nil)

theorem Examined.mem (examined : Examined items w q x) : q ∈ items := by
  induction items generalizing w with
  | nil => exact absurd examined not_examined_nil
  | cons p rest ih =>
      rcases examined_cons.mp examined with ⟨rfl, _⟩ | later
      · exact List.mem_cons_self
      · exact List.mem_cons_of_mem p (ih later)

end Scene

/-! ## What contacts do to the bodies -/

section Bodies

variable (w : World α L) (p : ColliderPair) (items : List ColliderPair)

/-- Resolving the contact of a pair nudges its two bodies, or there is nothing to resolve. -/
theorem parted_cases : w.parted p = w ∨
    ∃ x c a b a' b', w.collision? p = some (x, c) ∧ w.bodies.get x.bodyA = .ok a ∧
      w.bodies.get x.bodyB = .ok b ∧ x.bodyA.index ≠ x.bodyB.index ∧ a.Nudged a' ∧
      b.Nudged b' ∧ w.parted p =
        { w with bodies := (w.bodies.write x.bodyA.index a').write x.bodyB.index b' } := by
  unfold parted
  split
  · rename_i x c collides
    rcases state_resolve x c w (ρ := Unit) with same | ⟨a, b, a', b', resolved⟩
    · exact .inl same
    · exact .inr ⟨x, c, a, b, a', b', collides, resolved⟩
  · exact .inl rfl

/-- Contacts leave all bodies under their handles. -/
theorem sameOutline_parted : w.bodies.SameOutline (w.parted p).bodies := by
  rcases parted_cases w p with same | ⟨x, c, a, b, a', b', _, first, second, apart, nudged, nudged',
    same⟩
  · rw [same]
    exact .refl _
  · rw [same]
    have live := nudged.isLive.trans (Arena.get_eq_ok_iff.mp first).2
    have live' := nudged'.isLive.trans (Arena.get_eq_ok_iff.mp second).2
    have there := (Arena.get_write_of_ne (u := a') (Ne.symm apart)).mpr second
    exact (Arena.sameOutline_write first live).trans (Arena.sameOutline_write there live')

theorem sameOutline_foldl_parted : w.bodies.SameOutline (items.foldl parted w).bodies := by
  induction items generalizing w with
  | nil => exact .refl _
  | cons p rest ih => exact (sameOutline_parted w p).trans (ih (w.parted p))

theorem sameOutline_moved (dt : α) : w.bodies.SameOutline (w.moved dt).bodies :=
  Arena.sameOutline_mapLive fun b => Body.isLive_step b _ dt

end Bodies

/-! ## The tests of a frame -/

/-- What has happened once pairs have been visited without a listener. -/
structure Surveyed (items : List ColliderPair) (w : World α L) (tested : List ColliderPair)
    (out : Outcome (Note α L ρ) (World α L) (Progress L)) : Prop where
  silent : out.answer.listener = none
  state : out.state =
    { w with bodies := (items.foldl parted w).bodies, touching := out.state.touching }
  tested : ∀ q, q ∈ out.answer.tested ↔ q ∈ tested ∨ ∃ x, Examined items w q x
  touching : ∀ q, q ∈ out.state.touching ↔
    (q ∈ w.touching ∧ ¬ ∃ x, Examined items w q x) ∨
      ∃ x, Examined items w q x ∧ x.meeting.isTouching = true

section Surveys

variable {w : World α L} {p : ColliderPair} {rest : List ColliderPair} {tested : List ColliderPair}

theorem surveyed_visit (react : Reaction α L ρ) {done : Progress L}
    (silent : done.listener = none) (p : ColliderPair) (w : World α L) :
    Surveyed [p] w done.tested ((visit react done p).run w) := by
  have handled := handled react done p w
  generalize (visit react done p).run w = out at handled
  cases handled with
  | passed untested logs =>
      have unknown : ∀ q x, ¬ Examined [p] w q x := by
        intro q x examined
        obtain ⟨_, known⟩ := examined_singleton.mp examined
        exact nomatch untested.symm.trans (found?_eq_some_iff.mpr ⟨x, known, rfl⟩)
      exact
        { silent := silent
          state := by rw [List.foldl_cons, List.foldl_nil, parted_of_untested untested]
          tested := by simp [unknown]
          touching := by simp [unknown] }
  | silent found _ logs =>
      obtain ⟨x, known, meets⟩ := found?_eq_some_iff.mp found
      obtain ⟨touching, tracked, others, self⟩ := tracked_eq found
      have examined : ∀ q y, Examined [p] w q y ↔ q = p ∧ y = x := by
        intro q y
        rw [examined_singleton, known]
        exact and_congr_right fun _ =>
          ⟨fun same => (Option.some.inj (Except.ok.inj same)).symm, fun same => by rw [same]⟩
      refine ⟨silent, ?_, fun q => ?_, fun q => ?_⟩
      · obtain ⟨bodies, moved⟩ := parted_eq w p
        rw [List.foldl_cons, List.foldl_nil, moved]
        rfl
      · simp [examined, or_comm]
      · rw [tracked]
        by_cases this : q = p
        · subst this
          simpa [examined, retouched, meets] using self
        · simpa [examined, retouched, this] using others q this
  | told listening _ _ => exact nomatch silent.symm.trans listening

/-- The survey of a pair is followed by that of other pairs. -/
theorem Surveyed.cons {first second : Outcome (Note α L ρ) (World α L) (Progress L)}
    (here : Surveyed [p] w tested first)
    (later : Surveyed rest first.state first.answer.tested second) (fresh : p ∉ rest) :
    Surveyed (p :: rest) w tested second := by
  obtain ⟨bodies, moved⟩ := parted_eq w p
  have same : (w.parted p).SameScene first.state := by
    rw [here.state, List.foldl_cons, List.foldl_nil, moved]
    exact ⟨rfl, rfl, rfl, rfl⟩
  have examined : ∀ q x, Examined (p :: rest) w q x ↔
      Examined [p] w q x ∨ Examined rest first.state q x := by
    intro q x
    rw [examined_cons, examined_singleton]
    unfold Examined
    rw [same.examinations]
  have apart : ∀ q x y, Examined [p] w q x → ¬ Examined rest first.state q y := by
    intro q x y now again
    obtain ⟨rfl, _⟩ := examined_singleton.mp now
    exact fresh again.mem
  refine ⟨later.silent, ?_, fun q => ?_, fun q => ?_⟩
  · rw [later.state, same.foldl_parted rest, here.state, List.foldl_cons]
    rfl
  · rw [later.tested, here.tested]
    simp only [examined, exists_or, or_assoc]
  · rw [later.touching, here.touching]
    simp only [examined, exists_or, or_and_right]
    grind

/-- **Without a listener, tests part the bodies and find out which pairs touch.** -/
theorem surveyed (react : Reaction α L ρ) {items : List ColliderPair} (once : items.Nodup)
    {done : Progress L} (silent : done.listener = none) (w : World α L) :
    Surveyed items w done.tested ((items.foldlM (visit react) done).run w) := by
  induction items generalizing done w with
  | nil =>
      exact
        { silent := silent
          state := rfl
          tested := by simp [not_examined_nil]
          touching := by simp [not_examined_nil] }
  | cons p rest ih =>
      obtain ⟨fresh, once⟩ := List.nodup_cons.mp once
      have here := surveyed_visit react silent p w
      have later := ih once here.silent ((visit react done p).run w).state
      have whole := here.cons later fresh
      exact ⟨whole.silent, whole.state, whole.tested, whole.touching⟩

end Surveys

/-! ## The whole frame -/

/-- Without a listener, releases take pairs out of the touching pairs and do nothing else. -/
theorem swept (react : Reaction α L ρ) (items : List ColliderPair) (w : World α L) :
    let out := (items.foldlM (release react) none).run w
    out.answer = none ∧ out.state = { w with touching := out.state.touching } ∧
      ∀ q, q ∈ out.state.touching ↔ q ∈ w.touching ∧ q ∉ items := by
  induction items generalizing w with
  | nil => exact ⟨rfl, rfl, fun q => by simp⟩
  | cons p rest ih =>
      have here : ((release react none p).run w).answer = none ∧
          ((release react none p).run w).state = w.released p := by
        have letGo := letGo react none p w
        generalize (release react none p).run w = out at letGo
        cases letGo with
        | silent _ _ => exact ⟨rfl, rfl⟩
        | told listening _ _ => cases listening
      rw [List.foldlM_cons, Recorded.run_bind, here.1, here.2]
      obtain ⟨silent, state, members⟩ := ih (w.released p)
      refine ⟨silent, state, fun q => (members q).trans ?_⟩
      simp only [released, PairSet.mem_erase, List.mem_cons, not_or, and_assoc]

/-- The pairs that a frame examines. -/
def due (dt : α) (w : World α L) : List ColliderPair :=
  (candidates { w.moved dt with tree := (w.moved dt).rebuilt }).toList

/-- **What a frame without a listener does.** Its contacts move the bodies, the broad phase is
filled anew, and the touching pairs are the pairs that were found to touch. -/
theorem state_update_unheard (react : Reaction α L ρ) (dt : α) {w : World α L}
    (idle : w.updating = false) (silent : w.listener = none) :
    ∃ touching : PairSet,
      ((update react dt).run w).state =
        { w with
          bodies := ((w.due dt).foldl parted (w.moved dt)).bodies
          tree := (w.moved dt).rebuilt
          touching := touching } ∧
      ∀ p, p ∈ touching ↔
        ∃ x, Examined (w.due dt) (w.moved dt) p x ∧ x.meeting.isTouching = true := by
  let v := ((opening dt : Action α L ρ Unit).run w).state
  have opened : v =
      { w.moved dt with tree := (w.moved dt).rebuilt, listener := none, updating := true } :=
    state_opening dt w
  have same : (w.moved dt).SameScene v := by
    rw [opened]
    exact ⟨rfl, rfl, rfl, rfl⟩
  have candidates : v.candidates.toList = w.due dt := by
    rw [opened]
    rfl
  have examined : ∀ p x, Examined (w.due dt) v p x ↔ Examined (w.due dt) (w.moved dt) p x := by
    intro p x
    unfold Examined
    rw [same.examinations]
  have start : (⟨w.listener, [], 0⟩ : Progress L).listener = none := silent
  have tests : Surveyed (w.due dt) v [] (visits react dt w) := by
    rw [← candidates]
    exact surveyed react v.candidates.nodup start v
  obtain ⟨answer, state, members⟩ :=
    swept react (leftOver react dt w).toList (visits react dt w).state
  have releases : releases react dt w =
      ((leftOver react dt w).toList.foldlM (release react) none).run (visits react dt w).state := by
    rw [World.releases, tests.silent]
  rw [← releases] at answer state members
  refine ⟨(World.releases react dt w).state.touching, ?_, fun p => ?_⟩
  · have left : (World.releases react dt w).state = { w with
        bodies := ((w.due dt).foldl parted (w.moved dt)).bodies
        tree := (w.moved dt).rebuilt
        touching := (World.releases react dt w).state.touching
        listener := none
        updating := true } := by
      rw [state, tests.state, same.foldl_parted, opened]
      rfl
    rw [run_update idle, run_advance]
    dsimp only
    rw [answer, left, silent, idle]
    rfl
  · have tested : ∀ q, q ∈ leftOver react dt w ↔
        q ∈ (visits react dt w).state.touching ∧ ¬ ∃ x, Examined (w.due dt) v q x := by
      intro q
      rw [leftOver, PairSet.mem_filter, Bool.not_eq_true', ← Bool.not_eq_true,
        List.contains_iff_mem, tests.tested]
      simp
    rw [members, PairSet.mem_toList, tested, tests.touching]
    simp only [examined]
    grind

/-- A frame without a listener leaves no moments behind but its own. -/
theorem moments_update_unheard (react : Reaction α L ρ) (dt : α) {w : World α L}
    (idle : w.updating = false) (silent : w.listener = none) :
    (Operation.update dt).moments react w = [.asked w (.update dt) ()] := by
  have visited : KeptByTurns react (visit react) fun _ done past (_ : World α L) =>
      done.listener = none ∧ past = [] := by
    rintro p rest done past w ⟨silent, rfl⟩
    have handled := handled react done p w
    generalize (visit react done p).run w = out at handled
    cases handled with
    | passed _ logs => exact ⟨silent, logs.moments react⟩
    | silent _ _ logs => exact ⟨silent, logs.moments react⟩
    | told listening _ _ => exact nomatch silent.symm.trans listening
  have released : KeptByTurns react (release react) fun _ listener past (_ : World α L) =>
      listener = none ∧ past = [] := by
    rintro p rest listener past w ⟨rfl, rfl⟩
    have letGo := letGo react none p w
    generalize (release react none p).run w = out at letGo
    cases letGo with
    | silent _ logs => exact ⟨rfl, logs.moments react⟩
    | told listening _ _ => cases listening
  have closing := holds_advance react dt visited (fun _ _ _ held => held) released ⟨silent, rfl⟩
  rw [moments_update, run_update idle]
  exact congrArg _ closing.2

/-- A listener that does nothing. -/
def passive : Reaction Float32 Unit Unit := fun _ _ _ => .done ((), ())

end World

end PlanarDynamics
