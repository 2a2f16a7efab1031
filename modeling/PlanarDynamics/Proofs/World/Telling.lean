import PlanarDynamics.Proofs.World.Touching

/-!
# What the turns of a frame tell

A frame tests a candidate pair and thereby lets it enter, stay in or leave the touching pairs
(`World.tracked`). The listener is told the verdict when one of the colliders is a trigger
(`World.verdict?`); that and no more is what a visit does (`World.visited`). A touching pair that
was not tested is released, and the listener is told of an exit when both colliders are active
(`World.farewell?`, `World.run_released`).

Both keep a past in order (`World.obeys_visit`, `World.obeys_release`). For a release this takes
that the pair is due: it touches still, or one of its colliders is gone.
-/

set_option autoImplicit false

namespace PlanarDynamics

variable {α L ρ : Type} [Scalar α]

/-- The event of a pair that touches or not, and did so before or not. -/
def TriggerEvent.of? : (touches touched : Bool) → Option TriggerEvent
  | true, false => some .enter
  | true, true => some .stay
  | false, true => some .exit
  | false, false => none

theorem TriggerEvent.of?_eq_none {touches touched : Bool} (quiet : of? touches touched = none) :
    touches = false ∧ touched = false := by
  cases touches <;> cases touched <;> cases quiet
  exact ⟨rfl, rfl⟩

/-- Whether a pair touches before an event. -/
def TriggerEvent.before : TriggerEvent → Bool
  | .enter => false
  | .stay | .exit => true

/-- Whether a pair touches after an event. -/
def TriggerEvent.after : TriggerEvent → Bool
  | .enter | .stay => true
  | .exit => false

theorem TriggerEvent.of?_eq_some_iff {touches touched : Bool} {event : TriggerEvent} :
    of? touches touched = some event ↔ touches = event.after ∧ touched = event.before := by
  cases touches <;> cases touched <;> cases event <;> decide

theorem TriggerEvent.follow_before (event : TriggerEvent) :
    event.follow event.before = some event.after := by
  cases event <;> rfl

namespace World

/-! ## Standing and touching -/

/-- An active pair is open exactly when it touches and has a trigger. -/
theorem isOpen_of_active {w : World α L} {p : ColliderPair} {isOpen : Bool} (active : w.Active p)
    (standing : Stands isOpen w p) : isOpen = (w.triggers p && decide (p ∈ w.touching)) := by
  rcases standing with lost | ⟨touches, same⟩ | ⟨apart, closed⟩
  · exact absurd lost active.not_lost
  · rw [decide_eq_true touches, Bool.and_true, same]
  · rw [decide_eq_false apart, Bool.and_false, closed]

theorem stands_touching (w : World α L) (p : ColliderPair) :
    Stands (w.triggers p && decide (p ∈ w.touching)) w p := by
  by_cases touches : p ∈ w.touching
  · exact .inr (.inl ⟨touches, by rw [decide_eq_true touches, Bool.and_true]⟩)
  · exact .inr (.inr ⟨touches, by rw [decide_eq_false touches, Bool.and_false]⟩)

/-- What it takes for a collider to have a shape in the world. -/
theorem placedShape_eq_ok_iff {w : World α L} {c : ColliderRef} {shape : Shape α} :
    w.placedShape c = .ok shape ↔ ∃ collider body, w.colliders.get c = .ok collider ∧
      w.bodies.get collider.body = .ok body ∧
      w.shapes.placed collider.kind collider.place body.position = .ok shape := by
  simp only [placedShape, bind_eq_ok_iff, exists_and_left]

theorem active_of_placedShape {w : World α L} {c : ColliderRef} {shape : Shape α}
    (placed : w.placedShape c = .ok shape) : (w.active? c).isSome = true := by
  obtain ⟨collider, body, found, there, _⟩ := placedShape_eq_ok_iff.mp placed
  exact Option.isSome_iff_exists.mpr ⟨collider, active?_eq_some_iff.mpr ⟨found, body, there⟩⟩

/-- A pair that can be examined consists of two placed colliders of different bodies. -/
theorem colliders_of_examination {w : World α L} {p : ColliderPair} {x : Examination α}
    (examined : w.examination p = .ok (some x)) :
    ∃ a b shapeA shapeB, w.colliders.get p.first = .ok a ∧ w.colliders.get p.second = .ok b ∧
      a.body ≠ b.body ∧ w.placedShape p.first = .ok shapeA ∧ w.placedShape p.second = .ok shapeB ∧
      x.bodyA = a.body ∧ x.bodyB = b.body ∧ x.isTrigger = (a.isTrigger || b.isTrigger) := by
  obtain ⟨a, first, rest⟩ := bind_eq_ok_iff.mp examined
  obtain ⟨b, second, rest⟩ := bind_eq_ok_iff.mp rest
  split at rest
  · cases rest
  · rename_i apart
    split at rest
    · rename_i shapeA shapeB placed placed'
      cases rest
      exact ⟨a, b, shapeA, shapeB, first, second, apart, placed, placed', rfl, rfl, rfl⟩
    · cases rest

/-- Two placed colliders of different bodies can be examined. -/
theorem examination_of_placed {w : World α L} {p : ColliderPair} {a b : Collider α}
    {shapeA shapeB : Shape α} (first : w.colliders.get p.first = .ok a)
    (second : w.colliders.get p.second = .ok b) (apart : a.body ≠ b.body)
    (placed : w.placedShape p.first = .ok shapeA) (placed' : w.placedShape p.second = .ok shapeB) :
    w.examination p = .ok (some ⟨a.body, b.body, a.material.restitution, b.material.restitution,
      a.isTrigger || b.isTrigger, shapeA.meet shapeB⟩) := by
  rw [examination, first, second, placed, placed']
  exact if_neg apart

/-- What is known of a pair that can be examined. -/
theorem active_of_examination {w : World α L} {p : ColliderPair} {x : Examination α}
    (examined : w.examination p = .ok (some x)) : w.Active p ∧ x.isTrigger = w.triggers p := by
  obtain ⟨a, b, _, _, first, second, _, placed, placed', _, _, trigger⟩ :=
    colliders_of_examination examined
  exact ⟨⟨active_of_placedShape placed, active_of_placedShape placed'⟩,
    trigger.trans (triggers_of_get first second).symm⟩

/-- A collider cannot be examined against itself. -/
theorem ne_of_examination {w : World α L} {p : ColliderPair} {x : Examination α}
    (examined : w.examination p = .ok (some x)) : p.first ≠ p.second := by
  obtain ⟨a, b, _, _, first, second, apart, _⟩ := colliders_of_examination examined
  intro same
  rw [same, second] at first
  exact apart (congrArg Collider.body (Except.ok.inj first).symm)

/-- Whether a pair is found to touch when it is tested, none when it cannot be tested. -/
def found? (w : World α L) (p : ColliderPair) : Option Bool :=
  match w.examination p with
  | .ok (some x) => some x.meeting.isTouching
  | _ => none

theorem found?_eq_some_iff {w : World α L} {p : ColliderPair} {touches : Bool} :
    w.found? p = some touches ↔
      ∃ x, w.examination p = .ok (some x) ∧ x.meeting.isTouching = touches := by
  unfold found?
  split
  · rename_i x examined
    simp [examined]
  · rename_i other
    exact ⟨nofun, fun ⟨x, examined, _⟩ => absurd examined (other x)⟩

theorem active_of_found? {w : World α L} {p : ColliderPair} {touches : Bool}
    (found : w.found? p = some touches) : w.Active p := by
  obtain ⟨x, examined, _⟩ := found?_eq_some_iff.mp found
  exact (active_of_examination examined).1

/-- The world after a pair has been tested, before the listener is told. -/
def tracked (w : World α L) (p : ColliderPair) : World α L :=
  match w.found? p with
  | some touches => ((track p touches : Action α L Unit (Option TriggerEvent)).run w).state
  | none => w

/-- What a test has the listener told of a pair. -/
def verdict? (w : World α L) (p : ColliderPair) : Option TriggerEvent :=
  (w.found? p).bind fun touches =>
    if w.triggers p then TriggerEvent.of? touches (decide (p ∈ w.touching)) else none

theorem run_track_found {w : World α L} {p : ColliderPair} {touches : Bool}
    (found : w.found? p = some touches) :
    (track p touches : Action α L ρ (Option TriggerEvent)).run w =
      ⟨TriggerEvent.of? touches (decide (p ∈ w.touching)), w.tracked p, []⟩ := by
  simp only [tracked, found, run_track]
  cases touches <;> cases decide (p ∈ w.touching) <;> rfl

/-- A test changes nothing but whether the pair is one of the touching pairs. -/
theorem tracked_eq {w : World α L} {p : ColliderPair} {touches : Bool}
    (found : w.found? p = some touches) :
    ∃ touching : PairSet, w.tracked p = { w with touching := touching } ∧
      (∀ q ≠ p, q ∈ touching ↔ q ∈ w.touching) ∧ (p ∈ touching ↔ touches = true) := by
  simp only [tracked, found, run_track]
  by_cases touched : p ∈ w.touching
  · rw [decide_eq_true touched]
    cases touches with
    | true => exact ⟨w.touching, rfl, fun _ _ => Iff.rfl, by simpa using touched⟩
    | false =>
        refine ⟨w.touching.erase p, rfl, fun q other => ?_, by simp⟩
        rw [PairSet.mem_erase]
        exact and_iff_left other
  · rw [decide_eq_false touched]
    cases touches with
    | true =>
        refine ⟨w.touching.insert p, rfl, fun q other => ?_, by simp⟩
        rw [PairSet.mem_insert]
        exact or_iff_right other
    | false => exact ⟨w.touching, rfl, fun _ _ => Iff.rfl, by simpa using touched⟩

/-- A verdict is given on a pair with a trigger that is tested. -/
theorem verdict?_eq_some_iff {w : World α L} {p : ColliderPair} {event : TriggerEvent} :
    w.verdict? p = some event ↔ w.triggers p = true ∧ w.found? p = some event.after ∧
      decide (p ∈ w.touching) = event.before := by
  rw [verdict?, Option.bind_eq_some_iff]
  constructor
  · rintro ⟨touches, found, verdict⟩
    obtain ⟨trigger, occurs⟩ := Option.ite_none_right_eq_some.mp verdict
    obtain ⟨rfl, before⟩ := TriggerEvent.of?_eq_some_iff.mp occurs
    exact ⟨trigger, found, before⟩
  · rintro ⟨trigger, found, before⟩
    refine ⟨event.after, found, ?_⟩
    rw [if_pos trigger]
    exact TriggerEvent.of?_eq_some_iff.mpr ⟨rfl, before⟩

/-! ## Collisions -/

/-- The contact of a pair of solid colliders, with what is known of the pair. -/
def collision? (w : World α L) (p : ColliderPair) : Option (Examination α × Contact α) :=
  match w.examination p with
  | .ok (some x) => if x.isTrigger then none else x.meeting.contact?.map fun c => (x, c)
  | _ => none

/-- The world after the collision of a pair has been resolved, if there is one. -/
def parted (w : World α L) (p : ColliderPair) : World α L :=
  match w.collision? p with
  | some (x, c) => ((resolve x c : Action α L Unit Bool).run w).state
  | none => w

/-- The world with another set of touching pairs. -/
def retouched (w : World α L) (touching : PairSet) : World α L := { w with touching := touching }

/-- Only bodies move when a pair is parted. -/
theorem parted_eq (w : World α L) (p : ColliderPair) :
    ∃ bodies, w.parted p = { w with bodies := bodies } := by
  unfold parted
  split
  · rw [run_resolve]
    split
    · exact ⟨w.bodies, rfl⟩
    · exact ⟨_, rfl⟩
  · exact ⟨w.bodies, rfl⟩

theorem collision?_eq_some_iff {w : World α L} {p : ColliderPair} {x : Examination α}
    {c : Contact α} :
    w.collision? p = some (x, c) ↔
      w.examination p = .ok (some x) ∧ x.isTrigger = false ∧ x.meeting = .contact c := by
  have contact : ∀ m : Meeting α, m.contact? = some c ↔ m = .contact c := by
    intro m
    cases m <;> simp [Meeting.contact?]
  unfold collision?
  split
  case h_1 y examined =>
      rw [examined, Option.ite_none_left_eq_some, Bool.not_eq_true, Option.map_eq_some_iff]
      constructor
      · rintro ⟨solid, d, met, same⟩
        obtain ⟨rfl, rfl⟩ := Prod.mk.inj same
        exact ⟨rfl, solid, (contact _).mp met⟩
      · rintro ⟨same, solid, met⟩
        cases same
        exact ⟨solid, c, (contact _).mpr met, rfl⟩
  case h_2 other => exact ⟨nofun, fun known => absurd known.1 (other x)⟩

/-- Resolving a contact neither reads nor changes the touching pairs. -/
theorem state_resolve_retouched (x : Examination α) (c : Contact α) (w : World α L)
    (touching : PairSet) :
    ((resolve x c : Action α L ρ Bool).run (w.retouched touching)).state =
      ((resolve x c : Action α L Unit Bool).run w).state.retouched touching := by
  have bodies : (w.retouched touching).bodies = w.bodies := rfl
  rw [run_resolve, run_resolve, bodies]
  split <;> rfl

/-- Nothing collides in a pair that cannot be tested. -/
theorem collision?_of_untested {w : World α L} {p : ColliderPair} (untested : w.found? p = none) :
    w.collision? p = none := by
  rw [found?] at untested
  rw [collision?]
  split
  · rename_i examined
    rw [examined] at untested
    cases untested
  · rfl

theorem parted_of_untested {w : World α L} {p : ColliderPair} (untested : w.found? p = none) :
    w.parted p = w := by
  rw [parted, collision?_of_untested untested]

theorem drifts_parted (w : World α L) (p : ColliderPair) : w.Drifts (w.parted p) := by
  unfold parted
  split
  · exact drifts_resolve _ _ w
  · exact drifts_of_eq rfl rfl rfl

/-! ## Visits and releases -/

/-- What a visit of a candidate pair does, with or without a listener. -/
inductive Handled (react : Reaction α L ρ) (done : Progress L) (p : ColliderPair)
    (w : World α L) : Outcome (Note α L ρ) (World α L) (Progress L) → Prop
  /-- The pair cannot be tested. -/
  | passed {notes : List (Note α L ρ)} (untested : w.found? p = none) (logs : Logs notes) :
      Handled react done p w ⟨done, w, notes⟩
  /-- The pair is tested, and no listener is told. -/
  | silent {touches : Bool} {resolved : Nat} {notes : List (Note α L ρ)}
      (found : w.found? p = some touches)
      (silence : done.listener = none ∨ w.verdict? p = none) (logs : Logs notes) :
      Handled react done p w ⟨⟨done.listener, p :: done.tested, resolved⟩,
        (w.parted p).retouched (w.tracked p).touching, notes⟩
  /-- The pair is tested, and the listener is told of its event. -/
  | told {l : L} {event : TriggerEvent} (listening : done.listener = some l)
      (verdict : w.verdict? p = some event) {call : Outcome (Note α L ρ) (World α L) L}
      (called : call = (dispatch react l event p).run (w.tracked p)) :
      Handled react done p w
        ⟨⟨some call.answer, p :: done.tested, done.resolved⟩, call.state, call.notes⟩

/-- What a visit of a candidate pair with a listener does. -/
inductive Visited (react : Reaction α L ρ) (l : L) (done : Progress L) (p : ColliderPair)
    (w : World α L) : Outcome (Note α L ρ) (World α L) (Progress L) → Prop
  /-- The pair cannot be tested. -/
  | passed {notes : List (Note α L ρ)} (untested : w.found? p = none) (logs : Logs notes) :
      Visited react l done p w ⟨done, w, notes⟩
  /-- The pair is tested, and the listener is not told. -/
  | silent {touches : Bool} {w' : World α L} {resolved : Nat} {notes : List (Note α L ρ)}
      (found : w.found? p = some touches) (silence : w.verdict? p = none)
      (drifts : Drifts (w.tracked p) w') (logs : Logs notes) :
      Visited react l done p w ⟨⟨done.listener, p :: done.tested, resolved⟩, w', notes⟩
  /-- The pair is tested, and the listener is told of its event. -/
  | told {event : TriggerEvent} (verdict : w.verdict? p = some event)
      {call : Outcome (Note α L ρ) (World α L) L}
      (called : call = (dispatch react l event p).run (w.tracked p)) :
      Visited react l done p w
        ⟨⟨some call.answer, p :: done.tested, done.resolved⟩, call.state, call.notes⟩

theorem run_examine (p : ColliderPair) (w : World α L) :
    (examine p : Action α L ρ (Option (Examination α))).run w =
      match w.examination p with
      | .ok found => ⟨found, w, []⟩
      | .error fault => ⟨none, w, [.log (.skippedCandidate p fault)]⟩ := by
  rw [examine, Recorded.run_bind, Recorded.run_get]
  dsimp only
  cases w.examination p <;> rfl

theorem run_notify (react : Reaction α L ρ) (l : L) (event : TriggerEvent) (p : ColliderPair)
    (w : World α L) :
    (notify react (some l) event p).run w =
      let call := (dispatch react l event p).run w
      ⟨some call.answer, call.state, call.notes⟩ :=
  Outcome.ext rfl rfl (List.append_nil _)

/-- A visit passes the pair over, tests it silently or tells the listener. Where nothing collides,
tracking is all that changes the world. -/
theorem handled (react : Reaction α L ρ) (done : Progress L) (p : ColliderPair) (w : World α L) :
    Handled react done p w ((visit react done p).run w) := by
  rw [visit, Recorded.run_bind, run_examine]
  cases examined : w.examination p with
  | error fault =>
      exact .passed (by rw [found?, examined]) fun n member => ⟨_, List.mem_singleton.mp member⟩
  | ok found =>
      cases found with
      | none => exact .passed (by rw [found?, examined]) logs_nil
      | some x =>
          have found : w.found? p = some x.meeting.isTouching := by rw [found?, examined]
          have verdict : w.verdict? p = if x.isTrigger then
              TriggerEvent.of? x.meeting.isTouching (decide (p ∈ w.touching)) else none := by
            rw [verdict?, found, (active_of_examination examined).2]
            rfl
          obtain ⟨touching, tracked, _, _⟩ := tracked_eq found
          have still : w.collision? p = none →
              w.tracked p = (w.parted p).retouched (w.tracked p).touching := by
            intro apart
            rw [parted, apart, tracked]
            rfl
          dsimp only
          rw [Recorded.run_bind, run_track_found found]
          dsimp only
          cases trigger : x.isTrigger with
          | true =>
              have apart : w.collision? p = none := by
                simp only [collision?, examined, trigger, if_true]
              rw [trigger, if_pos rfl] at verdict
              cases occurs : TriggerEvent.of? x.meeting.isTouching (decide (p ∈ w.touching)) with
              | none =>
                  simp only [if_true, Recorded.run_pure, List.nil_append]
                  exact still apart ▸ .silent found (.inr (verdict.trans occurs)) logs_nil
              | some event =>
                  cases listening : done.listener with
                  | none =>
                      simp only [if_true, notify, Recorded.run_bind, Recorded.run_pure,
                        List.nil_append]
                      have outcome : Handled react done p w
                          ⟨⟨done.listener, p :: done.tested, done.resolved⟩,
                            (w.parted p).retouched (w.tracked p).touching, []⟩ :=
                        .silent found (.inl listening) logs_nil
                      rw [listening, ← still apart] at outcome
                      exact outcome
                  | some l =>
                      simp only [if_true, Recorded.run_bind, run_notify, Recorded.run_pure,
                        List.nil_append, List.append_nil]
                      exact .told listening (verdict.trans occurs) rfl
          | false =>
              have collides : w.collision? p = x.meeting.contact?.map fun c => (x, c) := by
                simp only [collision?, examined, trigger, Bool.false_eq_true, if_false]
              rw [trigger, if_neg Bool.false_ne_true] at verdict
              cases meets : x.meeting.contact? with
              | none =>
                  simp only [Bool.false_eq_true, if_false, Recorded.run_pure, List.nil_append]
                  rw [meets, Option.map_none] at collides
                  exact still collides ▸ .silent found (.inr verdict) logs_nil
              | some c =>
                  simp only [Bool.false_eq_true, if_false, Recorded.run_bind, Recorded.run_pure,
                    List.nil_append, List.append_nil]
                  rw [meets, Option.map_some] at collides
                  have settled : ((resolve x c : Action α L ρ Bool).run (w.tracked p)).state =
                      (w.parted p).retouched (w.tracked p).touching := by
                    rw [parted, collides, tracked]
                    exact state_resolve_retouched x c w touching
                  rw [settled]
                  exact .silent found (.inr verdict) (quiet_resolve x c _)

/-- A visit with a listener passes the pair over, tests it silently or tells the listener. -/
theorem visited (react : Reaction α L ρ) {l : L} {done : Progress L}
    (listening : done.listener = some l) (p : ColliderPair) (w : World α L) :
    Visited react l done p w ((visit react done p).run w) := by
  have handled := handled react done p w
  generalize (visit react done p).run w = out at handled
  cases handled with
  | passed untested logs => exact .passed untested logs
  | silent found silence logs =>
      obtain ⟨touching, tracked, _, _⟩ := tracked_eq found
      have drifts : (w.tracked p).Drifts ((w.parted p).retouched (w.tracked p).touching) := by
        rw [tracked]
        have drifts := drifts_parted w p
        obtain ⟨bodies, moved⟩ := parted_eq w p
        rw [moved] at drifts ⊢
        exact ⟨drifts.bodies, drifts.outline, rfl, rfl, rfl⟩
      exact .silent found (silence.resolve_left fun none => nomatch none.symm.trans listening)
        drifts logs
  | told listening' verdict called =>
      obtain rfl := Option.some.inj (listening.symm.trans listening')
      exact .told verdict called

/-- The world after a touching pair has been released, before the listener is told. -/
def released (w : World α L) (p : ColliderPair) : World α L :=
  { w with touching := w.touching.erase p }

/-- What a release has the listener told of a pair. -/
def farewell? (w : World α L) (p : ColliderPair) : Option TriggerEvent :=
  if w.Active p ∧ w.triggers p = true then some .exit else none

theorem farewell?_eq_some_iff {w : World α L} {p : ColliderPair} {event : TriggerEvent} :
    w.farewell? p = some event ↔ (w.Active p ∧ w.triggers p = true) ∧ event = .exit := by
  rw [farewell?, Option.ite_none_right_eq_some, Option.some_inj]
  exact and_congr_right' eq_comm

/-- What the release of a touching pair does, with or without a listener. -/
inductive LetGo (react : Reaction α L ρ) (listener : Option L) (p : ColliderPair) (w : World α L) :
    Outcome (Note α L ρ) (World α L) (Option L) → Prop
  /-- No listener is told. -/
  | silent {notes : List (Note α L ρ)} (silence : listener = none ∨ w.farewell? p = none)
      (logs : Logs notes) : LetGo react listener p w ⟨listener, w.released p, notes⟩
  /-- The listener is told of an exit. -/
  | told {l : L} (listening : listener = some l) (farewell : w.farewell? p = some .exit)
      {call : Outcome (Note α L ρ) (World α L) L}
      (called : call = (dispatch react l .exit p).run (w.released p)) :
      LetGo react listener p w ⟨some call.answer, call.state, call.notes⟩

/-- What the release of a touching pair with a listener does. -/
inductive Released (react : Reaction α L ρ) (l : L) (p : ColliderPair) (w : World α L) :
    Outcome (Note α L ρ) (World α L) (Option L) → Prop
  /-- The listener is not told. -/
  | silent {notes : List (Note α L ρ)} (silence : w.farewell? p = none) (logs : Logs notes) :
      Released react l p w ⟨some l, w.released p, notes⟩
  /-- The listener is told of an exit. -/
  | told (farewell : w.farewell? p = some .exit) {call : Outcome (Note α L ρ) (World α L) L}
      (called : call = (dispatch react l .exit p).run (w.released p)) :
      Released react l p w ⟨some call.answer, call.state, call.notes⟩

theorem triggers_of_active {w : World α L} {p : ColliderPair} {a b : Collider α}
    (first : w.active? p.first = some a) (second : w.active? p.second = some b) :
    w.triggers p = (a.isTrigger || b.isTrigger) :=
  triggers_of_get (active?_eq_some_iff.mp first).1 (active?_eq_some_iff.mp second).1

theorem run_release (react : Reaction α L ρ) (listener : Option L) (p : ColliderPair)
    (w : World α L) :
    (release react listener p).run w =
      (match w.active? p.first, w.active? p.second with
        | some a, some b =>
          if a.isTrigger || b.isTrigger then notify react listener .exit p else pure listener
        | _, _ => do
          log (.dropped p)
          return listener : Action α L ρ (Option L)).run (w.released p) := rfl

/-- A release is silent or tells the listener. -/
theorem letGo (react : Reaction α L ρ) (listener : Option L) (p : ColliderPair) (w : World α L) :
    LetGo react listener p w ((release react listener p).run w) := by
  have inactive : ¬ w.Active p → w.farewell? p = none := fun inactive =>
    if_neg fun both => inactive both.1
  have dropped : Logs [(.log (.dropped p) : Note α L ρ)] := fun n member =>
    ⟨_, List.mem_singleton.mp member⟩
  rw [run_release]
  cases first : w.active? p.first with
  | none =>
      exact .silent (.inr (inactive fun active => nomatch first ▸ active.1)) dropped
  | some a =>
      cases second : w.active? p.second with
      | none => exact .silent (.inr (inactive fun active => nomatch second ▸ active.2)) dropped
      | some b =>
          have active : w.Active p := ⟨by rw [first]; rfl, by rw [second]; rfl⟩
          dsimp only
          rw [← triggers_of_active first second]
          cases trigger : w.triggers p with
          | true =>
              rw [if_pos rfl]
              cases listener with
              | none => exact .silent (.inl rfl) logs_nil
              | some l =>
                  rw [run_notify]
                  exact .told rfl (if_pos ⟨active, trigger⟩) rfl
          | false =>
              rw [if_neg Bool.false_ne_true, Recorded.run_pure]
              refine .silent (.inr (if_neg fun both => ?_)) logs_nil
              exact Bool.false_ne_true (trigger.symm.trans both.2)

/-- A release with a listener is silent or tells the listener. -/
theorem run_released (react : Reaction α L ρ) (l : L) (p : ColliderPair) (w : World α L) :
    Released react l p w ((release react (some l) p).run w) := by
  have released := letGo react (some l) p w
  generalize (release react (some l) p).run w = out at released
  cases released with
  | silent silence logs => exact .silent (silence.resolve_left nofun) logs
  | told listening farewell called =>
      obtain rfl := Option.some.inj listening
      exact .told farewell called

/-! ## What the listener is told -/

/-- A program of the listener is told of nothing. -/
theorem filterMap_moments {β γ : Type} {f : Moment α L ρ → Option γ}
    (silent : ∀ w op answer, f (.asked w op answer) = none) (program : Program α L β)
    (w : World α L) : (program.moments w).filterMap f = [] := by
  induction program generalizing w with
  | done b => rfl
  | ask op next ih =>
      rw [Program.moments, List.filterMap_cons_none (silent _ _ _)]
      exact ih _ _

theorem events_dispatch (react : Reaction α L ρ) (l : L) (event : TriggerEvent)
    (p q : ColliderPair) (w : World α L) :
    (((dispatch react l event p).run w).notes.flatMap (Note.moments react)).filterMap
      (Moment.eventOf? q) = if p = q then [event] else [] := by
  obtain ⟨report, moments⟩ := moments_dispatch react l event p w
  have quiet : ((react l event p).moments w).filterMap
      (Moment.eventOf? q : Moment α L ρ → Option TriggerEvent) = [] :=
    filterMap_moments (fun _ _ _ => rfl) _ w
  rw [moments]
  by_cases same : p = q
  · have told : (Moment.told ⟨w, l, event, p, report⟩).eventOf? q = some event := if_pos same
    rw [List.filterMap_cons_some told, quiet, if_pos same]
  · have told : (Moment.told ⟨w, l, event, p, report⟩).eventOf? q = none := if_neg same
    rw [List.filterMap_cons_none told, quiet, if_neg same]

/-- A visit tells of its verdict. -/
theorem events_visit (react : Reaction α L ρ) {l : L} {done : Progress L}
    (listening : done.listener = some l) (p q : ColliderPair) (w : World α L) :
    (((visit react done p).run w).notes.flatMap (Note.moments react)).filterMap
      (Moment.eventOf? q) = if p = q then (w.verdict? p).toList else [] := by
  have visited := visited react listening p w
  generalize (visit react done p).run w = out at visited
  cases visited with
  | passed untested logs =>
      rw [logs.moments, verdict?, untested]
      exact (ite_self []).symm
  | silent found silence drifts logs =>
      rw [logs.moments, silence]
      exact (ite_self []).symm
  | told verdict called =>
      rw [called, events_dispatch, verdict]
      rfl

/-- A release tells of its farewell. -/
theorem events_release (react : Reaction α L ρ) (l : L) (p q : ColliderPair) (w : World α L) :
    (((release react (some l) p).run w).notes.flatMap (Note.moments react)).filterMap
      (Moment.eventOf? q) = if p = q then (w.farewell? p).toList else [] := by
  have released := run_released react l p w
  generalize (release react (some l) p).run w = out at released
  cases released with
  | silent silence logs =>
      rw [logs.moments, silence]
      exact (ite_self []).symm
  | told farewell called =>
      rw [called, events_dispatch, farewell]
      rfl

/-! ## Pasts that stay in order -/

section Order

variable {past : List (Moment α L ρ)} {w : World α L} {p : ColliderPair} {touches : Bool}

theorem stands_tracked (found : w.found? p = some touches) :
    Stands (w.triggers p && touches) (w.tracked p) p := by
  obtain ⟨touching, same, _, self⟩ := tracked_eq found
  have standing := stands_touching { w with touching := touching } p
  have touched : decide (p ∈ touching) = touches := by
    rw [Bool.eq_iff_iff, decide_eq_true_iff]
    exact self
  rw [same, ← touched]
  exact standing

/-- A test of which the listener is not told leaves a pair open or closed. -/
theorem Obeys.tested (obeys : Obeys past w) (found : w.found? p = some touches)
    (silence : w.verdict? p = none) : Obeys past (w.tracked p) := by
  obtain ⟨touching, same, others, _⟩ := tracked_eq found
  have active : w.Active p := active_of_found? found
  have next := stands_tracked found
  rw [same] at next ⊢
  refine obeys.touch (fun _ => active.met) others fun isOpen standing => ?_
  have unchanged : isOpen = (w.triggers p && touches) := by
    rw [isOpen_of_active active standing]
    rw [verdict?, found, Option.bind_some] at silence
    cases trigger : w.triggers p with
    | false => rfl
    | true =>
        rw [if_pos trigger] at silence
        obtain ⟨apart, before⟩ := TriggerEvent.of?_eq_none silence
        rw [apart, before]
  exact unchanged ▸ next

/-- A test of which the listener is told opens or closes a pair as it must. -/
theorem Obeys.tell_verdict {event : TriggerEvent} (obeys : Obeys past w)
    (verdict : w.verdict? p = some event) (l : L) (report : ρ) :
    Obeys (past ++ [.told ⟨w.tracked p, l, event, p, report⟩]) (w.tracked p) := by
  obtain ⟨trigger, found, before⟩ := verdict?_eq_some_iff.mp verdict
  obtain ⟨touching, same, others, _⟩ := tracked_eq found
  have active : w.Active p := active_of_found? found
  have next := stands_tracked found
  rw [same, trigger, Bool.true_and] at next
  refine obeys.tell (c := ⟨w.tracked p, l, event, p, report⟩) same active others
    fun isOpen standing => ⟨event.after, ?_, next⟩
  rw [isOpen_of_active active standing, trigger, Bool.true_and, before]
  exact event.follow_before

/-- A touching pair is released, and the listener is not told. -/
theorem Obeys.released (obeys : Obeys past w) (silence : w.farewell? p = none) :
    Obeys past (w.released p) := by
  refine obeys.touch (fun member => absurd rfl (PairSet.mem_erase.mp member).2)
    (fun q other => PairSet.mem_erase.trans (and_iff_left other)) fun isOpen standing => ?_
  have apart : p ∉ w.touching.erase p := fun member => absurd rfl (PairSet.mem_erase.mp member).2
  rcases standing with lost | ⟨touches, same⟩ | ⟨_, closed⟩
  · exact .inl lost
  · rcases obeys.sound.active_or_lost (obeys.sound.touching p touches) with active | lost
    · have solid : w.triggers p = false := by
        rw [farewell?, ite_eq_right_iff] at silence
        exact Bool.eq_false_iff.mpr fun trigger => nomatch silence ⟨active, trigger⟩
      exact .inr (.inr ⟨apart, same.symm.trans solid⟩)
    · exact .inl lost
  · exact .inr (.inr ⟨apart, closed⟩)

/-- A touching pair is released, and the listener is told of its exit. -/
theorem Obeys.tell_farewell (obeys : Obeys past w) (waiting : p ∈ w.touching ∨ w.Lost p)
    (farewell : w.farewell? p = some .exit) (l : L) (report : ρ) :
    Obeys (past ++ [.told ⟨w.released p, l, .exit, p, report⟩]) (w.released p) := by
  obtain ⟨⟨active, trigger⟩, _⟩ := farewell?_eq_some_iff.mp farewell
  have touches : p ∈ w.touching := waiting.resolve_right active.not_lost
  have apart : p ∉ w.touching.erase p := fun member => absurd rfl (PairSet.mem_erase.mp member).2
  refine obeys.tell (c := ⟨w.released p, l, .exit, p, report⟩) rfl active
    (fun q other => PairSet.mem_erase.trans (and_iff_left other)) fun isOpen standing => ?_
  rw [isOpen_of_active active standing, trigger, decide_eq_true touches]
  exact ⟨false, rfl, .inr (.inr ⟨apart, rfl⟩)⟩

end Order

/-! ## Turns of a frame -/

section Turns

variable [OrderedScalar α] {react : Reaction α L ρ} {l : L} {past : List (Moment α L ρ)}
  {w : World α L} {p : ColliderPair}

omit [OrderedScalar α] in
/-- A past in order that is permitted so far. -/
theorem ObeysPermitted.of_concat {due : List ColliderPair} (start : ObeysPermitted due past w)
    {m : Moment α L ρ} (permitted : ∀ n ∈ past ++ [m], n.Permitted) :
    Obeys past w ∧ ∀ q ∈ due, q ∈ w.touching ∨ w.Lost q :=
  start fun n member => permitted n (List.mem_append_left _ member)

/-- **A visit keeps the past in order.** -/
theorem obeys_visit {done : Progress L} (listening : done.listener = some l)
    (start : ObeysPermitted [] past w) :
    let out := (visit react done p).run w
    ObeysPermitted [] (past ++ out.notes.flatMap (Note.moments react)) out.state := by
  have visited := visited react listening p w
  generalize (visit react done p).run w = out at visited
  cases visited with
  | passed untested logs =>
      simp only [logs.moments, List.append_nil]
      exact start
  | silent found silence drifts logs =>
      simp only [logs.moments, List.append_nil]
      exact fun permitted =>
        ⟨((start permitted).1.tested found silence).drift drifts, fun _ member => nomatch member⟩
  | told verdict called =>
      subst called
      exact holds_dispatch (obeys_inside []) l _ p past _ fun report permitted =>
        ⟨(start.of_concat permitted).1.tell_verdict verdict l report,
          fun _ member => nomatch member⟩

/-- **A release keeps the past in order, and the other pairs that are due.** -/
theorem obeys_release {due : List ColliderPair} (apart : p ∉ due)
    (start : ObeysPermitted (p :: due) past w) :
    let out := (release react (some l) p).run w
    ObeysPermitted due (past ++ out.notes.flatMap (Note.moments react)) out.state := by
  have released := run_released react l p w
  generalize (release react (some l) p).run w = out at released
  have others : (∀ q ∈ p :: due, q ∈ w.touching ∨ w.Lost q) →
      ∀ q ∈ due, q ∈ w.touching.erase p ∨ (w.released p).Lost q := by
    intro waiting q member
    rcases waiting q (List.mem_cons_of_mem p member) with touches | lost
    · exact .inl (PairSet.mem_erase.mpr ⟨touches, fun same => apart (same ▸ member)⟩)
    · exact .inr lost
  cases released with
  | silent silence logs =>
      simp only [logs.moments, List.append_nil]
      intro permitted
      obtain ⟨obeys, waiting⟩ := start permitted
      exact ⟨obeys.released silence, others waiting⟩
  | told farewell called =>
      subst called
      refine holds_dispatch (obeys_inside due) l .exit p past _ fun report permitted => ?_
      obtain ⟨obeys, waiting⟩ := start.of_concat permitted
      exact ⟨obeys.tell_farewell (waiting p List.mem_cons_self) farewell l report, others waiting⟩

end Turns

end World

end PlanarDynamics
