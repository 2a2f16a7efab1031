import PlanarDynamics.Proofs.Scalar.Binary32
import PlanarDynamics.Proofs.World.Names
import PlanarDynamics.Proofs.World.Turns

/-!
# What a listener is told over a whole run

Over a run from the creation of a world, a listener is told of a pair in rounds: an entry, any
number of stays and an exit, the last round possibly not finished. Every frame tells of a pair once
at most, of an entry when the pair joins the touching pairs at its test, of a stay when it is one
of them and found to touch, and of an exit when it leaves them while both colliders are active
(`World.ToldRightly`). A pair that was touching or active and is not active any more is never heard
of again. `World.triggers_told_in_rounds` states all of it for every run that keeps to what is
permitted.
-/

set_option autoImplicit false

namespace PlanarDynamics

variable {α L ρ : Type} [Scalar α]

namespace TriggerEvent

/-! ## Rounds -/

/-- A whole round of events: an entry, some stays and an exit. -/
def round (stays : Nat) : List TriggerEvent := .enter :: (List.replicate stays .stay ++ [.exit])

/-- Events that come in rounds, the last of which need not be finished. -/
def InRounds (events : List TriggerEvent) : Prop :=
  ∃ stays : List Nat, events <+: stays.flatMap round

/-- Events that follow each other from the middle of a round finish it first. -/
theorem prefix_of_follow {events : List TriggerEvent} {touches touched : Bool}
    (follows : events.foldlM follow touched = some touches) :
    ∃ (stays : List Nat) (more : Nat),
      events <+: (if touched then List.replicate more .stay ++ [.exit] else []) ++
        stays.flatMap round := by
  induction events generalizing touched with
  | nil => exact ⟨[], 0, List.nil_prefix⟩
  | cons event rest ih =>
      rw [List.foldlM_cons] at follows
      cases touched with
      | false =>
          cases event with
          | enter =>
              obtain ⟨stays, more, early⟩ := ih follows
              refine ⟨more :: stays, 0, ?_⟩
              exact List.cons_prefix_cons.mpr ⟨rfl, early⟩
          | stay => cases follows
          | exit => cases follows
      | true =>
          cases event with
          | enter => cases follows
          | stay =>
              obtain ⟨stays, more, early⟩ := ih follows
              exact ⟨stays, more + 1, List.cons_prefix_cons.mpr ⟨rfl, early⟩⟩
          | exit =>
              obtain ⟨stays, _, early⟩ := ih follows
              exact ⟨stays, 0, List.cons_prefix_cons.mpr ⟨rfl, early⟩⟩

/-- **Events that follow each other come in rounds.** -/
theorem inRounds_of_follow {events : List TriggerEvent} {touches : Bool}
    (follows : events.foldlM follow false = some touches) : InRounds events := by
  obtain ⟨stays, _, early⟩ := prefix_of_follow follows
  exact ⟨stays, early⟩

end TriggerEvent

namespace World

/-! ## What a frame tells of a pair -/

/-- What the listener is told of a pair in a frame. -/
def frameEvents (react : Reaction α L ρ) (dt : α) (w : World α L) (p : ColliderPair) :
    List TriggerEvent :=
  ((Operation.update dt).moments react w).filterMap (Moment.eventOf? p)

/-- A frame tells of a pair once at most, and of what becomes of it among the touching pairs. -/
structure ToldRightly (react : Reaction α L ρ) (dt : α) (w : World α L) (p : ColliderPair) :
    Prop where
  once : (frameEvents react dt w p).length ≤ 1
  /-- The pair joins the touching pairs at its test. -/
  enter : .enter ∈ frameEvents react dt w p ↔ ∃ v, (p, v) ∈ tests react dt w ∧
    v.triggers p = true ∧ p ∉ v.touching ∧ p ∈ (v.tracked p).touching
  /-- The pair is one of the touching pairs and found to touch at its test. -/
  stay : .stay ∈ frameEvents react dt w p ↔ ∃ v, (p, v) ∈ tests react dt w ∧
    v.triggers p = true ∧ p ∈ v.touching ∧ v.found? p = some true
  /-- The pair leaves the touching pairs, at its test or when it is released, while both of its
  colliders and their bodies are live. -/
  exit : .exit ∈ frameEvents react dt w p ↔ ∃ v v', ((p, v) ∈ tests react dt w ∧ v' = v.tracked p ∨
      (p, v) ∈ sweeps react dt w ∧ v' = v.released p) ∧
    v.triggers p = true ∧ v.Active p ∧ p ∈ v.touching ∧ p ∉ v'.touching

section Verdicts

variable {w : World α L} {p : ColliderPair} {touches : Bool}

theorem mem_tracked (found : w.found? p = some touches) :
    p ∈ (w.tracked p).touching ↔ touches = true := by
  obtain ⟨touching, same, _, self⟩ := tracked_eq found
  rw [same]
  exact self

theorem tracked_of_untested (untested : w.found? p = none) : w.tracked p = w := by
  simp only [tracked, untested]

theorem verdict?_eq_enter_iff :
    w.verdict? p = some .enter ↔
      w.triggers p = true ∧ p ∉ w.touching ∧ p ∈ (w.tracked p).touching := by
  rw [verdict?_eq_some_iff]
  constructor
  · rintro ⟨trigger, found, before⟩
    exact ⟨trigger, of_decide_eq_false before, (mem_tracked found).mpr rfl⟩
  · rintro ⟨trigger, apart, joined⟩
    refine ⟨trigger, ?_, decide_eq_false apart⟩
    cases found : w.found? p with
    | none => exact absurd (tracked_of_untested found ▸ joined) apart
    | some touches => exact congrArg some ((mem_tracked found).mp joined)

theorem verdict?_eq_stay_iff :
    w.verdict? p = some .stay ↔
      w.triggers p = true ∧ p ∈ w.touching ∧ w.found? p = some true := by
  rw [verdict?_eq_some_iff]
  constructor
  · rintro ⟨trigger, found, before⟩
    exact ⟨trigger, of_decide_eq_true before, found⟩
  · rintro ⟨trigger, before, found⟩
    exact ⟨trigger, found, decide_eq_true before⟩

theorem verdict?_eq_exit_iff :
    w.verdict? p = some .exit ↔
      w.triggers p = true ∧ w.Active p ∧ p ∈ w.touching ∧ p ∉ (w.tracked p).touching := by
  rw [verdict?_eq_some_iff]
  constructor
  · rintro ⟨trigger, found, before⟩
    have apart : p ∉ (w.tracked p).touching := fun stays =>
      Bool.false_ne_true ((mem_tracked found).mp stays)
    exact ⟨trigger, active_of_found? found, of_decide_eq_true before, apart⟩
  · rintro ⟨trigger, _, before, left⟩
    refine ⟨trigger, ?_, decide_eq_true before⟩
    cases found : w.found? p with
    | none => exact absurd before (tracked_of_untested found ▸ left)
    | some touches =>
        have apart : touches = false :=
          Bool.eq_false_iff.mpr fun touching => left ((mem_tracked found).mpr touching)
        exact congrArg some apart

/-- The farewell of a pair that touches or is lost. -/
theorem farewell?_eq_exit_iff (waiting : p ∈ w.touching ∨ w.Lost p) :
    w.farewell? p = some .exit ↔
      w.triggers p = true ∧ w.Active p ∧ p ∈ w.touching ∧ p ∉ (w.released p).touching := by
  rw [farewell?_eq_some_iff]
  constructor
  · rintro ⟨⟨active, trigger⟩, _⟩
    exact ⟨trigger, active, waiting.resolve_right active.not_lost,
      fun stays => (PairSet.mem_erase.mp stays).2 rfl⟩
  · rintro ⟨trigger, active, _⟩
    exact ⟨⟨active, trigger⟩, rfl⟩

end Verdicts

/-- A frame tells rightly of a pair that still touches, or is lost, when it is released. -/
theorem toldRightly_of_waiting {react : Reaction α L ρ} {dt : α} {w : World α L} {p : ColliderPair}
    (listening : w.listener.isSome = true) (idle : w.updating = false)
    (waiting : ∀ v, (p, v) ∈ sweeps react dt w → p ∈ v.touching ∨ v.Lost p) :
    ToldRightly react dt w p := by
  have noFarewell : ∀ event, event ≠ TriggerEvent.exit →
      ¬ ∃ v, (p, v) ∈ sweeps react dt w ∧ v.farewell? p = some event := by
    rintro event other ⟨v, _, farewell⟩
    exact other (farewell?_eq_some_iff.mp farewell).2
  have told : ∀ event, event ∈ frameEvents react dt w p ↔
      (∃ v, (p, v) ∈ tests react dt w ∧ v.verdict? p = some event) ∨
        ∃ v, (p, v) ∈ sweeps react dt w ∧ v.farewell? p = some event :=
    fun event => mem_events_update listening idle
  refine ⟨length_events_update listening idle p, ?_, ?_, ?_⟩
  · rw [told, or_iff_left (noFarewell .enter nofun)]
    exact exists_congr fun v => and_congr_right' verdict?_eq_enter_iff
  · rw [told, or_iff_left (noFarewell .stay nofun)]
    exact exists_congr fun v => and_congr_right' verdict?_eq_stay_iff
  · rw [told]
    constructor
    · rintro (⟨v, turn, verdict⟩ | ⟨v, turn, farewell⟩)
      · exact ⟨v, v.tracked p, .inl ⟨turn, rfl⟩, verdict?_eq_exit_iff.mp verdict⟩
      · exact ⟨v, v.released p, .inr ⟨turn, rfl⟩,
          (farewell?_eq_exit_iff (waiting v turn)).mp farewell⟩
    · rintro ⟨v, v', ⟨turn, rfl⟩ | ⟨turn, rfl⟩, leaves⟩
      · exact .inl ⟨v, turn, verdict?_eq_exit_iff.mpr leaves⟩
      · exact .inr ⟨v, turn, (farewell?_eq_exit_iff (waiting v turn)).mpr leaves⟩

/-! ## Runs from the start -/

/-- A new world has told nothing. -/
theorem obeys_of_make {settings : WorldSettings α} {w : World α L} (made : make settings = .ok w) :
    Obeys ([] : List (Moment α L ρ)) w where
  sound :=
    { bodies := fun c v found => absurd found ((vacant_of_make made).2 c v)
      touching := by
        intro p member
        rw [(settles_of_make made).touching] at member
        exact absurd member (PairSet.not_mem_empty p) }
  stands := by
    intro p
    refine ⟨false, rfl, .inr (.inr ⟨?_, rfl⟩)⟩
    rw [(settles_of_make made).touching]
    exact PairSet.not_mem_empty p
  aged := fun _ member => nomatch member
  ordered := .nil
  sounds := fun _ member => nomatch member
  told := fun _ member => nomatch member

section Runs

variable [OrderedScalar α] (react : Reaction α L ρ) {settings : WorldSettings α} {w : World α L}
  (made : make settings = .ok w)

include made in
/-- Every permitted run leaves the past in order. -/
theorem obeysPermitted_history (ops : List (Operation α L)) :
    ObeysPermitted [] (history react ops w) (after react ops w) :=
  holds_history (obeys_inside []) (obeys_updates react) ops [] w
    fun _ => ⟨obeys_of_make made, fun _ member => nomatch member⟩

include made in
/-- Every frame of a permitted run tells rightly of every pair. -/
theorem toldRightly_of_permitted {before later : List (Operation α L)} {dt : α}
    (permitted : ∀ m ∈ history react (before ++ .update dt :: later) w, m.Permitted)
    (p : ColliderPair) : ToldRightly react dt (after react before w) p := by
  have moments : ∀ m ∈ history react before w ++
      (Operation.update dt).moments react (after react before w), m.Permitted := by
    intro m member
    refine permitted m ?_
    rw [history_append, history, ← List.append_assoc]
    exact List.mem_append_left _ member
  have idle : (after react before w).updating = false :=
    updating_after react before (settles_of_make made).updating
  have asked : ObeysPermitted [] (history react before w ++
      [.asked (after react before w) (.update dt) ()]) (after react before w) :=
    obeys_inside [] _ _ (.update dt) (obeysPermitted_history react made before)
  have split :
      history react before w ++ (Operation.update dt).moments react (after react before w) =
      history react before w ++ [.asked (after react before w) (.update dt) ()] ++
        ((advance react dt).run (after react before w)).notes.flatMap (Note.moments react) := by
    rw [moments_update, List.append_cons, run_update idle]
  have listening : (after react before w).listener.isSome = true :=
    moments (.asked (after react before w) (.update dt) ()) (by rw [split]; simp) idle
  rw [split] at moments
  exact toldRightly_of_waiting listening idle fun v turn =>
    waiting_of_sweeps react dt listening asked moments turn

end Runs

/-- Nothing is told of a pair that has been active or touching and is not active any more. -/
theorem Obeys.silent {earlier later : List (Moment α L ρ)} {m : Moment α L ρ} {w : World α L}
    (obeys : Obeys (earlier ++ m :: later) w) {p : ColliderPair}
    (known : ∃ n ∈ earlier ++ [m], n.world.Active p ∨ p ∈ n.world.touching)
    (inactive : ¬ m.world.Active p) : ∀ c, .told c ∈ m :: later → c.pair ≠ p := by
  obtain ⟨_, following, across⟩ := List.pairwise_append.mp obeys.ordered
  have lost : m.world.Lost p := by
    obtain ⟨n, member, known⟩ := known
    have ages : n.world.Ages m.world := by
      rcases List.mem_append.mp member with early | last
      · exact across n early m List.mem_cons_self
      · exact List.mem_singleton.mp last ▸ .refl m.world
    have before : n ∈ earlier ++ m :: later := by
      rw [List.append_cons]
      exact List.mem_append_left later member
    have met : n.world.Met p.first ∧ n.world.Met p.second :=
      known.elim Active.met ((obeys.sounds n before).touching p)
    have met' : m.world.Met p.first ∧ m.world.Met p.second := ⟨met.1.ages ages, met.2.ages ages⟩
    exact ((obeys.sounds m (by simp)).active_or_lost met').resolve_left inactive
  rintro c member rfl
  have active : c.world.Active c.pair := obeys.told c (List.mem_append_right earlier member)
  rcases List.mem_cons.mp member with rfl | further
  · exact inactive active
  · have ages : m.world.Ages c.world := (List.pairwise_cons.mp following).1 _ further
    exact active.not_lost (lost.ages ages)

/-- **The listener is told of every pair in rounds.** In a run from the creation of a world whose
callers keep to what is permitted, the events of a pair come in rounds, and between operations an
active pair is in the middle of one exactly when it is a touching pair with a trigger. Every update
tells of the pair once at most, and rightly. Once the pair is not active any more, nothing is told
of it ever again. -/
theorem triggers_told_in_rounds [OrderedScalar α] (react : Reaction α L ρ)
    {settings : WorldSettings α} {w : World α L} (made : make settings = .ok w)
    (ops : List (Operation α L)) (permitted : ∀ m ∈ history react ops w, m.Permitted)
    (p : ColliderPair) :
    TriggerEvent.InRounds ((history react ops w).filterMap (Moment.eventOf? p)) ∧
      ((after react ops w).Active p → openAfter? p (history react ops w) =
        some ((after react ops w).triggers p && decide (p ∈ (after react ops w).touching))) ∧
      (∀ before dt later, ops = before ++ .update dt :: later →
        ToldRightly react dt (after react before w) p) ∧
      ∀ earlier m later, history react ops w = earlier ++ m :: later →
        (∃ n ∈ earlier ++ [m], n.world.Active p ∨ p ∈ n.world.touching) → ¬ m.world.Active p →
          ∀ c, .told c ∈ m :: later → c.pair ≠ p := by
  obtain ⟨obeys, _⟩ := obeysPermitted_history react made ops permitted
  obtain ⟨isOpen, reached, standing⟩ := obeys.stands p
  refine ⟨TriggerEvent.inRounds_of_follow reached, fun active => ?_, ?_, ?_⟩
  · rw [reached, isOpen_of_active active standing]
  · rintro before dt later rfl
    exact toldRightly_of_permitted react made permitted p
  · intro earlier m later split
    rw [split] at obeys
    exact obeys.silent

/-- Two boxes of which one is a trigger, and the other is moved away after two frames. -/
def passing : List (Operation Float32 Unit) :=
  [.createBody, .createBody, .createCollider ⟨0, 0⟩ .rectangle, .createCollider ⟨1, 0⟩ .rectangle,
    .editCollider ⟨0, 0⟩ fun c => { c with isTrigger := true }, .installListener (),
    .update 0.5, .update 0.5, .editBody ⟨1, 0⟩ fun b => { b with position := ⟨10, 0⟩ }, .update 0.5]

/-- A listener that creates a body on every entry. -/
def spawning : Reaction Float32 Unit Unit
  | _, .enter, _ => .ask .createBody fun _ => .done ((), ())
  | _, _, _ => .done ((), ())

theorem triggers_told_of_passing :
    let start : World Float32 Unit := blank .standard
    let pair : ColliderPair := .of ⟨0, 0⟩ ⟨1, 0⟩
    let events := (history spawning passing start).filterMap (Moment.eventOf? pair)
    make .standard = .ok start ∧ (∀ m ∈ history spawning passing start, m.Permitted) ∧
      events = [.enter, .stay, .exit] ∧ TriggerEvent.InRounds events := by
  intro start pair events
  have made : make .standard = .ok start := rfl
  have permitted : ∀ m ∈ history spawning passing start, m.Permitted := by decide +kernel
  exact ⟨made, permitted, by decide +kernel,
    (triggers_told_in_rounds spawning made passing permitted pair).1⟩

end World

end PlanarDynamics
