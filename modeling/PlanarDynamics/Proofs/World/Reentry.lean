import PlanarDynamics.Proofs.Scalar.Binary32
import PlanarDynamics.Proofs.World.Candidates

/-!
# Calls of the listener

A listener may do to the world whatever it likes, also destroy what the frame is about to turn
to. Even so it can rely on what it is told: whenever it is called, the pair consists of two
different colliders, both active, one of them a trigger, and the touching pairs say of the pair
what the event says (`Callback.Fits`).

A frame in turn is safe from the listener. An update that is asked during a call finds a frame
being computed and changes nothing, so programs run as if updates were refused from the start
(`World.run_nested`). And the listener is never lost: each call is made to the listener that the
call before has turned into, and at the end that one is installed again, unless the calls have
left another one in its place (`World.Relay`).
-/

set_option autoImplicit false

namespace PlanarDynamics

variable {α L ρ β : Type} [Scalar α]

/-- The call of a listener at a moment. -/
def Moment.call? : Moment α L ρ → Option (Callback α L ρ)
  | asked .. => none
  | told c => some c

namespace Callback

/-- What a listener may rely on when it is called. -/
structure Fits (c : Callback α L ρ) : Prop where
  distinct : c.pair.first ≠ c.pair.second
  active : c.world.Active c.pair
  trigger : c.world.triggers c.pair = true
  /-- The event is what the pair was found to do, by a test or when it was left over, in a world
  that had other touching pairs at most. -/
  examined : ∃ touching, let v := c.world.retouched touching
    v.verdict? c.pair = some c.event ∨ v.farewell? c.pair = some c.event
  touching : c.world.isTouching c.pair.first c.pair.second = c.event.after
  updating : c.world.updating = true

/-- What comes of a call, when updates are refused. -/
def outcome (react : Reaction α L ρ) (c : Callback α L ρ) :
    Outcome (Note α L ρ) (World α L) (L × ρ) :=
  ((react c.listener c.event c.pair).run World.refuseUpdate).run c.world

/-- The listener's program runs as if updates were refused, because they are: every update that it
asks leaves the world exactly as it is. -/
structure Contained (react : Reaction α L ρ) (c : Callback α L ρ) : Prop where
  same : ((react c.listener c.event c.pair).run (World.update react)).run c.world = c.outcome react
  refused : ∀ v dt answer,
    (.asked v (.update dt) answer : Moment α L ρ) ∈
      (react c.listener c.event c.pair).moments c.world →
    (World.update react dt).run v = ⟨(), v, [.log .nestedUpdate]⟩

end Callback

theorem ColliderPair.of_first_second (p : ColliderPair) : .of p.first p.second = p :=
  dif_pos p.first_le_second

namespace World

/-! ## What is true of a call -/

section Fits

variable {w : World α L} {p : ColliderPair} {event : TriggerEvent}

omit [Scalar α] in
theorem isTouching_first_second (w : World α L) (p : ColliderPair) :
    w.isTouching p.first p.second = decide (p ∈ w.touching) := by
  rw [isTouching, p.of_first_second]

/-- A verdict is told in the world in which it has been given. -/
theorem fits_of_verdict (verdict : w.verdict? p = some event) (busy : w.updating = true) (l : L)
    (report : ρ) : (⟨w.tracked p, l, event, p, report⟩ : Callback α L ρ).Fits := by
  obtain ⟨trigger, found, _⟩ := verdict?_eq_some_iff.mp verdict
  obtain ⟨x, examined, _⟩ := found?_eq_some_iff.mp found
  obtain ⟨touching, same, _, self⟩ := tracked_eq found
  have active : w.Active p := active_of_found? found
  have touches : decide (p ∈ touching) = event.after := by
    rw [Bool.eq_iff_iff, decide_eq_true_iff]
    exact self
  rw [same]
  exact
    { distinct := ne_of_examination examined
      active := active
      trigger := trigger
      examined := ⟨w.touching, .inl verdict⟩
      touching := (isTouching_first_second _ p).trans touches
      updating := busy }

/-- A farewell is told once the pair does not touch any more. -/
theorem fits_of_farewell (farewell : w.farewell? p = some .exit) (distinct : p.first ≠ p.second)
    (busy : w.updating = true) (l : L) (report : ρ) :
    (⟨w.released p, l, .exit, p, report⟩ : Callback α L ρ).Fits := by
  obtain ⟨⟨active, trigger⟩, _⟩ := farewell?_eq_some_iff.mp farewell
  have apart : p ∉ (w.released p).touching := fun member => (PairSet.mem_erase.mp member).2 rfl
  exact
    { distinct := distinct
      active := active
      trigger := trigger
      examined := ⟨w.touching, .inr farewell⟩
      touching := (isTouching_first_second _ p).trans (decide_eq_false apart)
      updating := busy }

end Fits

/-! ## Updates inside a call -/

section Nested

variable [OrderedScalar α] (react : Reaction α L ρ) {w : World α L}

omit [OrderedScalar α] in
/-- While a frame is being computed, an operation means the same with updates as without. -/
theorem perform_nested (busy : w.updating = true) (op : Operation α L) :
    (op.perform (update react)).run w = (op.perform refuseUpdate).run w := by
  by_cases other : ∀ dt, op ≠ .update dt
  · rw [perform_of_ne_update other (update react)]
  · obtain ⟨dt, rfl⟩ := Classical.not_forall_not.mp other
    exact run_update_busy busy

/-- **While a frame is being computed, a program runs as if updates were refused.** -/
theorem run_nested (busy : w.updating = true) (program : Program α L β) :
    (program.run (update react)).run w = (program.run refuseUpdate).run w := by
  induction program generalizing w with
  | done b => rfl
  | ask op next ih =>
      have busy' : ((op.perform refuseUpdate : Action α L ρ op.Answer).run w).state.updating =
          true := (op.effect_perform w).updating.trans busy
      rw [Program.run, Program.run, Recorded.run_bind, Recorded.run_bind, perform_nested react busy,
        ih _ busy']

/-- A program inside a callback goes through worlds in which a frame is being computed. -/
theorem busy_moments (busy : w.updating = true) (program : Program α L β) :
    ∀ m ∈ (program.moments w : List (Moment α L ρ)), m.world.updating = true := by
  induction program generalizing w with
  | done b => exact fun _ member => nomatch member
  | ask op next ih =>
      intro m member
      rcases List.mem_cons.mp member with rfl | later
      · exact busy
      · exact ih _ ((op.effect_perform w).updating.trans busy) m later

end Nested

/-! ## The listener and its heirs -/

/-- The calls that a listener and its heirs have received, the heir they have led to, and the
listener that they have left in the empty slot of the world. -/
inductive Relay (react : Reaction α L ρ) (l : L) : List (Callback α L ρ) → L → Option L → Prop
  | start : Relay react l [] l none
  /-- The next call is made to the heir, and finds the slot as the call before has left it. -/
  | call {calls : List (Callback α L ρ)} {heir : L} {slot : Option L} {c : Callback α L ρ}
      (before : Relay react l calls heir slot) (listener : c.listener = heir)
      (finds : c.world.listener = slot) :
      Relay react l (calls ++ [c]) (c.outcome react).answer.1 (c.outcome react).state.listener

/-- An update ends with no frame being computed. When there was a listener, there is one again:
the one that its calls have left in the slot, or else the one that it has turned into. -/
structure HandsBack (react : Reaction α L ρ) (dt : α) (w : World α L) : Prop where
  idle : ((update react dt).run w).state.updating = false
  listener : ∀ l, w.listener = some l → ∃ heir slot,
    Relay react l (((Operation.update dt).moments react w).filterMap Moment.call?) heir slot ∧
      ((update react dt).run w).state.listener = some (slot.getD heir)

section Relays

variable (react : Reaction α L ρ) (l : L)

/-- The calls so far have led to the listener that the frame has in its hands. -/
def Relays (listener : Option L) (past : List (Moment α L ρ)) (w : World α L) : Prop :=
  ∃ heir, listener = some heir ∧ Relay react l (past.filterMap Moment.call?) heir w.listener

variable {react l} {heir : L} {past : List (Moment α L ρ)} {w : World α L}

/-- A call adds one link. -/
theorem relays_dispatch (relay : Relay react l (past.filterMap Moment.call?) heir w.listener)
    (event : TriggerEvent) (p : ColliderPair) :
    let out := (dispatch react heir event p).run w
    Relays react l (some out.answer) (past ++ out.notes.flatMap (Note.moments react))
      out.state := by
  obtain ⟨report, moments⟩ := moments_dispatch react heir event p w
  have silent :
      ((react heir event p).moments w : List (Moment α L ρ)).filterMap Moment.call? = [] :=
    filterMap_moments (fun _ _ _ => rfl) _ w
  have told : (Moment.told ⟨w, heir, event, p, report⟩ : Moment α L ρ).call? =
      some ⟨w, heir, event, p, report⟩ := rfl
  refine ⟨_, rfl, ?_⟩
  rw [List.filterMap_append, moments, List.filterMap_cons_some told, silent]
  exact .call relay rfl rfl

variable (react l) in
theorem relays_visits : KeptByTurns react (visit react) fun _ done past w =>
    Relays react l done.listener past w := by
  rintro p rest done past w ⟨heir, listening, relay⟩
  have handled := handled react done p w
  generalize (visit react done p).run w = out at handled ⊢
  cases handled with
  | passed untested logs =>
      simp only [logs.moments, List.append_nil]
      exact ⟨heir, listening, relay⟩
  | silent found silence logs =>
      obtain ⟨bodies, parted⟩ := parted_eq w p
      simp only [logs.moments, List.append_nil, parted]
      exact ⟨heir, listening, relay⟩
  | told listening' verdict called =>
      obtain rfl := Option.some.inj (listening.symm.trans listening')
      obtain ⟨_, found, _⟩ := verdict?_eq_some_iff.mp verdict
      obtain ⟨touching, same, _, _⟩ := tracked_eq found
      subst called
      refine relays_dispatch ?_ _ p
      rw [same]
      exact relay

variable (react l) in
theorem relays_releases : KeptByTurns react (release react) fun _ listener past w =>
    Relays react l listener past w := by
  rintro p rest listener past w ⟨heir, listening, relay⟩
  have letGo := letGo react listener p w
  generalize (release react listener p).run w = out at letGo ⊢
  cases letGo with
  | silent silence logs =>
      simp only [logs.moments, List.append_nil]
      exact ⟨heir, listening, relay⟩
  | told listening' farewell called =>
      obtain rfl := Option.some.inj (listening.symm.trans listening')
      have relay' : Relay react l (past.filterMap Moment.call?) heir (w.released p).listener :=
        relay
      subst called
      exact relays_dispatch relay' .exit p

variable (react) in
/-- **An update hands the listener back.** -/
theorem handsBack_update (dt : α) (idle : w.updating = false) : HandsBack react dt w where
  idle := by
    rw [run_update idle, updating_advance]
  listener := by
    intro l listening
    have opened : Relays react l w.listener [] ((opening dt : Action α L ρ Unit).run w).state := by
      rw [state_opening]
      exact ⟨l, listening, .start⟩
    obtain ⟨heir, hands, relay⟩ := holds_advance react dt (relays_visits react l)
      (fun _ _ _ held => held) (relays_releases react l) opened
    rw [List.nil_append, ← run_update idle] at relay
    have asked : (Moment.asked w (.update dt) () : Moment α L ρ).call? = none := rfl
    refine ⟨heir, (releases react dt w).state.listener, ?_, ?_⟩
    · rw [moments_update, List.filterMap_cons_none asked]
      exact relay
    · rw [run_update idle, run_advance]
      dsimp only
      rw [hands]
      cases (releases react dt w).state.listener <;> rfl

end Relays

/-! ## Runs -/

/-- Everything told so far fits, no collider touches itself, and the world knows whether a frame
is being computed. -/
structure Reliable (busy : Bool) (past : List (Moment α L ρ)) (w : World α L) : Prop where
  fits : ∀ c, .told c ∈ past → c.Fits
  distinct : ∀ p ∈ w.touching, p.first ≠ p.second
  updating : w.updating = busy

section Reliable

variable {busy : Bool} {past : List (Moment α L ρ)} {w : World α L} {p : ColliderPair}

theorem Reliable.asked (reliable : Reliable busy past w) (op : Operation α L)
    (answer : op.Answer) : ∀ c, .told c ∈ past ++ [.asked w op answer] → c.Fits := by
  intro c member
  rcases List.mem_append.mp member with early | last
  · exact reliable.fits c early
  · exact nomatch List.mem_singleton.mp last

theorem Reliable.told (reliable : Reliable busy past w) {c : Callback α L ρ} (fits : c.Fits) :
    ∀ d, .told d ∈ past ++ [.told c] → d.Fits := by
  intro d member
  rcases List.mem_append.mp member with early | last
  · exact reliable.fits d early
  · obtain rfl := Moment.told.inj (List.mem_singleton.mp last)
    exact fits

/-- Operations keep a world reliable. -/
theorem reliable_inside [OrderedScalar α] (busy : Bool) :
    CarriedInside (Reliable busy : List (Moment α L ρ) → World α L → Prop) := by
  intro past w op reliable out
  have effect : op.Effect out.answer w out.state := op.effect_perform w
  refine ⟨reliable.asked op _, ?_, effect.updating.trans reliable.updating⟩
  rcases effect.touching with kept | ⟨emptied, _⟩
  · rw [kept]
    exact reliable.distinct
  · rw [emptied]
    exact fun p member => absurd member (PairSet.not_mem_empty p)

/-- A test lets no collider touch itself. -/
theorem Reliable.distinct_tracked (reliable : Reliable busy past w) {touches : Bool}
    (found : w.found? p = some touches) : ∀ q ∈ (w.tracked p).touching, q.first ≠ q.second := by
  obtain ⟨touching, same, others, _⟩ := tracked_eq found
  obtain ⟨x, examined, _⟩ := found?_eq_some_iff.mp found
  rw [same]
  intro q member
  by_cases this : q = p
  · rw [this]
    exact ne_of_examination examined
  · exact reliable.distinct q ((others q this).mp member)

variable [OrderedScalar α] (react : Reaction α L ρ)

theorem reliable_visits : KeptByTurns react (visit react) fun _ _ past w =>
    Reliable true past w := by
  intro p rest done past w reliable
  have handled := handled react done p w
  generalize (visit react done p).run w = out at handled ⊢
  cases handled with
  | passed untested logs =>
      simp only [logs.moments, List.append_nil]
      exact reliable
  | silent found silence logs =>
      obtain ⟨bodies, parted⟩ := parted_eq w p
      simp only [logs.moments, List.append_nil, parted]
      exact ⟨reliable.fits, reliable.distinct_tracked found, reliable.updating⟩
  | told listening verdict called =>
      obtain ⟨_, found, _⟩ := verdict?_eq_some_iff.mp verdict
      obtain ⟨touching, same, _, _⟩ := tracked_eq found
      have busy : (w.tracked p).updating = true := by
        rw [same]
        exact reliable.updating
      subst called
      exact holds_dispatch (reliable_inside true) _ _ p past _ fun report =>
        ⟨reliable.told (fits_of_verdict verdict reliable.updating _ report),
          reliable.distinct_tracked found, busy⟩

theorem reliable_releases : KeptByTurns react (release react) fun rest _ past w =>
    (∀ q ∈ rest, q.first ≠ q.second) ∧ Reliable true past w := by
  rintro p rest listener past w ⟨distinct, reliable⟩
  obtain ⟨apart, others⟩ := List.forall_mem_cons.mp distinct
  have fewer : ∀ q ∈ (w.released p).touching, q.first ≠ q.second := fun q member =>
    reliable.distinct q (PairSet.mem_erase.mp member).1
  have letGo := letGo react listener p w
  generalize (release react listener p).run w = out at letGo ⊢
  cases letGo with
  | silent silence logs =>
      simp only [logs.moments, List.append_nil]
      exact ⟨others, reliable.fits, fewer, reliable.updating⟩
  | told listening farewell called =>
      subst called
      refine ⟨others, ?_⟩
      exact holds_dispatch (reliable_inside true) _ _ p past _ fun report =>
        ⟨reliable.told (fits_of_farewell farewell apart reliable.updating _ report), fewer,
          reliable.updating⟩

/-- Frames keep a world reliable between operations. -/
theorem reliable_updates : CarriedByUpdates react (Reliable false) := by
  intro past w dt reliable
  have asked : Reliable true (past ++ [.asked w (.update dt) ()])
      ((opening dt : Action α L ρ Unit).run w).state := by
    rw [state_opening]
    exact ⟨reliable.asked (.update dt) (), reliable.distinct, rfl⟩
  obtain ⟨_, closed⟩ := holds_advance react dt (reliable_visits react)
    (fun done past v held =>
      ⟨fun q member => held.distinct q (PairSet.mem_filter.mp member).1, held⟩)
    (reliable_releases react) asked
  rw [moments_update, List.append_cons, run_update reliable.updating]
  refine ⟨closed.fits, ?_, updating_advance react dt w⟩
  rw [touching_advance]
  exact closed.distinct

end Reliable

/-- Every run from the creation of a world is reliable. -/
theorem reliable_history [OrderedScalar α] (react : Reaction α L ρ) {settings : WorldSettings α}
    {start : World α L} (made : make settings = .ok start) (ops : List (Operation α L)) :
    Reliable false (history react ops start) (after react ops start) := by
  have settles : (blank settings : World α L).Settles start := settles_of_make made
  have distinct : ∀ p ∈ start.touching, p.first ≠ p.second := by
    rw [settles.touching]
    exact fun p member => absurd member (PairSet.not_mem_empty p)
  exact holds_history (reliable_inside false) (reliable_updates react) ops [] start
    ⟨fun _ member => (List.not_mem_nil member).elim, distinct, settles.updating⟩

/-- **Calls are made of live colliders, and a listener may do what it likes.** In every run from
the creation of a world, whatever the listener does when it is called, each call fits the world it
is made in, no update takes place inside it, and every update hands the listener back. -/
theorem calls_fit_in_run [OrderedScalar α] (react : Reaction α L ρ) {settings : WorldSettings α}
    {start : World α L} (made : make settings = .ok start) (ops : List (Operation α L)) :
    (∀ c, .told c ∈ history react ops start → c.Fits ∧ c.Contained react) ∧
      ∀ dt, HandsBack react dt (after react ops start) := by
  have reliable := reliable_history react made ops
  constructor
  · intro c told
    have fits : c.Fits := reliable.fits c told
    refine ⟨fits, run_nested react fits.updating _, fun v dt answer asked => ?_⟩
    exact run_update_busy (busy_moments fits.updating _ _ asked)
  · exact fun dt => handsBack_update react dt reliable.updating

/-- Two bodies meet, with a trigger, under a listener that counts. -/
def encounter : List (Operation Float32 Nat) :=
  [.createBody, .createBody, .createCollider ⟨0, 0⟩ .circle, .createCollider ⟨1, 0⟩ .circle,
    .editCollider ⟨0, 0⟩ fun c => { c with isTrigger := true }, .installListener 1, .update 0.5]

/-- A listener that on an entry asks for an update, destroys a collider and installs another
listener. -/
def intruding : Reaction Float32 Nat Unit
  | n, .enter, p => .ask (.update 1) fun _ => .ask (.destroyCollider p.first) fun _ =>
      .ask (.installListener 7) fun _ => .done (n + 1, ())
  | n, _, _ => .done (n, ())

theorem calls_fit_in_run_intruding :
    let start : World Float32 Nat := blank .standard
    make .standard = .ok start ∧
      (∃ c, .told c ∈ history intruding encounter start ∧ (c.listener, c.event) = (1, .enter) ∧
        c.Fits ∧ c.Contained intruding) ∧
      (after intruding encounter start).listener = some 7 ∧
      HandsBack intruding 0.5 (after intruding encounter start) := by
  intro start
  have made : make .standard = .ok start := rfl
  have calls : ((history intruding encounter start).filterMap Moment.call?).map
      (fun c => (c.listener, c.event)) = [(1, .enter)] := by decide +kernel
  obtain ⟨c, single, known⟩ := List.map_eq_singleton_iff.mp calls
  have told : .told c ∈ history intruding encounter start := by
    obtain ⟨m, member, call⟩ := List.mem_filterMap.mp (single ▸ List.mem_singleton_self c)
    cases m with
    | asked _ _ _ => cases call
    | told d =>
        obtain rfl := Option.some.inj call
        exact member
  obtain ⟨fit, handsBack⟩ := calls_fit_in_run intruding made encounter
  exact ⟨made, ⟨c, told, known, fit c told⟩, by decide +kernel, handsBack 0.5⟩

end World

end PlanarDynamics
