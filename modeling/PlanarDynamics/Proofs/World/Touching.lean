import PlanarDynamics.Proofs.World.Ageing

/-!
# Touching pairs and what the listener has been told

The events that a listener is told of a pair open with an entry and close with an exit
(`TriggerEvent.follow`). At every point of a run, what it has been told stands with what the world
keeps track of (`World.Stands`): a pair is open when it is a touching trigger pair, unless one of
its colliders is gone. `World.Obeys` adds to this what a past owes to the worlds it went through.

Operations, motion and tracking keep it (`obeys_inside`, `Obeys.drift`, `Obeys.touch`), and telling
the listener of an event that fits keeps it too (`Obeys.tell`).
-/

set_option autoImplicit false

namespace PlanarDynamics

variable {α L ρ : Type} [Scalar α]

/-- Whether a pair is open after an event, given whether it was open before. An event that does
not fit leads nowhere. -/
def TriggerEvent.follow : Bool → TriggerEvent → Option Bool
  | false, .enter => some true
  | true, .stay => some true
  | true, .exit => some false
  | _, _ => none

/-- The event that the listener is told of a pair at a moment. -/
def Moment.eventOf? (p : ColliderPair) : Moment α L ρ → Option TriggerEvent
  | asked .. => none
  | told c => if c.pair = p then some c.event else none

namespace World

/-- Whether one of the two colliders of a pair is a trigger. -/
def triggers (w : World α L) (p : ColliderPair) : Bool :=
  match w.colliders.get p.first, w.colliders.get p.second with
  | .ok a, .ok b => a.isTrigger || b.isTrigger
  | _, _ => false

omit [Scalar α] in
/-- Whether a pair is open after a past, none when its events do not fit each other. -/
def openAfter? (p : ColliderPair) (past : List (Moment α L ρ)) : Option Bool :=
  (past.filterMap (Moment.eventOf? p)).foldlM TriggerEvent.follow false

/-- What the listener has been told of a pair stands with the world. -/
def Stands (isOpen : Bool) (w : World α L) (p : ColliderPair) : Prop :=
  w.Lost p ∨ p ∈ w.touching ∧ w.triggers p = isOpen ∨ p ∉ w.touching ∧ isOpen = false

/-- A past and the world it has led to are in order. -/
structure Obeys (past : List (Moment α L ρ)) (w : World α L) : Prop where
  sound : w.Sound
  stands : ∀ p, ∃ isOpen, openAfter? p past = some isOpen ∧ Stands isOpen w p
  aged : ∀ m ∈ past, m.world.Ages w
  ordered : past.Pairwise fun m n => m.world.Ages n.world
  sounds : ∀ m ∈ past, m.world.Sound
  told : ∀ c, .told c ∈ past → c.world.Active c.pair

/-! ## What leaves the events alone -/

theorem triggers_of_get {w : World α L} {p : ColliderPair} {a b : Collider α}
    (first : w.colliders.get p.first = .ok a) (second : w.colliders.get p.second = .ok b) :
    w.triggers p = (a.isTrigger || b.isTrigger) := by
  simp only [triggers, first, second]

/-- Nothing is told, and the world has aged. -/
theorem Obeys.quietly {past : List (Moment α L ρ)} {w w' : World α L} (obeys : Obeys past w)
    (ages : w.Ages w') (sound : w'.Sound)
    (stands : ∀ p isOpen, Stands isOpen w p → Stands isOpen w' p) : Obeys past w' where
  sound := sound
  stands := by
    intro p
    obtain ⟨isOpen, reached, standing⟩ := obeys.stands p
    exact ⟨isOpen, reached, stands p isOpen standing⟩
  aged := fun m member => (obeys.aged m member).trans ages
  ordered := obeys.ordered
  sounds := obeys.sounds
  told := obeys.told

/-- A moment is added whose world the past has led to. -/
theorem Obeys.concat {past : List (Moment α L ρ)} {w : World α L} (obeys : Obeys past w)
    {m : Moment α L ρ} (world : w.Ages m.world) (sound : m.world.Sound)
    (stands : ∀ p, ∃ isOpen, openAfter? p (past ++ [m]) = some isOpen ∧ Stands isOpen m.world p)
    (active : ∀ c, m = .told c → c.world.Active c.pair) : Obeys (past ++ [m]) m.world where
  sound := sound
  stands := stands
  aged := by
    intro n member
    rcases List.mem_append.mp member with early | last
    · exact (obeys.aged n early).trans world
    · exact List.mem_singleton.mp last ▸ .refl m.world
  ordered := by
    rw [List.pairwise_append]
    refine ⟨obeys.ordered, List.pairwise_singleton _ _, fun n early m' last => ?_⟩
    exact List.mem_singleton.mp last ▸ (obeys.aged n early).trans world
  sounds := by
    intro n member
    rcases List.mem_append.mp member with early | last
    · exact obeys.sounds n early
    · exact List.mem_singleton.mp last ▸ sound
  told := by
    intro c member
    rcases List.mem_append.mp member with early | last
    · exact obeys.told c early
    · exact active c (List.mem_singleton.mp last).symm

omit [Scalar α] in
theorem openAfter?_asked (p : ColliderPair) (past : List (Moment α L ρ)) (w : World α L)
    (op : Operation α L) (answer : op.Answer) :
    openAfter? p (past ++ [.asked w op answer]) = openAfter? p past := by
  rw [openAfter?, openAfter?, filterMap_concat]
  exact congrArg _ (List.append_nil _)

omit [Scalar α] in
theorem openAfter?_told_self (past : List (Moment α L ρ)) (c : Callback α L ρ) :
    openAfter? c.pair (past ++ [.told c]) =
      (openAfter? c.pair past).bind (TriggerEvent.follow · c.event) := by
  have event : (Moment.told c).eventOf? c.pair = some c.event := if_pos rfl
  rw [openAfter?, openAfter?, filterMap_concat, event, List.foldlM_append]
  simp

omit [Scalar α] in
theorem openAfter?_told_other {p : ColliderPair} (past : List (Moment α L ρ)) (c : Callback α L ρ)
    (other : c.pair ≠ p) : openAfter? p (past ++ [.told c]) = openAfter? p past := by
  have event : (Moment.told c).eventOf? p = none := if_neg other
  rw [openAfter?, openAfter?, filterMap_concat, event]
  exact congrArg _ (List.append_nil _)

/-- An operation is asked, before it does anything. -/
theorem Obeys.asked {past : List (Moment α L ρ)} {w : World α L} (obeys : Obeys past w)
    (op : Operation α L) (answer : op.Answer) : Obeys (past ++ [.asked w op answer]) w := by
  refine obeys.concat (m := .asked w op answer) (.refl w) obeys.sound (fun p => ?_) ?_
  · rw [openAfter?_asked]
    exact obeys.stands p
  · intro c same
    cases same

/-! ## Motion and tracking -/

theorem Obeys.drift {past : List (Moment α L ρ)} {w w' : World α L} (obeys : Obeys past w)
    (drifts : w.Drifts w') : Obeys past w' := by
  refine obeys.quietly drifts.ages (obeys.sound.ages drifts.ages fun p member =>
    .inl (drifts.touching ▸ member)) fun p isOpen standing => ?_
  have same : w'.triggers p = w.triggers p := by
    unfold triggers
    rw [drifts.colliders]
  rw [Stands, drifts.touching, same]
  exact standing.imp_left (Lost.ages drifts.ages)

/-- Another set of touching pairs changes nothing else. -/
theorem ages_touching (w : World α L) (touching : PairSet) :
    w.Ages { w with touching := touching } :=
  ⟨.refl _, .refl _, fun _ v found => .inl ⟨v, found⟩, fun _ v found => .inl ⟨v, found, rfl⟩,
    fun _ u found => .inl ⟨u, found, rfl⟩⟩

section Touch

variable {past : List (Moment α L ρ)} {w : World α L} {p : ColliderPair} {touching : PairSet}

theorem Sound.touch (sound : w.Sound) (met : p ∈ touching → w.Met p.first ∧ w.Met p.second)
    (others : ∀ q ≠ p, q ∈ touching ↔ q ∈ w.touching) :
    ({ w with touching := touching } : World α L).Sound := by
  refine sound.ages (ages_touching w touching) fun q member => ?_
  by_cases same : q = p
  · subst same
    exact .inr (met member)
  · exact .inl ((others q same).mp member)

theorem Stands.touch_other {q : ColliderPair} {isOpen : Bool} (standing : Stands isOpen w q)
    (same : q ∈ touching ↔ q ∈ w.touching) :
    Stands isOpen { w with touching := touching } q := by
  rw [Stands, same]
  exact standing

/-- One pair enters or leaves the touching pairs, and the listener is told nothing. -/
theorem Obeys.touch (obeys : Obeys past w)
    (met : p ∈ touching → w.Met p.first ∧ w.Met p.second)
    (others : ∀ q ≠ p, q ∈ touching ↔ q ∈ w.touching)
    (next : ∀ isOpen, Stands isOpen w p → Stands isOpen { w with touching := touching } p) :
    Obeys past { w with touching := touching } := by
  refine obeys.quietly (ages_touching w touching) (obeys.sound.touch met others)
    fun q isOpen standing => ?_
  by_cases same : q = p
  · subst same
    exact next isOpen standing
  · exact standing.touch_other (others q same)

/-- One pair enters, stays in or leaves the touching pairs, and the listener is told of it. -/
theorem Obeys.tell {c : Callback α L ρ} (obeys : Obeys past w)
    (world : c.world = { w with touching := touching }) (active : w.Active c.pair)
    (others : ∀ q ≠ c.pair, q ∈ touching ↔ q ∈ w.touching)
    (next : ∀ isOpen, Stands isOpen w c.pair → ∃ isOpen', c.event.follow isOpen = some isOpen' ∧
      Stands isOpen' { w with touching := touching } c.pair) :
    Obeys (past ++ [.told c]) c.world := by
  refine obeys.concat (m := .told c) ?_ ?_ ?_ ?_
  · show w.Ages c.world
    exact world ▸ ages_touching w touching
  · show c.world.Sound
    exact world ▸ obeys.sound.touch (fun _ => active.met) others
  · intro q
    obtain ⟨isOpen, reached, standing⟩ := obeys.stands q
    by_cases same : c.pair = q
    · subst same
      obtain ⟨isOpen', follows, standing'⟩ := next isOpen standing
      refine ⟨isOpen', ?_, ?_⟩
      · rw [openAfter?_told_self, reached]
        exact follows
      · show Stands isOpen' c.world c.pair
        exact world ▸ standing'
    · refine ⟨isOpen, ?_, ?_⟩
      · rw [openAfter?_told_other past c same]
        exact reached
      · show Stands isOpen c.world q
        exact world ▸ standing.touch_other (others q (Ne.symm same))
  · intro d same
    obtain rfl : c = d := Moment.told.inj same
    have same : c.world.Active c.pair ↔ w.Active c.pair := by
      rw [world]
      exact Iff.rfl
    exact same.mpr active

end Touch

/-! ## Operations -/

/-- Where callers keep to what is permitted, the past is in order, and the pairs that are due still
touch or are lost. -/
def ObeysPermitted (due : List ColliderPair) (past : List (Moment α L ρ)) (w : World α L) : Prop :=
  (∀ m ∈ past, m.Permitted) → Obeys past w ∧ ∀ q ∈ due, q ∈ w.touching ∨ w.Lost q

section Perform

variable [OrderedScalar α] {op : Operation α L} {w : World α L}

/-- After a permitted operation a pair touches as before, with as many triggers, or it is lost, or
nothing touches any more. -/
theorem stands_perform (sound : w.Sound) {p : ColliderPair} {isOpen : Bool}
    (standing : Stands isOpen w p) :
    let out := (op.perform (refuseUpdate : α → Action α L ρ Unit)).run w
    (Moment.asked w op out.answer : Moment α L ρ).Permitted → Stands isOpen out.state p := by
  intro out permitted
  have ages : w.Ages out.state := ages_perform permitted
  have effect : op.Effect out.answer w out.state := op.effect_perform w
  rcases standing with lost | ⟨touches, same⟩ | ⟨apart, closed⟩
  · exact .inl (lost.ages ages)
  · rcases sound.active_or_lost (sound.touching p touches) with active | lost
    · obtain ⟨a, first⟩ := Option.isSome_iff_exists.mp active.1
      obtain ⟨b, second⟩ := Option.isSome_iff_exists.mp active.2
      have first := (active?_eq_some_iff.mp first).1
      have second := (active?_eq_some_iff.mp second).1
      have noDiscard := discardedCollider?_of_ties permitted.keepsTies
      have trigger := isTrigger_of_permitted permitted first
        ⟨p, touches, by simp [ColliderPair.contains]⟩
      have trigger' := isTrigger_of_permitted permitted second
        ⟨p, touches, by simp [ColliderPair.contains]⟩
      rcases effect.touching with kept | ⟨_, retired⟩
      · rcases effect.colliders.kept p.first a first with ⟨a', there, rfl⟩ | retired | discarded
        · rcases effect.colliders.kept p.second b second with
            ⟨b', there', rfl⟩ | retired | discarded
          · refine .inr (.inl ⟨kept ▸ touches, ?_⟩)
            rw [triggers_of_get there there', trigger, trigger', ← triggers_of_get first second]
            exact same
          · exact .inl (.inr (.inl retired))
          · exact nomatch noDiscard.symm.trans discarded
        · exact .inl (.inl (.inl retired))
        · exact nomatch noDiscard.symm.trans discarded
      · exact .inl (.inl (.inl (retired p.first a first)))
    · exact .inl (lost.ages ages)
  · refine .inr (.inr ⟨?_, closed⟩)
    rcases effect.touching with kept | ⟨emptied, _⟩
    · exact kept ▸ apart
    · exact emptied ▸ PairSet.not_mem_empty p

/-- After a permitted operation a touching pair touches as before or is lost. -/
theorem touches_perform (sound : w.Sound) {p : ColliderPair}
    (touches : p ∈ w.touching ∨ w.Lost p) :
    let out := (op.perform (refuseUpdate : α → Action α L ρ Unit)).run w
    (Moment.asked w op out.answer : Moment α L ρ).Permitted →
      p ∈ out.state.touching ∨ out.state.Lost p := by
  intro out permitted
  have ages : w.Ages out.state := ages_perform permitted
  have effect : op.Effect out.answer w out.state := op.effect_perform w
  rcases touches with touches | lost
  · rcases effect.touching with kept | ⟨_, retired⟩
    · exact .inl (kept ▸ touches)
    · refine .inr (.inl (.inl ?_))
      rcases (sound.touching p touches).1 with ⟨v, found⟩ | before
      · exact retired p.first v found
      · exact before.mono ages.colliders
  · exact .inr (lost.ages ages)

/-- **Permitted operations keep a past in order.** -/
theorem obeys_inside (due : List ColliderPair) :
    CarriedInside (ObeysPermitted due : List (Moment α L ρ) → World α L → Prop) := by
  intro past w op start out permitted
  have allowed : ∀ m ∈ past, m.Permitted := fun m member =>
    permitted m (List.mem_append_left _ member)
  have now : (Moment.asked w op out.answer : Moment α L ρ).Permitted :=
    permitted _ (List.mem_append_right _ (List.mem_singleton_self _))
  obtain ⟨obeys, waiting⟩ := start allowed
  have effect : op.Effect out.answer w out.state := op.effect_perform w
  have asked : Obeys (past ++ [.asked w op out.answer]) w := obeys.asked op out.answer
  have touching : ∀ p ∈ out.state.touching, p ∈ w.touching := by
    rcases effect.touching with kept | ⟨emptied, _⟩
    · exact fun p member => kept ▸ member
    · exact fun p member => absurd (emptied ▸ member) (PairSet.not_mem_empty p)
  have ages : w.Ages out.state := ages_perform now
  have sound : out.state.Sound := obeys.sound.ages ages fun p member => .inl (touching p member)
  have stands : ∀ p isOpen, Stands isOpen w p → Stands isOpen out.state p :=
    fun p isOpen standing => stands_perform obeys.sound standing now
  exact ⟨asked.quietly ages sound stands,
    fun q member => touches_perform obeys.sound (waiting q member) now⟩

end Perform

end World

end PlanarDynamics
