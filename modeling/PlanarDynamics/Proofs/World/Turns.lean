import PlanarDynamics.Proofs.World.Telling

/-!
# The turns of a frame

A frame turns to one pair after the other: first to the candidate pairs, which it tests, and then
to the touching pairs that it has not tested, which it releases. `World.tests` and `World.sweeps`
list both with the worlds in which they happen. What every turn keeps is true when the frame closes
(`holds_advance`) and at every release (`holds_sweeps`).

The listener is told of the verdicts and farewells of these turns and of nothing else
(`mem_events_update`), once of every pair at most (`length_events_update`), and its past stays in
order (`obeys_updates`).
-/

set_option autoImplicit false

namespace PlanarDynamics

variable {α L ρ β γ : Type} [Scalar α]

/-! ## Loops that turn to their items -/

section Loops

omit [Scalar α] in
/-- The items of a loop with the worlds in which it turns to them. -/
def turns (f : β → γ → Action α L ρ β) : β → List γ → World α L → List (γ × World α L)
  | _, [], _ => []
  | b, c :: rest, w =>
    let out := (f b c).run w
    (c, w) :: turns f out.answer rest out.state

variable {react : Reaction α L ρ} {f : β → γ → Action α L ρ β}
  {holds : List γ → β → List (Moment α L ρ) → World α L → Prop}

omit [Scalar α] in
theorem turns_fst (f : β → γ → Action α L ρ β) (items : List γ) (b : β) (w : World α L) :
    (turns f b items w).map Prod.fst = items := by
  induction items generalizing b w with
  | nil => rfl
  | cons c rest ih => exact congrArg (c :: ·) (ih _ _)

/-- What every turn of a loop makes true of the items left over, if it was true before. -/
def KeptByTurns (react : Reaction α L ρ) (f : β → γ → Action α L ρ β)
    (holds : List γ → β → List (Moment α L ρ) → World α L → Prop) : Prop :=
  ∀ c rest b past w, holds (c :: rest) b past w →
    let out := (f b c).run w
    holds rest out.answer (past ++ out.notes.flatMap (Note.moments react)) out.state

/-- What every turn keeps is true after the loop. -/
theorem holds_foldlM (kept : KeptByTurns react f holds) (items : List γ) (b : β)
    (past : List (Moment α L ρ)) (w : World α L) (start : holds items b past w) :
    let out := (items.foldlM f b).run w
    holds [] out.answer (past ++ out.notes.flatMap (Note.moments react)) out.state := by
  induction items generalizing b past w with
  | nil =>
      simp only [List.foldlM_nil, Recorded.run_pure, List.flatMap_nil, List.append_nil]
      exact start
  | cons c rest ih =>
      have whole := ih _ _ _ (kept c rest b past w start)
      simp only [List.append_assoc, ← List.flatMap_append] at whole
      exact whole

/-- What every turn keeps is true at every turn of the loop. -/
theorem holds_turns (kept : KeptByTurns react f holds) (items : List γ) (b : β)
    (past : List (Moment α L ρ)) (w : World α L) (start : holds items b past w) :
    ∀ t ∈ turns f b items w, ∃ rest b' past', holds (t.1 :: rest) b' past' t.2 ∧
      past' <+: past ++ ((items.foldlM f b).run w).notes.flatMap (Note.moments react) := by
  induction items generalizing b past w with
  | nil => exact fun _ member => nomatch member
  | cons c rest ih =>
      intro t member
      rcases List.mem_cons.mp member with rfl | later
      · exact ⟨rest, b, past, start, List.prefix_append _ _⟩
      · obtain ⟨rest', b', past', holds', early⟩ := ih _ _ _ (kept c rest b past w start) t later
        refine ⟨rest', b', past', holds', ?_⟩
        rw [List.append_assoc, ← List.flatMap_append] at early
        exact early

/-- When every turn tells of a pair what its world says, so does the loop. -/
theorem events_foldlM (ready : β → Prop) (tells : γ → World α L → List TriggerEvent)
    {q : ColliderPair}
    (each : ∀ b c w, ready b → ready ((f b c).run w).answer ∧
      (((f b c).run w).notes.flatMap (Note.moments react)).filterMap (Moment.eventOf? q) =
        tells c w)
    (items : List γ) (b : β) (w : World α L) (start : ready b) :
    (((items.foldlM f b).run w).notes.flatMap (Note.moments react)).filterMap (Moment.eventOf? q) =
      (turns f b items w).flatMap fun t => tells t.1 t.2 := by
  induction items generalizing b w with
  | nil => rfl
  | cons c rest ih =>
      obtain ⟨next, same⟩ := each b c w start
      rw [List.foldlM_cons, Recorded.notes_bind, List.flatMap_append, List.filterMap_append, same,
        ih _ _ next]
      rfl

end Loops

theorem PairSet.nodup (s : PairSet) : s.toList.Nodup := by
  refine s.ascending.imp fun {p q} less => ?_
  rintro rfl
  exact ColliderPair.lt_irrefl p less

namespace World

/-! ## The turns of a frame -/

section Frame

variable (react : Reaction α L ρ) (dt : α) (w : World α L)

/-- What has happened once a frame has turned to all candidate pairs. -/
def visits : Outcome (Note α L ρ) (World α L) (Progress L) :=
  let v := ((opening dt : Action α L ρ Unit).run w).state
  (v.candidates.toList.foldlM (visit react) ⟨w.listener, [], 0⟩).run v

/-- The candidate pairs of a frame with the worlds in which they are tested. -/
def tests : List (ColliderPair × World α L) :=
  let v := ((opening dt : Action α L ρ Unit).run w).state
  turns (visit react) ⟨w.listener, [], 0⟩ v.candidates.toList v

/-- A frame tests the candidates of its broad phase. -/
theorem tests_fst : (tests react dt w).map Prod.fst =
    ((opening dt : Action α L ρ Unit).run w).state.candidates.toList :=
  turns_fst _ _ _ _

/-- The touching pairs that a frame has not tested. -/
def leftOver : PairSet :=
  (visits react dt w).state.touching.filter fun p => !(visits react dt w).answer.tested.contains p

/-- What has happened once a frame has released all touching pairs that are left over. -/
def releases : Outcome (Note α L ρ) (World α L) (Option L) :=
  ((leftOver react dt w).toList.foldlM (release react) (visits react dt w).answer.listener).run
    (visits react dt w).state

/-- The touching pairs that are left over, with the worlds in which they are released. -/
def sweeps : List (ColliderPair × World α L) :=
  turns (release react) (visits react dt w).answer.listener (leftOver react dt w).toList
    (visits react dt w).state

theorem run_advance :
    (advance react dt).run w =
      let before := (opening dt : Action α L ρ Unit).run w
      let v := visits react dt w
      let r := releases react dt w
      ⟨⟨⟩, { r.state with listener := r.state.listener <|> r.answer, updating := false },
        before.notes ++ (v.notes ++ (r.notes ++ [.log
          (.updated dt v.answer.tested.length r.state.touching.size v.answer.resolved)]))⟩ := by
  rw [advance_eq]
  simp only [Recorded.run_bind, Recorded.run_get, Recorded.run_modify, log, Recorded.run_note,
    List.nil_append, List.append_nil, visits, releases, leftOver]

theorem touching_advance :
    ((advance react dt).run w).state.touching = (releases react dt w).state.touching := by
  rw [run_advance]

theorem tree_advance :
    ((advance react dt).run w).state.tree = (releases react dt w).state.tree := by
  rw [run_advance]

theorem updating_advance : ((advance react dt).run w).state.updating = false := by
  rw [run_advance]

variable {react dt w}

variable (react) in
/-- A visit keeps the listener, and notes the pair when it has been tested. -/
theorem progress_visit {done : Progress L} (listening : done.listener.isSome = true)
    (p : ColliderPair) (w : World α L) :
    ((visit react done p).run w).answer.listener.isSome = true ∧
      ∀ q, q ∈ ((visit react done p).run w).answer.tested ↔
        q ∈ done.tested ∨ q = p ∧ (w.found? p).isSome = true := by
  obtain ⟨l, listener⟩ := Option.isSome_iff_exists.mp listening
  have visited := visited react listener p w
  generalize (visit react done p).run w = out at visited
  cases visited with
  | passed untested logs => exact ⟨listening, by simp [untested]⟩
  | silent found silence drifts logs => exact ⟨listening, by simp [found, or_comm]⟩
  | told verdict called =>
      obtain ⟨_, found, _⟩ := verdict?_eq_some_iff.mp verdict
      exact ⟨rfl, by simp [found, or_comm]⟩

/-- A release keeps the listener. -/
theorem listening_release {listener : Option L} (listening : listener.isSome = true)
    (p : ColliderPair) (w : World α L) :
    ((release react listener p).run w).answer.isSome = true := by
  obtain ⟨l, rfl⟩ := Option.isSome_iff_exists.mp listening
  have released := run_released react l p w
  generalize (release react (some l) p).run w = out at released
  cases released with
  | silent _ _ => rfl
  | told _ _ => rfl

/-- A loop of visits keeps the listener, and has noted the pairs that were tested. -/
theorem progress_foldlM (items : List ColliderPair) {done : Progress L}
    (listening : done.listener.isSome = true) (w : World α L) :
    let out := (items.foldlM (visit react) done).run w
    out.answer.listener.isSome = true ∧ ∀ q, q ∈ out.answer.tested ↔
      q ∈ done.tested ∨ ∃ v, (q, v) ∈ turns (visit react) done items w ∧
        (v.found? q).isSome = true := by
  induction items generalizing done w with
  | nil => exact ⟨listening, fun q => by simp [turns]⟩
  | cons p rest ih =>
      obtain ⟨listening', tested⟩ := progress_visit react listening p w
      obtain ⟨listening'', tested'⟩ := ih listening' ((visit react done p).run w).state
      refine ⟨listening'', fun q => (tested' q).trans ?_⟩
      simp only [tested, turns, List.mem_cons, Prod.mk.injEq]
      constructor
      · rintro ((before | ⟨rfl, found⟩) | ⟨v, later, found⟩)
        · exact .inl before
        · exact .inr ⟨w, .inl ⟨rfl, rfl⟩, found⟩
        · exact .inr ⟨v, .inr later, found⟩
      · rintro (before | ⟨v, ⟨rfl, rfl⟩ | later, found⟩)
        · exact .inl (.inl before)
        · exact .inl (.inr ⟨rfl, found⟩)
        · exact .inr ⟨v, later, found⟩

/-- Once a frame has turned to its candidate pairs it has a listener still, and has noted the
pairs that were tested. -/
theorem progress_visits (listening : w.listener.isSome = true) :
    (visits react dt w).answer.listener.isSome = true ∧
      ∀ q, q ∈ (visits react dt w).answer.tested ↔
        ∃ v, (q, v) ∈ tests react dt w ∧ (v.found? q).isSome = true := by
  have start : (⟨w.listener, [], 0⟩ : Progress L).listener.isSome = true := listening
  obtain ⟨listening', tested⟩ := progress_foldlM
    ((opening dt : Action α L ρ Unit).run w).state.candidates.toList start
    ((opening dt : Action α L ρ Unit).run w).state
  dsimp only [visits, tests]
  exact ⟨listening', fun q => (tested q).trans (by simp)⟩

/-! ## What a frame tells -/

/-- What is told of a pair when a loop turns to it. -/
def tellings (tells : World α L → ColliderPair → Option TriggerEvent)
    (turns : List (ColliderPair × World α L)) (q : ColliderPair) : List TriggerEvent :=
  turns.flatMap fun t => if t.1 = q then (tells t.2 t.1).toList else []

section Tellings

variable {tells : World α L → ColliderPair → Option TriggerEvent}
  {turns : List (ColliderPair × World α L)} {q : ColliderPair}

omit [Scalar α] in
theorem mem_tellings {event : TriggerEvent} :
    event ∈ tellings tells turns q ↔ ∃ v, (q, v) ∈ turns ∧ tells v q = some event := by
  rw [tellings, List.mem_flatMap]
  constructor
  · rintro ⟨⟨p, v⟩, member, told⟩
    dsimp only at told
    split at told
    · rename_i same
      subst same
      exact ⟨v, member, Option.mem_toList.mp told⟩
    · cases told
  · rintro ⟨v, member, told⟩
    refine ⟨(q, v), member, ?_⟩
    rw [if_pos rfl]
    exact Option.mem_toList.mpr told

omit [Scalar α] in
theorem tellings_eq_nil (absent : q ∉ turns.map Prod.fst) : tellings tells turns q = [] := by
  rw [List.eq_nil_iff_forall_not_mem]
  intro event told
  obtain ⟨v, member, _⟩ := mem_tellings.mp told
  exact absent (List.mem_map_of_mem member)

omit [Scalar α] in
/-- A loop that turns to every pair once tells of every pair once at most. -/
theorem length_tellings_le (once : (turns.map Prod.fst).Nodup) :
    (tellings tells turns q).length ≤ 1 := by
  induction turns with
  | nil => exact Nat.zero_le 1
  | cons t rest ih =>
      obtain ⟨fresh, once⟩ := List.nodup_cons.mp once
      have split : tellings tells (t :: rest) q =
          (if t.1 = q then (tells t.2 t.1).toList else []) ++ tellings tells rest q := rfl
      rw [split, List.length_append]
      by_cases same : t.1 = q
      · rw [tellings_eq_nil (same ▸ fresh), if_pos same]
        exact Option.length_toList_le
      · rw [if_neg same, List.length_nil, Nat.zero_add]
        exact ih once

end Tellings

theorem events_visits (listening : w.listener.isSome = true) (q : ColliderPair) :
    ((visits react dt w).notes.flatMap (Note.moments react)).filterMap (Moment.eventOf? q) =
      tellings verdict? (tests react dt w) q := by
  dsimp only [visits, tests, tellings]
  refine events_foldlM (fun done : Progress L => done.listener.isSome = true)
    (fun p v => if p = q then (v.verdict? p).toList else []) (fun done p v listening => ?_)
    _ _ _ listening
  obtain ⟨l, listener⟩ := Option.isSome_iff_exists.mp listening
  exact ⟨(progress_visit react listening p v).1, events_visit react listener p q v⟩

theorem events_releases (listening : w.listener.isSome = true) (q : ColliderPair) :
    ((releases react dt w).notes.flatMap (Note.moments react)).filterMap (Moment.eventOf? q) =
      tellings farewell? (sweeps react dt w) q := by
  dsimp only [releases, sweeps, tellings]
  refine events_foldlM (fun listener : Option L => listener.isSome = true)
    (fun p v => if p = q then (v.farewell? p).toList else []) (fun listener p v listening => ?_)
    _ _ _ (progress_visits listening).1
  obtain ⟨l, rfl⟩ := Option.isSome_iff_exists.mp listening
  exact ⟨listening_release listening p v, events_release react l p q v⟩

theorem run_update (idle : w.updating = false) :
    (update react dt).run w = (advance react dt).run w := by
  rw [update, Recorded.run_bind, Recorded.run_get]
  simp only [idle, Bool.false_eq_true, if_false, List.nil_append]

/-- While a frame is being computed, an update does nothing but warn. -/
theorem run_update_busy (busy : w.updating = true) :
    (update react dt).run w = ⟨⟨⟩, w, [.log .nestedUpdate]⟩ := by
  rw [update, Recorded.run_bind, Recorded.run_get]
  simp only [busy, if_true, List.nil_append]
  rfl

/-- A frame tells of a pair what its test has to tell, and then what its release has to tell. -/
theorem events_update (listening : w.listener.isSome = true) (idle : w.updating = false)
    (q : ColliderPair) :
    ((Operation.update dt).moments react w).filterMap (Moment.eventOf? q) =
      tellings verdict? (tests react dt w) q ++ tellings farewell? (sweeps react dt w) q := by
  have asked : (Moment.asked w (.update dt) () : Moment α L ρ).eventOf? q = none := rfl
  rw [moments_update, List.filterMap_cons_none asked, run_update idle, run_advance]
  simp only [List.flatMap_append, List.filterMap_append, moments_opening, events_visits listening,
    events_releases listening, List.nil_append]
  exact congrArg _ (List.append_nil _)

theorem mem_events_update (listening : w.listener.isSome = true) (idle : w.updating = false)
    {q : ColliderPair} {event : TriggerEvent} :
    event ∈ ((Operation.update dt).moments react w).filterMap (Moment.eventOf? q) ↔
      (∃ v, (q, v) ∈ tests react dt w ∧ v.verdict? q = some event) ∨
        ∃ v, (q, v) ∈ sweeps react dt w ∧ v.farewell? q = some event := by
  rw [events_update listening idle, List.mem_append, mem_tellings, mem_tellings]

/-- A pair that has been tested is not left over. -/
theorem not_mem_leftOver (listening : w.listener.isSome = true) {q : ColliderPair}
    {v : World α L} (turn : (q, v) ∈ tests react dt w) (found : (v.found? q).isSome = true) :
    q ∉ leftOver react dt w := by
  have tested : q ∈ (visits react dt w).answer.tested :=
    ((progress_visits listening).2 q).mpr ⟨v, turn, found⟩
  intro left
  have untested := (PairSet.mem_filter.mp left).2
  rw [List.contains_iff_mem.mpr tested] at untested
  cases untested

/-- **A frame tells of every pair once at most.** -/
theorem length_events_update (listening : w.listener.isSome = true) (idle : w.updating = false)
    (q : ColliderPair) :
    (((Operation.update dt).moments react w).filterMap (Moment.eventOf? q)).length ≤ 1 := by
  rw [events_update listening idle]
  cases verdicts : tellings verdict? (tests react dt w) q with
  | nil =>
      rw [List.nil_append]
      refine length_tellings_le ?_
      rw [sweeps, turns_fst]
      exact PairSet.nodup _
  | cons event more =>
      obtain ⟨v, turn, verdict⟩ := mem_tellings.mp (verdicts ▸ List.mem_cons_self)
      have found : (v.found? q).isSome = true := by
        rw [(verdict?_eq_some_iff.mp verdict).2.1]
        rfl
      have silent : tellings farewell? (sweeps react dt w) q = [] := by
        refine tellings_eq_nil ?_
        rw [sweeps, turns_fst]
        exact not_mem_leftOver listening turn found
      rw [silent, List.append_nil, ← verdicts]
      refine length_tellings_le ?_
      rw [tests, turns_fst]
      exact PairSet.nodup _

end Frame

/-! ## What a frame keeps -/

section Advance

variable (react : Reaction α L ρ) (dt : α) {past : List (Moment α L ρ)} {w : World α L}

/-- What has happened in a frame when all candidate pairs have been tested. -/
def tested (past : List (Moment α L ρ)) (w : World α L) : List (Moment α L ρ) :=
  past ++ ((opening dt : Action α L ρ Unit).run w).notes.flatMap (Note.moments react) ++
    (visits react dt w).notes.flatMap (Note.moments react)

theorem moments_advance (past : List (Moment α L ρ)) (w : World α L) :
    past ++ ((advance react dt).run w).notes.flatMap (Note.moments react) =
      tested react dt past w ++ (releases react dt w).notes.flatMap (Note.moments react) := by
  rw [run_advance]
  simp only [tested, List.flatMap_append, List.append_assoc, List.flatMap_singleton, Note.moments,
    List.append_nil]

variable {visiting : List ColliderPair → Progress L → List (Moment α L ρ) → World α L → Prop}
  {releasing : List ColliderPair → Option L → List (Moment α L ρ) → World α L → Prop}
  (visited : KeptByTurns react (visit react) visiting)
  (between : ∀ done past v, visiting [] done past v →
    releasing (v.touching.filter fun p => !done.tested.contains p).toList done.listener past v)
  (released : KeptByTurns react (release react) releasing)
  (start : let v := ((opening dt : Action α L ρ Unit).run w).state
    visiting v.candidates.toList ⟨w.listener, [], 0⟩ past v)

include visited between start in
/-- What the tests of a frame keep makes true what its releases keep. -/
theorem holds_leftOver :
    releasing (leftOver react dt w).toList (visits react dt w).answer.listener
      (tested react dt past w) (visits react dt w).state := by
  refine between _ _ _ ?_
  rw [tested, moments_opening, List.append_nil]
  exact holds_foldlM visited _ _ past _ start

include visited between released start in
/-- **What all turns of a frame keep is true when it closes.** -/
theorem holds_advance :
    releasing [] (releases react dt w).answer
      (past ++ ((advance react dt).run w).notes.flatMap (Note.moments react))
      (releases react dt w).state := by
  rw [moments_advance]
  exact holds_foldlM released _ _ _ _ (holds_leftOver react dt visited between start)

include visited between released start in
/-- What all turns of a frame keep is true at every release. -/
theorem holds_sweeps {t : ColliderPair × World α L} (turn : t ∈ sweeps react dt w) :
    ∃ rest listener past', releasing (t.1 :: rest) listener past' t.2 ∧
      past' <+: past ++ ((advance react dt).run w).notes.flatMap (Note.moments react) := by
  rw [moments_advance]
  exact holds_turns released _ _ _ _ (holds_leftOver react dt visited between start) t turn

end Advance

/-! ## Frames that keep the past in order -/

section Order

variable [OrderedScalar α] (react : Reaction α L ρ) (dt : α) {past : List (Moment α L ρ)}
  {w : World α L}

omit [OrderedScalar α] in
theorem obeysPermitted_drift (due : List ColliderPair) :
    KeptByDrift (ObeysPermitted due : List (Moment α L ρ) → World α L → Prop) := by
  intro past w w' start drifts permitted
  obtain ⟨obeys, waiting⟩ := start permitted
  refine ⟨obeys.drift drifts, fun q member => ?_⟩
  rw [drifts.touching]
  exact (waiting q member).imp_right (Lost.ages drifts.ages)

omit [OrderedScalar α] in
theorem drifts_closing (w : World α L) (listener : Option L) :
    w.Drifts { w with listener := listener, updating := false } :=
  drifts_of_eq rfl rfl rfl

theorem kept_visits : KeptByTurns react (visit react) fun _ done past w =>
    done.listener.isSome = true ∧ ObeysPermitted [] past w := by
  rintro p rest done past w ⟨listening, start⟩
  obtain ⟨l, listener⟩ := Option.isSome_iff_exists.mp listening
  exact ⟨(progress_visit react listening p w).1, obeys_visit listener start⟩

theorem kept_releases : KeptByTurns react (release react) fun rest listener past w =>
    listener.isSome = true ∧ rest.Nodup ∧ ObeysPermitted rest past w := by
  rintro p rest listener past w ⟨listening, once, start⟩
  obtain ⟨fresh, once⟩ := List.nodup_cons.mp once
  obtain ⟨l, rfl⟩ := Option.isSome_iff_exists.mp listening
  exact ⟨listening_release listening p w, once, obeys_release fresh start⟩

omit [OrderedScalar α] in
/-- When a frame has tested its pairs and the past is in order, the pairs left over are due. -/
theorem obeys_between (done : Progress L) (past : List (Moment α L ρ)) (v : World α L)
    (held : done.listener.isSome = true ∧ ObeysPermitted [] past v) :
    let left := (v.touching.filter fun p => !done.tested.contains p).toList
    done.listener.isSome = true ∧ left.Nodup ∧ ObeysPermitted left past v := by
  obtain ⟨listening, obeys⟩ := held
  refine ⟨listening, PairSet.nodup _, fun permitted => ?_⟩
  exact ⟨(obeys permitted).1, fun q member => .inl (PairSet.mem_filter.mp member).1⟩

include react in
omit [OrderedScalar α] in
/-- A frame opens with the past in order. -/
theorem obeys_opening (listening : w.listener.isSome = true) (start : ObeysPermitted [] past w) :
    (⟨w.listener, [], 0⟩ : Progress L).listener.isSome = true ∧
      ObeysPermitted [] past ((opening dt : Action α L ρ Unit).run w).state := by
  have opened : Carries react (ObeysPermitted []) (opening dt) :=
    carries_opening (obeysPermitted_drift []) dt
  have held := opened past w start
  rw [moments_opening, List.append_nil] at held
  exact ⟨listening, held⟩

/-- **A frame that starts with a listener keeps the past in order.** -/
theorem obeys_advance (listening : w.listener.isSome = true) (start : ObeysPermitted [] past w) :
    ObeysPermitted [] (past ++ ((advance react dt).run w).notes.flatMap (Note.moments react))
      ((advance react dt).run w).state := by
  obtain ⟨_, _, released⟩ := holds_advance react dt (kept_visits react) obeys_between
    (kept_releases react) (obeys_opening react dt listening start)
  rw [run_advance] at released ⊢
  exact obeysPermitted_drift [] _ _ _ released (drifts_closing _ _)

/-- A pair that is released touches at that moment or is lost. -/
theorem waiting_of_sweeps (listening : w.listener.isSome = true) (start : ObeysPermitted [] past w)
    (permitted : ∀ m ∈ past ++ ((advance react dt).run w).notes.flatMap (Note.moments react),
      m.Permitted)
    {q : ColliderPair} {v : World α L} (turn : (q, v) ∈ sweeps react dt w) :
    q ∈ v.touching ∨ v.Lost q := by
  obtain ⟨rest, listener, past', ⟨_, _, waiting⟩, early⟩ := holds_sweeps react dt
    (kept_visits react) obeys_between (kept_releases react)
    (obeys_opening react dt listening start) turn
  exact (waiting fun m member => permitted m (early.subset member)).2 q List.mem_cons_self

/-- **Every update keeps the past in order.** -/
theorem obeys_updates : CarriedByUpdates react (ObeysPermitted []) := by
  intro past w dt start permitted
  have asked : ObeysPermitted [] (past ++ [.asked w (.update dt) ()]) w :=
    obeys_inside [] past w (.update dt) start
  rw [moments_update, List.append_cons] at permitted ⊢
  cases idle : w.updating with
  | true =>
      rw [run_update_busy idle] at permitted ⊢
      simp only [List.flatMap_singleton, Note.moments, List.append_nil] at permitted ⊢
      exact asked permitted
  | false =>
      have listening : w.listener.isSome = true :=
        permitted (.asked w (.update dt) ()) (by simp) idle
      rw [run_update idle] at permitted ⊢
      exact obeys_advance react dt listening asked permitted

/-- Between operations no frame is being computed. -/
theorem updating_after (ops : List (Operation α L)) (idle : w.updating = false) :
    (after react ops w).updating = false := by
  have inside : CarriedInside fun (_ : List (Moment α L ρ)) (w : World α L) =>
      w.updating = false := fun _ w op idle => (op.effect_perform w).updating.trans idle
  have updates : CarriedByUpdates react fun _ w => w.updating = false := by
    intro past w dt idle
    rw [run_update idle, updating_advance]
  exact holds_history inside updates ops [] w idle

end Order

end World

end PlanarDynamics
