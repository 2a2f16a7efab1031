import Mathlib.Order.Bounds.Basic
import PlanarDynamics.Proofs.Store.Books
import PlanarDynamics.Proofs.World.Invariants

/-!
# The books of a world balance

The five stores of a world share one memory. What they hold of it is the bytes of their slots, in
the blocks they were granted (`World.holding`). An operation asks for more or gives up everything,
and either way the books stay balanced (`World.balanced_perform`); frames do not touch them. Hence
they balance at every point of every run, callbacks and refused operations included, as long as the
bytes of the slots can be counted (`World.books_balance`).
-/

set_option autoImplicit false

namespace PlanarDynamics

variable {α L ρ : Type}

/-! ## Answers -/

/-- The fault with which an operation was refused. -/
def Operation.fault? : (op : Operation α L) → op.Answer → Option Fault
  | .restart _ _, .error fault => some fault
  | .createBody, .error fault => some fault
  | .destroyBody _, .error fault => some fault
  | .editBody _ _, .error fault => some fault
  | .createCollider _ _, .error fault => some fault
  | .attach _ _, .error fault => some fault
  | .destroyCollider _, .error fault => some fault
  | .editCollider _ _, .error fault => some fault
  | .reshapeAt _ _, .error fault => some fault
  | .reshape _ _, .error fault => some fault
  | _, _ => none

/-- How often the memory refused an operation. None of them asks again after a refusal. -/
def Operation.refusals (op : Operation α L) (answer : op.Answer) : Nat :=
  if (op.fault? answer).any Fault.isRefusal then 1 else 0

/-- Whether the memory refused what was asked at a moment. -/
def Moment.isRefusal : Moment α L ρ → Bool
  | asked _ op answer => (op.fault? answer).any Fault.isRefusal
  | told _ => false

namespace World

/-- The bytes of all slots: 40 for a body, 64 for a collider, 24 for a circle and 32 each for a
rectangle and a polygon. -/
def slotBytes (w : World α L) : Nat :=
  w.bodies.capacity * 40 + w.colliders.capacity * 64 + w.shapes.circles.arena.capacity * 24 +
    w.shapes.rectangles.arena.capacity * 32 + w.shapes.polygons.arena.capacity * 32

/-- The blocks of all stores, in the order in which they are handed back. -/
def blocks (w : World α L) : List Request :=
  w.shapes.blocks ++ w.colliders.blocks ++ w.bodies.blocks

/-- What the stores hold of the memory. -/
def holding (w : World α L) : Holding := ⟨w.memory, w.slotBytes, w.blocks.length⟩

variable [Scalar α]

theorem slotBytes_eq (w : World α L) :
    w.slotBytes = w.bodies.bytes + w.colliders.bytes + w.shapes.bytes := by
  have sizes : w.bodies.bytes + w.colliders.bytes + w.shapes.bytes =
      w.bodies.capacity * 40 + w.colliders.capacity * 64 +
        (w.shapes.circles.arena.capacity * 24 + w.shapes.rectangles.arena.capacity * 32 +
          w.shapes.polygons.arena.capacity * 32) := rfl
  rw [sizes, slotBytes]
  omega

/-! ## Operations that may ask for memory -/

section Single

variable (s : MemorySettings) (w : World α L)

theorem holding_bodies : w.holding =
    Arena.holding (w.colliders.bytes + w.shapes.bytes)
      (w.colliders.blocks.length + w.shapes.blocks.length) (w.memory, w.bodies) := by
  refine Holding.ext rfl ?_ ?_
  · simp only [holding, Arena.holding, slotBytes_eq]
    omega
  · simp only [holding, Arena.holding, blocks, List.length_append]
    omega

theorem holding_colliders : w.holding =
    Arena.holding (w.bodies.bytes + w.shapes.bytes)
      (w.bodies.blocks.length + w.shapes.blocks.length) (w.memory, w.colliders) := by
  refine Holding.ext rfl ?_ ?_
  · simp only [holding, Arena.holding, slotBytes_eq]
    omega
  · simp only [holding, Arena.holding, blocks, List.length_append]
    omega

theorem holding_shapes : w.holding =
    Shapes.holding (w.bodies.bytes + w.colliders.bytes)
      (w.bodies.blocks.length + w.colliders.blocks.length) (w.memory, w.shapes) := by
  refine Holding.ext rfl ?_ ?_
  · simp only [holding, Shapes.holding, slotBytes_eq]
  · simp only [holding, Shapes.holding, blocks, List.length_append]
    omega

/-- Stores of the same size, behind the same memory. -/
theorem holding_congr {w w' : World α L} (memory : w'.memory = w.memory)
    (bodies : w.bodies.SameSize w'.bodies) (colliders : w.colliders.SameSize w'.colliders)
    (shapes : w.shapes.SameSize w'.shapes) : w'.holding = w.holding := by
  rw [holding, holding, memory, slotBytes_eq, slotBytes_eq, bodies.bytes, colliders.bytes,
    shapes.bytes, blocks, blocks, bodies.blocks, colliders.blocks, shapes.blocks]

theorem grows_createBody :
    let out := (createBody : Attempt α L ρ BodyRef).attempt.run w
    Holding.Grows s (refusals out.answer) w.holding out.state.holding := by
  have grows := Arena.grows_create s ⟨5, rfl⟩ (w.colliders.bytes + w.shapes.bytes)
    (w.colliders.blocks.length + w.shapes.blocks.length) Body.standard (w.memory, w.bodies)
  rw [run_createBody]
  dsimp only at grows ⊢
  cases answer : ((Arena.create Body.standard).attempt.run (w.memory, w.bodies)).answer with
  | ok b =>
      rw [answer] at grows
      dsimp only
      rw [holding_bodies, holding_bodies]
      exact grows
  | error fault =>
      rw [answer] at grows
      dsimp only
      rw [holding_bodies, holding_bodies]
      exact grows

/-- A collider asks for memory twice at most, and the second time only after it was granted the
first. -/
theorem grows_attach (b : BodyRef) (shape : Shape α) :
    let out := (attach b shape : Attempt α L ρ ColliderRef).attempt.run w
    Holding.Grows s (refusals out.answer) w.holding out.state.holding := by
  rw [run_attach]
  dsimp only
  cases found : w.bodies.get b with
  | error fault =>
      have missing : refusals (.error fault : Except Fault (Body α)) = 0 :=
        (congrArg refusals found).symm.trans (w.bodies.refusals_get b)
      exact (congrArg (Holding.Grows s · w.holding w.holding) missing).mpr (.refl _)
  | ok body =>
      let put := (Shapes.insert shape).attempt.run (w.memory, w.shapes)
      let w₁ : World α L := { w with memory := put.state.1, shapes := put.state.2 }
      have first : Holding.Grows s (refusals put.answer) w.holding w₁.holding := by
        rw [holding_shapes, holding_shapes]
        exact Shapes.grows_insert s _ _ (w.memory, w.shapes) shape
      dsimp only
      cases stored : ((Shapes.insert shape).attempt.run (w.memory, w.shapes)).answer with
      | error fault => exact (congrArg (Holding.Grows s · w.holding w₁.holding)
          (congrArg refusals stored)).mp first
      | ok place =>
          let made := (Arena.create (Collider.make b shape.kind place)).attempt.run
            (w₁.memory, w₁.colliders)
          let w₂ : World α L := { w₁ with memory := made.state.1, colliders := made.state.2 }
          have second : Holding.Grows s (refusals made.answer) w₁.holding w₂.holding := by
            rw [holding_colliders, holding_colliders]
            exact Arena.grows_create s ⟨8, rfl⟩ _ _ _ (w₁.memory, w₁.colliders)
          have granted : refusals put.answer = 0 := congrArg refusals stored
          have both := first.trans second
          rw [granted, Nat.zero_add] at both
          dsimp only
          cases created : ((Arena.create (Collider.make b shape.kind place)).attempt.run
            (((Shapes.insert shape).attempt.run (w.memory, w.shapes)).state.1, w.colliders)).answer
            with
          | error fault =>
              obtain ⟨shapes, removed⟩ := Shapes.exists_remove
                (((Shapes.stores_insert stored).2 shape.kind place).mpr (.inl ⟨rfl, rfl⟩))
              have same : ({ w₂ with shapes := shapes } : World α L).holding = w₂.holding :=
                holding_congr rfl (.refl _) (.refl _) (Shapes.sameSize_remove removed)
              have refused : refusals made.answer =
                  refusals (.error fault : Except Fault ColliderRef) := congrArg refusals created
              rw [refused, ← same] at both
              simpa only [removed] using both
          | ok c =>
              have kept : refusals made.answer = 0 := congrArg refusals created
              rw [kept] at both
              dsimp only
              cases told : w₂.colliders.modify c fun collider => { collider with self := c } with
              | ok colliders =>
                  have same : ({ w₂ with colliders := colliders } : World α L).holding =
                    w₂.holding := holding_congr rfl (.refl _) (Arena.sameSize_modify told) (.refl _)
                  rw [← same] at both
                  exact both
              | error missing =>
                  have never : refusals (.error missing : Except Fault ColliderRef) = 0 :=
                    (congrArg refusals told).symm.trans
                      ((refusals_bind_pure _ _).trans (w₂.colliders.refusals_get c))
                  rw [← never] at both
                  exact both

theorem grows_createCollider (b : BodyRef) (kind : ShapeKind) :
    let out := (createCollider b kind : Attempt α L ρ ColliderRef).attempt.run w
    Holding.Grows s (refusals out.answer) w.holding out.state.holding := by
  unfold createCollider
  split
  · exact .refl _
  · exact grows_attach s w b (.standard kind)

theorem grows_reserveSlots :
    let out := (reserveSlots : Attempt α L ρ Unit).attempt.run w
    Holding.Grows s (refusals out.answer) w.holding out.state.holding := by
  let first := (Arena.reserve w.settings.bodySlots).attempt.run (w.memory, w.bodies)
  let w₁ : World α L := { w with memory := first.state.1, bodies := first.state.2 }
  have bodies : Holding.Grows s (refusals first.answer) w.holding w₁.holding := by
    rw [holding_bodies, holding_bodies]
    exact Arena.grows_reserve s ⟨5, rfl⟩ _ _ _ (w.memory, w.bodies)
  have colliders : Holding.Grows s
      (refusals ((Arena.reserve w.settings.colliderSlots).attempt.run
        (w₁.memory, w₁.colliders)).answer) w₁.holding
      ({ w₁ with
        memory := ((Arena.reserve w.settings.colliderSlots).attempt.run
          (w₁.memory, w₁.colliders)).state.1
        colliders := ((Arena.reserve w.settings.colliderSlots).attempt.run
          (w₁.memory, w₁.colliders)).state.2 } : World α L).holding := by
    rw [holding_colliders, holding_colliders]
    exact Arena.grows_reserve s ⟨8, rfl⟩ _ _ _ (w₁.memory, w₁.colliders)
  simp only [reserveSlots, Fallible.run_bind, Fallible.run_get, Fallible.run_mk, onBodies,
    onColliders, Recorded.run_zoom, Outcome.after_nil]
  cases answer : ((Arena.reserve w.settings.bodySlots).attempt.run (w.memory, w.bodies)).answer with
  | error fault =>
      have refused : refusals first.answer = refusals (.error fault : Except Fault Unit) :=
        congrArg refusals answer
      rw [refused] at bodies
      exact bodies
  | ok _ =>
      have granted : refusals first.answer = 0 := congrArg refusals answer
      have both := bodies.trans colliders
      rw [granted, Nat.zero_add] at both
      exact both

/-! ## Operations that ask for nothing -/

theorem grows_destroyBody (b : BodyRef) :
    let out := (destroyBody b : Attempt α L ρ Unit).attempt.run w
    Holding.Grows s (refusals out.answer) w.holding out.state.holding := by
  have never := w.bodies.refusals_destroy b
  rw [run_destroyBody]
  cases done : w.bodies.destroy b with
  | ok bodies =>
      exact .of_eq (holding_congr rfl (Arena.sameSize_destroy done) (.refl _) (.refl _)) rfl
  | error fault =>
      rw [done] at never
      exact .of_eq rfl never

theorem grows_editBody (b : BodyRef) (f : Body α → Body α) :
    let out := (editBody b f : Attempt α L ρ (Body α)).attempt.run w
    Holding.Grows s (refusals out.answer) w.holding out.state.holding := by
  have never := w.bodies.refusals_get b
  rw [run_editBody]
  cases found : w.bodies.get b with
  | ok body =>
      exact .of_eq (holding_congr rfl (Arena.sameSize_write _ _ _) (.refl _) (.refl _)) rfl
  | error fault =>
      rw [found] at never
      exact .of_eq rfl never

theorem grows_destroyCollider (c : ColliderRef) :
    let out := (destroyCollider c : Attempt α L ρ Unit).attempt.run w
    Holding.Grows s (refusals out.answer) w.holding out.state.holding := by
  have missing := w.colliders.refusals_get c
  have stale := w.colliders.refusals_destroy c
  rw [run_destroyCollider]
  cases found : w.colliders.get c with
  | error fault =>
      rw [found] at missing
      exact .of_eq rfl missing
  | ok v =>
      cases done : w.colliders.destroy c with
      | error fault =>
          rw [done] at stale
          exact .of_eq rfl stale
      | ok colliders =>
          have shapeless := w.shapes.refusals_remove v.kind v.place
          have size := Arena.sameSize_destroy done
          dsimp only
          cases removed : w.shapes.remove v.kind v.place with
          | ok shapes =>
              exact .of_eq (holding_congr rfl (.refl _) size (Shapes.sameSize_remove removed)) rfl
          | error fault =>
              rw [removed] at shapeless
              exact .of_eq (holding_congr rfl (.refl _) size (.refl _)) shapeless

theorem grows_editCollider (c : ColliderRef) (f : Collider α → Collider α) :
    let out := (editCollider c f : Attempt α L ρ (Collider α)).attempt.run w
    Holding.Grows s (refusals out.answer) w.holding out.state.holding := by
  have never := w.colliders.refusals_get c
  rw [run_editCollider]
  cases found : w.colliders.get c with
  | ok v =>
      exact .of_eq (holding_congr rfl (.refl _) (Arena.sameSize_write _ _ _) (.refl _)) rfl
  | error fault =>
      rw [found] at never
      exact .of_eq rfl never

theorem grows_reshapeAt (i : Nat) (r : Reshape α) :
    let out := (reshapeAt i r : Attempt α L ρ (Shape α)).attempt.run w
    Holding.Grows s (refusals out.answer) w.holding out.state.holding := by
  have never := w.shapes.refusals_reshape i r
  rw [run_reshapeAt]
  cases changed : w.shapes.reshape i r with
  | ok made =>
      exact .of_eq (holding_congr rfl (.refl _) (.refl _) (Shapes.sameSize_reshape changed)) rfl
  | error fault =>
      rw [changed] at never
      exact .of_eq rfl never

theorem grows_reshape (c : ColliderRef) (r : Reshape α) :
    let out := (reshape c r : Attempt α L ρ (Shape α)).attempt.run w
    Holding.Grows s (refusals out.answer) w.holding out.state.holding := by
  have never := w.colliders.refusals_get c
  rw [run_reshape]
  cases found : w.colliders.get c with
  | error fault =>
      rw [found] at never
      exact .of_eq rfl never
  | ok v =>
      dsimp only
      split
      · exact grows_reshapeAt s w v.place r
      · exact .of_eq rfl rfl

end Single

/-! ## Starting afresh -/

section Fresh

variable {s : MemorySettings} {refused peak : Nat}

omit [Scalar α] in
/-- Giving up everything hands back every block, and then resets the memory. -/
theorem state_vacate_eq (w : World α L) :
    ((vacate : Action α L ρ Unit).run w).state =
      { w with
        memory := (w.memory.returned w.blocks).reset
        bodies := w.bodies.cleared
        colliders := w.colliders.cleared
        shapes := ⟨⟨w.shapes.circles.arena.cleared⟩, ⟨w.shapes.rectangles.arena.cleared⟩,
          ⟨w.shapes.polygons.arena.cleared⟩⟩
        tree := w.tree.clear
        touching := .empty } := by
  simp only [vacate, Recorded.state_bind, Recorded.run_modify, onShapes, onColliders, onBodies,
    Recorded.run_zoom, Arena.state_clear_eq, Shapes.state_clear_eq, blocks, Memory.returned,
    List.foldl_append]

/-- A world given up and told its new settings, before any slots are reserved. -/
def emptied (gravity : Vector2 α) (slots : Int) (w : World α L) : World α L :=
  let w' := ((vacate : Action α L Unit Unit).run w).state
  { w' with settings := { w'.settings with gravity := gravity, bodySlots := slots.toNat } }

/-- Starting afresh is reserving slots in an empty world. -/
theorem run_restart (gravity : Vector2 α) (slots : Int) (w : World α L) :
    let out := (restart gravity slots : Attempt α L ρ Unit).attempt.run w
    let reserved := (reserveSlots : Attempt α L ρ Unit).attempt.run (w.emptied gravity slots)
    out.answer = reserved.answer ∧ out.state = reserved.state := by
  have empties : ((vacate : Action α L ρ Unit).run w).state =
      ((vacate : Action α L Unit Unit).run w).state := by
    rw [state_vacate_eq, state_vacate_eq]
  have rest : ∀ v : World α L, let out := (do
      modify fun w : World α L =>
        { w with settings := { w.settings with gravity := gravity, bodySlots := slots.toNat } }
      reserveSlots
      Fallible.note (.log (.initialised gravity slots.toNat)) : Attempt α L ρ Unit).attempt.run v
      let reserved := (reserveSlots : Attempt α L ρ Unit).attempt.run { v with
        settings := { v.settings with gravity := gravity, bodySlots := slots.toNat } }
      out.answer = reserved.answer ∧ out.state = reserved.state := by
    intro v
    simp only [Fallible.run_bind, Fallible.run_modify, Outcome.after_nil]
    cases (reserveSlots.attempt.run { v with
      settings := { v.settings with gravity := gravity, bodySlots := slots.toNat } } :
        Outcome (Note α L ρ) (World α L) (Except Fault Unit)).answer <;> exact ⟨rfl, rfl⟩
  simp only [restart, Fallible.run_bind (Fallible.always _), Fallible.run_always, emptied,
    ← empties]
  split
  · rw [Fallible.run_bind]
    exact rest _
  · exact rest _

omit [Scalar α] in
theorem balanced_vacate {w : World α L} (balanced : w.holding.Balanced s refused peak) :
    ((vacate : Action α L ρ Unit).run w).state.holding.Balanced s refused peak := by
  rw [state_vacate_eq]
  exact balanced.vacate rfl

/-- Starting afresh asks for memory once there is nothing left. -/
theorem balanced_restart (gravity : Vector2 α) (slots : Int) {w : World α L}
    (balanced : w.holding.Balanced s refused peak) :
    let out := (restart gravity slots : Attempt α L ρ Unit).attempt.run w
    out.state.slotBytes ≤ wordMax →
      out.state.holding.Balanced s (refused + refusals out.answer)
        (max peak out.state.slotBytes) := by
  obtain ⟨answer, state⟩ := run_restart gravity slots w (ρ := ρ)
  dsimp only at answer state ⊢
  rw [answer, state]
  exact (grows_reserveSlots s (w.emptied gravity slots)).balanced (balanced_vacate balanced)

end Fresh

/-! ## All operations -/

section Perform

variable {s : MemorySettings} {refused peak : Nat}

/-- Operations other than those that give up everything only ask for more. -/
theorem grows_perform (op : Operation α L) (w : World α L) (stays : op ≠ .vacate)
    (goesOn : ∀ gravity slots, op ≠ .restart gravity slots) :
    let out := (op.perform (refuseUpdate : α → Action α L ρ Unit)).run w
    Holding.Grows s (op.refusals out.answer) w.holding out.state.holding := by
  have counted : ∀ {op : Operation α L} (count : op.Answer → Nat),
      (∀ answer, op.refusals answer = count answer) → ∀ {answer h h'},
      Holding.Grows s (count answer) h h' → Holding.Grows s (op.refusals answer) h h' :=
    fun _ same _ _ _ grows => same _ ▸ grows
  cases op with
  | vacate => exact absurd rfl stays
  | restart gravity slots => exact absurd rfl (goesOn gravity slots)
  | createBody => exact counted refusals (by rintro (_ | _) <;> rfl) (grows_createBody s w)
  | destroyBody b => exact counted refusals (by rintro (_ | _) <;> rfl) (grows_destroyBody s w b)
  | editBody b f => exact counted refusals (by rintro (_ | _) <;> rfl) (grows_editBody s w b f)
  | createCollider b kind =>
      exact counted refusals (by rintro (_ | _) <;> rfl) (grows_createCollider s w b kind)
  | attach b shape =>
      exact counted refusals (by rintro (_ | _) <;> rfl) (grows_attach s w b shape)
  | destroyCollider c =>
      exact counted refusals (by rintro (_ | _) <;> rfl) (grows_destroyCollider s w c)
  | editCollider c f =>
      exact counted refusals (by rintro (_ | _) <;> rfl) (grows_editCollider s w c f)
  | reshapeAt i r => exact counted refusals (by rintro (_ | _) <;> rfl) (grows_reshapeAt s w i r)
  | reshape c r => exact counted refusals (by rintro (_ | _) <;> rfl) (grows_reshape s w c r)
  | look | setGravity _ | installListener _ | removeListener | update _ => exact .of_eq rfl rfl

/-- **Every operation keeps the books balanced.** -/
theorem balanced_perform (op : Operation α L) {w : World α L}
    (balanced : w.holding.Balanced s refused peak) :
    let out := (op.perform (refuseUpdate : α → Action α L ρ Unit)).run w
    out.state.slotBytes ≤ wordMax →
      out.state.holding.Balanced s (refused + op.refusals out.answer)
        (max peak out.state.slotBytes) := by
  intro out word
  by_cases gives : op = .vacate
  · subst gives
    have emptied := balanced_vacate balanced (ρ := ρ)
    have less : max peak out.state.slotBytes = peak := Nat.max_eq_left (by
      show ((vacate : Action α L ρ Unit).run w).state.slotBytes ≤ peak
      rw [state_vacate_eq]
      exact Nat.zero_le _)
    rw [less]
    exact emptied
  · by_cases afresh : ∃ gravity slots, op = .restart gravity slots
    · obtain ⟨gravity, slots, rfl⟩ := afresh
      have counted : ∀ answer, (Operation.restart gravity slots : Operation α L).refusals answer =
          refusals answer := by
        rintro (fault | _) <;> rfl
      rw [counted]
      exact balanced_restart gravity slots balanced word
    · exact (grows_perform op w gives fun gravity slots same =>
        afresh ⟨gravity, slots, same⟩).balanced balanced word

end Perform

/-! ## Runs -/

/-- The values of the bytes in use so far. -/
def usages (past : List (Moment α L ρ)) (w : World α L) : Set Nat :=
  {n | n = w.memory.used ∨ ∃ m ∈ past, n = m.world.memory.used}

/-- The slots of all worlds so far can be counted in bytes. -/
def Countable (past : List (Moment α L ρ)) (w : World α L) : Prop :=
  (∀ m ∈ past, m.world.slotBytes ≤ wordMax) ∧ w.slotBytes ≤ wordMax

/-- As long as the bytes can be counted, the books balance. -/
def KeepsBooks (s : MemorySettings) (past : List (Moment α L ρ)) (w : World α L) : Prop :=
  Countable past w → ∃ peak,
    w.holding.Balanced s (past.countP Moment.isRefusal) peak ∧ IsGreatest (usages past w) peak

section Runs

variable {s : MemorySettings}

omit [Scalar α] in
theorem used_of_balanced {w : World α L} {refused peak : Nat}
    (balanced : w.holding.Balanced s refused peak) : w.memory.used = w.slotBytes := by
  obtain ⟨deallocations, same⟩ := balanced.memory
  exact (congrArg Memory.used same).trans (s.used_booked _ _)

omit [Scalar α] in
theorem usages_concat (past : List (Moment α L ρ)) (m : Moment α L ρ) (w : World α L) :
    usages (past ++ [m]) w = insert w.memory.used (usages past m.world) := by
  ext n
  simp only [usages, List.mem_append, List.mem_singleton, or_and_right, exists_or, exists_eq_left,
    Set.mem_ofPred_eq, Set.mem_insert_iff]
  exact or_congr_right or_comm

omit [Scalar α] in
/-- A moment that keeps the books balanced. -/
theorem KeepsBooks.concat {past : List (Moment α L ρ)} {m : Moment α L ρ} {w : World α L}
    (keeps : KeepsBooks s past m.world)
    (step : ∀ {refused peak}, m.world.holding.Balanced s refused peak → w.slotBytes ≤ wordMax →
      w.holding.Balanced s (refused + if m.isRefusal then 1 else 0) (max peak w.slotBytes)) :
    KeepsBooks s (past ++ [m]) w := by
  rintro ⟨before, word⟩
  obtain ⟨before, here⟩ := List.forall_mem_append.mp before
  obtain ⟨peak, balanced, greatest⟩ := keeps ⟨before, here m (List.mem_singleton_self m)⟩
  have balanced' := step balanced word
  refine ⟨max peak w.slotBytes, ?_, ?_⟩
  · rw [List.countP_append, List.countP_singleton]
    exact balanced'
  · rw [usages_concat, used_of_balanced balanced', Nat.max_comm]
    exact greatest.insert _

theorem keepsBooks_inside :
    CarriedInside (KeepsBooks s : List (Moment α L ρ) → World α L → Prop) := by
  intro past w op start out
  exact KeepsBooks.concat (m := .asked w op out.answer) start fun balanced word =>
    balanced_perform op balanced word

omit [Scalar α] in
theorem keepsBooks_told :
    KeptByTelling (KeepsBooks s : List (Moment α L ρ) → World α L → Prop) := by
  intro past c start
  refine KeepsBooks.concat (m := .told c) start fun balanced _ => ?_
  rw [Nat.max_eq_left (show c.world.slotBytes ≤ _ from balanced.reached)]
  exact balanced

omit [Scalar α] in
/-- What leaves memory and slots alone leaves the books alone. -/
theorem KeepsBooks.of_holding_eq {past : List (Moment α L ρ)} {w w' : World α L}
    (keeps : KeepsBooks s past w) (same : w'.holding = w.holding) : KeepsBooks s past w' := by
  rintro ⟨before, word⟩
  have memory : w'.memory = w.memory := congrArg Holding.memory same
  have bytes : w'.slotBytes = w.slotBytes := congrArg Holding.bytes same
  rw [bytes] at word
  obtain ⟨peak, balanced, greatest⟩ := keeps ⟨before, word⟩
  have usage : usages past w' = usages past w := by rw [usages, usages, memory]
  exact ⟨peak, same ▸ balanced, usage ▸ greatest⟩

theorem keepsBooks_drift :
    KeptByDrift (KeepsBooks s : List (Moment α L ρ) → World α L → Prop) := by
  intro past w w' start drifts
  refine start.of_holding_eq (holding_congr ?_ drifts.outline.sameSize ?_ ?_)
  · rw [drifts.rest]
  · exact drifts.colliders ▸ .refl _
  · exact drifts.shapes ▸ .refl _

theorem keepsBooks_of_make {settings : WorldSettings α} {start : World α L}
    (sized : settings.memory.Sized) (made : make settings = .ok start) :
    KeepsBooks settings.memory ([] : List (Moment α L ρ)) start := by
  rintro ⟨_, word⟩
  have grows := grows_reserveSlots settings.memory (blank settings : World α L) (ρ := Unit)
  have empty : (blank settings : World α L).holding.Balanced settings.memory 0 0 :=
    Holding.balanced_build sized
  dsimp only [make] at made grows
  cases answered : ((reserveSlots : Attempt α L Unit Unit).attempt.run (blank settings)).answer with
  | error fault =>
      rw [answered] at made
      cases made
  | ok _ =>
      rw [answered] at made grows
      obtain rfl := Except.ok.inj made
      have balanced := grows.balanced empty word
      rw [Nat.zero_max] at balanced
      refine ⟨_, balanced, .inl (used_of_balanced balanced).symm, ?_⟩
      rintro n (rfl | ⟨m, member, _⟩)
      · exact Nat.le_of_eq (used_of_balanced balanced)
      · cases member

/-- The books are kept at every point of a run. -/
theorem keepsBooks_of_passes (react : Reaction α L ρ) {settings : WorldSettings α}
    {start : World α L} (sized : settings.memory.Sized) (made : make settings = .ok start)
    (ops : List (Operation α L)) {past : List (Moment α L ρ)} {w : World α L}
    (passes : Passes (history react ops start) (after react ops start) past w) :
    KeepsBooks settings.memory past w :=
  along_history keepsBooks_inside keepsBooks_drift keepsBooks_told
    (fun _ _ _ keeps => keeps.of_holding_eq rfl) react ops (keepsBooks_of_make sized made) past w
    passes

end Runs

/-- The books of a world, after these moments. -/
structure BooksBalance (s : MemorySettings) (past : List (Moment α L ρ)) (w : World α L) :
    Prop where
  /-- The memory in use is that of the slots. -/
  used : w.memory.used = w.slotBytes
  capacity : w.memory.capacity? = s.capacity?
  room : ∀ capacity ∈ s.capacity?, w.memory.used ≤ capacity
  inUse : w.memory.stats.inUse = w.memory.used
  /-- The blocks that were granted and not handed back are those of the stores. -/
  blocks : s.metered = true →
    w.memory.stats.allocations = w.memory.stats.deallocations + w.blocks.length
  failed : s.metered = true → w.memory.stats.failed = past.countP Moment.isRefusal
  peak : s.metered = true → IsGreatest (usages past w) w.memory.stats.peak
  /-- Nothing is in use once everything has been given up. -/
  vacated : ((vacate : Action α L ρ Unit).run w).state.memory.used = 0

/-- **The books balance at every point of every run.** Whatever memory a world is created with and
however its stores grow, the memory in use is that of the slots, it fits into the capacity, and a
meter shows what is in use, what was granted and handed back, what was refused, and the most that
was ever in use. -/
theorem books_balance (react : Reaction α L ρ) {settings : WorldSettings α} {start : World α L}
    (sized : settings.memory.Sized) (made : make settings = .ok start)
    (ops : List (Operation α L)) {past : List (Moment α L ρ)} {w : World α L}
    (passes : Passes (history react ops start) (after react ops start) past w)
    (countable : Countable past w) : BooksBalance settings.memory past w := by
  obtain ⟨peak, balanced, greatest⟩ := keepsBooks_of_passes react sized made ops passes countable
  obtain ⟨deallocations, memory⟩ := balanced.memory
  have used := used_of_balanced balanced
  change w.memory = settings.memory.booked w.slotBytes _ at memory
  have stats : settings.memory.metered = true → w.memory.stats =
      ⟨deallocations + w.blocks.length, deallocations, past.countP Moment.isRefusal, w.slotBytes,
        peak⟩ := by
    intro metered
    rw [memory]
    exact settings.memory.stats_booked_metered metered _ _
  constructor
  case used => exact used
  case capacity => rw [memory, MemorySettings.capacity?_booked]
  case room => exact used ▸ balanced.room
  case inUse =>
    rw [used, memory]
    exact settings.memory.inUse_stats_booked rfl
  case blocks => exact fun metered => by rw [stats metered]
  case failed => exact fun metered => by rw [stats metered]
  case peak => exact fun metered => by rw [stats metered]; exact greatest
  case vacated =>
    rw [state_vacate_eq]
    exact Memory.used_reset _

/-- A linear memory of 128 bytes, metered, with stores that double. -/
def tight : WorldSettings Float32 :=
  { WorldSettings.standard with memory := ⟨.linear 128, true⟩ }

/-- The third body is refused, and so is the second collider once the world has started afresh. -/
def crowding : List (Operation Float32 Unit) :=
  [.createBody, .createBody, .createBody, .restart 0 1, .createBody,
    .createCollider ⟨0, 1⟩ .circle, .createCollider ⟨0, 1⟩ .rectangle]

instance (past : List (Moment α L ρ)) (w : World α L) : Decidable (Countable past w) :=
  inferInstanceAs (Decidable (_ ∧ _))

theorem books_balance_crowding :
    let start : World Float32 Unit := blank tight
    let react : Reaction Float32 Unit Unit := fun l _ _ => .done (l, ())
    let past := history react crowding start
    let w := after react crowding start
    tight.memory.Sized ∧ make tight = .ok start ∧ Passes past w past w ∧ Countable past w ∧
      w.memory.stats = ⟨5, 2, 2, 128, 128⟩ ∧ BooksBalance tight.memory past w := by
  intro start react past w
  have sized : tight.memory.Sized := by
    rintro capacity ⟨⟩
    decide
  have made : make tight = .ok start := rfl
  have countable : Countable past w := by decide +kernel
  have passes : Passes past w past w := .inl ⟨rfl, rfl⟩
  exact ⟨sized, made, passes, countable, by decide +kernel,
    books_balance react sized made crowding passes countable⟩

end World

end PlanarDynamics
