import PlanarDynamics.Proofs.Store.Metering
import PlanarDynamics.Proofs.Store.Outline
import PlanarDynamics.Proofs.Store.Places
import PlanarDynamics.World.Entities

/-!
# The books of a memory

The stores that share a memory hold so many bytes of it, in so many blocks (`Holding`). The books
balance when the memory uses exactly these bytes and its counters, if it has any, agree with what is
held, with the requests that were refused so far and with the most that was ever in use
(`Holding.Balanced`). All slots are multiples of eight bytes, so no request is padded
(`Memory.linearEnd_of_dvd`).

Asking for memory keeps the books balanced, whether it is granted or refused
(`Holding.Grows`, `Holding.grows_request`), and so do the operations on an arena that may ask for it
(`Arena.grows_reserve`, `Arena.grows_create`, `Shapes.grows_insert`). Handing back every block and
resetting the memory empties the books (`Holding.Balanced.vacate`).
-/

set_option autoImplicit false

namespace PlanarDynamics

/-! ## Refusals -/

/-- Whether a memory was asked for bytes that it did not have. A block that is too large to be
asked for at all is reported with a larger count. -/
def Fault.isRefusal : Fault → Bool
  | allocationFailed requested _ => requested ≤ Arena.largestBlock
  | _ => false

/-- How often a memory refused a request, by the answer of an operation that asks once. -/
def refusals {β : Type} : Except Fault β → Nat
  | .ok _ => 0
  | .error fault => if fault.isRefusal then 1 else 0

theorem refusals_map {β γ : Type} (f : β → γ) (answer : Except Fault β) :
    refusals (answer.map f) = refusals answer := by
  cases answer <;> rfl

theorem refusals_bind {β γ : Type} {answer : Except Fault β} {f : β → Except Fault γ}
    (first : refusals answer = 0) (second : ∀ b, refusals (f b) = 0) :
    refusals (answer >>= f) = 0 := by
  cases answer with
  | ok b => exact second b
  | error fault => exact first

theorem refusals_bind_pure {β γ : Type} (f : β → γ) (answer : Except Fault β) :
    refusals (do return f (← answer)) = refusals answer := by
  cases answer <;> rfl

namespace Memory

/-- A memory grants a request, or refuses it and reports its size. -/
theorem answer_request (m : Memory) (r : Request) : (m.request r).answer = .ok () ∨
    ∃ available, (m.request r).answer = .error (.allocationFailed r.size available) := by
  induction m with
  | heap used => exact .inl rfl
  | linear capacity offset =>
      rw [request]
      split
      · exact .inr ⟨_, rfl⟩
      · exact .inl rfl
  | metered name inner stats ih =>
      rw [request]
      rcases ih with granted | ⟨available, refused⟩
      · exact .inl (by simp only [granted])
      · exact .inr ⟨available, by simp only [refused]⟩

/-- A block at a multiple of its alignment is not padded. -/
theorem linearEnd_of_dvd {offset size : Nat} (multiple : Arena.blockAlign ∣ offset)
    (word : offset ≤ wordMax) :
    linearEnd offset ⟨size, Arena.blockAlign⟩ = min (offset + size) wordMax := by
  have eight : Arena.blockAlign = 8 := rfl
  have top : wordMax = 2 ^ 64 - 1 := rfl
  have aligned : 8 ∣ offset := multiple
  have fits : offset + (Arena.blockAlign - 1) ≤ wordMax := by omega
  have start :=
    @linearStart_of_dvd offset ⟨size, Arena.blockAlign⟩ ⟨3, by decide, rfl⟩ fits multiple
  rw [linearEnd_eq, start]

/-- The memory after blocks have been handed back. -/
def returned (m : Memory) (blocks : List Request) : Memory :=
  blocks.foldl (fun m block => (m.giveBack block).state) m

end Memory

namespace MemorySettings

variable (s : MemorySettings)

/-- The source of the strategy, with so many bytes in use. -/
def source (used : Nat) : Memory :=
  match s.strategy with
  | .heap => .heap used
  | .linear capacity => .linear capacity used

/-- What a meter is named for. -/
def meterName : String :=
  match s.strategy with
  | .heap => "heap"
  | .linear _ => "linear"

/-- The memory in the course of a run. Without a meter the counters are not kept. -/
def booked (used : Nat) (stats : MemoryStats) : Memory :=
  if s.metered then .metered s.meterName (s.source used) stats else s.source used

theorem build_eq_booked : s.build = s.booked 0 .zero := by
  obtain ⟨strategy, metered⟩ := s
  cases strategy <;> cases metered <;> rfl

/-- No memory has more bytes than can be counted. -/
def Sized : Prop := ∀ capacity ∈ s.capacity?, capacity ≤ wordMax

theorem capacity?_booked (used : Nat) (stats : MemoryStats) :
    (s.booked used stats).capacity? = s.capacity? := by
  obtain ⟨strategy, metered⟩ := s
  cases strategy <;> cases metered <;> rfl

theorem used_booked (used : Nat) (stats : MemoryStats) : (s.booked used stats).used = used := by
  obtain ⟨strategy, metered⟩ := s
  cases strategy <;> cases metered <;> rfl

theorem stats_booked_metered (metered : s.metered = true) (used : Nat) (stats : MemoryStats) :
    (s.booked used stats).stats = stats := by
  rw [booked, if_pos metered]
  rfl

theorem inUse_stats_booked {used : Nat} {stats : MemoryStats} (same : stats.inUse = used) :
    (s.booked used stats).stats.inUse = used := by
  obtain ⟨strategy, metered⟩ := s
  cases metered with
  | true => exact same
  | false => cases strategy <;> rfl

/-- A request of a source is granted behind what is in use, or refused. -/
theorem request_source (sized : s.Sized) {used size : Nat} (multiple : Arena.blockAlign ∣ used)
    (room : ∀ capacity ∈ s.capacity?, used ≤ capacity) :
    let out := (s.source used).request ⟨size, Arena.blockAlign⟩
    out.answer = .ok () ∧ (used + size ≤ wordMax → out.state = s.source (used + size) ∧
        ∀ capacity ∈ s.capacity?, used + size ≤ capacity) ∨
      (∃ available, out.answer = .error (.allocationFailed size available)) ∧
        out.state = s.source used := by
  obtain ⟨strategy, metered⟩ := s
  cases strategy with
  | heap => exact .inl ⟨rfl, fun _ => ⟨rfl, nofun⟩⟩
  | linear capacity =>
      have below : used ≤ capacity := room capacity rfl
      have ending : Memory.linearEnd used ⟨size, Arena.blockAlign⟩ = min (used + size) wordMax :=
        Memory.linearEnd_of_dvd multiple (Nat.le_trans below (sized capacity rfl))
      simp only [source, Memory.request]
      rw [ending]
      split
      · exact .inr ⟨⟨_, rfl⟩, rfl⟩
      · rename_i inside
        refine .inl ⟨rfl, fun word => ?_⟩
        rw [Nat.min_eq_left word] at inside ⊢
        refine ⟨rfl, ?_⟩
        rintro _ ⟨⟩
        exact Nat.not_lt.mp inside

/-- The same of the memory in the course of a run, whose counters follow. -/
theorem request_booked (sized : s.Sized) {used size : Nat} (stats : MemoryStats)
    (multiple : Arena.blockAlign ∣ used) (room : ∀ capacity ∈ s.capacity?, used ≤ capacity) :
    let out := (s.booked used stats).request ⟨size, Arena.blockAlign⟩
    out.answer = .ok () ∧ (used + size ≤ wordMax →
        out.state = s.booked (used + size) (stats.grant size) ∧
          ∀ capacity ∈ s.capacity?, used + size ≤ capacity) ∨
      (∃ available, out.answer = .error (.allocationFailed size available)) ∧
        out.state = s.booked used stats.refuse := by
  have below := @request_source s sized used size multiple room
  unfold booked
  cases metered : s.metered with
  | false => exact below
  | true =>
      simp only [if_true, Memory.request]
      rcases below with ⟨granted, moves⟩ | ⟨⟨available, refused⟩, stays⟩
      · rw [granted]
        exact .inl ⟨rfl, fun word => ⟨by rw [(moves word).1], (moves word).2⟩⟩
      · rw [refused]
        exact .inr ⟨⟨available, rfl⟩, by rw [stays]⟩

/-- When every block has been handed back and the memory is reset, nothing is in use. -/
theorem reset_returned_booked (blocks : List Request) (used : Nat) (stats : MemoryStats) :
    ((s.booked used stats).returned blocks).reset = s.booked 0
      { stats with deallocations := stats.deallocations + blocks.length, inUse := 0 } := by
  induction blocks generalizing used stats with
  | nil =>
      obtain ⟨strategy, metered⟩ := s
      cases strategy <;> cases metered <;> rfl
  | cons block rest ih =>
      have step : ∃ used', ((s.booked used stats).giveBack block).state =
          s.booked used' (stats.giveBack block.size) := by
        obtain ⟨strategy, metered⟩ := s
        cases strategy <;> cases metered <;> exact ⟨_, rfl⟩
      obtain ⟨used', same⟩ := step
      rw [Memory.returned, List.foldl_cons, same]
      refine (ih used' _).trans ?_
      rw [List.length_cons, Nat.add_comm rest.length, ← Nat.add_assoc]
      rfl

end MemorySettings

/-! ## Balanced books -/

/-- A memory, and what the stores hold of it. -/
@[ext]
structure Holding where
  memory : Memory
  bytes : Nat
  blocks : Nat

namespace Holding

variable {s : MemorySettings} {h h' h'' : Holding} {refused more peak : Nat}

/-- What is held is what the memory counts, and it fits into the memory. -/
structure Balanced (s : MemorySettings) (h : Holding) (refused peak : Nat) : Prop where
  sized : s.Sized
  memory : ∃ deallocations, h.memory = s.booked h.bytes
    ⟨deallocations + h.blocks, deallocations, refused, h.bytes, peak⟩
  room : ∀ capacity ∈ s.capacity?, h.bytes ≤ capacity
  multiple : Arena.blockAlign ∣ h.bytes
  reached : h.bytes ≤ peak

/-- The books of a new memory are empty. -/
theorem balanced_build (sized : s.Sized) : Balanced s ⟨s.build, 0, 0⟩ 0 0 where
  sized := sized
  memory := ⟨0, s.build_eq_booked⟩
  room := fun _ _ => Nat.zero_le _
  multiple := Nat.dvd_zero _
  reached := Nat.le_refl 0

/-- Everything is handed back. -/
theorem Balanced.vacate (balanced : h.Balanced s refused peak) {blocks : List Request}
    (all : blocks.length = h.blocks) :
    Balanced s ⟨(h.memory.returned blocks).reset, 0, 0⟩ refused peak where
  sized := balanced.sized
  memory := by
    obtain ⟨deallocations, same⟩ := balanced.memory
    refine ⟨deallocations + h.blocks, ?_⟩
    dsimp only
    rw [same, s.reset_returned_booked, all]
    rfl
  room := fun _ _ => Nat.zero_le _
  multiple := Nat.dvd_zero _
  reached := Nat.zero_le _

/-- More is held, after so many requests in vain, and the books are as balanced as before. -/
structure Grows (s : MemorySettings) (more : Nat) (h h' : Holding) : Prop where
  bytes : h.bytes ≤ h'.bytes
  balanced : ∀ {refused peak}, h.Balanced s refused peak → h'.bytes ≤ wordMax →
    h'.Balanced s (refused + more) (max peak h'.bytes)

theorem Grows.refl (h : Holding) : Grows s 0 h h where
  bytes := Nat.le_refl _
  balanced := fun balanced _ => by
    rw [Nat.max_eq_left balanced.reached]
    exact balanced

/-- What does not ask for memory holds what was held. -/
theorem Grows.of_eq (same : h' = h) (none : more = 0) : Grows s more h h' := by
  rw [same, none]
  exact .refl h

theorem Grows.trans {more' : Nat} (first : Grows s more h h') (second : Grows s more' h' h'') :
    Grows s (more + more') h h'' where
  bytes := Nat.le_trans first.bytes second.bytes
  balanced := by
    intro refused peak balanced word
    have middle := first.balanced balanced (Nat.le_trans second.bytes word)
    have last := second.balanced middle word
    rwa [Nat.max_assoc, Nat.max_eq_right second.bytes, Nat.add_assoc] at last

/-- **A request keeps the books balanced**, whether it is granted or refused. -/
theorem grows_request (m : Memory) (bytes blocks : Nat) {size : Nat}
    (multiple : Arena.blockAlign ∣ size) (small : size ≤ Arena.largestBlock) :
    let out := m.request ⟨size, Arena.blockAlign⟩
    match out.answer with
    | .ok _ => Grows s 0 ⟨m, bytes, blocks⟩ ⟨out.state, bytes + size, blocks + 1⟩
    | .error fault => refusals (.error fault : Except Fault Unit) = 1 ∧
        Grows s 1 ⟨m, bytes, blocks⟩ ⟨out.state, bytes, blocks⟩ := by
  have answer := m.answer_request ⟨size, Arena.blockAlign⟩
  dsimp only
  rcases answer with granted | ⟨available, refused⟩
  · rw [granted]
    refine ⟨Nat.le_add_right _ _, ?_⟩
    intro before peak balanced word
    obtain ⟨deallocations, same⟩ := balanced.memory
    dsimp only at same word ⊢
    subst same
    rcases s.request_booked balanced.sized _ balanced.multiple balanced.room with
      ⟨_, moves⟩ | ⟨⟨_, refused⟩, _⟩
    · obtain ⟨state, room⟩ := moves word
      exact
        { sized := balanced.sized
          memory := ⟨deallocations, state⟩
          room := room
          multiple := Nat.dvd_add balanced.multiple multiple
          reached := Nat.le_max_right _ _ }
    · exact nomatch granted.symm.trans refused
  · rw [refused]
    refine ⟨?_, Nat.le_refl _, ?_⟩
    · exact if_pos (decide_eq_true small)
    intro before peak balanced word
    obtain ⟨deallocations, same⟩ := balanced.memory
    dsimp only at same word ⊢
    subst same
    rw [Nat.max_eq_left balanced.reached]
    rcases s.request_booked balanced.sized _ balanced.multiple balanced.room with
      ⟨granted, _⟩ | ⟨_, state⟩
    · exact nomatch refused.symm.trans granted
    · exact
        { sized := balanced.sized
          memory := ⟨deallocations, state⟩
          room := balanced.room
          multiple := balanced.multiple
          reached := balanced.reached }

end Holding

/-! ## Arenas and geometry -/

namespace Arena

variable {k : StoreKind} {ε : Type} [Entity ε]

/-- The bytes of the slots. -/
def bytes (a : Arena k ε) : Nat := a.capacity * Entity.slotBytes ε

/-- What is held of a memory by an arena, and beside it. -/
def holding (bytes blocks : Nat) (x : Memory × Arena k ε) : Holding :=
  ⟨x.1, bytes + x.2.bytes, blocks + x.2.blocks.length⟩

theorem holding_write (bytes blocks : Nat) (m : Memory) (a : Arena k ε) (i : Nat) (v : ε) :
    holding bytes blocks (m, a.write i v) = holding bytes blocks (m, a) := by
  rw [holding, holding, Arena.bytes, Arena.bytes, capacity_write]
  rfl

theorem holding_extend (bytes blocks : Nat) (m : Memory) (a : Arena k ε) (length : Nat)
    (block : Request) :
    holding bytes blocks (m, a.extend length block) =
      ⟨m, bytes + a.bytes + (length - a.capacity) * Entity.slotBytes ε,
        blocks + a.blocks.length + 1⟩ := by
  refine Holding.ext rfl ?_ ?_
  · rw [holding, Arena.bytes, capacity_extend, Nat.add_mul, ← Nat.add_assoc]
    rfl
  · exact congrArg (blocks + ·) List.length_append

theorem blockFor?_eq_some {slots : Nat} {block : Request} (found : blockFor? ε slots = some block) :
    slots * Entity.slotBytes ε ≤ largestBlock ∧
      block = ⟨slots * Entity.slotBytes ε, blockAlign⟩ := by
  unfold blockFor? at found
  split at found
  · cases found
  · rename_i small
    exact ⟨Nat.not_lt.mp small, (Option.some.inj found).symm⟩

section Asking

variable (s : MemorySettings) (multiple : blockAlign ∣ Entity.slotBytes ε) (bytes blocks : Nat)

include multiple

/-- **Reserving keeps the books balanced.** -/
theorem grows_reserve (length : Nat) (x : Memory × Arena k ε) :
    let out := (reserve length).attempt.run x
    Holding.Grows s (refusals out.answer) (holding bytes blocks x)
      (holding bytes blocks out.state) := by
  rw [run_reserve]
  split
  case isFalse => exact .refl _
  case isTrue short =>
    cases found : blockFor? ε (length - x.2.capacity) with
    | none => exact .refl _
    | some block =>
        obtain ⟨small, rfl⟩ := blockFor?_eq_some found
        have grows := Holding.grows_request (s := s) x.1 (bytes + x.2.bytes)
          (blocks + x.2.blocks.length) (Nat.dvd_mul_left_of_dvd multiple _) small
        dsimp only at grows ⊢
        cases answer : (x.1.request ⟨(length - x.2.capacity) * Entity.slotBytes ε,
          blockAlign⟩).answer with
        | error fault =>
            rw [answer] at grows
            exact grows.1 ▸ grows.2
        | ok _ =>
            rw [answer] at grows
            dsimp only
            rw [holding_extend]
            exact grows

/-- **Creating an entity keeps the books balanced.** -/
theorem grows_create (v : ε) (x : Memory × Arena k ε) :
    let out := (create v).attempt.run x
    Holding.Grows s (refusals out.answer) (holding bytes blocks x)
      (holding bytes blocks out.state) := by
  rw [run_create]
  cases x.2.firstVacant? with
  | some i =>
      dsimp only
      rw [holding_write]
      exact .refl _
  | none =>
      have grows := grows_reserve s multiple bytes blocks (nextLength x.2.capacity x.2.growth) x
      dsimp only at grows ⊢
      cases answer : ((reserve (nextLength x.2.capacity x.2.growth)).attempt.run x).answer with
      | error fault =>
          rw [answer] at grows
          exact grows
      | ok _ =>
          rw [answer] at grows
          dsimp only
          rw [holding_write]
          exact grows

end Asking

omit [Entity ε] in
/-- Clearing an arena hands back every block. -/
theorem state_clear_eq (x : Memory × Arena k ε) :
    (clear.run x).state = (x.1.returned x.2.blocks, x.2.cleared) := by
  refine Prod.ext ?_ (run_clear x)
  have blocks : ∀ (blocks : List Request) (x : Memory × Arena k ε),
      (((forIn blocks PUnit.unit fun block _ => do
          Recorded.zoom Prod.fst (fun memory s => (memory, s.2)) .memory (Memory.deallocate block)
          pure (ForInStep.yield PUnit.unit)) :
        Recorded StoreNote (Memory × Arena k ε) PUnit).run x).state.1 = x.1.returned blocks := by
    intro blocks
    induction blocks with
    | nil => exact fun _ => rfl
    | cons block rest ih =>
        intro x
        simp only [List.forIn_cons, bind_assoc, pure_bind, Recorded.state_bind]
        exact ih _
  simp only [clear, Recorded.state_bind, Recorded.run_get, Recorded.run_modify]
  exact blocks x.2.blocks x

/-! ### Operations that do not ask -/

omit [Entity ε] in
/-- The second arena has as many slots, in the same blocks. -/
structure SameSize (a b : Arena k ε) : Prop where
  capacity : b.capacity = a.capacity
  blocks : b.blocks = a.blocks

theorem SameSize.bytes {a b : Arena k ε} (same : a.SameSize b) : b.bytes = a.bytes := by
  rw [Arena.bytes, Arena.bytes, same.capacity]

omit [Entity ε] in
theorem SameSize.refl (a : Arena k ε) : a.SameSize a := ⟨rfl, rfl⟩

omit [Entity ε] in
theorem sameSize_write (a : Arena k ε) (i : Nat) (v : ε) : a.SameSize (a.write i v) :=
  ⟨capacity_write a i v, rfl⟩

theorem sameSize_modify {a b : Arena k ε} {h : Handle k} {f : ε → ε} (done : a.modify h f = .ok b) :
    a.SameSize b := by
  obtain ⟨v, _, rfl⟩ := bind_pure_eq_ok_iff.mp done
  exact sameSize_write a h.index (f v)

theorem sameSize_destroy {a b : Arena k ε} {h : Handle k} (done : a.destroy h = .ok b) :
    a.SameSize b := by
  obtain ⟨_, _, rfl⟩ := bind_pure_eq_ok_iff.mp done
  exact ⟨Array.size_modify, rfl⟩

theorem SameOutline.sameSize {a b : Arena k ε} (same : a.SameOutline b) : a.SameSize b where
  capacity := by
    have length : ∀ c : Arena k ε, c.outline.length = c.capacity := fun c => by
      rw [Arena.outline, List.length_map, Array.length_toList, Arena.capacity]
    rw [← length, ← length, same.outline]
  blocks := same.blocks

/-- A handle that names nothing is no matter of memory. -/
theorem refusals_get (a : Arena k ε) (h : Handle k) : refusals (a.get h) = 0 := by
  unfold Arena.get
  split
  · rfl
  · split <;> rfl

theorem refusals_destroy (a : Arena k ε) (h : Handle k) : refusals (a.destroy h) = 0 :=
  (refusals_bind_pure _ _).trans (refusals_get a h)

end Arena

namespace ShapePool

variable {kind : ShapeKind} {γ : Type} (p : ShapePool kind γ) (i : Nat)

theorem refusals_get : refusals (p.get i) = 0 := by
  unfold ShapePool.get missing
  split
  · rfl
  · split <;> rfl

theorem refusals_remove : refusals (p.remove i) = 0 :=
  (refusals_bind_pure _ _).trans (p.refusals_get i)

theorem refusals_modify (f : γ → γ) : refusals (p.modify i f) = 0 :=
  (refusals_bind_pure _ _).trans (p.refusals_get i)

end ShapePool

theorem ShapePool.grows_insert {kind : ShapeKind} {γ : Type} [Geometry γ] (s : MemorySettings)
    (multiple : Arena.blockAlign ∣ Geometry.slotBytes γ) (bytes blocks : Nat) (v : γ)
    (x : Memory × ShapePool kind γ) :
    let out := (ShapePool.insert v).attempt.run x
    Holding.Grows s (refusals out.answer) (Arena.holding bytes blocks (x.1, x.2.arena))
      (Arena.holding bytes blocks (out.state.1, out.state.2.arena)) := by
  rw [run_insert]
  dsimp only
  rw [refusals_map]
  exact Arena.grows_create s multiple bytes blocks (some v) (x.1, x.2.arena)

theorem ShapePool.state_clear_eq {kind : ShapeKind} {γ : Type} (x : Memory × ShapePool kind γ) :
    (ShapePool.clear.run x).state = (x.1.returned x.2.arena.blocks, ⟨x.2.arena.cleared⟩) := by
  rw [ShapePool.clear, Recorded.run_zoom, Arena.state_clear_eq]

namespace Shapes

variable {α : Type}

/-- The bytes of all slots. -/
def bytes (t : Shapes α) : Nat :=
  t.circles.arena.bytes + t.rectangles.arena.bytes + t.polygons.arena.bytes

/-- The blocks of all pools, in the order in which they are handed back. -/
def blocks (t : Shapes α) : List Request :=
  t.circles.arena.blocks ++ t.rectangles.arena.blocks ++ t.polygons.arena.blocks

/-- What is held of a memory by the geometry, and beside it. -/
def holding (bytes blocks : Nat) (x : Memory × Shapes α) : Holding :=
  ⟨x.1, bytes + x.2.bytes, blocks + x.2.blocks.length⟩

section Asking

variable (s : MemorySettings) (bytes blocks : Nat) (x : Memory × Shapes α)

theorem holding_circles : holding bytes blocks x =
    Arena.holding (bytes + x.2.rectangles.arena.bytes + x.2.polygons.arena.bytes)
      (blocks + x.2.rectangles.arena.blocks.length + x.2.polygons.arena.blocks.length)
      (x.1, x.2.circles.arena) := by
  refine Holding.ext rfl ?_ ?_
  · simp only [holding, Arena.holding, Shapes.bytes]
    omega
  · simp only [holding, Arena.holding, Shapes.blocks, List.length_append]
    omega

theorem holding_rectangles : holding bytes blocks x =
    Arena.holding (bytes + x.2.circles.arena.bytes + x.2.polygons.arena.bytes)
      (blocks + x.2.circles.arena.blocks.length + x.2.polygons.arena.blocks.length)
      (x.1, x.2.rectangles.arena) := by
  refine Holding.ext rfl ?_ ?_
  · simp only [holding, Arena.holding, Shapes.bytes]
    omega
  · simp only [holding, Arena.holding, Shapes.blocks, List.length_append]
    omega

theorem holding_polygons : holding bytes blocks x =
    Arena.holding (bytes + x.2.circles.arena.bytes + x.2.rectangles.arena.bytes)
      (blocks + x.2.circles.arena.blocks.length + x.2.rectangles.arena.blocks.length)
      (x.1, x.2.polygons.arena) := by
  refine Holding.ext rfl ?_ ?_
  · simp only [holding, Arena.holding, Shapes.bytes]
    omega
  · simp only [holding, Arena.holding, Shapes.blocks, List.length_append]
    omega

/-- **Storing a shape keeps the books balanced.** Beside the pool that is used, the other two hold
what they held before. -/
theorem grows_insert (shape : Shape α) :
    let out := (insert shape).attempt.run x
    Holding.Grows s (refusals out.answer) (holding bytes blocks x)
      (holding bytes blocks out.state) := by
  cases shape with
  | empty => exact .refl _
  | circle c =>
      dsimp only
      rw [holding_circles, holding_circles]
      exact ShapePool.grows_insert s ⟨3, rfl⟩ _ _ c (x.1, x.2.circles)
  | rectangle r =>
      dsimp only
      rw [holding_rectangles, holding_rectangles]
      exact ShapePool.grows_insert s ⟨4, rfl⟩ _ _ r (x.1, x.2.rectangles)
  | polygon p =>
      dsimp only
      rw [holding_polygons, holding_polygons]
      exact ShapePool.grows_insert s ⟨4, rfl⟩ _ _ p (x.1, x.2.polygons)

end Asking

/-- Clearing the geometry hands back every block. -/
theorem state_clear_eq (x : Memory × Shapes α) :
    (clear.run x).state = (x.1.returned x.2.blocks, ⟨⟨x.2.circles.arena.cleared⟩,
      ⟨x.2.rectangles.arena.cleared⟩, ⟨x.2.polygons.arena.cleared⟩⟩) := by
  simp only [clear, Recorded.state_bind, Recorded.run_zoom, ShapePool.state_clear_eq, blocks,
    Memory.returned, List.foldl_append]

/-! ### Operations that do not ask -/

/-- The second geometry has as many slots, in the same blocks. -/
structure SameSize (t u : Shapes α) : Prop where
  circles : t.circles.arena.SameSize u.circles.arena
  rectangles : t.rectangles.arena.SameSize u.rectangles.arena
  polygons : t.polygons.arena.SameSize u.polygons.arena

theorem SameSize.refl (t : Shapes α) : t.SameSize t := ⟨.refl _, .refl _, .refl _⟩

variable {t u : Shapes α}

theorem SameSize.bytes (same : t.SameSize u) : u.bytes = t.bytes := by
  rw [Shapes.bytes, Shapes.bytes, same.circles.bytes, same.rectangles.bytes, same.polygons.bytes]

theorem SameSize.blocks (same : t.SameSize u) : u.blocks = t.blocks := by
  rw [Shapes.blocks, Shapes.blocks, same.circles.blocks, same.rectangles.blocks,
    same.polygons.blocks]

theorem sameSize_remove {kind : ShapeKind} {i : Nat} (removed : t.remove kind i = .ok u) :
    t.SameSize u := by
  have freed : ∀ {kind : ShapeKind} {γ : Type} {p q : ShapePool kind γ}, p.remove i = .ok q →
      p.arena.SameSize q.arena := by
    intro kind γ p q freed
    obtain ⟨_, _, rfl⟩ := bind_pure_eq_ok_iff.mp freed
    exact Arena.sameSize_write p.arena i none
  cases kind with
  | empty => exact Except.ok.inj removed ▸ .refl t
  | circle =>
      obtain ⟨q, done, rfl⟩ := bind_pure_eq_ok_iff.mp removed
      exact ⟨freed done, .refl _, .refl _⟩
  | rectangle =>
      obtain ⟨q, done, rfl⟩ := bind_pure_eq_ok_iff.mp removed
      exact ⟨.refl _, freed done, .refl _⟩
  | polygon =>
      obtain ⟨q, done, rfl⟩ := bind_pure_eq_ok_iff.mp removed
      exact ⟨.refl _, .refl _, freed done⟩

theorem sameSize_reshape {i : Nat} {r : Reshape α} {shape : Shape α}
    (changed : t.reshape i r = .ok (shape, u)) : t.SameSize u := by
  have written : ∀ {kind : ShapeKind} {γ : Type} {p q : ShapePool kind γ} {f : γ → γ},
      p.modify i f = .ok q → p.arena.SameSize q.arena := by
    intro kind γ p q f changed
    obtain ⟨v, _, rfl⟩ := bind_pure_eq_ok_iff.mp changed
    exact Arena.sameSize_write p.arena i (some (f v))
  cases r with
  | circle f =>
      obtain ⟨c, _, rest⟩ := bind_eq_ok_iff.mp changed
      obtain ⟨q, done, same⟩ := bind_pure_eq_ok_iff.mp rest
      exact (Prod.mk.inj same).2 ▸ ⟨written done, .refl _, .refl _⟩
  | rectangle f =>
      obtain ⟨c, _, rest⟩ := bind_eq_ok_iff.mp changed
      obtain ⟨q, done, same⟩ := bind_pure_eq_ok_iff.mp rest
      exact (Prod.mk.inj same).2 ▸ ⟨.refl _, written done, .refl _⟩
  | polygon f =>
      obtain ⟨c, _, rest⟩ := bind_eq_ok_iff.mp changed
      obtain ⟨q, done, same⟩ := bind_pure_eq_ok_iff.mp rest
      exact (Prod.mk.inj same).2 ▸ ⟨.refl _, .refl _, written done⟩

/-- A place that holds nothing is no matter of memory. -/
theorem refusals_remove (t : Shapes α) (kind : ShapeKind) (i : Nat) :
    refusals (t.remove kind i) = 0 := by
  cases kind with
  | empty => rfl
  | circle => exact (refusals_bind_pure _ _).trans (t.circles.refusals_remove i)
  | rectangle => exact (refusals_bind_pure _ _).trans (t.rectangles.refusals_remove i)
  | polygon => exact (refusals_bind_pure _ _).trans (t.polygons.refusals_remove i)

theorem refusals_reshape (t : Shapes α) (i : Nat) (r : Reshape α) :
    refusals (t.reshape i r) = 0 := by
  cases r with
  | circle f =>
      exact refusals_bind (t.circles.refusals_get i) fun _ =>
        (refusals_bind_pure _ _).trans (t.circles.refusals_modify i f)
  | rectangle f =>
      exact refusals_bind (t.rectangles.refusals_get i) fun _ =>
        (refusals_bind_pure _ _).trans (t.rectangles.refusals_modify i f)
  | polygon f =>
      exact refusals_bind (t.polygons.refusals_get i) fun _ =>
        (refusals_bind_pure _ _).trans (t.polygons.refusals_modify i f)

end Shapes

end PlanarDynamics
