import Mathlib.Data.List.Forall2
import PlanarDynamics.Proofs.Store.Books

/-!
# Stores that are ahead of others

A store that was cleared goes on with later generations than a new one starts with, and with the
counters of its memory where they were. Nothing else tells the two apart: `Arena.Mirrors` says that
one arena is another with its generations ahead by a fixed offset and the handles in its entities
renamed accordingly, and every operation on the two answers alike and keeps them so
(`Arena.Mirrors.get`, `Arena.Mirrors.destroy`, `Arena.Mirrors.create`, `Arena.Mirrors.cleared`).
Answers are alike when their faults differ in the generations that they report at most (`Alike`).

Of the counters of a memory only the bytes in use have a say in what it does
(`Memory.withoutTotals`).
-/

set_option autoImplicit false

namespace PlanarDynamics

/-- By how much the generations of each kind of store are ahead. -/
abbrev Offsets : Type := StoreKind → Nat

variable {δ : Offsets} {k : StoreKind}

/-! ## Handles, faults and answers -/

/-- The handle to the same place in a store that is ahead. -/
def Handle.raise (δ : Offsets) (h : Handle k) : Handle k := ⟨h.index, h.generation + δ k⟩

@[simp] theorem Handle.index_raise (h : Handle k) : (h.raise δ).index = h.index := rfl

@[simp] theorem Handle.generation_raise (h : Handle k) :
    (h.raise δ).generation = h.generation + δ k := rfl

@[simp] theorem Handle.raise_inj {g h : Handle k} : g.raise δ = h.raise δ ↔ g = h := by
  simp only [Handle.ext_iff, index_raise, generation_raise, Nat.add_right_cancel_iff]

/-- The order of handles does not notice that their store is ahead. -/
@[simp] theorem Handle.raise_le_raise {g h : Handle k} : g.raise δ ≤ h.raise δ ↔ g ≤ h := by
  simp only [Handle.le_def, index_raise, generation_raise, Nat.add_le_add_iff_right]

/-- The fault with the generations that it reports ahead. -/
def Fault.raise (δ : Offsets) : Fault → Fault
  | stale store index generation current =>
    stale store index (generation + δ store) (current + δ store)
  | fault => fault

section Answers

variable {β β' γ γ' : Type} {R : β → γ → Prop} {S : β' → γ' → Prop} {x : Except Fault β}
  {y : Except Fault γ}

/-- Two answers are alike: their values are related, or their faults differ in the generations
that they report. -/
inductive Alike (δ : Offsets) (R : β → γ → Prop) : Except Fault β → Except Fault γ → Prop
  | ok {b : β} {c : γ} (related : R b c) : Alike δ R (.ok b) (.ok c)
  | error (fault : Fault) : Alike δ R (.error (fault.raise δ)) (.error fault)

theorem Alike.cases (alike : Alike δ R x y) :
    (∃ b c, x = .ok b ∧ y = .ok c ∧ R b c) ∨
      ∃ fault, x = .error (fault.raise δ) ∧ y = .error fault := by
  cases alike with
  | ok related => exact .inl ⟨_, _, rfl, rfl, related⟩
  | error fault => exact .inr ⟨fault, rfl, rfl⟩

theorem Alike.bind {f : β → Except Fault β'} {g : γ → Except Fault γ'} (first : Alike δ R x y)
    (second : ∀ b c, R b c → Alike δ S (f b) (g c)) : Alike δ S (x >>= f) (y >>= g) := by
  cases first with
  | ok related => exact second _ _ related
  | error fault => exact .error fault

theorem Alike.map {f : β → β'} {g : γ → γ'} (alike : Alike δ R x y)
    (related : ∀ b c, R b c → S (f b) (g c)) : Alike δ S (f <$> x) (g <$> y) := by
  cases alike with
  | ok held => exact .ok (related _ _ held)
  | error fault => exact .error fault

theorem Alike.isOk (alike : Alike δ R x y) : x.isOk = y.isOk := by
  cases alike <;> rfl

end Answers

/-! ## Memories -/

/-- The counters without those that only grow. -/
def MemoryStats.withoutTotals (s : MemoryStats) : MemoryStats := { zero with inUse := s.inUse }

namespace Memory

/-- The memory without the counters that only grow. -/
def withoutTotals : Memory → Memory
  | heap used => heap used
  | linear capacity offset => linear capacity offset
  | metered name inner stats => metered name inner.withoutTotals stats.withoutTotals

/-- The counters that only grow have no say in how much is in use. -/
theorem usage_withoutTotals (m : Memory) :
    m.withoutTotals.used = m.used ∧ m.withoutTotals.capacity? = m.capacity? ∧
      m.withoutTotals.stats.inUse = m.stats.inUse := by
  induction m with
  | heap | linear => exact ⟨rfl, rfl, rfl⟩
  | metered _ _ _ ih => exact ⟨ih.1, ih.2.1, rfl⟩

theorem request_withoutTotals (m : Memory) (r : Request) :
    (m.withoutTotals.request r).answer = (m.request r).answer ∧
      (m.withoutTotals.request r).state.withoutTotals = (m.request r).state.withoutTotals := by
  induction m with
  | heap used => exact ⟨rfl, rfl⟩
  | linear capacity offset => exact ⟨rfl, rfl⟩
  | metered name inner stats ih =>
      obtain ⟨answer, state⟩ := ih
      simp only [withoutTotals, request, answer]
      cases (inner.request r).answer with
      | ok _ => exact ⟨rfl, by simp only [withoutTotals, state]; rfl⟩
      | error fault => exact ⟨rfl, by simp only [withoutTotals, state]; rfl⟩

theorem giveBack_withoutTotals (m : Memory) (r : Request) :
    (m.withoutTotals.giveBack r).state.withoutTotals =
      (m.giveBack r).state.withoutTotals := by
  induction m with
  | heap used => rfl
  | linear capacity offset => rfl
  | metered name inner stats ih =>
      simp only [withoutTotals, giveBack, ih]
      rfl

theorem reset_withoutTotals (m : Memory) :
    m.withoutTotals.reset.withoutTotals = m.reset.withoutTotals := by
  induction m with
  | heap used => rfl
  | linear capacity offset => rfl
  | metered name inner stats ih =>
      simp only [withoutTotals, reset, ih]
      rfl

variable {m m' : Memory}

/-- What a memory grants does not depend on what it has granted before. -/
theorem request_congr (same : m.withoutTotals = m'.withoutTotals) (r : Request) :
    (m.request r).answer = (m'.request r).answer ∧
      (m.request r).state.withoutTotals = (m'.request r).state.withoutTotals := by
  rw [← (m.request_withoutTotals r).1, ← (m.request_withoutTotals r).2, same]
  exact m'.request_withoutTotals r

theorem returned_congr (same : m.withoutTotals = m'.withoutTotals) (blocks : List Request) :
    (m.returned blocks).withoutTotals = (m'.returned blocks).withoutTotals := by
  induction blocks generalizing m m' with
  | nil => exact same
  | cons block rest ih =>
      refine ih ?_
      rw [← m.giveBack_withoutTotals, same, m'.giveBack_withoutTotals]

theorem reset_congr (same : m.withoutTotals = m'.withoutTotals) :
    m.reset.withoutTotals = m'.reset.withoutTotals := by
  rw [← m.reset_withoutTotals, same, m'.reset_withoutTotals]

/-- The fault of a memory reports no generation. -/
theorem alike_request (same : m.withoutTotals = m'.withoutTotals) (r : Request) :
    Alike δ Eq (m.request r).answer (m'.request r).answer := by
  rw [(request_congr same r).1]
  rcases m'.answer_request r with granted | ⟨available, refused⟩
  · rw [granted]
    exact .ok rfl
  · rw [refused]
    exact .error (.allocationFailed r.size available)

end Memory

/-! ## Arenas -/

/-- Two lists are related when what they have at each place is. -/
theorem forall₂_iff_getElem? {β γ : Type} {R : β → γ → Prop} {l : List β} {l' : List γ} :
    List.Forall₂ R l l' ↔ ∀ i : Nat, Option.Rel R l[i]? l'[i]? := by
  constructor
  · intro related
    induction related with
    | nil => exact fun _ => .none
    | cons head _ ih =>
        intro i
        cases i with
        | zero => exact .some head
        | succ i => simpa only [List.getElem?_cons_succ] using ih i
  · intro related
    induction l generalizing l' with
    | nil =>
        cases l' with
        | nil => exact .nil
        | cons c rest => cases related 0
    | cons b rest ih =>
        cases l' with
        | nil => cases related 0
        | cons c rest' =>
            have head : Option.Rel R (some b) (some c) := related 0
            cases head with
            | some head =>
                exact .cons head (ih fun i => by
                  simpa only [List.getElem?_cons_succ] using related (i + 1))

variable {ε : Type} [Entity ε]

/-- The first slot is ahead of the second by so many generations and holds the same entity under
other names. What is left in a vacant slot does not matter. -/
structure Slot.Mirrors (ahead : Nat) (rename : ε → ε) (s t : Slot ε) : Prop where
  generation : s.generation = t.generation + ahead
  isLive : s.isLive = t.isLive
  entity : t.isLive = true → s.entity = rename t.entity

namespace Arena

/-- The first arena is ahead of the second and holds the same entities under other names, slot by
slot. -/
structure Mirrors (δ : Offsets) (rename : ε → ε) (a b : Arena k ε) : Prop where
  slots : List.Forall₂ (Slot.Mirrors (δ k) rename) a.slots.toList b.slots.toList
  base : a.base = b.base + δ k
  growth : a.growth = b.growth
  blocks : a.blocks = b.blocks

variable {rename : ε → ε} {a b : Arena k ε}

/-- Arenas mirror each other when they do at every place. -/
theorem mirrors_of_slots
    (slots : ∀ i : Nat, Option.Rel (Slot.Mirrors (δ k) rename) a.slots[i]? b.slots[i]?)
    (base : a.base = b.base + δ k) (growth : a.growth = b.growth) (blocks : a.blocks = b.blocks) :
    a.Mirrors δ rename b where
  slots := forall₂_iff_getElem?.mpr fun i => by
    simpa only [Array.getElem?_toList] using slots i
  base := base
  growth := growth
  blocks := blocks

section Mirrors

variable (mirrors : a.Mirrors δ rename b)

include mirrors

theorem Mirrors.slot (i : Nat) :
    Option.Rel (Slot.Mirrors (δ k) rename) a.slots[i]? b.slots[i]? := by
  simpa only [Array.getElem?_toList] using forall₂_iff_getElem?.mp mirrors.slots i

theorem Mirrors.capacity : a.capacity = b.capacity := mirrors.slots.length_eq

theorem Mirrors.generation? (i : Nat) :
    a.generation? i = (b.generation? i).map (· + δ k) := by
  have slot := mirrors.slot i
  unfold Arena.generation?
  generalize a.slots[i]? = s, b.slots[i]? = t at slot ⊢
  cases slot with
  | none => rfl
  | some same => exact congrArg some same.generation

theorem Mirrors.generationAt (i : Nat) : a.generationAt i = b.generationAt i + δ k := by
  unfold Arena.generationAt
  rw [mirrors.generation? i, mirrors.base]
  cases b.generation? i <;> rfl

/-! ### Looking -/

theorem Mirrors.get (h : Handle k) :
    Alike δ (fun v u => v = rename u) (a.get (h.raise δ)) (b.get h) := by
  have slot := mirrors.slot h.index
  unfold Arena.get
  rw [mirrors.capacity, Handle.index_raise]
  generalize a.slots[h.index]? = s, b.slots[h.index]? = t at slot ⊢
  cases slot with
  | none => exact .error (.outOfRange k h.index b.capacity)
  | some same =>
      dsimp only
      simp only [same.generation, same.isLive, Handle.generation_raise, Nat.add_right_cancel_iff]
      split
      · rename_i named
        exact .ok (same.entity named.2)
      · exact .error (.stale k h.index h.generation _)

theorem Mirrors.contains (h : Handle k) : a.contains (h.raise δ) = b.contains h :=
  (mirrors.get h).isOk

theorem Mirrors.getPair (g h : Handle k) :
    Alike δ (fun v u => v = (rename u.1, rename u.2)) (a.getPair (g.raise δ) (h.raise δ))
      (b.getPair g h) := by
  refine (mirrors.get g).bind fun v u first => (mirrors.get h).bind fun v' u' second => ?_
  subst first second
  rw [Handle.index_raise, Handle.index_raise]
  split
  · exact .error (.aliased k g.index)
  · exact .ok rfl

theorem Mirrors.firstVacant? : a.firstVacant? = b.firstVacant? := by
  have vacant : ∀ {l l' : List (Slot ε)}, List.Forall₂ (Slot.Mirrors (δ k) rename) l l' →
      l.findIdx? (fun s => !s.isLive) = l'.findIdx? fun s => !s.isLive := by
    intro l l' related
    induction related with
    | nil => rfl
    | cons head _ ih => simp only [List.findIdx?_cons, head.isLive, ih]
  have lists : ∀ c : Arena k ε, c.firstVacant? = c.slots.toList.findIdx? fun s => !s.isLive :=
    fun c => List.findIdx?_toArray _ c.slots.toList
  rw [lists, lists, vacant mirrors.slots]

theorem Mirrors.entries :
    a.entries = b.entries.map fun entry => (entry.1.raise δ, rename entry.2) := by
  have entries : ∀ {l l' : List (Slot ε)}, List.Forall₂ (Slot.Mirrors (δ k) rename) l l' →
      ∀ n, (l.zipIdx n).filterMap (fun x =>
          if x.1.isLive then some ((⟨x.2, x.1.generation⟩ : Handle k), x.1.entity) else none) =
        ((l'.zipIdx n).filterMap (fun x =>
          if x.1.isLive then some ((⟨x.2, x.1.generation⟩ : Handle k), x.1.entity) else none)).map
            fun entry => (entry.1.raise δ, rename entry.2) := by
    intro l l' related
    induction related with
    | nil => exact fun _ => rfl
    | @cons s t _ _ head _ ih =>
        intro n
        simp only [List.zipIdx_cons, List.filterMap_cons, head.isLive]
        cases live : t.isLive with
        | false => exact ih (n + 1)
        | true =>
            simp only [if_true, List.map_cons, ih (n + 1), head.generation, head.entity live]
            rfl
  exact entries mirrors.slots 0

/-! ### Changing -/

theorem Mirrors.write (renamed : ∀ v, Entity.isLive (rename v) = Entity.isLive v) (i : Nat)
    (v : ε) : (a.write i (rename v)).Mirrors δ rename (b.write i v) := by
  refine mirrors_of_slots (fun j => ?_) mirrors.base mirrors.growth mirrors.blocks
  have slot := mirrors.slot j
  rw [slots_write, slots_write]
  split
  · generalize a.slots[j]? = s, b.slots[j]? = t at slot ⊢
    cases slot with
    | none => exact .none
    | some same => exact .some ⟨same.generation, renamed v, fun _ => rfl⟩
  · exact slot

theorem Mirrors.modify (renamed : ∀ v, Entity.isLive (rename v) = Entity.isLive v) (h : Handle k)
    {f g : ε → ε} (same : ∀ v, f (rename v) = rename (g v)) :
    Alike δ (Mirrors δ rename) (a.modify (h.raise δ) f) (b.modify h g) := by
  refine (mirrors.get h).bind fun v u found => .ok ?_
  rw [found, same, Handle.index_raise]
  exact mirrors.write renamed h.index (g u)

theorem Mirrors.destroy (h : Handle k) :
    Alike δ (Mirrors δ rename) (a.destroy (h.raise δ)) (b.destroy h) := by
  refine (mirrors.get h).bind fun v u _ => .ok ?_
  refine mirrors_of_slots (fun j => ?_) mirrors.base mirrors.growth mirrors.blocks
  have slot := mirrors.slot j
  simp only [Array.getElem?_modify, Handle.index_raise]
  split
  · generalize a.slots[j]? = s, b.slots[j]? = t at slot ⊢
    cases slot with
    | none => exact .none
    | some same =>
        have vacant : Entity.isLive (Entity.vacant : ε) = false := Entity.not_isLive_vacant
        refine .some ⟨?_, rfl, fun live => absurd (vacant.symm.trans live) Bool.false_ne_true⟩
        dsimp only
        rw [same.generation, Nat.add_right_comm]
  · exact slot

theorem Mirrors.mapLive (renamed : ∀ v, Entity.isLive (rename v) = Entity.isLive v)
    {f g : ε → ε} (same : ∀ v, f (rename v) = rename (g v)) :
    (a.mapLive f).Mirrors δ rename (b.mapLive g) := by
  refine mirrors_of_slots (fun j => ?_) mirrors.base mirrors.growth mirrors.blocks
  have slot := mirrors.slot j
  simp only [Arena.mapLive, Array.getElem?_map]
  generalize a.slots[j]? = s, b.slots[j]? = t at slot ⊢
  cases slot with
  | none => exact .none
  | @some s t slot =>
      refine .some ?_
      dsimp only
      rw [slot.isLive]
      split
      · rename_i live
        have entity : f s.entity = rename (g t.entity) := by rw [slot.entity live, same]
        exact ⟨slot.generation, (congrArg Entity.isLive entity).trans (renamed _), fun _ => entity⟩
      · exact slot

theorem Mirrors.extend (length : Nat) (block : Request) :
    (a.extend length block).Mirrors δ rename (b.extend length block) := by
  refine mirrors_of_slots (fun j => ?_) mirrors.base mirrors.growth
    (congrArg (· ++ [block]) mirrors.blocks)
  rw [slots_extend, slots_extend, mirrors.capacity]
  split
  · exact mirrors.slot j
  · split
    · have vacant : Entity.isLive (Entity.vacant : ε) = false := Entity.not_isLive_vacant
      exact .some
        ⟨mirrors.base, rfl, fun live => absurd (vacant.symm.trans live) Bool.false_ne_true⟩
    · exact .none

theorem Mirrors.cleared : a.cleared.Mirrors δ rename b.cleared := by
  have above : ∀ {l l' : List (Slot ε)}, List.Forall₂ (Slot.Mirrors (δ k) rename) l l' →
      ∀ n, l.foldl (fun base s => max base (s.generation + 1)) (n + δ k) =
        l'.foldl (fun base s => max base (s.generation + 1)) n + δ k := by
    intro l l' related
    induction related with
    | nil => exact fun _ => rfl
    | cons head _ ih =>
        intro n
        rw [List.foldl_cons, List.foldl_cons, head.generation, Nat.add_right_comm,
          Nat.add_max_add_right]
        exact ih _
  refine ⟨.nil, ?_, mirrors.growth, rfl⟩
  have base := above mirrors.slots b.base
  rw [← mirrors.base, Array.foldl_toList, Array.foldl_toList] at base
  exact base

end Mirrors

omit [Entity ε] in
theorem write_write (a : Arena k ε) (i : Nat) (v u : ε) :
    (a.write i v).write i u = a.write i u := by
  have slots : ((a.write i v).write i u).slots = (a.write i u).slots := by
    refine Array.ext_getElem? fun j => ?_
    rw [slots_write, slots_write, slots_write]
    split
    · rw [Option.map_map]
      rfl
    · rfl
  exact Arena.ext slots rfl rfl rfl

omit [Entity ε] in
theorem write_self {a : Arena k ε} {i : Nat} {s : Slot ε} (there : a.slots[i]? = some s) :
    a.write i s.entity = a := by
  have slots : (a.write i s.entity).slots = a.slots := by
    refine Array.ext_getElem? fun j => ?_
    rw [slots_write]
    split
    · rename_i here
      rw [← here, there]
      rfl
    · rfl
  exact Arena.ext slots rfl rfl rfl

/-! ### Operations that may ask for memory -/

/-- The arenas mirror each other, and the memories behind them differ in their totals at most. -/
structure MirrorsBeside (δ : Offsets) (rename : ε → ε) (x y : Memory × Arena k ε) : Prop where
  memory : x.1.withoutTotals = y.1.withoutTotals
  arena : x.2.Mirrors δ rename y.2

theorem Mirrors.beside (mirrors : a.Mirrors δ rename b) {m m' : Memory}
    (memory : m.withoutTotals = m'.withoutTotals) : MirrorsBeside δ rename (m, a) (m', b) :=
  ⟨memory, mirrors⟩

section Asking

variable {x y : Memory × Arena k ε} (mirrors : MirrorsBeside δ rename x y)

include mirrors

theorem MirrorsBeside.reserve (length : Nat) :
    let out := (Arena.reserve length).attempt.run x
    let out' := (Arena.reserve length).attempt.run y
    Alike δ Eq out.answer out'.answer ∧ MirrorsBeside δ rename out.state out'.state := by
  dsimp only
  rw [run_reserve, run_reserve, mirrors.arena.capacity]
  split
  · cases blockFor? ε (length - y.2.capacity) with
    | none => exact ⟨.error (.allocationFailed wordMax 0), mirrors⟩
    | some block =>
        have alike := Memory.alike_request (δ := δ) mirrors.memory block
        have memory := (Memory.request_congr mirrors.memory block).2
        dsimp only
        rcases alike.cases with ⟨_, _, granted, granted', _⟩ | ⟨fault, refused, refused'⟩
        · rw [granted, granted']
          exact ⟨.ok rfl, memory, mirrors.arena.extend length block⟩
        · rw [refused, refused']
          exact ⟨.error fault, memory, mirrors.arena⟩
  · exact ⟨.ok rfl, mirrors⟩

/-- Creating an entity answers alike, whatever the entity, and leaves arenas that mirror each other
but for that entity. -/
theorem MirrorsBeside.create_write (renamed : ∀ v, Entity.isLive (rename v) = Entity.isLive v)
    (v u : ε) :
    let out := (Arena.create v).attempt.run x
    let out' := (Arena.create u).attempt.run y
    out.state.1.withoutTotals = out'.state.1.withoutTotals ∧
      ((∃ g : Handle k, out.answer = .ok (g.raise δ) ∧ out'.answer = .ok g ∧ ∀ w,
        (out.state.2.write g.index (rename w)).Mirrors δ rename (out'.state.2.write g.index w)) ∨
      ∃ fault, out.answer = .error (fault.raise δ) ∧ out'.answer = .error fault ∧
        out.state.2.Mirrors δ rename out'.state.2) := by
  have next : ∀ i, (⟨i, x.2.generationAt i⟩ : Handle k) = Handle.raise δ ⟨i, y.2.generationAt i⟩ :=
    fun i => Handle.ext rfl (mirrors.arena.generationAt i)
  dsimp only
  rw [run_create, run_create, mirrors.arena.firstVacant?]
  cases y.2.firstVacant? with
  | some i =>
      refine ⟨mirrors.memory, .inl ⟨_, congrArg Except.ok (next i), rfl, fun w => ?_⟩⟩
      dsimp only
      rw [write_write, write_write]
      exact mirrors.arena.write renamed i w
  | none =>
      dsimp only
      rw [mirrors.arena.capacity, mirrors.arena.growth]
      obtain ⟨alike, grown⟩ := mirrors.reserve (nextLength y.2.capacity y.2.growth)
      rcases alike.cases with ⟨_, _, granted, granted', _⟩ | ⟨fault, refused, refused'⟩
      · rw [granted, granted']
        refine ⟨grown.memory, .inl ⟨_, congrArg Except.ok (next _), rfl, fun w => ?_⟩⟩
        dsimp only
        rw [write_write, write_write]
        exact grown.arena.write renamed y.2.capacity w
      · rw [refused, refused']
        exact ⟨grown.memory, .inr ⟨fault, rfl, rfl, grown.arena⟩⟩

/-- **Creating an entity answers alike and leaves arenas that mirror each other.** -/
theorem MirrorsBeside.create (renamed : ∀ v, Entity.isLive (rename v) = Entity.isLive v) (v : ε) :
    let out := (Arena.create (rename v)).attempt.run x
    let out' := (Arena.create v).attempt.run y
    Alike δ (fun h g => h = g.raise δ) out.answer out'.answer ∧
      MirrorsBeside δ rename out.state out'.state := by
  obtain ⟨memory, ⟨g, made, made', writes⟩ | ⟨fault, refused, refused', arena⟩⟩ :=
    mirrors.create_write renamed (rename v) v
  · have last := writes v
    have first := write_self (create_fills made).here
    have second := write_self (create_fills made').here
    rw [Handle.index_raise] at first
    dsimp only at first second last
    rw [first, second] at last
    dsimp only
    rw [made, made']
    exact ⟨.ok rfl, memory, last⟩
  · dsimp only
    rw [refused, refused']
    exact ⟨.error fault, memory, arena⟩

end Asking

end Arena

end PlanarDynamics
