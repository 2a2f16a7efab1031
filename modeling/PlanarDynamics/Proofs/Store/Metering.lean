import Mathlib.Data.List.Induction
import Mathlib.Order.Bounds.Basic
import PlanarDynamics.Proofs.Execution
import PlanarDynamics.Proofs.Store.Alignment

/-!
# Metered memories

A memory is changed by `MemoryEdit`s, in any order. A meter put on a memory answers what the memory
would answer alone and leaves it as it would be alone (`perform_metered`); the counters are a tally
of the changes and their answers (`MemoryStats.tally`). So a meter counts the requests that were
granted, those that were refused and the returns, and its peak is the most that was ever in use
(`isGreatest_peak`).

What a meter counts as in use is what the memory uses, when the memory is a heap. A linear memory
uses at least as much: it pads requests to their alignment and takes nothing back. For this no
count may overflow (`NeverOverflows`).
-/

set_option autoImplicit false

namespace PlanarDynamics

/-- A change of a memory. -/
inductive MemoryEdit
  | request (r : Request)
  | giveBack (r : Request)
  | reset
deriving DecidableEq

/-- Whether the change hands memory back. -/
def MemoryEdit.isReturn : MemoryEdit → Bool
  | giveBack _ => true
  | request _ | reset => false

/-- A request that can be made: the alignment is a power of two among the 64-bit counts. -/
def Request.Legal (r : Request) : Prop := ∃ bits < 64, r.align = 2 ^ bits

/-- Whether an answer says that memory was refused. -/
def isRefusal : Option (Except Fault Unit) → Bool
  | some (.error _) => true
  | some (.ok _) | none => false

/-- The counters after a change with this answer. -/
def MemoryStats.tally (s : MemoryStats) : MemoryEdit → Option (Except Fault Unit) → MemoryStats
  | .request r, some (.ok _) => s.grant r.size
  | .request _, _ => s.refuse
  | .giveBack r, _ => s.giveBack r.size
  | .reset, _ => { s with inUse := 0 }

namespace Memory

/-- Carry out a change. Only a request has an answer. -/
def perform (m : Memory) : MemoryEdit → Option (Except Fault Unit) × Memory
  | .request r => (some (m.request r).answer, (m.request r).state)
  | .giveBack r => (none, (m.giveBack r).state)
  | .reset => (none, m.reset)

/-- The memory after several changes. -/
def after (m : Memory) (edits : List MemoryEdit) : Memory :=
  edits.foldl (fun m edit => (m.perform edit).2) m

/-- The answers to several changes. -/
def answers (m : Memory) : List MemoryEdit → List (Option (Except Fault Unit))
  | [] => []
  | edit :: rest => (m.perform edit).1 :: answers (m.perform edit).2 rest

/-- The memory with all its meters taken off. -/
def bare : Memory → Memory
  | metered _ inner _ => inner.bare
  | m => m

/-- No count overflows while the memory answers the request. -/
def Fits : Memory → Request → Prop
  | heap used, r => used + r.size ≤ wordMax
  | linear _ offset, r => offset + (r.align - 1) ≤ wordMax
  | metered _ inner stats, r =>
    inner.Fits r ∧ ((inner.request r).answer = .ok () → stats.inUse + r.size ≤ wordMax)

/-- The change can be made, and no count overflows. -/
def Allows (m : Memory) : MemoryEdit → Prop
  | .request r => r.Legal ∧ m.Fits r
  | .giveBack _ | .reset => True

/-- Only changes that can be made are made, and no count overflows. -/
def NeverOverflows : Memory → List MemoryEdit → Prop
  | _, [] => True
  | m, edit :: rest => m.Allows edit ∧ (m.perform edit).2.NeverOverflows rest

instance (r : Request) : Decidable r.Legal :=
  inferInstanceAs (Decidable (∃ bits < 64, r.align = 2 ^ bits))

instance decidableFits : (m : Memory) → (r : Request) → Decidable (m.Fits r)
  | heap used, r => inferInstanceAs (Decidable (used + r.size ≤ wordMax))
  | linear _ offset, r => inferInstanceAs (Decidable (offset + (r.align - 1) ≤ wordMax))
  | metered _ inner stats, r =>
    have := decidableFits inner r
    inferInstanceAs (Decidable (inner.Fits r ∧
      ((inner.request r).answer = .ok () → stats.inUse + r.size ≤ wordMax)))

instance (m : Memory) : (edit : MemoryEdit) → Decidable (m.Allows edit)
  | .request r => inferInstanceAs (Decidable (r.Legal ∧ m.Fits r))
  | .giveBack _ | .reset => inferInstanceAs (Decidable True)

instance decidableNeverOverflows :
    (m : Memory) → (edits : List MemoryEdit) → Decidable (m.NeverOverflows edits)
  | _, [] => inferInstanceAs (Decidable True)
  | m, edit :: rest =>
    have := decidableNeverOverflows (m.perform edit).2 rest
    inferInstanceAs (Decidable (m.Allows edit ∧ _))

/-! ## One change -/

/-- **A meter passes every change on, and tallies it.** -/
theorem perform_metered (name : String) (inner : Memory) (stats : MemoryStats)
    (edit : MemoryEdit) :
    (metered name inner stats).perform edit =
      ((inner.perform edit).1,
        metered name (inner.perform edit).2 (stats.tally edit (inner.perform edit).1)) := by
  cases edit with
  | request r =>
      simp only [perform, Memory.request]
      cases (inner.request r).answer <;> rfl
  | giveBack r => rfl
  | reset => rfl

theorem answer_bare (m : Memory) (edit : MemoryEdit) :
    (m.bare.perform edit).1 = (m.perform edit).1 := by
  induction m with
  | heap | linear => rfl
  | metered name inner stats ih => rw [perform_metered]; exact ih

/-- Meters have no influence on what is below them. -/
theorem bare_perform (m : Memory) (edit : MemoryEdit) :
    (m.perform edit).2.bare = (m.bare.perform edit).2 := by
  induction m with
  | metered name inner stats ih => rw [perform_metered]; exact ih
  | heap used => cases edit <;> rfl
  | linear capacity offset =>
      cases edit with
      | request r =>
          simp only [perform, Memory.request, bare]
          split <;> rfl
      | giveBack r => rfl
      | reset => rfl

theorem used_bare (m : Memory) : m.bare.used = m.used := by
  induction m with
  | heap | linear => rfl
  | metered _ _ _ ih => exact ih

theorem Fits.bare {m : Memory} {r : Request} (fits : m.Fits r) : m.bare.Fits r := by
  induction m with
  | heap | linear => exact fits
  | metered _ _ _ ih => exact ih fits.1

/-! ## Where a linear memory puts a request -/

/-- Where a linear memory with so many bytes in use would put a request. -/
def linearStart (offset : Nat) (r : Request) : Nat :=
  (alignUp offset.toUInt64 r.align.toUInt64).toNat

/-- A request starts at the first multiple of its alignment that is free. -/
theorem isLeast_linearStart {offset : Nat} {r : Request} (legal : r.Legal)
    (fits : offset + (r.align - 1) ≤ wordMax) :
    IsLeast {n | offset ≤ n ∧ r.align ∣ n} (linearStart offset r) := by
  obtain ⟨bits, width, power⟩ := legal
  have word : wordMax = 2 ^ 64 - 1 := rfl
  have small : r.align < 2 ^ 64 := power ▸ (Nat.pow_lt_pow_iff_right (by decide)).mpr width
  have offset_toNat : offset.toUInt64.toNat = offset := Nat.mod_eq_of_lt (by omega)
  have align_toNat : r.align.toUInt64.toNat = r.align := Nat.mod_eq_of_lt small
  have least := @isLeast_alignUp offset.toUInt64 r.align.toUInt64 bits (align_toNat.trans power)
  rw [offset_toNat, align_toNat] at least
  exact least (by omega)

theorem linearEnd_eq (offset : Nat) (r : Request) :
    linearEnd offset r = min (linearStart offset r + r.size) wordMax := rfl

/-- A request at a multiple of its alignment is not padded. -/
theorem linearStart_of_dvd {offset : Nat} {r : Request} (legal : r.Legal)
    (fits : offset + (r.align - 1) ≤ wordMax) (multiple : r.align ∣ offset) :
    linearStart offset r = offset :=
  (isLeast_linearStart legal fits).unique ⟨⟨Nat.le_refl offset, multiple⟩, fun _ above => above.1⟩

/-- The end of a request of a linear memory is as far away as the request is large. -/
theorem le_linearEnd {capacity offset : Nat} {r : Request} (legal : r.Legal)
    (fits : (linear capacity offset).Fits r) :
    min (offset + r.size) wordMax ≤ linearEnd offset r := by
  have start : offset ≤ linearStart offset r := (isLeast_linearStart legal fits).1.1
  rw [linearEnd_eq]
  omega

/-! ## What is in use -/

/-- What a meter counts as in use on a heap is what the heap uses. -/
theorem inUse_tally_heap {m : Memory} {used : Nat} (heap : m.bare = heap used)
    {stats : MemoryStats} (same : stats.inUse = m.used) (edit : MemoryEdit) :
    (stats.tally edit (m.perform edit).1).inUse = (m.perform edit).2.used := by
  have before : stats.inUse = used := by rw [same, ← used_bare, heap]; rfl
  rw [← answer_bare, ← used_bare (m.perform edit).2, bare_perform, heap]
  cases edit with
  | request r => exact congrArg (· + r.size) before
  | giveBack r => exact congrArg (· - r.size) before
  | reset => rfl

/-- What a meter counts as in use on a linear memory is at most what the memory uses. -/
theorem inUse_tally_linear {m : Memory} {capacity offset : Nat}
    (linear : m.bare = linear capacity offset) {name : String} {stats : MemoryStats}
    (covered : stats.inUse ≤ m.used) {edit : MemoryEdit}
    (allowed : (metered name m stats).Allows edit) :
    (∃ offset', (m.perform edit).2.bare = .linear capacity offset') ∧
      (stats.tally edit (m.perform edit).1).inUse ≤ (m.perform edit).2.used := by
  have before : stats.inUse ≤ offset := by rw [← used_bare, linear] at covered; exact covered
  rw [← answer_bare, ← used_bare (m.perform edit).2, bare_perform, linear]
  cases edit with
  | request r =>
      obtain ⟨legal, below, word⟩ := allowed
      have answer : (m.request r).answer = ((Memory.linear capacity offset).request r).answer := by
        have same := answer_bare m (.request r)
        rw [linear] at same
        exact (Option.some.inj same).symm
      have far := le_linearEnd legal (linear ▸ below.bare)
      rw [answer] at word
      simp only [perform, Memory.request] at word ⊢
      split
      · exact ⟨⟨_, rfl⟩, before⟩
      · rename_i granted
        rw [if_neg granted] at word
        have room : stats.inUse + r.size ≤ wordMax := word rfl
        refine ⟨⟨_, rfl⟩, ?_⟩
        show stats.inUse + r.size ≤ linearEnd offset r
        omega
  | giveBack r => exact ⟨⟨_, rfl⟩, Nat.le_trans (Nat.sub_le _ _) before⟩
  | reset => exact ⟨⟨_, rfl⟩, Nat.le_refl 0⟩

/-! ## Runs -/

/-- The counters after several changes, from these on. -/
def tallied (m : Memory) (stats : MemoryStats) : List MemoryEdit → MemoryStats
  | [] => stats
  | edit :: rest => (m.perform edit).2.tallied (stats.tally edit (m.perform edit).1) rest

variable (name : String) (m : Memory) (stats : MemoryStats) (edits : List MemoryEdit)

theorem after_metered :
    (metered name m stats).after edits = metered name (m.after edits) (m.tallied stats edits) := by
  induction edits generalizing m stats with
  | nil => rfl
  | cons edit rest ih =>
      have step := ih (m.perform edit).2 (stats.tally edit (m.perform edit).1)
      rw [after, List.foldl_cons, perform_metered]
      exact step

theorem answers_metered : (metered name m stats).answers edits = m.answers edits := by
  induction edits generalizing m stats with
  | nil => rfl
  | cons edit rest ih => rw [answers, answers, perform_metered, ih]

theorem allocations_tallied : (m.tallied stats edits).allocations =
    stats.allocations + (m.answers edits).count (some (.ok ())) := by
  induction edits generalizing m stats with
  | nil => rfl
  | cons edit rest ih =>
      have step : (stats.tally edit (m.perform edit).1).allocations =
          stats.allocations + if (m.perform edit).1 == some (.ok ()) then 1 else 0 := by
        cases edit with
        | request r =>
            have answered : ∀ answer : Except Fault Unit,
                (stats.tally (.request r) (some answer)).allocations =
                  stats.allocations + if some answer == some (.ok ()) then 1 else 0 := by
              rintro (fault | _) <;> rfl
            exact answered _
        | giveBack r | reset => rfl
      rw [tallied, ih, answers, List.count_cons, step]
      omega

theorem failed_tallied : (m.tallied stats edits).failed =
    stats.failed + (m.answers edits).countP isRefusal := by
  induction edits generalizing m stats with
  | nil => rfl
  | cons edit rest ih =>
      have step : (stats.tally edit (m.perform edit).1).failed =
          stats.failed + if isRefusal (m.perform edit).1 then 1 else 0 := by
        cases edit with
        | request r =>
            have answered : ∀ answer : Except Fault Unit,
                (stats.tally (.request r) (some answer)).failed =
                  stats.failed + if isRefusal (some answer) then 1 else 0 := by
              rintro (fault | _) <;> rfl
            exact answered _
        | giveBack r | reset => rfl
      rw [tallied, ih, answers, List.countP_cons, step]
      omega

theorem deallocations_tallied : (m.tallied stats edits).deallocations =
    stats.deallocations + edits.countP MemoryEdit.isReturn := by
  induction edits generalizing m stats with
  | nil => rfl
  | cons edit rest ih =>
      have step : ∀ answer, (stats.tally edit answer).deallocations =
          stats.deallocations + if edit.isReturn then 1 else 0 := by
        rintro (_ | fault | _) <;> cases edit <;> rfl
      rw [tallied, ih, List.countP_cons, step]
      omega

/-- The peak follows what is in use. -/
theorem peak_tally (below : stats.inUse ≤ stats.peak) (edit : MemoryEdit)
    (answer : Option (Except Fault Unit)) :
    (stats.tally edit answer).peak = max (stats.tally edit answer).inUse stats.peak := by
  have refused : stats.peak = max stats.inUse stats.peak := (Nat.max_eq_right below).symm
  cases edit with
  | request r =>
      rcases answer with _ | fault | _
      · exact refused
      · exact refused
      · exact Nat.max_comm _ _
  | giveBack r => exact (Nat.max_eq_right (Nat.le_trans (Nat.sub_le _ _) below)).symm
  | reset => exact (Nat.max_eq_right (Nat.zero_le _)).symm

theorem tallied_concat (edit : MemoryEdit) : m.tallied stats (edits ++ [edit]) =
    (m.tallied stats edits).tally edit ((m.after edits).perform edit).1 := by
  induction edits generalizing m stats with
  | nil => rfl
  | cons first rest ih => exact ih _ _

/-- **The peak is the most that was in use at any time.** -/
theorem isGreatest_peak : IsGreatest
    {n | ∃ earlier, earlier <+: edits ∧ (m.tallied .zero earlier).inUse = n}
    (m.tallied .zero edits).peak := by
  induction edits using List.reverseRecOn with
  | nil =>
      refine ⟨⟨[], List.prefix_rfl, rfl⟩, ?_⟩
      rintro n ⟨earlier, early, rfl⟩
      rw [List.prefix_nil.mp early]
      exact Nat.le_refl 0
  | append_singleton rest edit ih =>
      have below : (m.tallied .zero rest).inUse ≤ (m.tallied .zero rest).peak :=
        ih.2 ⟨rest, List.prefix_rfl, rfl⟩
      have more :
          {n | ∃ earlier, earlier <+: rest ++ [edit] ∧ (m.tallied .zero earlier).inUse = n} =
          insert (m.tallied .zero (rest ++ [edit])).inUse
            {n | ∃ earlier, earlier <+: rest ∧ (m.tallied .zero earlier).inUse = n} := by
        ext n
        simp only [List.prefix_concat_iff, or_and_right, exists_or, exists_eq_left,
          Set.mem_ofPred_eq, Set.mem_insert_iff, eq_comm]
      have peak : (m.tallied .zero (rest ++ [edit])).peak =
          max (m.tallied .zero (rest ++ [edit])).inUse (m.tallied .zero rest).peak := by
        rw [tallied_concat]
        exact peak_tally _ below edit _
      rw [more, peak]
      exact ih.insert _

variable {m stats edits}

/-- A meter on a heap keeps counting what the heap uses. -/
theorem inUse_tallied_heap {used : Nat} (heap : m.bare = heap used)
    (same : stats.inUse = m.used ∨ .reset ∈ edits) :
    (m.tallied stats edits).inUse = (m.after edits).used := by
  induction edits generalizing m stats used with
  | nil => exact same.resolve_right List.not_mem_nil
  | cons edit rest ih =>
      have next : ∃ used', (m.perform edit).2.bare = .heap used' := by
        rw [bare_perform, heap]
        cases edit <;> exact ⟨_, rfl⟩
      obtain ⟨used', heap'⟩ := next
      refine ih heap' ?_
      rcases same with same | reset
      · exact .inl (inUse_tally_heap heap same edit)
      · rcases List.mem_cons.mp reset with rfl | later
        · exact .inl (used_reset m).symm
        · exact .inr later

/-- A meter on a linear memory keeps counting at most what the memory uses. -/
theorem inUse_tallied_linear {capacity offset : Nat} (linear : m.bare = linear capacity offset)
    (covered : stats.inUse ≤ m.used) (fits : (metered name m stats).NeverOverflows edits) :
    (m.tallied stats edits).inUse ≤ (m.after edits).used := by
  induction edits generalizing m stats offset with
  | nil => exact covered
  | cons edit rest ih =>
      obtain ⟨allowed, later⟩ := fits
      rw [perform_metered] at later
      obtain ⟨⟨offset', linear'⟩, covered'⟩ := inUse_tally_linear linear covered allowed
      exact ih linear' covered' later

/-- What a meter put on a memory shows after some changes, beside the memory without it. -/
structure Faithful (name : String) (m : Memory) (edits : List MemoryEdit) : Prop where
  /-- Every change is answered as it would be alone. -/
  answers : (meter name m).answers edits = m.answers edits
  /-- The memory below is as it would be alone. -/
  inner : ((meter name m).after edits).inner? = some (m.after edits)
  used : ((meter name m).after edits).used = (m.after edits).used
  capacity : ((meter name m).after edits).capacity? = (m.after edits).capacity?
  available : ((meter name m).after edits).available? = (m.after edits).available?
  allocations : ((meter name m).after edits).stats.allocations =
    (m.answers edits).count (some (.ok ()))
  failed : ((meter name m).after edits).stats.failed = (m.answers edits).countP isRefusal
  deallocations : ((meter name m).after edits).stats.deallocations =
    edits.countP MemoryEdit.isReturn
  peak : IsGreatest
    {n | ∃ earlier, earlier <+: edits ∧ ((meter name m).after earlier).stats.inUse = n}
    ((meter name m).after edits).stats.peak
  /-- A heap uses what is counted, if nothing was in use at first, and once it has been reset. -/
  heap : ∀ used, m.bare = .heap used → used = 0 ∨ .reset ∈ edits →
    ((meter name m).after edits).stats.inUse = ((meter name m).after edits).used
  /-- A linear memory uses at least what is counted. -/
  linear : ∀ capacity offset, m.bare = .linear capacity offset →
    (meter name m).NeverOverflows edits →
    ((meter name m).after edits).stats.inUse ≤ ((meter name m).after edits).used

/-- **A meter is transparent and truthful.** Whatever is asked of it, a metered memory answers and
becomes what the memory would alone, and the meter counts what has happened. -/
theorem faithful_meter (name : String) (m : Memory) (edits : List MemoryEdit) :
    Faithful name m edits := by
  have after : ∀ edits, (meter name m).after edits =
      metered name (m.after edits) (m.tallied .zero edits) := after_metered name m .zero
  constructor
  case answers => exact answers_metered name m .zero edits
  case inner => rw [after]; rfl
  case used => rw [after]; rfl
  case capacity => rw [after]; rfl
  case available => rw [after]; rfl
  case allocations => rw [after]; exact (allocations_tallied m .zero edits).trans (Nat.zero_add _)
  case failed => rw [after]; exact (failed_tallied m .zero edits).trans (Nat.zero_add _)
  case deallocations =>
    rw [after]
    exact (deallocations_tallied m .zero edits).trans (Nat.zero_add _)
  case peak => simp only [after]; exact isGreatest_peak m edits
  case heap =>
    intro used heap start
    rw [after]
    refine inUse_tallied_heap heap (start.imp_left fun empty => ?_)
    rw [← used_bare, heap]
    exact empty.symm
  case linear =>
    intro capacity offset linear fits
    rw [after]
    exact inUse_tallied_linear name linear (Nat.zero_le _) fits

/-- Requests that are padded, one that is refused, and more handed back than was asked for. -/
def padding : List MemoryEdit :=
  [.request ⟨3, 1⟩, .request ⟨8, 8⟩, .request ⟨24, 8⟩, .giveBack ⟨8, 8⟩, .giveBack ⟨24, 8⟩,
    .request ⟨1, 1⟩]

theorem faithful_meter_padding :
    (newLinear 32).bare = .linear 32 0 ∧ (meter "linear" (newLinear 32)).NeverOverflows padding ∧
      Faithful "linear" (newLinear 32) padding ∧
      ((meter "linear" (newLinear 32)).after padding).stats = ⟨3, 2, 1, 1, 11⟩ ∧
      ((meter "linear" (newLinear 32)).after padding).used = 17 ∧
      ((meter "linear" (newLinear 32)).after padding).stats.inUse ≤
        ((meter "linear" (newLinear 32)).after padding).used ∧
      newHeap.bare = .heap 0 ∧
      ((meter "heap" newHeap).after padding).stats.inUse =
        ((meter "heap" newHeap).after padding).used := by
  have fits : (meter "linear" (newLinear 32)).NeverOverflows padding := by decide +kernel
  have faithful := faithful_meter "linear" (newLinear 32) padding
  exact ⟨rfl, fits, faithful, by decide +kernel, by decide +kernel, faithful.linear 32 0 rfl fits,
    rfl, (faithful_meter "heap" newHeap padding).heap 0 rfl (.inl rfl)⟩

end Memory

end PlanarDynamics
