import Mathlib.Order.Interval.Finset.Nat
import PlanarDynamics.Proofs.Store.Metering

/-!
# Ranges of a linear memory

A linear memory serves a request with the range of bytes from the next multiple of the alignment on
(`Memory.linearStart`) up to what is in use afterwards (`Memory.extent`). The ranges that have been
reserved since the last reset lie one behind the other (`Memory.Bumped`), whatever sizes and
alignments have been asked for and refused.

`Memory.Bumps` says what is expected of a request: it is granted when there is room for it behind
the start, it gets as many bytes as it asks for, away from all others, and a refusal changes
nothing. There is one exception. The end of a request is cut off at the largest count, and a memory
of just this capacity does not see that such a request is too large (`Memory.CutOff`). It grants it
and reserves fewer bytes. The exception is the only one (`Memory.Bumped.bumps_iff`).
-/

set_option autoImplicit false

namespace PlanarDynamics

/-- A range of bytes, up to the one at `stop`. -/
structure Extent where
  start : Nat
  stop : Nat
deriving DecidableEq

/-- The places of the bytes. -/
def Extent.bytes (e : Extent) : Finset Nat := Finset.Ico e.start e.stop

/-- A range that ends before another starts shares no byte with it. -/
theorem Extent.disjoint_of_le {e f : Extent} (before : e.stop ≤ f.start) :
    Disjoint e.bytes f.bytes := by
  rw [Finset.disjoint_left]
  intro place inside inside'
  have first := (Finset.mem_Ico.mp inside).2
  have second := (Finset.mem_Ico.mp inside').1
  omega

namespace Memory

/-- The range that is reserved for a request, when it is granted. -/
def extent (m : Memory) (r : Request) : Extent := ⟨linearStart m.used r, (m.request r).state.used⟩

/-- The reserved ranges after a change. -/
def reserved (m : Memory) (taken : List Extent) : MemoryEdit → List Extent
  | .request r => if (m.request r).answer = .ok () then taken ++ [m.extent r] else taken
  | .giveBack _ => taken
  | .reset => []

/-- The ranges reserved since the last reset, oldest first, after several changes. -/
def reservedAfter (m : Memory) (taken : List Extent) : List MemoryEdit → List Extent
  | [] => taken
  | edit :: rest => (m.perform edit).2.reservedAfter (m.reserved taken edit) rest

/-- A range for a request is in its place: aligned, within the capacity, away from the others. -/
structure Placed (capacity : Nat) (taken : List Extent) (r : Request) (e : Extent) : Prop where
  aligned : r.align ∣ e.start
  within : e.stop ≤ capacity
  apart : ∀ f ∈ taken, Disjoint f.bytes e.bytes

/-- What is expected of a request of a linear memory in which these ranges are reserved. -/
structure Bumps (capacity : Nat) (m : Memory) (taken : List Extent) (r : Request) : Prop where
  /-- A request is granted exactly when there is room for it. -/
  granted_iff : (m.request r).answer = .ok () ↔ linearStart m.used r + r.size ≤ capacity
  size : (m.request r).answer = .ok () → (m.extent r).stop = (m.extent r).start + r.size
  placed : (m.request r).answer = .ok () → Placed capacity taken r (m.extent r)
  /-- A refusal names what was asked for and what is left, and changes nothing. -/
  refused : (m.request r).answer ≠ .ok () →
    m.request r = ⟨.error (.allocationFailed r.size (capacity - m.used)), m, []⟩

/-- The request would end behind the largest count, and the memory goes up to there. -/
def CutOff (capacity : Nat) (m : Memory) (r : Request) : Prop :=
  capacity = wordMax ∧ wordMax < linearStart m.used r + r.size

instance (capacity : Nat) (m : Memory) (r : Request) : Decidable (CutOff capacity m r) :=
  inferInstanceAs (Decidable (_ ∧ _))

/-- How a linear memory serves, in which these ranges are reserved. -/
structure Serves (capacity : Nat) (m : Memory) (taken : List Extent) : Prop where
  /-- What is in use and what is left are the whole memory. -/
  available : ∃ free, m.available? = some free ∧ m.used + free = capacity
  /-- Nothing is taken back. -/
  giveBack : ∀ r, m.giveBack r = ⟨(), m, []⟩
  disjoint : taken.Pairwise fun e f => Disjoint e.bytes f.bytes
  within : ∀ e ∈ taken, e.stop ≤ capacity
  bumps_iff : ∀ r, m.Allows (.request r) → (Bumps capacity m taken r ↔ ¬ CutOff capacity m r)
  /-- A request that is cut off gets all that is left. -/
  cutOff : ∀ r, m.Allows (.request r) → CutOff capacity m r →
    (m.request r).answer = .ok () ∧ m.extent r = ⟨linearStart m.used r, wordMax⟩ ∧
      Placed capacity taken r (m.extent r)

/-! ## One request -/

theorem linearStart_le_linearEnd (offset : Nat) (r : Request) :
    linearStart offset r ≤ linearEnd offset r := by
  have word : linearStart offset r ≤ wordMax := Nat.le_of_lt_succ (UInt64.toNat_lt _)
  rw [linearEnd_eq]
  omega

variable {capacity offset : Nat} {r : Request}

theorem request_linear_granted (room : linearEnd offset r ≤ capacity) :
    (linear capacity offset).request r = ⟨.ok (), linear capacity (linearEnd offset r), []⟩ :=
  if_neg (Nat.not_lt.mpr room)

theorem request_linear_refused (short : capacity < linearEnd offset r) :
    (linear capacity offset).request r =
      ⟨.error (.allocationFailed r.size (capacity - offset)), linear capacity offset, []⟩ :=
  if_pos short

theorem granted_linear_iff :
    ((linear capacity offset).request r).answer = .ok () ↔ linearEnd offset r ≤ capacity := by
  rcases Nat.lt_or_ge capacity (linearEnd offset r) with short | room
  · rw [request_linear_refused short]
    exact ⟨nofun, fun room => absurd short (Nat.not_lt.mpr room)⟩
  · rw [request_linear_granted room]
    exact ⟨fun _ => room, fun _ => rfl⟩

/-- The range of a granted request. -/
theorem extent_linear (granted : ((linear capacity offset).request r).answer = .ok ()) :
    (linear capacity offset).extent r = ⟨linearStart offset r, linearEnd offset r⟩ := by
  rw [extent, request_linear_granted (granted_linear_iff.mp granted)]
  rfl

/-! ## Ranges one behind the other -/

/-- The memory is a linear one, and the ranges that are reserved in it lie one behind the other
below what is free. -/
structure Bumped (capacity : Nat) (m : Memory) (taken : List Extent) : Prop where
  linear : ∃ offset ≤ capacity, m = linear capacity offset
  below : ∀ e ∈ taken, e.stop ≤ m.used
  ascending : taken.Pairwise fun e f => e.stop ≤ f.start

namespace Bumped

variable {m : Memory} {taken : List Extent}

theorem used_le (bumped : Bumped capacity m taken) : m.used ≤ capacity := by
  obtain ⟨offset, room, rfl⟩ := bumped.linear
  exact room

theorem start (capacity : Nat) : Bumped capacity (newLinear capacity) [] where
  linear := ⟨0, Nat.zero_le _, rfl⟩
  below := nofun
  ascending := .nil

/-- A refusal names what was asked for and what is left, and changes nothing. -/
theorem request_of_refused (bumped : Bumped capacity m taken)
    (refused : (m.request r).answer ≠ .ok ()) :
    m.request r = ⟨.error (.allocationFailed r.size (capacity - m.used)), m, []⟩ := by
  obtain ⟨offset, _, rfl⟩ := bumped.linear
  exact request_linear_refused (Nat.lt_of_not_le fun room => refused (granted_linear_iff.mpr room))

/-- What is reserved next lies behind all that is reserved. -/
theorem request (bumped : Bumped capacity m taken) (allowed : m.Allows (.request r))
    (granted : (m.request r).answer = .ok ()) :
    Bumped capacity (m.request r).state (taken ++ [m.extent r]) := by
  obtain ⟨offset, _, rfl⟩ := bumped.linear
  have room : linearEnd offset r ≤ capacity := granted_linear_iff.mp granted
  have free : offset ≤ linearStart offset r := (isLeast_linearStart allowed.1 allowed.2).1.1
  have forward : linearStart offset r ≤ linearEnd offset r := linearStart_le_linearEnd offset r
  rw [extent_linear granted, request_linear_granted room]
  constructor
  case linear => exact ⟨linearEnd offset r, room, rfl⟩
  case below =>
    intro e member
    rcases List.mem_append.mp member with earlier | new
    · exact (bumped.below e earlier).trans (free.trans forward)
    · exact List.mem_singleton.mp new ▸ Nat.le_refl (linearEnd offset r)
  case ascending =>
    refine List.pairwise_append.mpr ⟨bumped.ascending, List.pairwise_singleton _ _, ?_⟩
    intro e earlier f new
    exact List.mem_singleton.mp new ▸ (bumped.below e earlier).trans free

/-- **A change keeps the ranges one behind the other.** -/
theorem step (bumped : Bumped capacity m taken) {edit : MemoryEdit} (allowed : m.Allows edit) :
    Bumped capacity (m.perform edit).2 (m.reserved taken edit) := by
  cases edit with
  | request r =>
      by_cases granted : (m.request r).answer = .ok ()
      · rw [reserved, if_pos granted]
        exact bumped.request allowed granted
      · rw [reserved, if_neg granted, perform, bumped.request_of_refused granted]
        exact bumped
  | giveBack r =>
      obtain ⟨offset, room, rfl⟩ := bumped.linear
      exact bumped
  | reset =>
      obtain ⟨offset, room, rfl⟩ := bumped.linear
      exact start capacity

theorem after {edits : List MemoryEdit} (bumped : Bumped capacity m taken)
    (fits : m.NeverOverflows edits) :
    Bumped capacity (m.after edits) (m.reservedAfter taken edits) := by
  induction edits generalizing m taken with
  | nil => exact bumped
  | cons edit rest ih => exact ih (bumped.step fits.1) fits.2

theorem disjoint (bumped : Bumped capacity m taken) :
    taken.Pairwise fun e f => Disjoint e.bytes f.bytes :=
  bumped.ascending.imp Extent.disjoint_of_le

theorem within (bumped : Bumped capacity m taken) {e : Extent} (member : e ∈ taken) :
    e.stop ≤ capacity :=
  (bumped.below e member).trans bumped.used_le

/-- A granted request is put in its place. -/
theorem placed (bumped : Bumped capacity m taken) (allowed : m.Allows (.request r))
    (granted : (m.request r).answer = .ok ()) : Placed capacity taken r (m.extent r) := by
  have next := bumped.request allowed granted
  obtain ⟨offset, _, rfl⟩ := bumped.linear
  refine ⟨(isLeast_linearStart allowed.1 allowed.2).1.2, next.within (by simp), fun e member => ?_⟩
  exact (List.pairwise_append.mp next.disjoint).2.2 e member _ (List.mem_singleton.mpr rfl)

/-- **A request is served as expected, unless its end is cut off.** -/
theorem bumps_iff (bumped : Bumped capacity m taken) (word : capacity ≤ wordMax)
    (allowed : m.Allows (.request r)) : Bumps capacity m taken r ↔ ¬ CutOff capacity m r := by
  have placed := bumped.placed allowed
  have refused := bumped.request_of_refused (r := r)
  obtain ⟨offset, _, rfl⟩ := bumped.linear
  have granted_iff := @granted_linear_iff capacity offset r
  rw [linearEnd_eq] at granted_iff
  constructor
  · rintro bumps ⟨full, beyond⟩
    have granted := granted_iff.mpr (full ▸ Nat.min_le_right _ _)
    have room := bumps.granted_iff.mp granted
    omega
  · intro whole
    have room_iff : min (linearStart offset r + r.size) wordMax ≤ capacity ↔
        linearStart offset r + r.size ≤ capacity := by
      simp only [CutOff, used] at whole
      omega
    refine ⟨granted_iff.trans room_iff, fun granted => ?_, placed, refused⟩
    have room := (granted_iff.trans room_iff).mp granted
    rw [extent_linear granted, linearEnd_eq]
    exact Nat.min_eq_left (room.trans word)

/-- A request that is cut off gets the rest of the memory. -/
theorem extent_of_cutOff (bumped : Bumped capacity m taken) (cut : CutOff capacity m r) :
    (m.request r).answer = .ok () ∧ m.extent r = ⟨linearStart m.used r, wordMax⟩ := by
  obtain ⟨offset, _, rfl⟩ := bumped.linear
  obtain ⟨full, beyond⟩ := cut
  have ending : linearEnd offset r = wordMax := Nat.min_eq_right (Nat.le_of_lt beyond)
  have granted := granted_linear_iff.mpr (Nat.le_of_eq (ending.trans full.symm))
  exact ⟨granted, by rw [extent_linear granted, ending]; rfl⟩

theorem serves (bumped : Bumped capacity m taken) (word : capacity ≤ wordMax) :
    Serves capacity m taken where
  available := by
    obtain ⟨offset, room, rfl⟩ := bumped.linear
    exact ⟨capacity - offset, rfl, Nat.add_sub_cancel' room⟩
  giveBack r := by
    obtain ⟨offset, _, rfl⟩ := bumped.linear
    rfl
  disjoint := bumped.disjoint
  within _ := bumped.within
  bumps_iff _ := bumped.bumps_iff word
  cutOff r allowed cut := by
    obtain ⟨granted, same⟩ := bumped.extent_of_cutOff cut
    exact ⟨granted, same, bumped.placed allowed granted⟩

end Bumped

/-! ## Whole runs -/

/-- **A linear memory hands out one range behind the other.** Whatever has been asked for, handed
back and reset before, a request is served as expected, but for one that would end behind the
largest count in a memory that goes up to there. -/
theorem serves_after {capacity : Nat} (word : capacity ≤ wordMax) {edits : List MemoryEdit}
    (fits : (newLinear capacity).NeverOverflows edits) :
    Serves capacity ((newLinear capacity).after edits)
      ((newLinear capacity).reservedAfter [] edits) :=
  ((Bumped.start capacity).after fits).serves word

/-- All bytes but one of the largest memory. -/
def brimful : List MemoryEdit := [.request ⟨2 ^ 63 - 1, 1⟩, .request ⟨2 ^ 63 - 1, 1⟩]

/-- In a small memory requests are forgotten, padded and refused. In the largest one a request for
two bytes gets the last one. -/
theorem serves_after_brimful :
    let small := newLinear 32
    let edits := .request ⟨5, 4⟩ :: .reset :: padding
    let large := newLinear wordMax
    (32 ≤ wordMax ∧ small.NeverOverflows edits ∧
      Serves 32 (small.after edits) (small.reservedAfter [] edits) ∧
      small.reservedAfter [] edits = [⟨0, 3⟩, ⟨8, 16⟩, ⟨16, 17⟩]) ∧
    large.NeverOverflows brimful ∧
      Serves wordMax (large.after brimful) (large.reservedAfter [] brimful) ∧
      (large.after brimful).Allows (.request ⟨2, 1⟩) ∧
      CutOff wordMax (large.after brimful) ⟨2, 1⟩ ∧
      (large.after brimful).extent ⟨2, 1⟩ = ⟨wordMax - 1, wordMax⟩ := by
  intro small edits large
  have word : 32 ≤ wordMax := by decide
  have fits : small.NeverOverflows edits := by decide +kernel
  have fits' : large.NeverOverflows brimful := by decide +kernel
  exact ⟨⟨word, fits, serves_after word fits, by decide +kernel⟩, fits',
    serves_after (Nat.le_refl wordMax) fits', by decide +kernel, by decide +kernel,
    by decide +kernel⟩

/-- Not every request is served as expected. -/
theorem short_range_of_brimful :
    ¬ ∀ (capacity : Nat) (edits : List MemoryEdit) (r : Request), capacity ≤ wordMax →
      (newLinear capacity).NeverOverflows edits →
      ((newLinear capacity).after edits).Allows (.request r) →
      Bumps capacity ((newLinear capacity).after edits)
        ((newLinear capacity).reservedAfter [] edits) r := by
  intro always
  have bumps := always wordMax brimful ⟨2, 1⟩ (Nat.le_refl wordMax) (by decide +kernel)
    (by decide +kernel)
  have granted : (((newLinear wordMax).after brimful).request ⟨2, 1⟩).answer = .ok () := by
    decide +kernel
  have longer : ¬ linearStart ((newLinear wordMax).after brimful).used ⟨2, 1⟩ + 2 ≤ wordMax := by
    decide +kernel
  exact longer (bumps.granted_iff.mp granted)

end Memory

end PlanarDynamics
