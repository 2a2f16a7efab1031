import PlanarDynamics.Proofs.Store.Creation
import PlanarDynamics.Store.Entities

/-!
# Stale handles stay stale

An arena is changed by `ArenaEdit`s, in any order: entities are created, destroyed and changed in
place, the arena grows and is cleared, and between two edits the memory behind it may be used by
others. No edit takes a generation back (`ArenaEdit.precedes_perform`), so no run does
(`ArenaEdit.precedes_runFrom`).

A handle that was answered by a creation has been issued. Destroying its entity retires it, and
so does clearing the arena, whatever has become of the entity by then (`ArenaEdit.retired_of_ends`).
From then on everything asked of the arena by that handle is refused and changes nothing
(`ArenaEdit.rejects_of_ended`).
-/

set_option autoImplicit false

namespace PlanarDynamics

/-- A change of an arena. -/
inductive ArenaEdit (k : StoreKind) (ε : Type)
  | create (v : ε)
  | destroy (h : Handle k)
  | reserve (length : Nat)
  | clear
  /-- Change the entity of a handle in place. -/
  | modify (h : Handle k) (f : ε → ε)
  /-- Change the entities of two handles in place, together. -/
  | modifyPair (h₁ h₂ : Handle k) (f : ε → ε → ε × ε)
  /-- Change every live entity in place, each by its handle. -/
  | modifyLive (f : Handle k → ε → ε)
  /-- Let others use the memory behind the arena. -/
  | share (memory : Memory)

namespace ArenaEdit

variable {k : StoreKind} {ε : Type} [Entity ε]

/-- Replace the arena, unless that is refused. -/
def replace (f : Arena k ε → Except Fault (Arena k ε)) :
    Fallible StoreNote (Memory × Arena k ε) (Option (Handle k)) := do
  let s ← get
  let b ← Fallible.ofExcept (f s.2)
  set (s.1, b)
  return none

/-- Carry out a change, and answer the handle of the entity it has created. -/
def perform : ArenaEdit k ε → Fallible StoreNote (Memory × Arena k ε) (Option (Handle k))
  | create v => some <$> Arena.create v
  | destroy h => replace (·.destroy h)
  | reserve length => do
    Arena.reserve length
    return none
  | clear => do
    Fallible.always Arena.clear
    return none
  | modify h f => replace (·.modify h f)
  | modifyPair h₁ h₂ f => replace (·.modifyPair h₁ h₂ f)
  | modifyLive f => replace fun a => .ok (a.editLive f)
  | share memory => do
    modifyThe (Memory × Arena k ε) fun s => (memory, s.2)
    return none

/-- What a change leaves behind. -/
def outcome (edit : ArenaEdit k ε) (s : Memory × Arena k ε) :
    Outcome StoreNote (Memory × Arena k ε) (Except Fault (Option (Handle k))) :=
  edit.perform.attempt.run s

/-- The memory and the arena after several changes. -/
def runFrom (s : Memory × Arena k ε) (edits : List (ArenaEdit k ε)) : Memory × Arena k ε :=
  edits.foldl (fun s edit => (edit.outcome s).state) s

/-- A change goes by a handle. -/
def GoesBy (h : Handle k) : ArenaEdit k ε → Prop
  | destroy g => g = h
  | modify g _ => g = h
  | modifyPair g₁ g₂ _ => g₁ = h ∨ g₂ = h
  | _ => False

/-- A change ends the life of a handle: it destroys its entity, or clears the arena. -/
def Ends (h : Handle k) (s : Memory × Arena k ε) (edit : ArenaEdit k ε) : Prop :=
  edit = .destroy h ∧ (edit.outcome s).answer = .ok none ∨ edit = .clear

/-! ## One change -/

omit [Entity ε] in
theorem run_replace (f : Arena k ε → Except Fault (Arena k ε)) (s : Memory × Arena k ε) :
    (replace f).attempt.run s =
      match f s.2 with
      | .ok b => ⟨.ok none, (s.1, b), []⟩
      | .error fault => ⟨.error fault, s, []⟩ := by
  simp only [replace, Fallible.run_bind, Fallible.run_get, Fallible.run_ofExcept, Outcome.after_nil]
  cases f s.2 <;> rfl

omit [Entity ε] in
theorem precedes_replace {f : Arena k ε → Except Fault (Arena k ε)} {s : Memory × Arena k ε}
    (step : ∀ b, f s.2 = .ok b → s.2.Precedes b) :
    s.2.Precedes ((replace f).attempt.run s).state.2 := by
  rw [run_replace]
  cases made : f s.2 with
  | ok b => exact step b made
  | error fault => exact .refl s.2

theorem outcome_create (v : ε) (s : Memory × Arena k ε) :
    ((create v).outcome s).answer = some <$> ((Arena.create v).attempt.run s).answer ∧
      ((create v).outcome s).state = ((Arena.create v).attempt.run s).state := by
  have unfolded : (create v).outcome s =
      (Arena.create v >>= fun h => pure (some h) :
        Fallible StoreNote (Memory × Arena k ε) (Option (Handle k))).attempt.run s := rfl
  rw [unfolded, Fallible.run_bind]
  cases ((Arena.create v).attempt.run s).answer with
  | ok h => exact ⟨rfl, rfl⟩
  | error fault => exact ⟨rfl, rfl⟩

theorem state_reserve (length : Nat) (s : Memory × Arena k ε) :
    ((reserve length).outcome s).state = ((Arena.reserve length).attempt.run s).state := by
  simp only [outcome, perform, Fallible.run_bind]
  cases ((Arena.reserve length).attempt.run s).answer with
  | ok _ => rfl
  | error fault => rfl

theorem state_clear (s : Memory × Arena k ε) :
    ((clear : ArenaEdit k ε).outcome s).state = (Arena.clear.run s).state := rfl

/-- **No change takes a generation back.** -/
theorem precedes_perform (edit : ArenaEdit k ε) (s : Memory × Arena k ε) :
    s.2.Precedes (edit.outcome s).state.2 := by
  cases edit with
  | create v =>
      rw [(outcome_create v s).2]
      cases answer : ((Arena.create v).attempt.run s).answer with
      | ok h => exact (Arena.create_fills answer).precedes
      | error fault => exact Arena.create_refused answer ▸ .refl s.2
  | destroy h =>
      rw [outcome, perform]
      exact precedes_replace fun _ => Arena.precedes_destroy
  | reserve length => exact state_reserve length s ▸ (Arena.reserve_keeps length s).precedes
  | clear =>
      rw [state_clear, Arena.run_clear]
      exact Arena.precedes_cleared s.2
  | modify h f =>
      rw [outcome, perform]
      exact precedes_replace fun _ => Arena.precedes_modify
  | modifyPair h₁ h₂ f =>
      rw [outcome, perform]
      exact precedes_replace fun _ => Arena.precedes_modifyPair
  | modifyLive f =>
      rw [outcome, perform]
      exact precedes_replace fun _ made => Except.ok.inj made ▸ Arena.precedes_editLive s.2 f
  | share memory => exact .refl s.2

/-- A handle that a creation has answered counts as issued. -/
theorem issued_of_create {v : ε} {s : Memory × Arena k ε} {h : Handle k}
    (created : ((create v).outcome s).answer = .ok (some h)) :
    ((create v).outcome s).state.2.Issued h := by
  rw [(outcome_create v s).1] at created
  rw [(outcome_create v s).2]
  cases answer : ((Arena.create v).attempt.run s).answer with
  | error fault =>
      rw [answer] at created
      cases created
  | ok g =>
      rw [answer] at created
      obtain rfl : g = h := Option.some.inj (Except.ok.inj created)
      rw [Arena.Issued, Arena.bound_of_slot (Arena.create_fills answer).here]
      exact Nat.lt_succ_self _

/-- What ends the life of an issued handle retires it. -/
theorem retired_of_ends {edit : ArenaEdit k ε} {s : Memory × Arena k ε} {h : Handle k}
    (issued : s.2.Issued h) (ends : edit.Ends h s) : (edit.outcome s).state.2.Retired h := by
  rcases ends with ⟨rfl, destroyed⟩ | rfl
  · simp only [outcome, perform, run_replace] at destroyed ⊢
    cases made : s.2.destroy h with
    | error fault =>
        rw [made] at destroyed
        cases destroyed
    | ok b => exact Arena.retired_of_destroy made
  · rw [state_clear, Arena.run_clear]
    exact issued.retired_cleared

/-- A change that goes by a rejected handle is refused and changes nothing. -/
theorem refused_of_goesBy {edit : ArenaEdit k ε} {s : Memory × Arena k ε} {h : Handle k}
    (rejects : s.2.Rejects h) (goes : edit.GoesBy h) :
    ∃ fault, edit.outcome s = ⟨.error fault, s, []⟩ := by
  unfold outcome
  cases edit with
  | destroy g =>
      obtain rfl : g = h := goes
      obtain ⟨fault, refused⟩ := rejects.destroy
      exact ⟨fault, by rw [perform, run_replace, refused]⟩
  | modify g f =>
      obtain rfl : g = h := goes
      obtain ⟨fault, refused⟩ := rejects.modify f
      exact ⟨fault, by rw [perform, run_replace, refused]⟩
  | modifyPair g₁ g₂ f =>
      have either : ∃ fault, s.2.modifyPair g₁ g₂ f = .error fault := by
        rcases goes with left | right
        · exact left ▸ rejects.modifyPair_left g₂ f
        · exact right ▸ rejects.modifyPair_right g₁ f
      obtain ⟨fault, refused⟩ := either
      exact ⟨fault, by rw [perform, run_replace, refused]⟩
  | create _ | reserve _ | clear | modifyLive _ | share _ => exact goes.elim

/-! ## Whole runs -/

/-- No run takes a generation back. -/
theorem precedes_runFrom (edits : List (ArenaEdit k ε)) (s : Memory × Arena k ε) :
    s.2.Precedes (runFrom s edits).2 := by
  induction edits generalizing s with
  | nil => exact .refl s.2
  | cons edit rest ih => exact (precedes_perform edit s).trans (ih (edit.outcome s).state)

theorem runFrom_append (s : Memory × Arena k ε) (first second : List (ArenaEdit k ε)) :
    runFrom s (first ++ second) = runFrom (runFrom s first) second :=
  List.foldl_append

/-- **Stale handles stay stale.** A handle that was issued, and whose life was ended since by a
destruction or by a clearing of the arena, is rejected at every later point of the run, and what
is attempted with it changes nothing. -/
theorem rejects_of_ended (growth : Float32) (memory : Memory)
    (before between later : List (ArenaEdit k ε)) (v : ε) (h : Handle k) (ending : ArenaEdit k ε)
    (issued : ((create v).outcome (runFrom (memory, .empty growth) before)).answer = .ok (some h))
    (ended : ending.Ends h (runFrom (memory, .empty growth) (before ++ create v :: between))) :
    let final := runFrom (memory, .empty growth) (before ++ create v :: between ++ ending :: later)
    final.2.Rejects h ∧
      ∀ edit : ArenaEdit k ε, edit.GoesBy h →
        ∃ fault, edit.outcome final = ⟨.error fault, final, []⟩ := by
  intro final
  have reached : (runFrom (memory, .empty growth) (before ++ create v :: between)).2.Issued h := by
    rw [runFrom_append]
    exact (issued_of_create issued).mono (precedes_runFrom between _)
  have retired : final.2.Retired h := by
    show (runFrom _ _).2.Retired h
    rw [runFrom_append]
    exact (retired_of_ends reached ended).mono (precedes_runFrom later _)
  exact ⟨retired.rejects, fun edit goes => refused_of_goesBy retired.rejects goes⟩

/-- A handle outlives a recycled slot, a clearing, and the growth after it. -/
theorem rejects_of_ended_recycled :
    let unit : Body Float32 := .standard
    let before : List (ArenaEdit .body (Body Float32)) := [.reserve 2, .create unit]
    let between : List (ArenaEdit .body (Body Float32)) :=
      [.destroy ⟨0, 0⟩, .create unit, .modify ⟨1, 0⟩ fun b => { b with mass := 0 }, .create unit]
    let later : List (ArenaEdit .body (Body Float32)) :=
      [.share (.linear 4096 0), .create unit, .create unit, .clear, .create unit, .create unit]
    ((create unit).outcome (runFrom (.heap 0, .empty 2) before)).answer = .ok (some ⟨1, 0⟩) ∧
      (runFrom (.heap 0, .empty 2)
        (before ++ create unit :: between ++ .clear :: later)).2.Rejects ⟨1, 0⟩ := by
  intro unit before between later
  have issued : ((create unit).outcome (runFrom (.heap 0, .empty 2) before)).answer =
      .ok (some ⟨1, 0⟩) := by decide +kernel
  exact ⟨issued, (rejects_of_ended 2 (.heap 0) before between later unit ⟨1, 0⟩ .clear issued
    (.inr rfl)).1⟩

end ArenaEdit

end PlanarDynamics
