import PlanarDynamics.Recorded

/-!
# Executing fallible computations

The run of a fallible computation, step by step. A sequence runs its first part; on a fault it
stops there, with the state reached, and otherwise it goes on (`Fallible.run_bind`). Likewise it
goes on behind a part that does not crash (`Crashing.run_bind_of_ok`). The other laws say what the
single steps leave behind. What may fail without a state is taken apart by `bind_eq_ok_iff`.
-/

set_option autoImplicit false

namespace PlanarDynamics

instance decidableEqExcept {ε β : Type} [DecidableEq ε] [DecidableEq β] :
    DecidableEq (Except ε β)
  | .ok a, .ok b => decidable_of_iff (a = b) ⟨congrArg _, Except.ok.inj⟩
  | .error a, .error b => decidable_of_iff (a = b) ⟨congrArg _, Except.error.inj⟩
  | .ok _, .error _ => isFalse nofun
  | .error _, .ok _ => isFalse nofun

instance decidableForallOk {ε β : Type} (P : β → Prop) [DecidablePred P] :
    (r : Except ε β) → Decidable (∀ v, r = .ok v → P v)
  | .ok v => decidable_of_iff (P v)
      ⟨fun holds _ same => Except.ok.inj same ▸ holds, fun holds => holds v rfl⟩
  | .error _ => isTrue nofun

instance decidableExistsOk {ε β : Type} (P : β → Prop) [DecidablePred P] :
    (r : Except ε β) → Decidable (∃ v, r = .ok v ∧ P v)
  | .ok v => decidable_of_iff (P v)
      ⟨fun holds => ⟨v, rfl, holds⟩, fun ⟨_, same, holds⟩ => Except.ok.inj same ▸ holds⟩
  | .error _ => isFalse nofun

theorem bind_eq_ok_iff {β γ : Type} {e : Except Fault β} {f : β → Except Fault γ} {c : γ} :
    e >>= f = .ok c ↔ ∃ b, e = .ok b ∧ f b = .ok c := by
  cases e with
  | error fault => exact ⟨nofun, nofun⟩
  | ok b => exact ⟨fun same => ⟨b, rfl, same⟩, fun ⟨_, here, same⟩ => Except.ok.inj here ▸ same⟩

theorem bind_pure_eq_ok_iff {β γ : Type} {e : Except Fault β} {f : β → γ} {c : γ} :
    (do return f (← e)) = .ok c ↔ ∃ b, e = .ok b ∧ f b = c :=
  bind_eq_ok_iff.trans (exists_congr fun _ => and_congr_right fun _ =>
    ⟨Except.ok.inj, congrArg Except.ok⟩)

namespace Outcome

variable {ν σ β γ : Type}

/-- The outcome with the notes of an earlier computation put in front. -/
def after (o : Outcome ν σ β) (notes : List ν) : Outcome ν σ β :=
  { o with notes := notes ++ o.notes }

@[simp] theorem answer_after (o : Outcome ν σ β) (notes : List ν) :
    (o.after notes).answer = o.answer := rfl

@[simp] theorem state_after (o : Outcome ν σ β) (notes : List ν) :
    (o.after notes).state = o.state := rfl

@[simp] theorem notes_after (o : Outcome ν σ β) (notes : List ν) :
    (o.after notes).notes = notes ++ o.notes := rfl

@[simp] theorem after_nil (o : Outcome ν σ β) : o.after [] = o := rfl

@[simp] theorem after_mk (b : β) (s : σ) (first second : List ν) :
    (⟨b, s, second⟩ : Outcome ν σ β).after first = ⟨b, s, first ++ second⟩ := rfl

end Outcome

/-- A sequence of computations that may break off runs its first part, then what its answer asks
for. -/
theorem Recorded.run_bind_except {ε ν σ β γ : Type} (m : ExceptT ε (Recorded ν σ) β)
    (f : β → ExceptT ε (Recorded ν σ) γ) (s : σ) :
    (m >>= f).run.run s =
      ((ExceptT.bindCont f (m.run.run s).answer : Recorded ν σ (Except ε γ)).run
        (m.run.run s).state).after (m.run.run s).notes := rfl

namespace Fallible

variable {ν μ σ τ β γ : Type}

theorem run_bind (m : Fallible ν σ β) (f : β → Fallible ν σ γ) (s : σ) :
    (m >>= f).attempt.run s =
      match (m.attempt.run s).answer with
      | .ok b => ((f b).attempt.run (m.attempt.run s).state).after (m.attempt.run s).notes
      | .error fault => ⟨.error fault, (m.attempt.run s).state, (m.attempt.run s).notes⟩ := by
  simp only [attempt, Recorded.run_bind_except]
  cases (m.run.run s).answer with
  | ok b => rfl
  | error fault => exact Outcome.ext rfl rfl (List.append_nil _)

@[simp] theorem run_pure (b : β) (s : σ) :
    (pure b : Fallible ν σ β).attempt.run s = ⟨.ok b, s, []⟩ := rfl

@[simp] theorem run_throw (fault : Fault) (s : σ) :
    (throw fault : Fallible ν σ β).attempt.run s = ⟨.error fault, s, []⟩ := rfl

@[simp] theorem run_get (s : σ) : (get : Fallible ν σ σ).attempt.run s = ⟨.ok s, s, []⟩ := rfl

@[simp] theorem run_set (s t : σ) :
    (set t : Fallible ν σ PUnit).attempt.run s = ⟨.ok ⟨⟩, t, []⟩ := rfl

@[simp] theorem run_modify (f : σ → σ) (s : σ) :
    (modify f : Fallible ν σ PUnit).attempt.run s = ⟨.ok ⟨⟩, f s, []⟩ := rfl

@[simp] theorem run_ofExcept (e : Except Fault β) (s : σ) :
    (ofExcept e : Fallible ν σ β).attempt.run s = ⟨e, s, []⟩ := rfl

@[simp] theorem run_note (n : ν) (s : σ) :
    (note n : Fallible ν σ Unit).attempt.run s = ⟨.ok (), s, [n]⟩ := rfl

theorem run_always (m : Recorded ν σ β) (s : σ) :
    (always m).attempt.run s = ⟨.ok (m.run s).answer, (m.run s).state, (m.run s).notes⟩ :=
  Outcome.ext rfl rfl (List.append_nil _)

@[simp] theorem run_mk (m : Recorded ν σ (Except Fault β)) (s : σ) :
    (attempt (ExceptT.mk m)).run s = m.run s := rfl

@[simp] theorem run_zoom (part : σ → τ) (put : τ → σ → σ) (lift : ν → μ) (m : Fallible ν τ β)
    (s : σ) :
    (zoom part put lift m).attempt.run s =
      ⟨(m.attempt.run (part s)).answer, put (m.attempt.run (part s)).state s,
        (m.attempt.run (part s)).notes.map lift⟩ := rfl

end Fallible

namespace Crashing

variable {ν σ β γ : Type}

theorem run_bind_of_ok {m : Crashing ν σ β} {b : β} {s t : σ} {notes : List ν}
    (done : m.attempt.run s = ⟨.ok b, t, notes⟩) (f : β → Crashing ν σ γ) :
    (m >>= f).attempt.run s = ((f b).attempt.run t).after notes := by
  rw [attempt] at done ⊢
  rw [Recorded.run_bind_except, done]
  rfl

/-- Nothing follows a crash. -/
theorem run_bind_of_error {m : Crashing ν σ β} {crash : Crash} {s t : σ} {notes : List ν}
    (broken : m.attempt.run s = ⟨.error crash, t, notes⟩) (f : β → Crashing ν σ γ) :
    (m >>= f).attempt.run s = ⟨.error crash, t, notes⟩ := by
  rw [attempt] at broken ⊢
  rw [Recorded.run_bind_except, broken]
  exact Outcome.ext rfl rfl (List.append_nil _)

@[simp] theorem run_get (s : σ) : (get : Crashing ν σ σ).attempt.run s = ⟨.ok s, s, []⟩ := rfl

@[simp] theorem run_ofExcept (e : Except Crash β) (s : σ) :
    (ofExcept e : Crashing ν σ β).attempt.run s = ⟨e, s, []⟩ := rfl

/-- A computation that cannot crash does not. -/
theorem run_lift (m : Recorded ν σ β) (s : σ) :
    (liftM m : Crashing ν σ β).attempt.run s =
      ⟨.ok (m.run s).answer, (m.run s).state, (m.run s).notes⟩ :=
  Outcome.ext rfl rfl (List.append_nil _)

end Crashing

end PlanarDynamics
