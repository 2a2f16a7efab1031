import PlanarDynamics.Fault

/-!
# Recorded computations

Operations on a store change a state, answer something and leave notes for whoever watches. A
`Recorded` computation is a function from a state to all three; the notes of a sequence are
those of its steps in order, and no step can read them (`notes_bind`, `state_bind`). A
`Fallible` computation may instead answer a fault, and then keeps the state it has reached. A
`Crashing` computation may break off there.

A computation on a part of a state becomes one on the whole by `zoom`.
-/

set_option autoImplicit false

namespace PlanarDynamics

/-- What a recorded computation leaves behind. -/
@[ext]
structure Outcome (ν σ β : Type) where
  answer : β
  state : σ
  notes : List ν

/-- A computation on a state that leaves notes. -/
def Recorded (ν σ β : Type) : Type := σ → Outcome ν σ β

namespace Recorded

variable {ν μ σ τ β γ : Type}

/-- The computation started in a state. -/
def run (m : Recorded ν σ β) (s : σ) : Outcome ν σ β := m s

instance : Monad (Recorded ν σ) where
  pure b := fun s => ⟨b, s, []⟩
  bind m f := fun s =>
    let first := m s
    let second := f first.answer first.state
    ⟨second.answer, second.state, first.notes ++ second.notes⟩

instance : MonadStateOf σ (Recorded ν σ) where
  get := fun s => ⟨s, s, []⟩
  set s := fun _ => ⟨⟨⟩, s, []⟩
  modifyGet f := fun s => ⟨(f s).1, (f s).2, []⟩

/-- Leave a note. -/
def note (n : ν) : Recorded ν σ Unit := fun s => ⟨(), s, [n]⟩

/-- A computation on a part of the state, its notes rewritten for the whole. -/
def zoom (part : σ → τ) (put : τ → σ → σ) (lift : ν → μ) (m : Recorded ν τ β) : Recorded μ σ β :=
  fun s =>
    let inner := m (part s)
    ⟨inner.answer, put inner.state s, inner.notes.map lift⟩

theorem ext {m n : Recorded ν σ β} (h : ∀ s, m.run s = n.run s) : m = n := funext h

@[simp] theorem run_pure (b : β) (s : σ) : (pure b : Recorded ν σ β).run s = ⟨b, s, []⟩ := rfl

theorem run_bind (m : Recorded ν σ β) (f : β → Recorded ν σ γ) (s : σ) :
    (m >>= f).run s =
      ⟨((f (m.run s).answer).run (m.run s).state).answer,
        ((f (m.run s).answer).run (m.run s).state).state,
        (m.run s).notes ++ ((f (m.run s).answer).run (m.run s).state).notes⟩ := rfl

@[simp] theorem answer_bind (m : Recorded ν σ β) (f : β → Recorded ν σ γ) (s : σ) :
    ((m >>= f).run s).answer = ((f (m.run s).answer).run (m.run s).state).answer := rfl

@[simp] theorem state_bind (m : Recorded ν σ β) (f : β → Recorded ν σ γ) (s : σ) :
    ((m >>= f).run s).state = ((f (m.run s).answer).run (m.run s).state).state := rfl

@[simp] theorem notes_bind (m : Recorded ν σ β) (f : β → Recorded ν σ γ) (s : σ) :
    ((m >>= f).run s).notes =
      (m.run s).notes ++ ((f (m.run s).answer).run (m.run s).state).notes := rfl

@[simp] theorem run_get (s : σ) : (get : Recorded ν σ σ).run s = ⟨s, s, []⟩ := rfl

@[simp] theorem run_set (s t : σ) : (set t : Recorded ν σ PUnit).run s = ⟨⟨⟩, t, []⟩ := rfl

@[simp] theorem run_modify (f : σ → σ) (s : σ) :
    (modify f : Recorded ν σ PUnit).run s = ⟨⟨⟩, f s, []⟩ := rfl

@[simp] theorem run_note (n : ν) (s : σ) : (note n : Recorded ν σ Unit).run s = ⟨(), s, [n]⟩ := rfl

@[simp] theorem run_zoom (part : σ → τ) (put : τ → σ → σ) (lift : ν → μ) (m : Recorded ν τ β)
    (s : σ) :
    (zoom part put lift m).run s =
      ⟨(m.run (part s)).answer, put (m.run (part s)).state s, (m.run (part s)).notes.map lift⟩ :=
  rfl

instance : LawfulMonad (Recorded ν σ) :=
  LawfulMonad.mk' _
    (by
      intro β m
      refine ext fun s => ?_
      show Outcome.mk (m s).answer (m s).state ((m s).notes ++ []) = m s
      rw [List.append_nil])
    (by intro β γ b f; rfl)
    (by intro β γ δ m f g; exact ext fun s => by simp [run_bind, List.append_assoc])

end Recorded

/-- A recorded computation that may answer a fault. -/
abbrev Fallible (ν σ β : Type) : Type := ExceptT Fault (Recorded ν σ) β

namespace Fallible

variable {ν μ σ τ β : Type}

/-- A computation that never fails. -/
def always (m : Recorded ν σ β) : Fallible ν σ β := ExceptT.lift m

/-- Go on with a result, or fail with its fault. -/
def ofExcept (e : Except Fault β) : Fallible ν σ β := ExceptT.mk (pure e)

/-- Leave a note. -/
def note (n : ν) : Fallible ν σ Unit := always (Recorded.note n)

/-- The computation as one whose answer says whether it failed. -/
def attempt (m : Fallible ν σ β) : Recorded ν σ (Except Fault β) := ExceptT.run m

/-- A computation on a part of the state, its notes rewritten for the whole. -/
def zoom (part : σ → τ) (put : τ → σ → σ) (lift : ν → μ) (m : Fallible ν τ β) : Fallible μ σ β :=
  ExceptT.mk (Recorded.zoom part put lift m.attempt)

end Fallible

/-- A recorded computation that may crash. -/
abbrev Crashing (ν σ β : Type) : Type := ExceptT Crash (Recorded ν σ) β

namespace Crashing

variable {ν σ β : Type}

/-- Go on with a result, or crash. -/
def ofExcept (e : Except Crash β) : Crashing ν σ β := ExceptT.mk (pure e)

/-- The computation as one whose answer says whether it crashed. -/
def attempt (m : Crashing ν σ β) : Recorded ν σ (Except Crash β) := ExceptT.run m

end Crashing

end PlanarDynamics
