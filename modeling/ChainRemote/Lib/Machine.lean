import Mathlib.Logic.Relation

/-!
# Machines and their guarded runs

A machine has start states and a partial step for each event; every choice the
environment makes is part of the event. A guard restricts which events a run may
take from which states, so a property of "every run whose steps all meet a
condition" is a property of the guarded runs. `Always` states a property of every
step of every guarded run, and its rule reduces it to one invariant.
-/

namespace Lib

/-- A machine whose nondeterminism is carried by its events. -/
structure Machine (σ ε : Type) where
  /-- The states a run may start in. -/
  start : σ → Prop
  /-- The state after an event; `none` where the event cannot happen. -/
  step : σ → ε → Option σ

namespace Machine

variable {σ ε : Type}

/-- The guard that admits every event everywhere. -/
def free : σ → ε → Prop := fun _ _ => True

/-- `m.Runs guard s t`: some run takes `s` to `t`, and the guard admits each step. -/
inductive Runs (m : Machine σ ε) (guard : σ → ε → Prop) (s : σ) : σ → Prop
  /-- The empty run. -/
  | refl : Runs m guard s s
  /-- One more admitted event at the end of a run. -/
  | step {t u : σ} (e : ε) (before : Runs m guard s t) (admitted : guard t e)
      (next : m.step t e = some u) : Runs m guard s u

/-- The states guarded runs reach from a start state. -/
def Reaches (m : Machine σ ε) (guard : σ → ε → Prop) (t : σ) : Prop :=
  ∃ s, m.start s ∧ m.Runs guard s t

/-- Every step of every guarded run satisfies a property of the state before it, its event
and the state after it. -/
def Always (m : Machine σ ε) (guard : σ → ε → Prop) (property : σ → ε → σ → Prop) : Prop :=
  ∀ s e t, m.Reaches guard s → guard s e → m.step s e = some t → property s e t

variable {m : Machine σ ε} {guard : σ → ε → Prop}

/-- What every admitted step keeps, every guarded run keeps. -/
theorem Runs.invariant {s t : σ} (run : m.Runs guard s t) (inv : σ → Prop)
    (kept : ∀ s e t, inv s → guard s e → m.step s e = some t → inv t) (base : inv s) : inv t := by
  induction run with
  | refl => exact base
  | step e _ admitted next ih => exact kept _ e _ ih admitted next

/-- Two runs in a row are one run. -/
theorem Runs.trans {s t u : σ} (first : m.Runs guard s t) (second : m.Runs guard t u) :
    m.Runs guard s u := by
  induction second with
  | refl => exact first
  | step e _ admitted next ih => exact .step e ih admitted next

/-- A run under a guard is a run under any weaker guard. -/
theorem Runs.mono {s t : σ} {weaker : σ → ε → Prop} (run : m.Runs guard s t)
    (admits : ∀ s e, guard s e → weaker s e) : m.Runs weaker s t := by
  induction run with
  | refl => exact .refl
  | step e _ admitted next ih => exact .step e ih (admits _ e admitted) next

/-- Where every admitted step is a run of another machine, so is every run. -/
theorem Runs.simulates {τ δ : Type} {other : Machine τ δ} {checks : τ → δ → Prop} (view : σ → τ)
    (simulated : ∀ s e t, guard s e → m.step s e = some t → other.Runs checks (view s) (view t))
    {s t : σ} (run : m.Runs guard s t) : other.Runs checks (view s) (view t) := by
  induction run with
  | refl => exact .refl
  | step e _ admitted next ih => exact ih.trans (simulated _ e _ admitted next)

/-- What holds at the start and is kept by every admitted step holds in every state reached. -/
theorem Reaches.invariant {t : σ} (reached : m.Reaches guard t) (inv : σ → Prop)
    (base : ∀ s, m.start s → inv s)
    (kept : ∀ s e t, inv s → guard s e → m.step s e = some t → inv t) : inv t := by
  obtain ⟨s, started, run⟩ := reached
  exact run.invariant inv kept (base s started)

/-- A reached state followed by a guarded run is reached. -/
theorem Reaches.run {s t : σ} (reached : m.Reaches guard s) (run : m.Runs guard s t) :
    m.Reaches guard t := by
  obtain ⟨r, started, before⟩ := reached
  exact ⟨r, started, before.trans run⟩

/-- An invariant that gives the property at each admitted step proves it of every run. -/
theorem Always.of_invariant {property : σ → ε → σ → Prop} (inv : σ → Prop)
    (base : ∀ s, m.start s → inv s)
    (kept : ∀ s e t, inv s → guard s e → m.step s e = some t → inv t)
    (good : ∀ s e t, inv s → guard s e → m.step s e = some t → property s e t) :
    m.Always guard property :=
  fun s e t reached admitted next =>
    good s e t (reached.invariant inv base kept) admitted next

/-- The state after a list of events, up to the first that the guard refuses or that cannot
happen. -/
def play (m : Machine σ ε) (guard : σ → ε → Prop) [∀ s e, Decidable (guard s e)] :
    σ → List ε → σ
  | s, [] => s
  | s, e :: es =>
    if guard s e then
      match m.step s e with
      | some t => play m guard t es
      | none => s
    else s

/-- Played events are a guarded run. -/
theorem runs_play (m : Machine σ ε) (guard : σ → ε → Prop) [∀ s e, Decidable (guard s e)]
    (s : σ) (es : List ε) : m.Runs guard s (m.play guard s es) := by
  induction es generalizing s with
  | nil => exact .refl
  | cons e es ih =>
    simp only [play]
    split
    · rename_i admitted
      split
      · rename_i t next
        exact (Runs.step e .refl admitted next).trans (ih t)
      · exact .refl
    · exact .refl

instance (s : σ) (e : ε) : Decidable (free s e) := isTrue trivial

end Machine

end Lib
