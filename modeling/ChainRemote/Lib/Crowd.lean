import ChainRemote.Lib.Machine
import ChainRemote.Lib.Statement

/-!
# Any number of clients of one store

Clients start calls and run them statement by statement in any order; a statement may report a
fault. Where every call meets its contract and what each guarantees is within what every call relies
on, the contracts hold throughout, and every write is within the guarantee of the call that makes
it.
-/

namespace Lib

/-- A store and the calls that are running on it. -/
structure Crowd (ι κ σ ω ρ ε α : Type) where
  store : σ
  running : ι → Option (κ × Prog σ ω ρ ε α)

/-- What can happen: a client that is not busy calls, or a call takes a turn, with a fault or
none. -/
inductive CrowdEvent (ι κ ε : Type)
  | call (i : ι) (k : κ)
  | turn (i : ι) (fault : Option ε)

namespace Crowd

variable {ι κ σ ω ρ ε α : Type} (act : ω → σ → Except ε (ρ × σ))

/-- One statement of a program. -/
def turn : Prog σ ω ρ ε α → σ → Option ε → Option (Prog σ ω ρ ε α × σ)
  | .read next, s, none => some (next s, s)
  | .read _, s, some error => some (.throw error, s)
  | .write stmt next fail, s, none =>
    match act stmt s with
    | .ok (out, t) => some (next out, t)
    | .error error => some (fail error, s)
  | .write _ _ fail, s, some error => some (fail error, s)
  | _, _, _ => none

variable [DecidableEq ι] (program : κ → Prog σ ω ρ ε α)

/-- What an event does. -/
def step (s : Crowd ι κ σ ω ρ ε α) : CrowdEvent ι κ ε → Option (Crowd ι κ σ ω ρ ε α)
  | .call i k =>
    if (s.running i).all fun call => call.2.outcome.isSome then
      some { s with running := Function.update s.running i (some (k, program k)) }
    else none
  | .turn i fault =>
    match s.running i with
    | some (k, p) => (turn act p s.store fault).map fun next =>
        { store := next.2, running := Function.update s.running i (some (k, next.1)) }
    | none => none

/-- Clients that have not called yet, on a store in some condition. -/
def crowd (ready : σ → Prop) : Machine (Crowd ι κ σ ω ρ ε α) (CrowdEvent ι κ ε) where
  start s := ready s.store ∧ ∀ i, s.running i = none
  step := step act program

/-- Faults are those that statements may report. -/
def Faulty (fault : ε → Prop) (_ : Crowd ι κ σ ω ρ ε α) : CrowdEvent ι κ ε → Prop
  | .call _ _ => True
  | .turn _ error => ∀ e ∈ error, fault e

variable {act program} {fault : ε → Prop} {c : κ → Contract σ ω ε α}

omit [DecidableEq ι] in
/-- A turn is a statement. -/
theorem turn_step {p q : Prog σ ω ρ ε α} {s t : σ} {error : Option ε}
    (faulty : ∀ e ∈ error, fault e) (next : turn act p s error = some (q, t)) :
    ∃ w, p.Step act fault s w q t := by
  cases p with
  | ret value => cases error <;> cases next
  | throw e => cases error <;> cases next
  | read go =>
    cases error with
    | none =>
      obtain ⟨rfl, rfl⟩ := Prod.mk.inj (Option.some.inj next)
      exact ⟨none, .read go s⟩
    | some e =>
      obtain ⟨rfl, rfl⟩ := Prod.mk.inj (Option.some.inj next)
      exact ⟨none, .readFault go s e (faulty e rfl)⟩
  | write stmt go fail =>
    cases error with
    | none =>
      simp only [turn] at next
      split at next
      · rename_i out u accepted
        obtain ⟨rfl, rfl⟩ := Prod.mk.inj (Option.some.inj next)
        exact ⟨_, .write stmt go fail s u out accepted⟩
      · rename_i e refusal
        obtain ⟨rfl, rfl⟩ := Prod.mk.inj (Option.some.inj next)
        exact ⟨none, .refused stmt go fail s e refusal⟩
    | some e =>
      obtain ⟨rfl, rfl⟩ := Prod.mk.inj (Option.some.inj next)
      exact ⟨none, .writeFault stmt go fail s e (faulty e rfl)⟩

/-- The store is in a good condition and every call that is running meets its contract. -/
structure Keeping (good : σ → Prop) (fault : ε → Prop) (act : ω → σ → Except ε (ρ × σ))
    (c : κ → Contract σ ω ε α) (s : Crowd ι κ σ ω ρ ε α) : Prop where
  store : good s.store
  running : ∀ i k p, s.running i = some (k, p) → ∃ last, Meets act fault (c k) p last s.store

section Rule

variable {good : σ → Prop} {s t : Crowd ι κ σ ω ρ ε α}

omit [DecidableEq ι] in
/-- A write that its guarantee allows keeps the contracts of the calls that are left. -/
theorem Keeping.stable (keeping : Keeping good fault act c s) {u : σ}
    (rely : ∀ k, (c k).rely s.store u) {i : ι} {k : κ} {p : Prog σ ω ρ ε α}
    (running : s.running i = some (k, p)) : ∃ last, Meets act fault (c k) p last u := by
  obtain ⟨last, meets⟩ := keeping.running i k p running
  exact ⟨last, meets.stable (rely k)⟩

/-- A turn leaves the store alone or makes a write that the contract of its call allows, and the
contracts hold afterwards. -/
theorem Keeping.turn (keeping : Keeping good fault act c s)
    (keeps : ∀ k entry, good entry.before → (c k).guar entry → good entry.after)
    (sideways : ∀ k j entry, (c k).guar entry → (c j).rely entry.before entry.after) {i : ι}
    {error : Option ε} (faulty : ∀ e ∈ error, fault e)
    (next : step act program s (.turn i error) = some t) :
    Keeping good fault act c t ∧ ∀ k p, s.running i = some (k, p) →
      t.store = s.store ∨ ∃ stmt, (c k).guar ⟨stmt, s.store, t.store⟩ := by
  simp only [step] at next
  split at next
  · rename_i k p running
    obtain ⟨⟨q, u⟩, moved, rfl⟩ := Option.map_eq_some_iff.mp next
    obtain ⟨w, one⟩ := turn_step faulty moved
    obtain ⟨last, meets⟩ := keeping.running i k p running
    obtain ⟨guar, left⟩ := meets.step one
    have within : u = s.store ∨ ∃ stmt, (c k).guar ⟨stmt, s.store, u⟩ := by
      rcases one.written with ⟨-, same⟩ | ⟨stmt, wrote⟩
      · exact .inl same
      · exact .inr ⟨stmt, guar _ wrote⟩
    have rely (j : κ) : (c j).rely s.store u := by
      rcases within with same | ⟨stmt, allowed⟩
      · rw [same]
        exact (c j).refl s.store
      · exact sideways k j _ allowed
    refine ⟨⟨?_, fun j k' p' calls => ?_⟩, fun k' p' calls => ?_⟩
    · rcases within with same | ⟨stmt, allowed⟩
      · rw [show u = s.store from same]
        exact keeping.store
      · exact keeps k _ keeping.store allowed
    · dsimp only at calls ⊢
      by_cases here : j = i
      · subst here
        rw [Function.update_self] at calls
        obtain ⟨rfl, rfl⟩ := Prod.mk.inj (Option.some.inj calls)
        exact ⟨_, left⟩
      · rw [Function.update_of_ne here] at calls
        exact keeping.stable rely calls
    · obtain ⟨rfl, rfl⟩ := Prod.mk.inj (Option.some.inj (running.symm.trans calls))
      exact within
  · cases next

/-- Contracts within each other hold throughout, and each turn of a call leaves the store alone or
makes a write that its contract allows. -/
theorem contracts_hold (ready : σ → Prop) (start : ∀ s, ready s → good s)
    (meets : ∀ k s, good s → Meets act fault (c k) (program k) none s)
    (keeps : ∀ k entry, good entry.before → (c k).guar entry → good entry.after)
    (sideways : ∀ k j entry, (c k).guar entry → (c j).rely entry.before entry.after) :
    (crowd act program ready : Machine (Crowd ι κ σ ω ρ ε α) (CrowdEvent ι κ ε)).Always
      (Faulty fault) fun s e t =>
      good s.store ∧ good t.store ∧ match e with
        | .call _ _ => t.store = s.store
        | .turn i _ => ∀ k p, s.running i = some (k, p) →
            t.store = s.store ∨ ∃ stmt, (c k).guar ⟨stmt, s.store, t.store⟩ := by
  have call : ∀ (s t : Crowd ι κ σ ω ρ ε α) (i : ι) (k : κ), Keeping good fault act c s →
      step act program s (.call i k) = some t →
      Keeping good fault act c t ∧ t.store = s.store := by
    intro s t i k keeping next
    simp only [step] at next
    split at next
    · obtain rfl := Option.some.inj next
      refine ⟨⟨keeping.store, fun j k' p calls => ?_⟩, rfl⟩
      dsimp only at calls ⊢
      by_cases here : j = i
      · subst here
        rw [Function.update_self] at calls
        obtain ⟨rfl, rfl⟩ := Prod.mk.inj (Option.some.inj calls)
        exact ⟨none, meets _ _ keeping.store⟩
      · rw [Function.update_of_ne here] at calls
        exact keeping.running j k' p calls
    · cases next
  refine Machine.Always.of_invariant (Keeping good fault act c) ?_ ?_ ?_
  · rintro s ⟨started, idle⟩
    refine ⟨start _ started, fun i k p running => ?_⟩
    rw [idle] at running
    cases running
  · intro s e t keeping admitted next
    cases e with
    | call i k => exact (call s t i k keeping next).1
    | turn i error =>
      have moved : step act program s (.turn i error) = some t := next
      exact (keeping.turn keeps sideways admitted moved).1
  · intro s e t keeping admitted next
    cases e with
    | call i k =>
      have after := call s t i k keeping next
      exact ⟨keeping.store, after.1.store, after.2⟩
    | turn i error =>
      have moved : step act program s (.turn i error) = some t := next
      have after := keeping.turn keeps sideways admitted moved
      exact ⟨keeping.store, after.1.store, after.2⟩

end Rule

end Crowd

end Lib
