import ChainRemote.Lib.Machine
import ChainRemote.Agent.SchedWindow

/-!
# Who opened the scheduled window

The functions of `chainremote_sched.rs` called in any order on a clock that does not run
backwards. Each call is logged with the marker file it left, so that a login admitted
without a click can be traced to the approval that stands behind it. Reads and writes of
the marker file succeed.
-/

namespace ChainRemote.Agent.SchedSafety

open Lib

/-- A call of one of the module's functions. -/
inductive Call
  /-- The customer accepts a proposal. -/
  | grant (start endAt hqNow : Int) (label : String)
  /-- A login consults the gate. -/
  | isOpen
  /-- A screen or the heartbeat asks for the window. -/
  | status
  /-- An admitted session starts. -/
  | noteSessionStart
  /-- An admitted session ends. -/
  | noteSessionEnd
  /-- The window is taken back. -/
  | clear
deriving DecidableEq, Repr

/-- The marker file after a call at time `t`. -/
def Call.run (t : Int) (file : Option SchedWindow) : Call → Option SchedWindow
  | .grant start endAt hqNow label => some (Agent.grant t start endAt hqNow label)
  | .isOpen => (Agent.isOpen t file).2
  | .status => Agent.status t file
  | .noteSessionStart => Agent.noteSessionStart file
  | .noteSessionEnd => Agent.noteSessionEnd t file
  | .clear => none

/-- The call is an approval by the customer. -/
def Call.isGrant : Call → Bool
  | .grant .. => true
  | _ => false

/-- A call that was made. -/
structure Entry where
  /-- The function and its arguments. -/
  call : Call
  /-- The clock reading of the call. -/
  time : Int
  /-- The marker file after the call. -/
  file : Option SchedWindow
deriving DecidableEq, Repr

/-- The marker file, the clock, and the calls made so far. -/
structure State where
  /-- The content of the marker file. -/
  file : Option SchedWindow
  /-- The latest clock reading. -/
  clock : Int
  /-- The calls made, the latest first. -/
  log : List Entry
deriving DecidableEq, Repr

/-- The state after a call at time `t`. -/
def State.after (s : State) (call : Call) (t : Int) : State :=
  let file := call.run t s.file
  { file, clock := t, log := ⟨call, t, file⟩ :: s.log }

/-- The module on a clock that does not run backwards and stays in `i64`. -/
def machine : Machine State (Call × Int) where
  start s := s.file = none ∧ 0 ≤ s.clock ∧ s.log = []
  step s e := if s.clock ≤ e.2 ∧ e.2 < 2 ^ 63 then some (s.after e.1 e.2) else none

/-- The latest approval. -/
def latestGrant (log : List Entry) : Option Entry := log.find? fun e => e.call.isGrant

/-- The calls made after the latest approval. -/
def sinceGrant (log : List Entry) : List Entry := log.takeWhile fun e => !e.call.isGrant

/-- The approval behind a stored window: the latest one, not taken back since, neither by a
call of `clear` nor by the clean-up of `isOpen` or `status`, and its bounds. -/
structure Backed (s : State) (w : SchedWindow) (g : Entry) : Prop where
  /-- It is the latest approval. -/
  latest : latestGrant s.log = some g
  /-- The marker file was never removed since. -/
  standing : ∀ e ∈ sinceGrant s.log, e.call ≠ .clear ∧ e.file ≠ none
  /-- The clock was valid when the customer approved. -/
  nonneg : 0 ≤ g.time
  /-- It is not in the future. -/
  past : g.time ≤ s.clock
  /-- It is the approval the window records. -/
  recorded : w.grantedAt = g.time
  /-- The window does not start before it. -/
  from_grant : g.time ≤ w.start
  /-- The window ends within a day of it. -/
  within_day : w.endAt ≤ g.time + maxWindowSecs

/-- Every stored window has its approval. -/
structure Inv (s : State) : Prop where
  /-- The clock is not negative. -/
  clock : 0 ≤ s.clock
  /-- The stored window is backed. -/
  backed : ∀ w, s.file = some w → ∃ g, Backed s w g

/-- A call that is no approval leaves no window, or the stored one with its bounds. -/
theorem run_keeps {t : Int} {file : Option SchedWindow} {call : Call} {w : SchedWindow}
    (other : call.isGrant = false) (left : call.run t file = some w) :
    call ≠ .clear ∧ ∃ v, file = some v ∧ w.grantedAt = v.grantedAt ∧
      w.start = v.start ∧ w.endAt = v.endAt := by
  cases call with
  | grant start endAt hqNow label => cases other
  | isOpen =>
    have kept : file = some w := by
      cases isOpen_file t file with
      | inl same => exact same.symm.trans left
      | inr gone =>
        have clash := gone.symm.trans left
        cases clash
    exact ⟨nofun, w, kept, rfl, rfl, rfl⟩
  | status => exact ⟨nofun, w, (status_some left).1, rfl, rfl, rfl⟩
  | noteSessionStart =>
    cases file with
    | none => cases left
    | some v =>
      obtain rfl := Option.some.inj left
      exact ⟨nofun, v, rfl, rfl, rfl, rfl⟩
  | noteSessionEnd =>
    cases file with
    | none => cases left
    | some v =>
      obtain rfl := Option.some.inj left
      exact ⟨nofun, v, rfl, rfl, rfl, rfl⟩
  | clear => cases left

/-- An approval is itself the latest one, and nothing has happened since. -/
theorem backed_grant {s : State} {t : Int} (nonneg : 0 ≤ t) (bounded : t < 2 ^ 63)
    (start endAt hqNow : Int) (label : String) :
    Backed (s.after (.grant start endAt hqNow label) t)
      (Agent.grant t start endAt hqNow label)
      ⟨.grant start endAt hqNow label, t, some (Agent.grant t start endAt hqNow label)⟩ := by
  have bounds := grant_bounds nonneg bounded start endAt hqNow label
  exact
    { latest := rfl
      standing := by
        intro e since
        cases since
      nonneg
      past := Int.le_refl t
      recorded := rfl
      from_grant := bounds.1
      within_day := bounds.2 }

/-- A window that another call leaves keeps its approval. -/
theorem Backed.after {s : State} {v w : SchedWindow} {g : Entry} {call : Call} {t : Int}
    (backed : Backed s v g) (later : s.clock ≤ t) (other : call.isGrant = false)
    (kept : call ≠ .clear) (left : call.run t s.file = some w)
    (same : w.grantedAt = v.grantedAt ∧ w.start = v.start ∧ w.endAt = v.endAt) :
    Backed (s.after call t) w g := by
  have past := backed.past
  exact
    { latest := by
        simp only [State.after, latestGrant, List.find?_cons, other]
        exact backed.latest
      standing := by
        intro e since
        simp only [State.after, sinceGrant, List.takeWhile_cons, other, Bool.not_false,
          if_true, List.mem_cons] at since
        cases since with
        | inl new =>
          subst new
          exact ⟨kept, by rw [left]; exact nofun⟩
        | inr old => exact backed.standing e old
      nonneg := backed.nonneg
      past := by
        show g.time ≤ t
        omega
      recorded := same.1.trans backed.recorded
      from_grant := by
        rw [same.2.1]
        exact backed.from_grant
      within_day := by
        rw [same.2.2]
        exact backed.within_day }

/-- Every call keeps the invariant. -/
theorem inv_step {s s' : State} {e : Call × Int} (inv : Inv s)
    (next : machine.step s e = some s') : Inv s' := by
  simp only [machine] at next
  split at next
  · rename_i clock
    obtain rfl := Option.some.inj next
    have now : 0 ≤ e.2 := by
      have before := inv.clock
      omega
    refine ⟨now, ?_⟩
    intro w left
    cases granted : e.1.isGrant with
    | true =>
      obtain ⟨call, t⟩ := e
      cases call with
      | grant start endAt hqNow label =>
        obtain rfl := Option.some.inj left
        exact ⟨_, backed_grant now clock.2 start endAt hqNow label⟩
      | _ => cases granted
    | false =>
      have ⟨kept, v, stored, same⟩ := run_keeps granted left
      have ⟨g, backed⟩ := inv.backed v stored
      exact ⟨g, backed.after clock.1 granted kept left same⟩
  · cases next

/-- A login that passes without a click does so inside the bounds of the latest approval,
which was not taken back since, and within a day of it; a day after the latest approval no
login passes. -/
theorem isOpen_backed_by_grant :
    machine.Always Machine.free fun s e _ =>
      e.1 = .isOpen → (Agent.isOpen e.2 s.file).1 = true →
        (∃ w g, s.file = some w ∧ latestGrant s.log = some g ∧
          (∀ later ∈ sinceGrant s.log, later.call ≠ .clear ∧ later.file ≠ none) ∧
          g.time ≤ e.2 ∧ g.time ≤ w.start ∧ w.start ≤ e.2 ∧ e.2 < w.endAt ∧
          w.endAt ≤ g.time + maxWindowSecs) ∧
        ∀ g, latestGrant s.log = some g → e.2 < g.time + maxWindowSecs := by
  refine Machine.Always.of_invariant Inv ?_ ?_ ?_
  · intro s ⟨absent, clock, _⟩
    refine ⟨clock, ?_⟩
    intro w stored
    cases absent.symm.trans stored
  · intro s e s' inv _ next
    exact inv_step inv next
  · intro s e _ inv _ next _ passes
    simp only [machine] at next
    split at next
    · rename_i clock
      cases stored : s.file with
      | none =>
        rw [stored] at passes
        cases passes
      | some w =>
        rw [stored] at passes
        have inside := ((isOpen_iff e.2 w).mp passes).1
        have ⟨g, backed⟩ := inv.backed w stored
        have past := backed.past
        have ends := backed.within_day
        constructor
        · exact ⟨w, g, rfl, backed.latest, backed.standing, by omega, backed.from_grant,
            inside.1, inside.2, ends⟩
        · intro latest found
          obtain rfl := Option.some.inj (backed.latest.symm.trans found)
          omega
    · cases next

-- A window proposed for 130 to 400 on a clock ten seconds ahead admits from 120 to 389.
example :
    let file := some (grant 100 130 400 110 "")
    (isOpen 119 file).1 = false ∧ (isOpen 120 file).1 = true ∧ (isOpen 389 file).1 = true ∧
      (isOpen 390 file).1 = false := by
  decide

end ChainRemote.Agent.SchedSafety
