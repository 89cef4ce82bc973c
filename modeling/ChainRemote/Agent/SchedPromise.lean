import ChainRemote.Agent.SchedSafety
import Mathlib.Tactic.ByContra

/-!
# The window that was promised

Headquarters sends a proposal with the reading of its clock, and the agent infers the difference
of the two clocks from it when the customer accepts. The time that lies between is taken for a part
of that difference, so the stored window is the promised one moved by it. Real time is in whole
seconds, like both clocks.
-/

namespace ChainRemote.Agent.SchedPromise

open Lib SchedSafety

/-- What headquarters sends: the promised bounds on its clock, and the text. -/
structure Proposal where
  start : Int
  endAt : Int
  label : String
  /-- The real time when it is sent. -/
  sentAt : Int

/-- How far the two clocks are ahead of real time. -/
structure Clocks where
  hq : Int
  agent : Int

/-- `hq_now`. -/
def hqNow (clocks : Clocks) (proposal : Proposal) : Int := proposal.sentAt + clocks.hq

/-- The agent after the customer pressed accept. -/
def accepted (clocks : Clocks) (proposal : Proposal) (acceptedAt : Int) (agent : State) : State :=
  agent.after (.grant proposal.start proposal.endAt (hqNow clocks proposal) proposal.label)
    (acceptedAt + clocks.agent)

/-- The window is looked at, and no session starts or ends. -/
def Inactive (_ : State) (e : Call × Int) : Prop := e.1 = .isOpen ∨ e.1 = .status

/-- In every run without session activity the window is open from the later of the promised start
and the acceptance until the earlier of the promised end and a day after the acceptance. -/
def Kept (clocks : Clocks) (proposal : Proposal) (acceptedAt : Int) (agent : State) : Prop :=
  ∀ s t, machine.Runs Inactive (accepted clocks proposal acceptedAt agent) s →
    s.clock ≤ t + clocks.agent → t + clocks.agent < 2 ^ 63 →
      ((Agent.isOpen (t + clocks.agent) s.file).1 = true ↔
        max (proposal.start - clocks.hq) acceptedAt ≤ t ∧
          t < min (proposal.endAt - clocks.hq) (acceptedAt + maxWindowSecs))

/-- The marker file while nothing but time passes: the window, or nothing once it has ended. -/
structure Standing (w : SchedWindow) (s : State) : Prop where
  file : s.file = some w ∨ (s.file = none ∧ w.endAt ≤ s.clock)
  later : w.grantedAt ≤ s.clock

/-- Moving a bound by the inferred difference of the clocks. -/
theorem wrap64_skew {bound hqNow localNow : Int} (least : 0 ≤ localNow + (bound - hqNow) + 2 ^ 63)
    (most : localNow + (bound - hqNow) < 2 ^ 63) :
    wrap64 (bound - wrap64 (hqNow - localNow)) = localNow + (bound - hqNow) := by
  unfold wrap64
  rw [Int.bmod_def, Int.bmod_def]
  omega

/-- A look at a fresh window that never had a session. -/
theorem isOpen_fresh {t : Int} {w : SchedWindow} (fresh : w.lastSessionEnd = none)
    (granted : 0 ≤ w.grantedAt) (later : w.grantedAt ≤ t) (clock : t < 2 ^ 63)
    (day : w.endAt ≤ w.grantedAt + maxWindowSecs) :
    (Agent.isOpen t (some w)).1 = true ↔ w.start ≤ t ∧ t < w.endAt := by
  have age : wrap64 (t - w.grantedAt) = t - w.grantedAt :=
    wrap64_sub ⟨by omega, clock⟩ ⟨granted, by omega⟩
  rw [isOpen_iff, age]
  constructor
  · intro passes
    exact passes.1
  · intro inside
    refine ⟨inside, by omega, ?_⟩
    intro _ last ended
    rw [fresh] at ended
    cases ended

/-- Looking at the window removes the marker only once the window has ended. -/
theorem Standing.step {w : SchedWindow} {s s' : State} {e : Call × Int}
    (standing : Standing w s) (fresh : w.lastSessionEnd = none) (granted : 0 ≤ w.grantedAt)
    (day : w.endAt ≤ w.grantedAt + maxWindowSecs) (looks : Inactive s e)
    (next : machine.step s e = some s') : Standing w s' := by
  simp only [machine] at next
  split at next
  · rename_i clock
    obtain rfl := Option.some.inj next
    have later : w.grantedAt ≤ e.2 := Int.le_trans standing.later clock.1
    refine ⟨?_, later⟩
    show e.1.run e.2 s.file = some w ∨ (e.1.run e.2 s.file = none ∧ w.endAt ≤ e.2)
    rcases standing.file with stored | ⟨absent, ended⟩
    · rw [stored]
      have age : wrap64 (e.2 - w.grantedAt) = e.2 - w.grantedAt :=
        wrap64_sub ⟨by omega, clock.2⟩ ⟨granted, by omega⟩
      rcases looks with gate | screen
      · rw [gate]
        show (Agent.isOpen e.2 (some w)).2 = some w ∨ _
        cases passes : (Agent.isOpen e.2 (some w)).1 with
        | true => exact .inl (isOpen_passes passes)
        | false =>
          rcases isOpen_file e.2 (some w) with same | gone
          · exact .inl same
          · by_cases ended : w.endAt ≤ e.2
            · exact .inr ⟨gone, ended⟩
            · have outside : ¬ (w.start ≤ e.2 ∧ e.2 < w.endAt) := by
                intro inside
                rw [(isOpen_fresh fresh granted later clock.2 day).mpr inside] at passes
                cases passes
              have early : e.2 < w.start := by omega
              rw [Agent.isOpen, if_pos (.inl early), if_neg ended] at gone
              cases gone
      · rw [screen]
        show Agent.status e.2 (some w) = some w ∨ _
        by_cases ended : w.endAt ≤ e.2
        · exact .inr ⟨by simp only [Call.run, Agent.status, if_pos ended], ended⟩
        · refine .inl ?_
          rw [Agent.status, if_neg ended, age, if_neg (by omega)]
    · have gone : e.1.run e.2 s.file = none := by
        rw [absent]
        rcases looks with gate | screen
        · rw [gate]
          rfl
        · rw [screen]
          rfl
      have clock := clock.1
      exact .inr ⟨gone, by omega⟩
  · cases next

/-- The window stored at the acceptance, on the agent's clock. -/
theorem grant_eq {localNow start endAt hqNow : Int} (label : String)
    (clock : 0 ≤ localNow ∧ localNow + maxWindowSecs < 2 ^ 63)
    (opens : -maxWindowSecs ≤ start - hqNow) (proper : start < endAt)
    (closes : endAt - hqNow ≤ maxWindowSecs) :
    (Agent.grant localNow start endAt hqNow label).start =
        max localNow (localNow + (start - hqNow)) ∧
      (Agent.grant localNow start endAt hqNow label).endAt =
        localNow + (endAt - hqNow) := by
  simp only [maxWindowSecs] at clock opens closes
  have first : wrap64 (start - wrap64 (hqNow - localNow)) = localNow + (start - hqNow) :=
    wrap64_skew (by omega) (by omega)
  have last : wrap64 (endAt - wrap64 (hqNow - localNow)) = localNow + (endAt - hqNow) :=
    wrap64_skew (by omega) (by omega)
  have cap : wrap64 (localNow + maxWindowSecs) = localNow + maxWindowSecs := by
    unfold wrap64 maxWindowSecs
    rw [Int.bmod_def]
    omega
  simp only [Agent.grant, first, last, cap]
  constructor
  · split <;> omega
  · rw [if_neg (by unfold maxWindowSecs; omega)]

/-- In every run without session activity the window is open between its stored bounds. -/
theorem isOpen_standing {clocks : Clocks} {proposal : Proposal} {acceptedAt : Int} {agent : State}
    (clock : 0 ≤ acceptedAt + clocks.agent ∧ acceptedAt + clocks.agent + maxWindowSecs < 2 ^ 63)
    (opens : -maxWindowSecs ≤ proposal.start - hqNow clocks proposal)
    (proper : proposal.start < proposal.endAt)
    (closes : proposal.endAt - hqNow clocks proposal ≤ maxWindowSecs) {s : State} {t : Int}
    (run : machine.Runs Inactive (accepted clocks proposal acceptedAt agent) s)
    (later : s.clock ≤ t + clocks.agent) (reading : t + clocks.agent < 2 ^ 63) :
    (Agent.isOpen (t + clocks.agent) s.file).1 = true ↔
      max acceptedAt (acceptedAt + (proposal.start - hqNow clocks proposal)) ≤ t ∧
        t < acceptedAt + (proposal.endAt - hqNow clocks proposal) := by
  let w := Agent.grant (acceptedAt + clocks.agent) proposal.start proposal.endAt
    (hqNow clocks proposal) proposal.label
  have bounds := grant_eq proposal.label clock opens proper closes
  have day : w.endAt ≤ w.grantedAt + maxWindowSecs := by
    show w.endAt ≤ acceptedAt + clocks.agent + maxWindowSecs
    rw [bounds.2]
    omega
  have base : Standing w (accepted clocks proposal acceptedAt agent) :=
    ⟨.inl rfl, Int.le_refl (acceptedAt + clocks.agent)⟩
  have standing : Standing w s := run.invariant (Standing w)
    (fun _ _ _ before looks next => before.step rfl clock.1 day looks next) base
  have since : acceptedAt + clocks.agent ≤ s.clock := standing.later
  have moved : (Agent.isOpen (t + clocks.agent) s.file).1 = true ↔
      w.start ≤ t + clocks.agent ∧ t + clocks.agent < w.endAt := by
    rcases standing.file with stored | ⟨absent, ended⟩
    · rw [stored]
      exact isOpen_fresh rfl clock.1 (Int.le_trans standing.later later) reading day
    · rw [absent]
      constructor
      · intro passes
        cases passes
      · intro inside
        omega
  rw [moved, bounds.1, bounds.2]
  omega

/-- The window that is open is the promised one exactly where the customer accepts within the
second in which the proposal was sent, or the promised window was over by then. -/
theorem promise_kept_iff (clocks : Clocks) (proposal : Proposal) (acceptedAt : Int) (agent : State)
    (delayed : proposal.sentAt ≤ acceptedAt)
    (clock : 0 ≤ acceptedAt + clocks.agent ∧ acceptedAt + clocks.agent + maxWindowSecs < 2 ^ 63)
    (opens : -maxWindowSecs ≤ proposal.start - hqNow clocks proposal)
    (proper : proposal.start < proposal.endAt)
    (closes : proposal.endAt - hqNow clocks proposal ≤ maxWindowSecs) :
    Kept clocks proposal acceptedAt agent ↔
      acceptedAt = proposal.sentAt ∨ proposal.endAt ≤ hqNow clocks proposal := by
  constructor
  · intro kept
    by_contra waited
    have late : proposal.sentAt < acceptedAt := by omega
    have live : hqNow clocks proposal < proposal.endAt := by omega
    have sent : hqNow clocks proposal = proposal.sentAt + clocks.hq := rfl
    obtain ⟨t, last⟩ : ∃ t, t = acceptedAt + (proposal.endAt - hqNow clocks proposal) - 1 :=
      ⟨_, rfl⟩
    have reading : t + clocks.agent < 2 ^ 63 := by omega
    have after : (accepted clocks proposal acceptedAt agent).clock ≤ t + clocks.agent := by
      show acceptedAt + clocks.agent ≤ t + clocks.agent
      omega
    have stored := isOpen_standing clock opens proper closes .refl after reading
    have promised := kept _ t .refl after reading
    have open' : (Agent.isOpen (t + clocks.agent)
        (accepted clocks proposal acceptedAt agent).file).1 = true := by
      refine stored.mpr ?_
      omega
    have inside := promised.mp open'
    omega
  · intro prompt s t run later reading
    rw [isOpen_standing clock opens proper closes run later reading]
    have sent : hqNow clocks proposal = proposal.sentAt + clocks.hq := rfl
    omega

/-- An hour that starts an hour after it was proposed, and the agent's clock is a day behind. -/
def oneHour : Proposal where
  start := 1000000 + 3600
  endAt := 1000000 + 7200
  label := "1h"
  sentAt := 1000000

/-- The clocks of that hour. -/
def dayBehind : Clocks where
  hq := 0
  agent := -86400

/-- An agent without a window. -/
def windowless : State where
  file := none
  clock := 0
  log := []

/-- The hour is kept where it is accepted at once. -/
theorem promise_kept_at_once : Kept dayBehind oneHour 1000000 windowless :=
  (promise_kept_iff dayBehind oneHour 1000000 windowless (by decide) (by decide) (by decide)
    (by decide) (by decide)).mpr (.inl rfl)

/-- Accepted after ten minutes, the hour starts and ends ten minutes late. -/
theorem promise_moved : ¬ Kept dayBehind oneHour 1000600 windowless := by
  intro kept
  have promised := kept _ 1003600 .refl (by decide) (by decide)
  have open' := promised.mpr (by decide)
  have closed : (Agent.isOpen (1003600 + dayBehind.agent)
    (accepted dayBehind oneHour 1000600 windowless).file).1 = false := by decide +kernel
  rw [closed] at open'
  cases open'

end ChainRemote.Agent.SchedPromise
