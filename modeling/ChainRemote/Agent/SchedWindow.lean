import Mathlib.Algebra.Ring.Int.Defs
import Mathlib.Algebra.Group.Nat.Defs

/-!
# The scheduled-access window of an agent

`chainremote_sched.rs` keeps one marker file with the window the customer approved.
The functions here take the content of that file (`none` when it is absent) and the
agent clock in seconds, and return its content afterwards. Times are `i64`; every
sum and difference the source forms is reduced to 64 bits.
-/

namespace ChainRemote.Agent

/-- The two's-complement reading of an `i64` result. -/
def wrap64 (x : Int) : Int := Int.bmod x (2 ^ 64)

/-- `MAX_WINDOW_SECS`. -/
def maxWindowSecs : Int := 24 * 60 * 60

/-- `IDLE_CLOSE_SECS`. -/
def idleCloseSecs : Int := 15 * 60

/-- `SchedWindow`, the content of the marker file. -/
structure SchedWindow where
  /-- First second of the window, on the agent's clock. -/
  start : Int
  /-- End of the window, on the agent's clock. -/
  endAt : Int
  /-- When the customer approved it, on the agent's clock. -/
  grantedAt : Int
  /-- The text the customer was shown. -/
  label : String
  /-- When the last admitted session ended. -/
  lastSessionEnd : Option Int
  /-- An admitted session is connected. -/
  inSession : Bool
deriving DecidableEq, Repr

/-- `grant`: the window written when the customer accepts. -/
def grant (localNow start endAt hqNow : Int) (label : String) : SchedWindow :=
  let skew := wrap64 (hqNow - localNow)
  let first := wrap64 (start - skew)
  let last := wrap64 (endAt - skew)
  let cap := wrap64 (localNow + maxWindowSecs)
  { start := if first < localNow then localNow else first
    endAt := if cap < last then cap else last
    grantedAt := localNow
    label
    lastSessionEnd := none
    inSession := false }

/-- `is_open`: whether a login passes without a click, and the file afterwards. -/
def isOpen (t : Int) : Option SchedWindow → Bool × Option SchedWindow
  | none => (false, none)
  | some w =>
    if t < w.start ∨ w.endAt ≤ t then
      (false, if w.endAt ≤ t then none else some w)
    else if maxWindowSecs ≤ wrap64 (t - w.grantedAt) then (false, none)
    else
      match w.inSession, w.lastSessionEnd with
      | false, some last =>
        if idleCloseSecs ≤ wrap64 (t - last) then (false, none) else (true, some w)
      | _, _ => (true, some w)

/-- `status`: the pending or open window. It is also the file afterwards, because an
expired marker is removed and any other is left alone. -/
def status (t : Int) : Option SchedWindow → Option SchedWindow
  | none => none
  | some w =>
    if w.endAt ≤ t then none
    else if maxWindowSecs ≤ wrap64 (t - w.grantedAt) then none
    else some w

/-- `note_session_start`. -/
def noteSessionStart (file : Option SchedWindow) : Option SchedWindow :=
  file.map fun w => { w with inSession := true }

/-- `note_session_end`. -/
def noteSessionEnd (t : Int) (file : Option SchedWindow) : Option SchedWindow :=
  file.map fun w => { w with inSession := false, lastSessionEnd := some t }

/-- `handle_sched_close`: the marker file and the last-handled request afterwards. -/
def handleSchedClose (requestedAt : Nat) (file : Option SchedWindow) (done : Option Nat) :
    Option SchedWindow × Option Nat :=
  if done = some requestedAt then (file, done) else (none, some requestedAt)

/-- The `schedOpenUntil` field of a regular heartbeat: the end of the window, or zero. -/
def schedReport (t : Int) (file : Option SchedWindow) : Int :=
  ((status t file).map SchedWindow.endAt).getD 0

/-- Consulting the gate leaves the stored window or removes it. -/
theorem isOpen_file (t : Int) (file : Option SchedWindow) :
    (isOpen t file).2 = file ∨ (isOpen t file).2 = none := by
  cases file with
  | none => exact .inl rfl
  | some w =>
    simp only [isOpen]
    split
    · split
      · exact .inr rfl
      · exact .inl rfl
    · split
      · exact .inr rfl
      · split
        · split
          · exact .inr rfl
          · exact .inl rfl
        · exact .inl rfl

/-- A login that passes leaves the stored window. -/
theorem isOpen_passes {t : Int} {file : Option SchedWindow} (passes : (isOpen t file).1 = true) :
    (isOpen t file).2 = file := by
  cases isOpen_file t file with
  | inl same => exact same
  | inr gone =>
    cases file with
    | none => exact gone
    | some w =>
      simp only [isOpen] at passes gone ⊢
      split at passes
      · cases passes
      · split at passes
        · cases passes
        · split at passes
          · split at passes
            · cases passes
            · simp_all
          · simp_all

/-- A login refused after the window started removes the marker. -/
theorem isOpen_refused {t : Int} {w : SchedWindow} (refused : (isOpen t (some w)).1 = false)
    (started : w.start ≤ t) : (isOpen t (some w)).2 = none := by
  simp only [isOpen] at refused ⊢
  split at refused
  · rename_i outside
    have ended : w.endAt ≤ t := by omega
    simp [ended]
  · rename_i inside
    rw [if_neg inside]
    split at refused
    · rename_i old
      rw [if_pos old]
    · rename_i young
      rw [if_neg young]
      split at refused
      · split at refused
        · rename_i idle
          rw [if_pos idle]
        · cases refused
      · cases refused

/-- A login passes exactly inside the stored bounds, within a day of the approval, and
unless the window has been idle for the close time. -/
theorem isOpen_iff (t : Int) (w : SchedWindow) :
    (isOpen t (some w)).1 = true ↔
      (w.start ≤ t ∧ t < w.endAt) ∧ wrap64 (t - w.grantedAt) < maxWindowSecs ∧
        (w.inSession = false → ∀ last, w.lastSessionEnd = some last →
          wrap64 (t - last) < idleCloseSecs) := by
  simp only [isOpen]
  split
  · rename_i outside
    constructor
    · intro passes
      cases passes
    · intro inside
      omega
  · rename_i inside
    split
    · rename_i old
      constructor
      · intro passes
        cases passes
      · intro fresh
        omega
    · rename_i fresh
      have bounds : w.start ≤ t ∧ t < w.endAt := by omega
      have young : wrap64 (t - w.grantedAt) < maxWindowSecs := by omega
      cases connected : w.inSession with
      | true => simp [bounds, young]
      | false =>
        cases ended : w.lastSessionEnd with
        | none => simp [bounds, young]
        | some last =>
          by_cases idle : idleCloseSecs ≤ wrap64 (t - last)
          · simp [idle, Int.not_lt.mpr idle]
          · simp [idle, bounds, young, Int.not_le.mp idle]

/-- A difference of two clock readings does not wrap. -/
theorem wrap64_sub {t u : Int} (clock : 0 ≤ t ∧ t < 2 ^ 63) (other : 0 ≤ u ∧ u < 2 ^ 63) :
    wrap64 (t - u) = t - u := by
  unfold wrap64
  rw [Int.bmod_def]
  omega

/-- The written window starts no earlier than the approval and ends within a day of it,
whatever the three numbers of the proposal are. -/
theorem grant_bounds {localNow : Int} (nonneg : 0 ≤ localNow) (bounded : localNow < 2 ^ 63)
    (start endAt hqNow : Int) (label : String) :
    localNow ≤ (grant localNow start endAt hqNow label).start ∧
      (grant localNow start endAt hqNow label).endAt ≤ localNow + maxWindowSecs := by
  have cap : wrap64 (localNow + maxWindowSecs) ≤ localNow + maxWindowSecs := by
    unfold wrap64 maxWindowSecs
    rw [Int.bmod_def]
    omega
  simp only [grant]
  constructor
  · split
    · exact Int.le_refl _
    · omega
  · split
    · exact cap
    · omega

/-- A reported window is the stored one, and it has not ended. -/
theorem status_some {t : Int} {file : Option SchedWindow} {w : SchedWindow}
    (reported : status t file = some w) : file = some w ∧ t < w.endAt := by
  cases file with
  | none => cases reported
  | some v =>
    simp only [status] at reported
    split at reported
    · cases reported
    · split at reported
      · cases reported
      · rename_i unended _
        obtain rfl := Option.some.inj reported
        exact ⟨rfl, Int.not_le.mp unended⟩

/-- Asking for the status leaves the stored window or removes it. -/
theorem status_file (t : Int) (file : Option SchedWindow) :
    status t file = file ∨ status t file = none := by
  cases reported : status t file with
  | none => exact .inr rfl
  | some w => exact .inl (status_some reported).1.symm

/-- Handling a close request leaves the stored window or removes it. -/
theorem handleSchedClose_file (requestedAt : Nat) (file : Option SchedWindow)
    (done : Option Nat) :
    (handleSchedClose requestedAt file done).1 = file ∨
      (handleSchedClose requestedAt file done).1 = none := by
  unfold handleSchedClose
  split
  · exact .inl rfl
  · exact .inr rfl

/-- A report is never negative, because the agent clock is not. -/
theorem schedReport_nonneg {t : Int} (clock : 0 ≤ t) (file : Option SchedWindow) :
    0 ≤ schedReport t file := by
  unfold schedReport
  cases reported : status t file with
  | none => exact Int.le_refl 0
  | some w =>
    have unended := (status_some reported).2
    simp only [Option.map_some, Option.getD_some]
    omega

/-- Session bookkeeping keeps whether a window is stored, and its end. -/
theorem noteSessionStart_end (file : Option SchedWindow) :
    (noteSessionStart file).map SchedWindow.endAt = file.map SchedWindow.endAt := by
  cases file <;> rfl

/-- Session bookkeeping at disconnect keeps the stored end as well. -/
theorem noteSessionEnd_end (t : Int) (file : Option SchedWindow) :
    (noteSessionEnd t file).map SchedWindow.endAt = file.map SchedWindow.endAt := by
  cases file <;> rfl

end ChainRemote.Agent
