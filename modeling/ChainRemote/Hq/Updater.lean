import ChainRemote.Agent.PushChecks
import ChainRemote.Lib.Machine

/-!
# The updater of the headquarters app

`start_in_service` of `chainremote_updater.rs` looks every two seconds whether an update cycle is
due: at once when the user asks for it, when a push signal changes, and on a schedule. A cycle
fetches the release, keeps the installer that it downloaded and starts it unless a remote session
is active. Every reading of the clock is a step of its own, and time passes between any two.

`scheduled` and `applied` are history.
-/

namespace ChainRemote.Hq.Updater

open Lib Agent

/-- `FULL_CHECK_INTERVAL` in milliseconds. -/
def fullCheckInterval : Nat := 24 * 60 * 60 * 1000

/-- `PUSH_POLL_INTERVAL`. -/
def pushPollInterval : Nat := 5 * 60 * 1000

/-- `DEFERRED_RETRY_INTERVAL`. -/
def deferredRetryInterval : Nat := 15 * 60 * 1000

/-- `FIRST_CHECK_DELAY`. -/
def firstCheckDelay : Nat := 5 * 60 * 1000

/-- `TICK_INTERVAL`. -/
def tickInterval : Nat := 2000

/-- The fields of `LatestRelease` that a cycle reads. -/
structure LatestRelease where
  version : String
  url : String
  sha256 : String
deriving DecidableEq, Repr

/-- `PushSignal`. -/
structure PushSignal where
  version : String
  timestamp : String
deriving DecidableEq, Repr

/-- `CycleResult`. -/
inductive CycleResult
  | applied
  | alreadyLatest
  | deferred
deriving DecidableEq, Repr

/-- An installer file, by its content. -/
abbrev Installer := List UInt8

/-- What a cycle meets. -/
structure Attempt where
  /-- `fetch_latest`. -/
  latest : Option LatestRelease
  /-- The body that `download_to` stores. -/
  download : Option Installer
  /-- `Connection::alive_conns` is not empty. -/
  alive : Bool
  /-- `spawn_silent_install` succeeds. -/
  spawned : Bool
deriving DecidableEq

/-- What does not change while the service runs. -/
structure Program where
  /-- `CHAINREMOTE_VERSION`. -/
  current : String
  /-- The SHA-256 digest as lower-case text. -/
  digest : Installer → String

variable (program : Program)

/-- `verify_sha256`: whether the file has the digest, and the file afterwards. A digest that is no
digest leaves the file; a file with another digest is removed. -/
def verifySha256 (expected : String) (file : Installer) : Bool × Option Installer :=
  if ¬ isValidSha256Hex expected then (false, some file)
  else if program.digest file = String.ofList ((rustTrim expected).map Char.toLower) then
    (true, some file)
  else (false, none)

/-- The pending file, downloaded again unless it has the digest of the release: whether it has it
now, and the file. -/
def obtainInstaller (latest : LatestRelease) (attempt : Attempt) (pending : Option Installer) :
    Bool × Option Installer :=
  let kept := match pending with
    | none => (false, none)
    | some file => verifySha256 program latest.sha256 file
  if kept.1 then kept
  else
    match attempt.download with
    | none => (false, kept.2)
    | some file => verifySha256 program latest.sha256 file

/-- The last step of a cycle: the installer is there and verified. -/
def apply (attempt : Attempt) : Option CycleResult :=
  if attempt.alive then some .deferred
  else if attempt.spawned then some .applied
  else none

/-- `check_and_apply_once` with the pending file: its result, `none` for an error, and the pending
file afterwards. -/
def checkAndApplyOnce (attempt : Attempt) (pending : Option Installer) :
    Option CycleResult × Option Installer :=
  match attempt.latest with
  | none => (none, pending)
  | some latest =>
    match parseVersion program.current, parseVersion latest.version with
    | some current, some new =>
      if ¬ isNewer new current then (some .alreadyLatest, pending)
      else
        let got := obtainInstaller program latest attempt pending
        (if got.1 then apply attempt else none, got.2)
    | _, _ => (none, pending)

/-- Why a cycle runs. -/
inductive Channel
  | manual
  | push
  | scheduled
deriving DecidableEq, Repr

/-- Where the loop stands. -/
inductive Phase
  /-- `thread::sleep` until then. -/
  | asleep (wakeAt : Nat)
  /-- It looks for the manual flag. -/
  | top
  /-- A cycle is about to start. -/
  | due (channel : Channel)
  /-- `check_and_apply_once` runs. -/
  | cycle (channel : Channel) (startedAt : Nat)
  /-- It judges the age of the last poll. -/
  | push
  /-- `try_fetch_push` runs. -/
  | fetching
  /-- It judges the age of the last full check. -/
  | full
  /-- It judges the age of the last deferral. -/
  | retry (needFull : Bool)
  /-- A scheduled cycle failed and its second time is to be noted. -/
  | failed
  | exited
deriving DecidableEq, Repr

/-- A scheduled cycle that ended. -/
structure Cycle where
  startedAt : Nat
  /-- Its result; `none` for an error. -/
  result : Option CycleResult
deriving DecidableEq, Repr

/-- The variables of the loop, the clock in milliseconds, the pending file and the history. -/
structure State where
  phase : Phase
  now : Nat
  pending : Option Installer
  lastFullCheck : Option Nat
  lastDeferredRetry : Option Nat
  lastPushTimestamp : Option String
  lastPushPoll : Option Nat
  /-- The scheduled cycles. -/
  scheduled : List Cycle
  /-- Some cycle returned `Applied`. -/
  applied : Bool
deriving DecidableEq

/-- `t.elapsed() >= interval`. -/
def elapsed (now interval at' : Nat) : Bool := decide (interval ≤ now - at')

/-- A step of the loop. -/
inductive Event
  | pass (milliseconds : Nat)
  | wake
  /-- Whether the manual flag is there. -/
  | look (flag : Bool)
  /-- A cycle starts. -/
  | startCycle
  /-- A cycle ends. -/
  | finish (attempt : Attempt)
  | judgePush
  | fetched (signal : Option PushSignal)
  | judgeFull
  | judgeRetry
  | noteFailure
deriving DecidableEq

/-- What follows a cycle of a channel. -/
def State.after (s : State) (startedAt : Nat) : Channel → Option CycleResult → State
  | _, some .applied => { s with phase := .exited, applied := true }
  | .manual, some .alreadyLatest => { s with phase := .push, lastFullCheck := some s.now }
  | .manual, some .deferred => { s with phase := .push, lastDeferredRetry := some s.now }
  | .manual, none => { s with phase := .push }
  | .push, _ => { s with phase := .full }
  | .scheduled, some .alreadyLatest =>
    { s with
      phase := .asleep (s.now + tickInterval)
      lastFullCheck := some s.now
      lastDeferredRetry := none
      scheduled := { startedAt, result := some .alreadyLatest } :: s.scheduled }
  | .scheduled, some .deferred =>
    { s with
      phase := .asleep (s.now + tickInterval)
      lastDeferredRetry := some s.now
      scheduled := { startedAt, result := some .deferred } :: s.scheduled }
  | .scheduled, none =>
    { s with
      phase := .failed
      lastFullCheck := some s.now
      scheduled := { startedAt, result := none } :: s.scheduled }

/-- One step; `none` where the event cannot happen. -/
def step (s : State) : Event → Option State
  | .pass milliseconds => some { s with now := s.now + milliseconds }
  | .wake =>
    match s.phase with
    | .asleep wakeAt => if wakeAt ≤ s.now then some { s with phase := .top } else none
    | _ => none
  | .look flag =>
    match s.phase with
    | .top => some { s with phase := if flag then .due .manual else .push }
    | _ => none
  | .startCycle =>
    match s.phase with
    | .due channel => some { s with phase := .cycle channel s.now }
    | _ => none
  | .finish attempt =>
    match s.phase with
    | .cycle channel startedAt =>
      let outcome := checkAndApplyOnce program attempt s.pending
      some ({ s with pending := outcome.2 }.after startedAt channel outcome.1)
    | _ => none
  | .judgePush =>
    match s.phase with
    | .push =>
      if s.lastPushPoll.all (elapsed s.now pushPollInterval) then
        some { s with phase := .fetching, lastPushPoll := some s.now }
      else some { s with phase := .full }
    | _ => none
  | .fetched signal =>
    match s.phase with
    | .fetching =>
      match signal with
      | none => some { s with phase := .full }
      | some push =>
        if push.timestamp ≠ "" ∧ push.version ≠ "" ∧ s.lastPushTimestamp ≠ some push.timestamp then
          some { s with phase := .due .push, lastPushTimestamp := some push.timestamp }
        else some { s with phase := .full }
    | _ => none
  | .judgeFull =>
    match s.phase with
    | .full =>
      some { s with phase := .retry (s.lastFullCheck.all (elapsed s.now fullCheckInterval)) }
    | _ => none
  | .judgeRetry =>
    match s.phase with
    | .retry needFull =>
      if needFull || s.lastDeferredRetry.any (elapsed s.now deferredRetryInterval) then
        some { s with phase := .due .scheduled }
      else some { s with phase := .asleep (s.now + tickInterval) }
    | _ => none
  | .noteFailure =>
    match s.phase with
    | .failed =>
      some { s with
        phase := .asleep (s.now + tickInterval)
        lastDeferredRetry := some s.now }
    | _ => none

/-- The thread as it starts. -/
def boot (now : Nat) (pending : Option Installer) : State where
  phase := .asleep (now + firstCheckDelay)
  now := now
  pending := pending
  lastFullCheck := none
  lastDeferredRetry := none
  lastPushTimestamp := none
  lastPushPoll := none
  scheduled := []
  applied := false

/-- The update thread. -/
def updater : Machine State Event where
  start s := ∃ now pending, s = boot now pending
  step := step program

section Cycle

variable {program}

/-- A verified file is the one that was read, with the digest. -/
theorem verifySha256_eq_true {expected : String} {file : Installer}
    (passed : (verifySha256 program expected file).1 = true) :
    (verifySha256 program expected file).2 = some file ∧
      program.digest file = String.ofList ((rustTrim expected).map Char.toLower) := by
  unfold verifySha256 at passed ⊢
  split at passed
  · cases passed
  · rename_i valid
    split at passed
    · rename_i same
      rw [if_neg valid, if_pos same]
      exact ⟨rfl, same⟩
    · cases passed

/-- An installer that was obtained has the digest of the release. -/
theorem obtainInstaller_eq_true {latest : LatestRelease} {attempt : Attempt}
    {pending : Option Installer} (got : (obtainInstaller program latest attempt pending).1 = true) :
    ∃ file, (obtainInstaller program latest attempt pending).2 = some file ∧
      program.digest file = String.ofList ((rustTrim latest.sha256).map Char.toLower) := by
  have fresh : ∀ kept : Option Installer,
      (match attempt.download with
        | none => (false, kept)
        | some file => verifySha256 program latest.sha256 file).1 = true →
      ∃ file, (match attempt.download with
        | none => (false, kept)
        | some file => verifySha256 program latest.sha256 file).2 = some file ∧
        program.digest file = String.ofList ((rustTrim latest.sha256).map Char.toLower) := by
    intro kept passed
    cases downloaded : attempt.download with
    | none => simp [downloaded] at passed
    | some file =>
      simp only [downloaded] at passed ⊢
      exact ⟨file, verifySha256_eq_true passed⟩
  unfold obtainInstaller at got ⊢
  cases pending with
  | none => exact fresh none got
  | some file =>
    simp only at got ⊢
    by_cases kept : (verifySha256 program latest.sha256 file).1 = true
    · rw [if_pos kept]
      exact ⟨file, verifySha256_eq_true kept⟩
    · rw [if_neg kept] at got ⊢
      exact fresh _ got

/-- An installer is only started once it has the digest of a newer release, and never while a
remote session is active. -/
theorem checkAndApplyOnce_applied {attempt : Attempt} {pending after : Option Installer}
    (done : checkAndApplyOnce program attempt pending = (some .applied, after)) :
    attempt.alive = false ∧ ∃ latest ∈ attempt.latest, ∃ file, after = some file ∧
      program.digest file = String.ofList ((rustTrim latest.sha256).map Char.toLower) := by
  unfold checkAndApplyOnce at done
  split at done
  · cases done
  · rename_i latest fetched
    split at done
    · split at done
      · cases done
      · simp only [Prod.mk.injEq] at done
        obtain ⟨applied, same⟩ := done
        split at applied
        · rename_i got
          obtain ⟨file, stored, digest⟩ := obtainInstaller_eq_true got
          refine ⟨?_, latest, fetched, file, same.symm.trans stored, digest⟩
          cases alive : attempt.alive with
          | false => rfl
          | true => simp [apply, alive] at applied
        · cases applied
    · cases done

end Cycle

end ChainRemote.Hq.Updater
