import Mathlib.Logic.Function.Basic
import ChainRemote.Lib.Machine
import ChainRemote.Link.PushAccepted
import ChainRemote.Panel.PushLifecycle

/-!
# The push agent and its queue

The polling thread of `chainremote_push_agent.rs` against the table `pending_updates`. A tick
sends the report that is left over, asks for a push, judges it, downloads and launches the
installer, and reports a result. Every persisted write and every request is a step of its
own, so that the service may stop between any two of them. The panel may call any of its
functions at any time; a report that reaches the server after the agent gave up on it is one
of these calls.

`launches`, `begun` and `acked` are history: the installers that were launched, the calls of
`finish_report`, and the reports the agent saw acknowledged.
-/

namespace ChainRemote.Link.PushAgent

open Lib Agent Panel PushAccepted

/-- `REPORT_RETRY`. -/
def reportRetry : Nat := 3

/-- `DL_MAX_ATTEMPTS`. -/
def dlMaxAttempts : Nat := 5

/-- `INSTALL_VERIFY_SECS`. -/
def installVerifySecs : Nat := 30 * 60

/-- The `status` of a report. -/
inductive Status
  | applied
  | failed
deriving DecidableEq, Repr

/-- The arguments of `finish_report`, which are also what the slot `PENDING_REPORT_KEY` holds. -/
structure Report where
  id : Nat
  status : Status
  reason : String
deriving DecidableEq, Repr

/-- What a report says, its reason apart. -/
def Report.pair (r : Report) : Nat × Status := (r.id, r.status)

/-- Where `finish_report` is. -/
inductive Stage
  /-- Before `clear_first_seen`. -/
  | firstSeen
  /-- Before `clear_dl_attempt`. -/
  | dlAttempt
  /-- Before `clear_install_verify`. -/
  | verify
  /-- Before the given attempt of `report_status`. -/
  | post (attempt : Nat)
  /-- Acknowledged, before `clear_pending_report`. -/
  | acked
  /-- All attempts failed, before `save_pending_report`. -/
  | unsent
deriving DecidableEq, Repr

/-- Where the polling thread is. -/
inductive Phase
  /-- Between two ticks. -/
  | idle
  /-- `flush_pending_report` sends what the slot held. -/
  | flushing (report : Report)
  /-- The flushed report is acknowledged, the slot not emptied yet. -/
  | flushed
  /-- Before `fetch_pending`. -/
  | fetching
  /-- A push was served. -/
  | judging (response : PendingResponse Nat)
  /-- Every guard has passed. -/
  | ready (response : PendingResponse Nat)
  /-- The installer is there. -/
  | launching (response : PendingResponse Nat)
  /-- The installer is launched, the marker not written yet. -/
  | launched (response : PendingResponse Nat)
  /-- Inside `finish_report`. -/
  | finishing (report : Report) (stage : Stage)
deriving DecidableEq, Repr

/-- The phases in which no report and no launch is half done. -/
def Phase.settled : Phase → Bool
  | .launched _ | .finishing _ _ | .flushed => false
  | _ => true

/-- A call of `finish_report`, with the target of its push and the version that ran. -/
structure Begun where
  report : Report
  targetVersion : String
  version : String
deriving DecidableEq, Repr

/-- The agent with its persisted options, and the queue. -/
structure State where
  /-- `CHAINREMOTE_VERSION` of the running service. -/
  version : String
  /-- What this tick read as its device id. -/
  remoteId : String
  /-- What this tick read as its token. -/
  token : String
  phase : Phase
  /-- `FIRST_SEEN_PREFIX`, by push. -/
  firstSeen : Nat → Option Nat
  /-- `DL_ATTEMPT_PREFIX`, by push. -/
  dlAttempt : Nat → Option Nat
  /-- `VERIFY_PREFIX`, by push. -/
  verify : Nat → Option Nat
  /-- `PENDING_REPORT_KEY`. -/
  slot : Option Report
  /-- `pending_updates`. -/
  table : PushTable
  launches : List Nat
  begun : List Begun
  acked : List (Nat × Status)

/-- What the guards of a tick read: the clock for the marker, the local hour, the clock for
the delay, and the number of open connections. -/
structure Reading where
  verifyNow : Nat
  hour : Nat
  now : Nat
  aliveConns : Nat
deriving DecidableEq, Repr

/-- How the installer is obtained. -/
inductive Obtained
  /-- The directory cannot be created. -/
  | noDirectory
  /-- The file is there already and its hash is right. -/
  | reused
  | downloadFailed (error : String)
  | shaMismatch (error : String)
  /-- Downloaded, and the hash is right. -/
  | verified
deriving DecidableEq, Repr

/-- What becomes of a request for `report_status` on its way. -/
inductive Delivery
  /-- It does not reach the route, or the route refuses it. -/
  | lost
  /-- The route handles it; its answer may be lost. -/
  | arrives (customers : List Customer) (now : Nat) (answered : Bool)

/-- A step of the agent, the network, the service manager or the panel. -/
inductive Event
  /-- A tick begins. -/
  | tick (remoteId token : String)
  /-- The agent sends a report. -/
  | post (delivery : Delivery)
  /-- The agent asks for a push and gets the answer. -/
  | fetch (customers : List Customer)
  /-- The request or its answer is lost. -/
  | fetchFails
  | judge (reading : Reading)
  /-- The installer is obtained, or not. -/
  | prepare (outcome : Obtained)
  /-- `spawn_silent_install` succeeds. -/
  | launch
  | launchFails (error : String)
  /-- The marker is written. -/
  | setVerify (now : Nat)
  /-- The next persisted write of `finish_report` or `flush_pending_report`. -/
  | write
  /-- The service stops and starts again, possibly another version. -/
  | restart (version : String)
  /-- A call on the panel. -/
  | panel (call : PushLifecycle.Event)

/-- What the judgement of a served push comes to. -/
inductive Verdict
  /-- Wait for the next tick. -/
  | wait
  /-- Call `finish_report`. -/
  | finish (status : Status) (reason : String)
  /-- The guards on the push and its marker have passed. -/
  | proceed
deriving DecidableEq, Repr

section Steps

variable (hash : String → String) (delayHash : Nat → Nat)

/-- `compute_delay`, over the hash of the push id. -/
def computeDelay (pushId maxSec : Nat) : Nat := if maxSec = 0 then 0 else delayHash pushId % maxSec

/-- The guards of `tick` up to the hour window. -/
def State.verdict (s : State) (response : PendingResponse Nat) (reading : Reading) : Verdict :=
  match isNewerStr response.targetVersion s.version with
  | none => .finish .failed "unparseable target_version"
  | some false => .finish .applied "already up to date"
  | some true =>
    match s.verify response.id with
    | some deadline =>
      if reading.verifyNow < deadline then .wait
      else .finish .failed ("installer ran but version is still v" ++ s.version ++ " after " ++
        toString installVerifySecs ++ "s")
    | none =>
      if !isValidSha256Hex response.assetSha256 then
        .finish .failed "invalid asset_sha256 in push manifest"
      else if !withinBusinessWindow response.windowStartHour response.windowEndHour reading.hour then
        .wait
      else .proceed

/-- `finish_report` is called. -/
def State.finishReport (s : State) (response : PendingResponse Nat) (status : Status)
    (reason : String) : State :=
  let report : Report := { id := response.id, status, reason }
  { s with
    phase := .finishing report .firstSeen
    begun := { report, targetVersion := response.targetVersion, version := s.version } :: s.begun }

/-- `first_seen_at` and the guards after it. -/
def State.delayed (s : State) (response : PendingResponse Nat) (reading : Reading) : State :=
  let firstSeen := (s.firstSeen response.id).getD reading.now
  let stored := { s with firstSeen := Function.update s.firstSeen response.id (some firstSeen) }
  if reading.now < firstSeen + computeDelay delayHash response.id response.randomizeMaxSec then
    { stored with phase := .idle }
  else if reading.aliveConns ≠ 0 then { stored with phase := .idle }
  else { stored with phase := .ready response }

/-- A failed download: `bump_dl_attempt`, and a report after the last attempt. -/
def State.attemptFailed (s : State) (response : PendingResponse Nat) (msg : String) : State :=
  let n := (s.dlAttempt response.id).getD 0 + 1
  let bumped := { s with dlAttempt := Function.update s.dlAttempt response.id (some n) }
  if n < dlMaxAttempts then { bumped with phase := .idle }
  else bumped.finishReport response .failed (msg ++ " (after " ++ toString n ++ " attempts)")

/-- The download and the check of its hash. -/
def State.obtained (s : State) (response : PendingResponse Nat) : Obtained → State
  | .noDirectory => { s with phase := .idle }
  | .reused => { s with phase := .launching response }
  | .downloadFailed error => s.attemptFailed response ("download failed: " ++ error)
  | .shaMismatch error =>
    s.attemptFailed response ("sha mismatch (manifest expected=" ++
      String.ofList (rustTrim response.assetSha256) ++ "): " ++ error)
  | .verified =>
    { s with
      dlAttempt := Function.update s.dlAttempt response.id none
      phase := .launching response }

/-- The route `POST /api/customers/pending-update`. -/
def postReport (customers : List Customer) (now : Nat) (remoteId token : String) (r : Report)
    (t : PushTable) : PushTable × Bool :=
  let remoteId := jsTrim remoteId
  let reason := jsTrim r.reason
  if remoteId = "" then (t, false)
  else
    match r.status with
    | .applied => markApplied customers now hash r.id remoteId token t
    | .failed =>
      markFailed customers now hash r.id remoteId token (if reason = "" then "unknown" else reason) t

/-- `report_status`: the table afterwards, and whether the agent sees a success. -/
def State.reportStatus (s : State) (r : Report) : Delivery → PushTable × Bool
  | .lost => (s.table, false)
  | .arrives customers now answered =>
    let done := postReport hash customers now s.remoteId s.token r s.table
    (done.1, done.2 && answered)

/-- The push that the route `GET /api/customers/pending-update` serves, where it decodes. -/
def State.served (s : State) (customers : List Customer) : Option (PendingResponse Nat) :=
  if jsTrim s.remoteId = "" then none
  else (getPendingForAgent customers hash (jsTrim s.remoteId) s.token s.table).bind decode

/-- The next persisted write. -/
def State.written (s : State) : Option State :=
  match s.phase with
  | .flushed => some { s with slot := none, phase := .fetching }
  | .finishing r .firstSeen =>
    some { s with
      firstSeen := Function.update s.firstSeen r.id none
      phase := .finishing r .dlAttempt }
  | .finishing r .dlAttempt =>
    some { s with
      dlAttempt := Function.update s.dlAttempt r.id none
      phase := .finishing r .verify }
  | .finishing r .verify =>
    some { s with
      verify := Function.update s.verify r.id none
      phase := .finishing r (.post 1) }
  | .finishing _ .acked => some { s with slot := none, phase := .idle }
  | .finishing r .unsent => some { s with slot := some r, phase := .idle }
  | _ => none

/-- The agent sends the report it has in hand. -/
def State.posted (s : State) (delivery : Delivery) : Option State :=
  match s.phase with
  | .flushing r =>
    let done := s.reportStatus hash r delivery
    if done.2 then
      some { s with table := done.1, acked := r.pair :: s.acked, phase := .flushed }
    else some { s with table := done.1, phase := .fetching }
  | .finishing r (.post attempt) =>
    let done := s.reportStatus hash r delivery
    if done.2 then
      some { s with table := done.1, acked := r.pair :: s.acked, phase := .finishing r .acked }
    else if attempt < reportRetry then
      some { s with table := done.1, phase := .finishing r (.post (attempt + 1)) }
    else some { s with table := done.1, phase := .finishing r .unsent }
  | _ => none

/-- One step of the system; `none` where the event cannot happen. -/
def step (s : State) : Event → Option State
  | .tick remoteId token =>
    if s.phase = .idle then
      if remoteId = "" ∨ token = "" then some s
      else
        match s.slot with
        | none => some { s with remoteId, token, phase := .fetching }
        | some r => some { s with remoteId, token, phase := .flushing r }
    else none
  | .post delivery => s.posted hash delivery
  | .fetch customers =>
    if s.phase = .fetching then
      match s.served hash customers with
      | none => some { s with phase := .idle }
      | some response => some { s with phase := .judging response }
    else none
  | .fetchFails => if s.phase = .fetching then some { s with phase := .idle } else none
  | .judge reading =>
    match s.phase with
    | .judging response =>
      match s.verdict response reading with
      | .wait => some { s with phase := .idle }
      | .finish status reason => some (s.finishReport response status reason)
      | .proceed => some (s.delayed delayHash response reading)
    | _ => none
  | .prepare outcome =>
    match s.phase with
    | .ready response => some (s.obtained response outcome)
    | _ => none
  | .launch =>
    match s.phase with
    | .launching response =>
      some { s with launches := response.id :: s.launches, phase := .launched response }
    | _ => none
  | .launchFails error =>
    match s.phase with
    | .launching response => some (s.finishReport response .failed error)
    | _ => none
  | .setVerify now =>
    match s.phase with
    | .launched response =>
      some { s with
        verify := Function.update s.verify response.id (some (now + installVerifySecs))
        phase := .idle }
    | _ => none
  | .write => s.written
  | .restart version => some { s with version, phase := .idle }
  | .panel call => some { s with table := call.after hash s.table }

/-- A fresh agent over any queue. -/
structure Start (s : State) : Prop where
  phase : s.phase = .idle
  firstSeen : ∀ id, s.firstSeen id = none
  dlAttempt : ∀ id, s.dlAttempt id = none
  verify : ∀ id, s.verify id = none
  slot : s.slot = none
  launches : s.launches = []
  begun : s.begun = []
  acked : s.acked = []

/-- The agent and its queue. -/
def system : Machine State Event where
  start := Start
  step := step hash delayHash

/-- The report that a step starts. -/
def State.begins (s : State) : Event → Option (Nat × Status)
  | .judge reading =>
    match s.phase with
    | .judging response =>
      match s.verdict response reading with
      | .finish status _ => some (response.id, status)
      | _ => none
    | _ => none
  | .prepare (.downloadFailed _) | .prepare (.shaMismatch _) =>
    match s.phase with
    | .ready response =>
      if (s.dlAttempt response.id).getD 0 + 1 < dlMaxAttempts then none
      else some (response.id, .failed)
    | _ => none
  | .launchFails _ =>
    match s.phase with
    | .launching response => some (response.id, .failed)
    | _ => none
  | _ => none

/-- What every step but a panel call and a report leaves as it was. -/
structure Same (s t : State) : Prop where
  version : t.version = s.version
  slot : t.slot = s.slot
  launches : t.launches = s.launches
  begun : t.begun = s.begun
  acked : t.acked = s.acked
  table : ∀ row ∈ s.table.rows, ∃ later ∈ t.table.rows, PushLifecycle.Persists row later

/-- Everything a step can do, by its effect on what is persisted and on the history. -/
inductive Effect (s : State) (e : Event) (t : State) : Prop
  /-- Nothing but a phase without a push in hand. -/
  | rest (same : Same s t) (verify : t.verify = s.verify) (before : s.phase.settled = true)
      (phase : t.phase = .idle ∨ t.phase = .fetching)
  | flush (r : Report) (same : Same s t) (verify : t.verify = s.verify) (before : s.phase = .idle)
      (held : s.slot = some r) (phase : t.phase = .flushing r)
  | serve (customers : List Customer) (response : PendingResponse Nat) (same : Same s t)
      (verify : t.verify = s.verify) (before : s.phase = .fetching) (event : e = .fetch customers)
      (served : s.served hash customers = some response) (phase : t.phase = .judging response)
  | pass (response : PendingResponse Nat) (same : Same s t) (verify : t.verify = s.verify)
      (before : s.phase = .judging response)
      (newer : isNewerStr response.targetVersion s.version = some true)
      (unmarked : s.verify response.id = none) (phase : t.phase = .ready response)
  | obtained (response : PendingResponse Nat) (same : Same s t) (verify : t.verify = s.verify)
      (before : s.phase = .ready response) (phase : t.phase = .launching response)
  | launch (response : PendingResponse Nat) (before : s.phase = .launching response)
      (after : t =
        { s with launches := response.id :: s.launches, phase := .launched response })
  | mark (response : PendingResponse Nat) (deadline : Nat) (before : s.phase = .launched response)
      (after : t =
        { s with verify := Function.update s.verify response.id (some deadline), phase := .idle })
  | start (response : PendingResponse Nat) (status : Status) (reason : String) (bumped : State)
      (before : s.phase.settled = true) (begins : s.begins e = some (response.id, status))
      (grounded : status = .applied →
        isNewerStr response.targetVersion s.version = some false)
      (same : Same s bumped) (verify : bumped.verify = s.verify)
      (after : t = bumped.finishReport response status reason)
  | advance (r : Report) (stage next : Stage) (same : Same s t)
      (verify : t.verify = s.verify ∨ t.verify = Function.update s.verify r.id none)
      (before : s.phase = .finishing r stage) (phase : t.phase = .finishing r next)
      (unacked : stage ≠ .acked ∧ next ≠ .acked)
  | acknowledge (r : Report) (done : PushTable) (delivery : Delivery)
      (reported : s.reportStatus hash r delivery = (done, true)) (next : Phase)
      (phases : s.phase = .flushing r ∧ next = .flushed ∨
        (∃ attempt, s.phase = .finishing r (.post attempt)) ∧ next = .finishing r .acked)
      (after : t = { s with table := done, acked := r.pair :: s.acked, phase := next })
  | clear (next : Phase)
      (phases : s.phase = .flushed ∧ next = .fetching ∨
        (∃ r, s.phase = .finishing r .acked) ∧ next = .idle)
      (after : t = { s with slot := none, phase := next })
  | save (r : Report) (before : s.phase = .finishing r .unsent)
      (after : t = { s with slot := some r, phase := .idle })
  | restart (version : String) (event : e = .restart version)
      (after : t = { s with version, phase := .idle })
  | panel (call : PushLifecycle.Event) (after : t = { s with table := call.after hash s.table })

end Steps

section Inversion

variable {hash : String → String} {delayHash : Nat → Nat} {s t : State}

theorem persists_refl (table : PushTable) :
    ∀ row ∈ table.rows, ∃ later ∈ table.rows, PushLifecycle.Persists row later :=
  fun row inside => ⟨row, inside, .refl row⟩

/-- A report, delivered or not, persists the rows. -/
theorem persists_reportStatus (s : State) (r : Report) (delivery : Delivery) :
    ∀ row ∈ s.table.rows, ∃ later ∈ (s.reportStatus hash r delivery).1.rows,
      PushLifecycle.Persists row later := by
  cases delivery with
  | lost => exact persists_refl s.table
  | arrives customers now answered =>
    unfold State.reportStatus postReport
    dsimp only
    split
    · exact persists_refl s.table
    · split
      · exact (PushLifecycle.evolves_markApplied _ _ _ _ _ _).kept
      · exact (PushLifecycle.evolves_markFailed _ _ _ _ _ _ _).kept

theorem effect_tick {remoteId token : String}
    (next : step hash delayHash s (.tick remoteId token) = some t) :
    Effect hash s (.tick remoteId token) t := by
  simp only [step] at next
  split at next
  · rename_i idle
    split at next
    · obtain rfl := Option.some.inj next
      exact .rest ⟨rfl, rfl, rfl, rfl, rfl, persists_refl _⟩ rfl (by rw [idle]; rfl) (.inl idle)
    · split at next
      · obtain rfl := Option.some.inj next
        exact .rest ⟨rfl, rfl, rfl, rfl, rfl, persists_refl _⟩ rfl (by rw [idle]; rfl) (.inr rfl)
      · rename_i r held
        obtain rfl := Option.some.inj next
        exact .flush r ⟨rfl, rfl, rfl, rfl, rfl, persists_refl _⟩ rfl idle held rfl
  · cases next

theorem effect_post {delivery : Delivery}
    (next : step hash delayHash s (.post delivery) = some t) :
    Effect hash s (.post delivery) t := by
  simp only [step, State.posted] at next
  split at next
  · rename_i r before
    split at next
    · rename_i success
      obtain rfl := Option.some.inj next
      exact .acknowledge r _ delivery (Prod.ext rfl success) _ (.inl ⟨before, rfl⟩) rfl
    · obtain rfl := Option.some.inj next
      exact .rest ⟨rfl, rfl, rfl, rfl, rfl, persists_reportStatus s r delivery⟩ rfl
        (by rw [before]; rfl) (.inr rfl)
  · rename_i r attempt before
    split at next
    · rename_i success
      obtain rfl := Option.some.inj next
      exact .acknowledge r _ delivery (Prod.ext rfl success) _ (.inr ⟨⟨attempt, before⟩, rfl⟩) rfl
    · have same := @persists_reportStatus hash s r delivery
      split at next
      · obtain rfl := Option.some.inj next
        exact .advance r _ _ ⟨rfl, rfl, rfl, rfl, rfl, same⟩ (.inl rfl) before rfl ⟨nofun, nofun⟩
      · obtain rfl := Option.some.inj next
        exact .advance r _ _ ⟨rfl, rfl, rfl, rfl, rfl, same⟩ (.inl rfl) before rfl ⟨nofun, nofun⟩
  · cases next

theorem effect_fetch {customers : List Customer}
    (next : step hash delayHash s (.fetch customers) = some t) :
    Effect hash s (.fetch customers) t := by
  simp only [step] at next
  split at next
  · rename_i before
    split at next
    · obtain rfl := Option.some.inj next
      exact .rest ⟨rfl, rfl, rfl, rfl, rfl, persists_refl _⟩ rfl (by rw [before]; rfl) (.inl rfl)
    · rename_i response served
      obtain rfl := Option.some.inj next
      exact .serve customers response ⟨rfl, rfl, rfl, rfl, rfl, persists_refl _⟩ rfl before rfl
        served rfl
  · cases next

/-- A push passes its guards only as a newer version without a marker. -/
theorem verdict_proceed {response : PendingResponse Nat} {reading : Reading}
    (proceeds : s.verdict response reading = .proceed) :
    isNewerStr response.targetVersion s.version = some true ∧ s.verify response.id = none := by
  unfold State.verdict at proceeds
  split at proceeds
  · cases proceeds
  · cases proceeds
  · rename_i newer
    split at proceeds
    · split at proceeds
      · cases proceeds
      · cases proceeds
    · rename_i unmarked
      exact ⟨newer, unmarked⟩

/-- A push is reported as applied only where it is not newer than the running version. -/
theorem verdict_applied {response : PendingResponse Nat} {reading : Reading} {reason : String}
    (applied : s.verdict response reading = .finish .applied reason) :
    isNewerStr response.targetVersion s.version = some false := by
  unfold State.verdict at applied
  split at applied
  · cases applied
  · rename_i current
    exact current
  · split at applied
    · split at applied
      · cases applied
      · cases applied
    · split at applied
      · cases applied
      · split at applied
        · cases applied
        · cases applied

theorem effect_judge {reading : Reading}
    (next : step hash delayHash s (.judge reading) = some t) :
    Effect hash s (.judge reading) t := by
  simp only [step] at next
  split at next
  · rename_i response before
    have settled : s.phase.settled = true := by
      rw [before]
      rfl
    cases verdict : s.verdict response reading with
    | wait =>
      rw [verdict] at next
      obtain rfl := Option.some.inj next
      exact .rest ⟨rfl, rfl, rfl, rfl, rfl, persists_refl _⟩ rfl settled (.inl rfl)
    | finish status reason =>
      rw [verdict] at next
      obtain rfl := Option.some.inj next
      refine .start response status reason s settled ?_ ?_
        ⟨rfl, rfl, rfl, rfl, rfl, persists_refl _⟩ rfl rfl
      · simp only [State.begins, before, verdict]
      · rintro rfl
        exact verdict_applied verdict
    | proceed =>
      rw [verdict] at next
      obtain rfl := Option.some.inj next
      obtain ⟨newer, unmarked⟩ := verdict_proceed verdict
      unfold State.delayed
      dsimp only
      split
      · exact .rest ⟨rfl, rfl, rfl, rfl, rfl, persists_refl _⟩ rfl settled (.inl rfl)
      · split
        · exact .rest ⟨rfl, rfl, rfl, rfl, rfl, persists_refl _⟩ rfl settled (.inl rfl)
        · exact .pass response ⟨rfl, rfl, rfl, rfl, rfl, persists_refl _⟩ rfl before newer unmarked
            rfl
  · cases next

/-- A failed download ends the tick or starts a report. -/
theorem effect_attemptFailed {e : Event} {response : PendingResponse Nat} (msg : String)
    (settled : s.phase.settled = true)
    (begins : s.begins e =
      if (s.dlAttempt response.id).getD 0 + 1 < dlMaxAttempts then none
      else some (response.id, .failed)) :
    Effect hash s e (s.attemptFailed response msg) := by
  unfold State.attemptFailed
  dsimp only
  split
  · exact .rest ⟨rfl, rfl, rfl, rfl, rfl, persists_refl _⟩ rfl settled (.inl rfl)
  · rename_i last
    rw [if_neg last] at begins
    let bumped : State := { s with
      dlAttempt := Function.update s.dlAttempt response.id
        (some ((s.dlAttempt response.id).getD 0 + 1)) }
    exact .start response .failed _ bumped settled begins nofun
      ⟨rfl, rfl, rfl, rfl, rfl, persists_refl _⟩ rfl rfl

theorem effect_prepare {outcome : Obtained}
    (next : step hash delayHash s (.prepare outcome) = some t) :
    Effect hash s (.prepare outcome) t := by
  simp only [step] at next
  split at next
  · rename_i response before
    have settled : s.phase.settled = true := by
      rw [before]
      rfl
    obtain rfl := Option.some.inj next
    cases outcome with
    | noDirectory => exact .rest ⟨rfl, rfl, rfl, rfl, rfl, persists_refl _⟩ rfl settled (.inl rfl)
    | reused => exact .obtained response ⟨rfl, rfl, rfl, rfl, rfl, persists_refl _⟩ rfl before rfl
    | downloadFailed error =>
      apply effect_attemptFailed _ settled
      simp only [State.begins, before]
    | shaMismatch error =>
      apply effect_attemptFailed _ settled
      simp only [State.begins, before]
    | verified => exact .obtained response ⟨rfl, rfl, rfl, rfl, rfl, persists_refl _⟩ rfl before rfl
  · cases next

theorem effect_write (next : step hash delayHash s .write = some t) : Effect hash s .write t := by
  simp only [step, State.written] at next
  split at next
  · rename_i before
    obtain rfl := Option.some.inj next
    exact .clear _ (.inl ⟨before, rfl⟩) rfl
  · rename_i r before
    obtain rfl := Option.some.inj next
    exact .advance r _ _ ⟨rfl, rfl, rfl, rfl, rfl, persists_refl _⟩ (.inl rfl) before rfl
      ⟨nofun, nofun⟩
  · rename_i r before
    obtain rfl := Option.some.inj next
    exact .advance r _ _ ⟨rfl, rfl, rfl, rfl, rfl, persists_refl _⟩ (.inl rfl) before rfl
      ⟨nofun, nofun⟩
  · rename_i r before
    obtain rfl := Option.some.inj next
    exact .advance r _ _ ⟨rfl, rfl, rfl, rfl, rfl, persists_refl _⟩ (.inr rfl) before rfl
      ⟨nofun, nofun⟩
  · rename_i r before
    obtain rfl := Option.some.inj next
    exact .clear _ (.inr ⟨⟨r, before⟩, rfl⟩) rfl
  · rename_i r before
    obtain rfl := Option.some.inj next
    exact .save r before rfl
  · cases next

/-- Every step has one of the effects. -/
theorem effect_of_step {e : Event} (next : step hash delayHash s e = some t) : Effect hash s e t := by
  cases e with
  | tick remoteId token => exact effect_tick next
  | post delivery => exact effect_post next
  | fetch customers => exact effect_fetch next
  | fetchFails =>
    simp only [step] at next
    split at next
    · rename_i before
      obtain rfl := Option.some.inj next
      exact .rest ⟨rfl, rfl, rfl, rfl, rfl, persists_refl _⟩ rfl (by rw [before]; rfl) (.inl rfl)
    · cases next
  | judge reading => exact effect_judge next
  | prepare outcome => exact effect_prepare next
  | launch =>
    simp only [step] at next
    split at next
    · rename_i response before
      exact .launch response before (Option.some.inj next).symm
    · cases next
  | launchFails error =>
    simp only [step] at next
    split at next
    · rename_i response before
      refine .start response .failed error s (by rw [before]; rfl) ?_ nofun
        ⟨rfl, rfl, rfl, rfl, rfl, persists_refl _⟩ rfl (Option.some.inj next).symm
      simp only [State.begins, before]
    · cases next
  | setVerify now =>
    simp only [step] at next
    split at next
    · rename_i response before
      exact .mark response _ before (Option.some.inj next).symm
    · cases next
  | write => exact effect_write next
  | restart version => exact .restart version rfl (Option.some.inj next).symm
  | panel call => exact .panel call (Option.some.inj next).symm

end Inversion

end ChainRemote.Link.PushAgent
