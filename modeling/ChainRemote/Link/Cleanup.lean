import ChainRemote.Lib.Machine
import ChainRemote.Panel.Heartbeat

/-!
# The disk-cleanup command queue

One agent and its customer row, on one clock. The agent's polling thread sends a heartbeat,
runs the cleanup that the response asks for, reports its result in a second heartbeat,
may run an automatic cleanup and report that too; every run takes time. Requests and the
passage of time may come between any two steps, and any heartbeat may be lost or arrive
after the agent gave up on it.

`manualRuns` is history: the requests the agent started a manual run for, with the time the
run started.
-/

namespace ChainRemote.Link.Cleanup

open Lib Panel

/-- `AUTO_CLEAN_MIN_INTERVAL_SECS`. -/
def autoCleanMinIntervalSecs : Nat := 24 * 3600

/-- Where the agent's polling thread is. -/
inductive Phase
  /-- Between two ticks. -/
  | idle
  /-- The regular heartbeat is sent. -/
  | beating
  /-- The row is updated, the queue not read yet. -/
  | beaten
  /-- The response carries what the queue held. -/
  | answered (request : Option Nat)
  /-- A manual run for a request. -/
  | cleaning (request : Nat)
  /-- A result is sent; an automatic one is the last step of a tick. -/
  | reporting (result : CleanupResult) (auto : Bool)
  /-- The result is recorded. -/
  | reported (auto : Bool)
  /-- About to decide on an automatic run. -/
  | autoCheck
  /-- An automatic run. -/
  | autoCleaning
deriving DecidableEq, Repr

/-- An agent, its customer row and the heartbeats between them. -/
structure State where
  /-- Milliseconds on the common clock. -/
  clock : Nat
  /-- The row of the device. -/
  row : Customer
  /-- `CLEANUP_DONE_KEY`, the last request the agent executed. -/
  done : Option Nat
  /-- `CLEANUP_RESULT_KEY`, the last result. -/
  result : Option CleanupResult
  /-- `AUTOCLEAN_AT_KEY`, the last automatic run in seconds. -/
  autoAt : Nat
  /-- The polling thread. -/
  phase : Phase
  /-- Abandoned heartbeats that the server has not recorded, by the result they carry. -/
  late : List (Option CleanupResult)
  /-- The manual runs that were started: request and start. -/
  manualRuns : List (Nat × Nat)

/-- A step of the agent, of the panel, of the network or of the clock. -/
inductive Event
  /-- Time passes. -/
  | tick (milliseconds : Nat)
  /-- The dealer presses the cleanup button. -/
  | request
  /-- The agent sends its regular heartbeat. -/
  | send
  /-- The server records the heartbeat the agent waits for. -/
  | record (beat : Beat)
  /-- The route reads the queue and answers. -/
  | answer
  /-- The agent handles the response. -/
  | deliver
  /-- The run in progress ends. -/
  | finish (freedBytes deleted skipped : Nat)
  /-- The agent starts an automatic run, since space is short and the last run long ago. -/
  | autoStart
  /-- It does not. -/
  | autoSkip
  /-- The agent gives up waiting. -/
  | abandon
  /-- The server records an abandoned heartbeat. -/
  | recordLate (i : Nat) (beat : Beat)

/-- The phase after a result report, delivered or not. -/
def afterReport (auto : Bool) : Phase := if auto then .idle else .autoCheck

/-- The row after the server recorded a heartbeat. -/
def State.recorded (s : State) (beat : Beat) (result : Option CleanupResult) : Customer :=
  beatSet s.clock { beat with extras := { beat.extras with cleanupResult := result } } s.row

/-- `handle_cleanup_request` up to the run: a request executed already is answered with the
stored result, any other starts a run. -/
def State.handleCleanupRequest (s : State) (requestedAt : Nat) : State :=
  if s.done = some requestedAt then
    match s.result with
    | some result => { s with phase := .reporting result false }
    | none => { s with phase := .autoCheck }
  else
    { s with
      phase := .cleaning requestedAt
      manualRuns := (requestedAt, s.clock) :: s.manualRuns }

/-- The rest of `handle_cleanup_request` and of `maybe_auto_cleanup`: the result is stamped,
stored and sent. -/
def State.finished (s : State) (done : Option Nat) (result : CleanupResult) : State :=
  { s with done, result := some result, phase := .reporting result result.auto }

/-- One step of the system; `none` where the event cannot happen. -/
def step (s : State) : Event → Option State
  | .tick milliseconds => some { s with clock := s.clock + milliseconds }
  | .request => some { s with row := requestSet s.clock s.row }
  | .send => if s.phase = .idle then some { s with phase := .beating } else none
  | .record beat =>
    match s.phase with
    | .beating => some { s with row := s.recorded beat none, phase := .beaten }
    | .reporting result auto =>
      some { s with row := s.recorded beat (some result), phase := .reported auto }
    | _ => none
  | .answer =>
    match s.phase with
    | .beaten => some { s with phase := .answered s.row.cleanupRequestedAt }
    | _ => none
  | .deliver =>
    match s.phase with
    | .answered (some requestedAt) => some (s.handleCleanupRequest requestedAt)
    | .answered none => some { s with phase := .autoCheck }
    | .reported auto => some { s with phase := afterReport auto }
    | _ => none
  | .finish freedBytes deleted skipped =>
    match s.phase with
    | .cleaning requestedAt =>
      some (s.finished (some requestedAt)
        { freedBytes, deleted, skipped, finishedAt := some s.clock, auto := false })
    | .autoCleaning =>
      some (s.finished s.done
        { freedBytes, deleted, skipped, finishedAt := some s.clock, auto := true })
    | _ => none
  | .autoStart =>
    if s.phase = .autoCheck ∧ autoCleanMinIntervalSecs ≤ s.clock / 1000 - s.autoAt then
      some { s with phase := .autoCleaning, autoAt := s.clock / 1000 }
    else none
  | .autoSkip => if s.phase = .autoCheck then some { s with phase := .idle } else none
  | .abandon =>
    match s.phase with
    | .beating => some { s with phase := .idle, late := none :: s.late }
    | .beaten => some { s with phase := .idle }
    | .answered _ => some { s with phase := .idle }
    | .reporting result auto =>
      some { s with phase := afterReport auto, late := some result :: s.late }
    | .reported auto => some { s with phase := afterReport auto }
    | _ => none
  | .recordLate i beat =>
    match s.late[i]? with
    | some result => some { s with row := s.recorded beat result, late := s.late.eraseIdx i }
    | none => none

/-- A freshly installed agent at some time, and a row without a request. -/
def fresh (clock : Nat) (row : Customer) : State where
  clock := clock
  row := row
  done := none
  result := none
  autoAt := 0
  phase := .idle
  late := []
  manualRuns := []

/-- The system. -/
def machine : Machine State Event where
  start s := ∃ clock row, row.cleanupRequestedAt = none ∧ s = fresh clock row
  step := step

/-- The agent started a manual run for a request made at a time or later, and not before it. -/
def State.Covered (s : State) (asked : Nat) : Prop :=
  ∃ run ∈ s.manualRuns, asked ≤ run.1 ∧ asked ≤ run.2

/-- A cleanup request leaves the queue only when a manual run was started for it. -/
def NeverLost (s : State) (_ : Event) (t : State) : Prop :=
  ∀ asked, s.row.cleanupRequestedAt = some asked → t.row.cleanupRequestedAt = none →
    s.Covered asked

/-- The result a phase has on its way. -/
def Phase.sent : Phase → Option CleanupResult
  | .reporting result _ => some result
  | _ => none

/-- The results that may still reach the server: sent, stored or late. -/
def State.results (s : State) : List CleanupResult :=
  s.phase.sent.toList ++ s.result.toList ++ s.late.filterMap id

/-- The button is pressed only while no run is in progress or about to start and no result was
finished in the same millisecond, and an automatic run starts only while no request waits. -/
def pressedBetweenRuns (s : State) : Event → Prop
  | .request =>
    (∀ requestedAt, s.phase ≠ .cleaning requestedAt) ∧ s.phase ≠ .autoCleaning ∧
      (∀ requestedAt, s.phase = .answered (some requestedAt) → s.done = some requestedAt) ∧
      ∀ result ∈ s.results, ∀ finished ∈ result.finishedAt, finished < s.clock
  | .autoStart => ∀ asked ∈ s.row.cleanupRequestedAt, s.done = some asked
  | _ => True

/-- A queued request for which no manual run was started. -/
def State.Waits (s : State) (asked : Nat) : Prop :=
  s.row.cleanupRequestedAt = some asked ∧ ¬ s.Covered asked

/-- A phase without a run or a response. -/
def Phase.Quiet (phase : Phase) : Prop :=
  (∀ request, phase ≠ .answered request) ∧ (∀ request, phase ≠ .cleaning request) ∧
    phase ≠ .autoCleaning

/-- What the guarded runs keep: nothing finished or running can clear a waiting request. -/
structure Kept (s : State) : Prop where
  /-- Requests are not from the future. -/
  asked : ∀ asked, s.row.cleanupRequestedAt = some asked → asked ≤ s.clock
  /-- Nor are those in a response. -/
  carried : ∀ request, s.phase = .answered (some request) → request ≤ s.clock
  /-- A manual run was started for the last executed request. -/
  executed : ∀ request, s.done = some request → s.Covered request
  /-- And for the one being executed. -/
  executing : ∀ request, s.phase = .cleaning request → s.Covered request
  /-- Every result carries its completion time. -/
  stamped : ∀ result ∈ s.results, result.finishedAt.isSome
  /-- A response brings a waiting request itself, or one executed already. -/
  response : ∀ asked, s.Waits asked → ∀ request, s.phase = .answered (some request) →
    asked ≤ request ∨ s.done = some request
  /-- No run is in progress while a request waits. -/
  resting : ∀ asked, s.Waits asked →
    (∀ request, s.phase ≠ .cleaning request) ∧ s.phase ≠ .autoCleaning
  /-- Every result was finished before a waiting request. -/
  finished : ∀ asked, s.Waits asked → ∀ result ∈ s.results, ∀ finished ∈ result.finishedAt,
    finished < asked

/-- A result may still reach the server when it is sent, stored or late. -/
theorem mem_results {s : State} {result : CleanupResult} :
    result ∈ s.results ↔
      (∃ auto, s.phase = .reporting result auto) ∨ s.result = some result ∨
        some result ∈ s.late := by
  have sent : s.phase.sent = some result ↔ ∃ auto, s.phase = .reporting result auto := by
    cases s.phase <;> simp [Phase.sent]
  simp only [State.results, List.append_assoc, List.mem_append, Option.mem_toList, sent,
    List.mem_filterMap, id_eq, exists_eq_right]

/-- A step that may clear the queue, end a phase or lose reports keeps the invariant. -/
theorem Kept.quieter {s : State} (kept : Kept s) {row : Customer} {phase : Phase}
    {late : List (Option CleanupResult)}
    (queue : ∀ asked, row.cleanupRequestedAt = some asked →
      s.row.cleanupRequestedAt = some asked)
    (calmer : phase = s.phase ∨ phase.Quiet)
    (fewer : ∀ result ∈ { s with row, phase, late }.results, result ∈ s.results) :
    Kept { s with row, phase, late } := by
  have waits : ∀ asked, { s with row, phase, late }.Waits asked → s.Waits asked :=
    fun asked waiting => ⟨queue asked waiting.1, waiting.2⟩
  refine ⟨fun asked queued => kept.asked asked (queue asked queued), ?_, kept.executed, ?_,
    fun result left => kept.stamped result (fewer result left), ?_, ?_, fun asked waiting result
      left => kept.finished asked (waits asked waiting) result (fewer result left)⟩
  all_goals
    obtain rfl | ⟨unanswered, uncleaned, unautomatic⟩ := calmer
  · exact kept.carried
  · exact fun request answered => absurd answered (unanswered _)
  · exact kept.executing
  · exact fun request cleaning => absurd cleaning (uncleaned request)
  · exact fun asked waiting => kept.response asked (waits asked waiting)
  · exact fun asked waiting request answered => absurd answered (unanswered _)
  · exact fun asked waiting => kept.resting asked (waits asked waiting)
  · exact fun asked waiting => ⟨uncleaned, unautomatic⟩

/-- Recording a heartbeat leaves a request or clears it. -/
theorem recorded_request {s : State} {beat : Beat} {result : Option CleanupResult} {asked : Nat}
    (queued : (s.recorded beat result).cleanupRequestedAt = some asked) :
    s.row.cleanupRequestedAt = some asked := by
  simp only [State.recorded, beatSet_cleanupRequestedAt, cleanupSet] at queued
  split at queued
  · rename_i found before
    split at queued
    · cases queued
    · rw [before, queued]
  · exact queued

/-- A request is cleared by a result that was finished at or after it. -/
theorem recorded_cleared {s : State} {beat : Beat} {result : Option CleanupResult} {asked : Nat}
    (queued : s.row.cleanupRequestedAt = some asked)
    (cleared : (s.recorded beat result).cleanupRequestedAt = none) :
    ∃ found, result = some found ∧ asked ≤ found.finishedAt.getD s.clock := by
  cases result with
  | none => simp [State.recorded, cleanupSet, queued] at cleared
  | some found => exact ⟨found, rfl, by simpa [State.recorded, cleanupSet, queued] using cleared⟩

/-- Time passing keeps the invariant. -/
theorem Kept.tick {s : State} (kept : Kept s) (milliseconds : Nat) :
    Kept { s with clock := s.clock + milliseconds } :=
  ⟨fun asked queued => Nat.le_add_right_of_le (kept.asked asked queued),
    fun request answered => Nat.le_add_right_of_le (kept.carried request answered),
    kept.executed, kept.executing, kept.stamped, kept.response, kept.resting, kept.finished⟩

/-- A request made between runs keeps the invariant. -/
theorem Kept.request {s : State} (kept : Kept s) (admitted : pressedBetweenRuns s .request) :
    Kept { s with row := requestSet s.clock s.row } := by
  obtain ⟨uncleaned, unautomatic, answered, finished⟩ := admitted
  have asked : ∀ asked, { s with row := requestSet s.clock s.row }.Waits asked →
      asked = s.clock := fun asked waiting => (Option.some.inj waiting.1).symm
  refine ⟨fun asked queued => Nat.le_of_eq (Option.some.inj queued).symm, kept.carried,
    kept.executed, kept.executing, kept.stamped,
    fun _ _ request carried => .inr (answered request carried),
    fun _ _ => ⟨uncleaned, unautomatic⟩, fun at' waiting result left time stamped => ?_⟩
  rw [asked at' waiting]
  exact finished result left time stamped

/-- Reading the queue keeps the invariant. -/
theorem Kept.answer {s : State} (kept : Kept s) (phase : s.phase = .beaten) :
    Kept { s with phase := .answered s.row.cleanupRequestedAt } := by
  refine ⟨kept.asked, ?_, kept.executed, nofun, fun result left => kept.stamped result ?_, ?_,
    fun _ _ => ⟨nofun, nofun⟩,
    fun asked waiting result left => kept.finished asked waiting result ?_⟩
  · intro request answered
    exact kept.asked request (by simpa using answered)
  · simpa [mem_results, phase] using left
  · intro asked waiting request answered
    have queued : s.row.cleanupRequestedAt = some request := by simpa using answered
    exact .inl (Nat.le_of_eq (Option.some.inj (waiting.1.symm.trans queued)))
  · simpa [mem_results, phase] using left

/-- Handling a response keeps the invariant: a run it starts covers a waiting request. -/
theorem Kept.handle {s : State} (kept : Kept s) {requestedAt : Nat}
    (phase : s.phase = .answered (some requestedAt)) :
    Kept (s.handleCleanupRequest requestedAt) := by
  unfold State.handleCleanupRequest
  split
  · split
    · rename_i result stored
      refine kept.quieter (fun _ => id) (.inr ⟨nofun, nofun, nofun⟩) fun other left => ?_
      simp only [mem_results, Phase.reporting.injEq, exists_and_left, phase] at left ⊢
      obtain ⟨rfl, -⟩ | left := left
      · exact .inr (.inl stored)
      · exact .inr left
    · refine kept.quieter (fun _ => id) (.inr ⟨nofun, nofun, nofun⟩) fun other left => ?_
      simpa [mem_results, phase] using left
  · rename_i fresh
    have started : requestedAt ≤ s.clock := kept.carried requestedAt phase
    have more : ∀ asked, s.Covered asked → State.Covered
        { s with
          phase := .cleaning requestedAt
          manualRuns := (requestedAt, s.clock) :: s.manualRuns } asked :=
      fun asked ⟨run, before, covers⟩ => ⟨run, .tail _ before, covers⟩
    -- A request that still waits is older than the run just started, which covers it.
    have covered : ∀ asked, ¬ State.Waits
        { s with
          phase := .cleaning requestedAt
          manualRuns := (requestedAt, s.clock) :: s.manualRuns } asked := by
      rintro asked ⟨queued, uncovered⟩
      obtain older | repeated := kept.response asked
        ⟨queued, fun before => uncovered (more asked before)⟩ requestedAt phase
      · exact uncovered ⟨_, .head _, older, older.trans started⟩
      · exact fresh repeated
    refine ⟨kept.asked, nofun, fun request done => more request (kept.executed request done), ?_,
      fun result left => kept.stamped result ?_, nofun,
      fun asked waiting => absurd waiting (covered asked),
      fun asked waiting => absurd waiting (covered asked)⟩
    · intro request running
      obtain rfl : requestedAt = request := by simpa using running
      exact ⟨_, .head _, Nat.le_refl _, started⟩
    · simpa [mem_results, phase] using left

/-- The end of a run keeps the invariant: no request waits for it. -/
theorem Kept.finish {s : State} (kept : Kept s) {done : Option Nat} {result : CleanupResult}
    (running : (∃ request, s.phase = .cleaning request) ∨ s.phase = .autoCleaning)
    (executed : ∀ request, done = some request → s.Covered request)
    (stamped : result.finishedAt = some s.clock) : Kept (s.finished done result) := by
  have covered : ∀ asked, ¬ s.Waits asked := by
    intro asked waiting
    obtain ⟨uncleaned, unautomatic⟩ := kept.resting asked waiting
    obtain ⟨request, cleaning⟩ | automatic := running
    · exact uncleaned request cleaning
    · exact unautomatic automatic
  refine ⟨kept.asked, nofun, executed, nofun, fun other left => ?_, nofun,
    fun asked waiting => absurd waiting (covered asked),
    fun asked waiting => absurd waiting (covered asked)⟩
  simp only [State.finished, mem_results, Phase.reporting.injEq, Option.some.injEq] at left
  obtain ⟨-, rfl, -⟩ | rfl | late := left
  · rw [stamped]
    rfl
  · rw [stamped]
    rfl
  · exact kept.stamped other (mem_results.mpr (.inr (.inr late)))

/-- An automatic run started while no request waits keeps the invariant. -/
theorem Kept.autoStart {s : State} (kept : Kept s) (phase : s.phase = .autoCheck)
    (admitted : pressedBetweenRuns s .autoStart) (autoAt : Nat) :
    Kept { s with phase := .autoCleaning, autoAt } := by
  have covered : ∀ asked, ¬ s.Waits asked := fun asked waiting =>
    waiting.2 (kept.executed asked (admitted asked waiting.1))
  refine ⟨kept.asked, nofun, kept.executed, nofun, fun result left => kept.stamped result ?_, nofun,
    fun asked waiting => absurd waiting (covered asked),
    fun asked waiting => absurd waiting (covered asked)⟩
  simpa [mem_results, phase] using left

/-- The phase after a report is without a run, a response or a report. -/
theorem quiet_afterReport (auto : Bool) : (afterReport auto).Quiet := by
  cases auto <;> exact ⟨nofun, nofun, nofun⟩

/-- No result is on its way after a report. -/
theorem afterReport_ne_reporting (auto : Bool) (result : CleanupResult) (other : Bool) :
    afterReport auto ≠ .reporting result other := by
  cases auto <;> exact nofun

/-- A quiet phase without a report keeps the invariant. -/
theorem Kept.calm {s : State} (kept : Kept s) {phase : Phase} (quiet : phase.Quiet)
    (silent : ∀ result auto, phase ≠ .reporting result auto) : Kept { s with phase } := by
  refine kept.quieter (fun _ => id) (.inr quiet) fun result left => ?_
  rcases mem_results.mp left with ⟨auto, reporting⟩ | rest
  · exact absurd reporting (silent result auto)
  · exact mem_results.mpr (.inr rest)

/-- Every admitted step keeps the invariant. -/
theorem Kept.step {s t : State} {e : Event} (kept : Kept s) (admitted : pressedBetweenRuns s e)
    (next : Cleanup.step s e = some t) : Kept t := by
  cases e with
  | tick milliseconds =>
    obtain rfl := Option.some.inj next
    exact kept.tick milliseconds
  | request =>
    obtain rfl := Option.some.inj next
    exact kept.request admitted
  | send =>
    simp only [Cleanup.step] at next
    split at next
    · obtain rfl := Option.some.inj next
      exact kept.calm ⟨nofun, nofun, nofun⟩ nofun
    · cases next
  | record beat =>
    simp only [Cleanup.step] at next
    split at next
    · rename_i phase
      obtain rfl := Option.some.inj next
      refine kept.quieter (fun _ => recorded_request) (.inr ⟨nofun, nofun, nofun⟩) ?_
      intro result left
      simpa [mem_results, phase] using left
    · rename_i phase
      obtain rfl := Option.some.inj next
      refine kept.quieter (fun _ => recorded_request) (.inr ⟨nofun, nofun, nofun⟩) ?_
      intro result left
      refine mem_results.mpr (.inr ?_)
      simpa [mem_results] using left
    · cases next
  | answer =>
    simp only [Cleanup.step] at next
    split at next
    · rename_i phase
      obtain rfl := Option.some.inj next
      exact kept.answer phase
    · cases next
  | deliver =>
    simp only [Cleanup.step] at next
    split at next
    · rename_i phase
      obtain rfl := Option.some.inj next
      exact kept.handle phase
    · obtain rfl := Option.some.inj next
      exact kept.calm ⟨nofun, nofun, nofun⟩ nofun
    · rename_i auto phase
      obtain rfl := Option.some.inj next
      exact kept.calm (quiet_afterReport auto) (afterReport_ne_reporting auto)
    · cases next
  | finish freedBytes deleted skipped =>
    simp only [Cleanup.step] at next
    split at next
    · rename_i request phase
      obtain rfl := Option.some.inj next
      refine kept.finish (.inl ⟨request, phase⟩) ?_ rfl
      rintro _ ⟨⟩
      exact kept.executing request phase
    · rename_i phase
      obtain rfl := Option.some.inj next
      exact kept.finish (.inr phase) kept.executed rfl
    · cases next
  | autoStart =>
    simp only [Cleanup.step] at next
    split at next
    · rename_i due
      obtain rfl := Option.some.inj next
      exact kept.autoStart due.1 admitted _
    · cases next
  | autoSkip =>
    simp only [Cleanup.step] at next
    split at next
    · obtain rfl := Option.some.inj next
      exact kept.calm ⟨nofun, nofun, nofun⟩ nofun
    · cases next
  | abandon =>
    simp only [Cleanup.step] at next
    split at next
    · rename_i phase
      obtain rfl := Option.some.inj next
      refine kept.quieter (fun _ => id) (.inr ⟨nofun, nofun, nofun⟩) fun result left => ?_
      simpa [mem_results, phase] using left
    · obtain rfl := Option.some.inj next
      exact kept.calm ⟨nofun, nofun, nofun⟩ nofun
    · obtain rfl := Option.some.inj next
      exact kept.calm ⟨nofun, nofun, nofun⟩ nofun
    · rename_i sent auto phase
      obtain rfl := Option.some.inj next
      refine kept.quieter (fun _ => id) (.inr (quiet_afterReport auto)) fun result left => ?_
      simp only [mem_results, afterReport_ne_reporting, exists_false, false_or, List.mem_cons,
        Option.some.injEq] at left
      obtain stored | rfl | late := left
      · exact mem_results.mpr (.inr (.inl stored))
      · exact mem_results.mpr (.inl ⟨auto, phase⟩)
      · exact mem_results.mpr (.inr (.inr late))
    · rename_i auto phase
      obtain rfl := Option.some.inj next
      exact kept.calm (quiet_afterReport auto) (afterReport_ne_reporting auto)
    · cases next
  | recordLate i beat =>
    simp only [Cleanup.step] at next
    split at next
    · obtain rfl := Option.some.inj next
      refine kept.quieter (fun _ => recorded_request) (.inl rfl) fun result left => ?_
      obtain sent | stored | late := mem_results.mp left
      · exact mem_results.mpr (.inl sent)
      · exact mem_results.mpr (.inr (.inl stored))
      · exact mem_results.mpr (.inr (.inr (List.mem_of_mem_eraseIdx late)))
    · cases next

/-- A heartbeat body with the result the agent put in it. -/
def carrying (beat : Beat) (result : Option CleanupResult) : Beat :=
  { beat with extras := { beat.extras with cleanupResult := result } }

/-- What the panel runs on its table of customers at an event of the agent or a press of its
button. -/
def State.onTable (hash : String → String) (device token : String) (tenant : Nat) (s : State)
    (rows : List Customer) : Event → List Customer
  | .request => (requestCleanup s.clock device tenant rows).2
  | .record beat =>
    match s.phase with
    | .beating => (recordHeartbeat hash s.clock device token (carrying beat none) rows).2
    | .reporting result _ =>
      (recordHeartbeat hash s.clock device token (carrying beat (some result)) rows).2
    | _ => rows
  | .recordLate i beat =>
    match s.late[i]? with
    | some result => (recordHeartbeat hash s.clock device token (carrying beat result) rows).2
    | none => rows
  | _ => rows

/-- The only steps that write the row record a heartbeat, with a result that may still reach the
server or with none, or queue a request; the panel runs the same on its table. -/
theorem step_row {s t : State} {e : Event} (next : Cleanup.step s e = some t) :
    (t.row = s.row ∧
      ∀ hash device token tenant rows, s.onTable hash device token tenant rows e = rows) ∨
    (∃ beat result, (∀ found ∈ result, found ∈ s.results) ∧ t.row = s.recorded beat result ∧
      ∀ hash device token tenant rows, s.onTable hash device token tenant rows e =
        (recordHeartbeat hash s.clock device token (carrying beat result) rows).2) ∨
    (t.row = requestSet s.clock s.row ∧
      ∀ hash device token tenant rows, s.onTable hash device token tenant rows e =
        (requestCleanup s.clock device tenant rows).2) := by
  cases e with
  | record beat =>
    simp only [Cleanup.step] at next
    split at next
    · rename_i phase
      obtain rfl := Option.some.inj next
      refine .inr (.inl ⟨beat, none, nofun, rfl, ?_⟩)
      intros
      simp only [State.onTable, phase]
    · rename_i result auto phase
      obtain rfl := Option.some.inj next
      refine .inr (.inl ⟨beat, some result, ?_, rfl, ?_⟩)
      · rintro _ ⟨⟩
        exact mem_results.mpr (.inl ⟨auto, phase⟩)
      · intros
        simp only [State.onTable, phase]
    · cases next
  | recordLate i beat =>
    simp only [Cleanup.step] at next
    split at next
    · rename_i result found
      obtain rfl := Option.some.inj next
      refine .inr (.inl ⟨beat, result, ?_, rfl, ?_⟩)
      · rintro _ ⟨⟩
        exact mem_results.mpr (.inr (.inr (List.mem_of_getElem? found)))
      · intros
        simp only [State.onTable, found]
    · cases next
  | request =>
    obtain rfl := Option.some.inj next
    exact .inr (.inr ⟨rfl, fun _ _ _ _ _ => rfl⟩)
  | tick milliseconds =>
    obtain rfl := Option.some.inj next
    exact .inl ⟨rfl, fun _ _ _ _ _ => rfl⟩
  | deliver =>
    simp only [Cleanup.step] at next
    split at next
    · obtain rfl := Option.some.inj next
      refine .inl ⟨?_, fun _ _ _ _ _ => rfl⟩
      unfold State.handleCleanupRequest
      split
      · split
        · rfl
        · rfl
      · rfl
    · obtain rfl := Option.some.inj next
      exact .inl ⟨rfl, fun _ _ _ _ _ => rfl⟩
    · obtain rfl := Option.some.inj next
      exact .inl ⟨rfl, fun _ _ _ _ _ => rfl⟩
    · cases next
  | send | answer | finish | autoStart | autoSkip | abandon =>
    simp only [Cleanup.step] at next
    split at next
    all_goals
      first
      | cases next; done
      | obtain rfl := Option.some.inj next; exact .inl ⟨rfl, fun _ _ _ _ _ => rfl⟩

section Table

variable {hash : String → String} {device token : String} {tenant : Nat} {s t : State}
  {rows : List Customer}

/-- The row of the system is the agent's row of the table, at every step. -/
theorem step_onTable {e : Event} (own : OwnRow hash device token tenant rows s.row)
    (next : Cleanup.step s e = some t) :
    OwnRow hash device token tenant (s.onTable hash device token tenant rows e) t.row := by
  obtain ⟨same, ran⟩ | ⟨beat, result, _, recorded, ran⟩ | ⟨asked, ran⟩ := step_row next
  · rw [same, ran]
    exact own
  · rw [recorded, ran]
    exact (own.recordHeartbeat s.clock _).2
  · rw [asked, ran]
    exact (own.updateDevice (requestSet s.clock) fun _ => ⟨rfl, rfl, rfl⟩).2

/-- The queue that a response carries is the one `getCleanupRequest` reads in the table. -/
theorem answer_reads (own : OwnRow hash device token tenant rows s.row)
    (next : Cleanup.step s .answer = some t) :
    t.phase = .answered (getCleanupRequest device rows) := by
  rw [own.reads.2]
  simp only [Cleanup.step] at next
  split at next
  · obtain rfl := Option.some.inj next
    rfl
  · cases next

end Table

theorem kept_fresh {s : State} (started : machine.start s) : Kept s := by
  obtain ⟨clock, row, unasked, rfl⟩ := started
  have waits : ∀ asked, ¬ (fresh clock row).Waits asked := fun asked waiting => by
    simp [State.Waits, fresh, unasked] at waiting
  exact ⟨by simp [fresh, unasked], nofun, nofun, nofun, nofun,
    fun asked waiting => absurd waiting (waits asked),
    fun asked waiting => absurd waiting (waits asked), nofun⟩

/-- While the button is pressed between runs and automatic runs wait for queued requests, no
request is lost. -/
theorem cleanupRequest_never_lost (s : State) (e : Event) (t : State)
    (reached : machine.Reaches pressedBetweenRuns s) (next : machine.step s e = some t) :
    NeverLost s e t := by
  have kept : Kept s :=
    reached.invariant Kept (fun _ => kept_fresh) (fun _ _ _ kept => kept.step)
  intro asked queued cleared
  by_contra uncovered
  obtain ⟨same, -⟩ | ⟨beat, result, left, recorded, -⟩ | ⟨requested, -⟩ := step_row next
  · rw [same, queued] at cleared
    cases cleared
  · rw [recorded] at cleared
    obtain ⟨found, rfl, clears⟩ := recorded_cleared queued cleared
    have known := left found rfl
    obtain ⟨finished, stamped⟩ := Option.isSome_iff_exists.mp (kept.stamped found known)
    have before := kept.finished asked ⟨queued, uncovered⟩ found known finished stamped
    rw [stamped, Option.getD_some] at clears
    omega
  · rw [requested] at cleared
    cases cleared

/-- A row without a request. -/
def unaskedRow : Customer := { id := 0, tenantId := 0, name := "store" }

/-- The button is pressed once, and the result of the run for it clears the request. -/
theorem cleanupRequest_never_lost_once : ∃ s t,
    machine.Reaches pressedBetweenRuns s ∧ machine.step s (.record {}) = some t ∧
      s.row.cleanupRequestedAt = some 1000 ∧ t.row.cleanupRequestedAt = none ∧
      NeverLost s (.record {}) t := by
  have start : machine.Runs pressedBetweenRuns (fresh 1000 unaskedRow) (fresh 1000 unaskedRow) :=
    .refl
  have pressed := start.step Event.request
    ⟨nofun, nofun, nofun, nofun⟩ rfl
  have sent := pressed.step Event.send trivial rfl
  have recorded := sent.step (Event.record {}) trivial rfl
  have answered := recorded.step Event.answer trivial rfl
  have started := answered.step Event.deliver trivial rfl
  have later := started.step (Event.tick 10) trivial rfl
  have finished := later.step (Event.finish 0 0 0) trivial rfl
  have reached : machine.Reaches pressedBetweenRuns _ :=
    ⟨_, ⟨1000, unaskedRow, rfl, rfl⟩, finished⟩
  exact ⟨_, _, reached, rfl, rfl, by decide +kernel, cleanupRequest_never_lost _ _ _ reached rfl⟩

/-- The button is pressed, the run starts, the button is pressed again, and the result of the
first run is sent. -/
def beforeRepeatedPress : State :=
  machine.play Machine.free (fresh 1000 unaskedRow)
    [.request, .send, .record {}, .answer, .deliver, .tick 10, .request, .tick 10,
      .finish 0 0 0]

/-- Without the condition a request is lost: the result of a run that was in progress at the
second press clears it. -/
theorem cleanupRequest_lost_during_run : ¬ machine.Always Machine.free NeverLost := by
  intro kept
  have run : machine.Runs Machine.free (fresh 1000 unaskedRow) beforeRepeatedPress :=
    machine.runs_play _ _ _
  obtain ⟨run, started, later, -⟩ := kept beforeRepeatedPress (.record {}) _
    ⟨_, ⟨1000, unaskedRow, rfl, rfl⟩, run⟩ trivial rfl 1010 (by decide +kernel) (by decide +kernel)
  have only : run = (1000, 1000) := List.mem_singleton.mp started
  rw [only] at later
  exact absurd later (by decide)

end ChainRemote.Link.Cleanup
