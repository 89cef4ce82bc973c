import ChainRemote.Lib.Machine
import ChainRemote.Agent.SchedWindow
import ChainRemote.Panel.Heartbeat

/-!
# Closing a scheduled window from the panel

One agent and its customer row. The agent's window travels to the row in heartbeats and a
close request travels back in their responses, one blocking request at a time: the route
records the report, reads the queue in a later statement, and the agent handles the
response when it arrives. An abandoned request may still reach the server, whose response
then reaches nobody. Any step of either side may come between two of these.

The last four fields of a state are history: they say which window a request was aimed at
and what the agent was told, and no step reads them.
-/

namespace ChainRemote.Link.SchedClose

open Lib Agent Panel

/-- How far the heartbeat the agent waits for has come. -/
inductive Flight
  /-- Sent; the window field is absent from the follow-up report of a cleanup. -/
  | sent (report : Option Int)
  /-- The row is updated, the queue not read yet. -/
  | recorded
  /-- The response carries what the queue held. -/
  | answered (request : Option Nat)
deriving DecidableEq, Repr

/-- An agent, its customer row and the heartbeats between them. -/
structure State where
  /-- The agent's marker file. -/
  file : Option SchedWindow
  /-- `SCHED_CLOSE_DONE_KEY`, the last request the agent handled. -/
  done : Option Nat
  /-- The row of the device. -/
  row : Customer
  /-- The heartbeat the agent waits for. -/
  waiting : Option Flight
  /-- Reports of abandoned heartbeats that the server has not recorded. -/
  late : List (Option Int)
  /-- How many windows were granted. -/
  grants : Nat
  /-- The window held at the latest close request, by its number. -/
  askedOf : Option Nat
  /-- The requests that came back to the agent. -/
  handled : List Nat
  /-- The requests made since the latest grant. -/
  askedSince : List Nat

/-- A step of the agent, of the panel, or of the network between them. -/
inductive Event
  /-- The customer accepts a proposal. -/
  | grant (localNow : Nat) (start endAt hqNow : Int) (label : String)
  /-- A login consults the gate. -/
  | isOpen (t : Nat)
  /-- The tray, the connection or the polling loop asks for the window. -/
  | status (t : Nat)
  /-- A session admitted by the window starts. -/
  | sessionStart
  /-- It ends. -/
  | sessionEnd (t : Nat)
  /-- The operator closes the window over the connection. -/
  | hqClose
  /-- The agent sends a heartbeat. -/
  | send (t : Nat) (followUp : Bool)
  /-- The server records the heartbeat the agent waits for. -/
  | record (now : Nat) (beat : Beat)
  /-- The route reads the queue and answers. -/
  | answer
  /-- The agent handles the response. -/
  | deliver
  /-- The agent gives up waiting. -/
  | abandon
  /-- The server records an abandoned heartbeat. -/
  | recordLate (i : Nat) (now : Nat) (beat : Beat)
  /-- The dealer presses the close button. -/
  | request (now : Nat)

/-- The window the agent holds, by its number. -/
def State.held (s : State) : Option Nat := if s.file.isSome then some s.grants else none

/-- A heartbeat body with the window field the agent put in it. -/
def reporting (beat : Beat) (report : Option Int) : Beat :=
  { beat with
    extras := { beat.extras with schedOpenUntil := report.map fun u : Int => .finite u } }

/-- The row after the server recorded a report. -/
def State.recorded (s : State) (now : Nat) (beat : Beat) (report : Option Int) : Customer :=
  beatSet now (reporting beat report) s.row

/-- The state after the agent sends a heartbeat. -/
def State.sending (s : State) (t : Nat) (followUp : Bool) : State :=
  if followUp then { s with waiting := some (.sent none) }
  else
    { s with
      file := Agent.status t s.file
      waiting := some (.sent (some (schedReport t s.file))) }

/-- The state after the agent handles a response that carries a request. -/
def State.handling (s : State) (requestedAt : Nat) : State :=
  let after := handleSchedClose requestedAt s.file s.done
  { s with
    file := after.1
    done := after.2
    waiting := none
    handled := requestedAt :: s.handled }

/-- One step of the system; `none` where the event cannot happen. -/
def step (s : State) : Event → Option State
  | .grant localNow start endAt hqNow label =>
    some { s with
      file := some (Agent.grant localNow start endAt hqNow label)
      grants := s.grants + 1
      askedSince := [] }
  | .isOpen t => some { s with file := (Agent.isOpen t s.file).2 }
  | .status t => some { s with file := Agent.status t s.file }
  | .sessionStart => some { s with file := noteSessionStart s.file }
  | .sessionEnd t => some { s with file := noteSessionEnd t s.file }
  | .hqClose => some { s with file := none }
  | .send t followUp => if s.waiting = none then some (s.sending t followUp) else none
  | .record now beat =>
    match s.waiting with
    | some (.sent report) =>
      some { s with row := s.recorded now beat report, waiting := some .recorded }
    | _ => none
  | .answer =>
    match s.waiting with
    | some .recorded =>
      some { s with waiting := some (.answered s.row.schedCloseRequestedAt) }
    | _ => none
  | .deliver =>
    match s.waiting with
    | some (.answered (some requestedAt)) => some (s.handling requestedAt)
    | some (.answered none) => some { s with waiting := none }
    | _ => none
  | .abandon =>
    match s.waiting with
    | some (.sent report) => some { s with waiting := none, late := report :: s.late }
    | some _ => some { s with waiting := none }
    | none => none
  | .recordLate i now beat =>
    match s.late[i]? with
    | some report => some { s with row := s.recorded now beat report, late := s.late.eraseIdx i }
    | none => none
  | .request now =>
    some { s with
      row := closeSet now s.row
      askedOf := s.held
      askedSince := now :: s.askedSince }

/-- A freshly installed agent and a row without a window or a request. -/
def fresh (row : Customer) : State where
  file := none
  done := none
  row := row
  waiting := none
  late := []
  grants := 0
  askedOf := none
  handled := []
  askedSince := []

/-- The system. -/
def machine : Machine State Event where
  start s := ∃ row, row.schedOpenUntil = none ∧ row.schedCloseRequestedAt = none ∧ s = fresh row
  step := step

/-- The reports on their way to the server. -/
def State.inFlight (s : State) : List (Option Int) :=
  match s.waiting with
  | some (.sent report) => report :: s.late
  | _ => s.late

/-- A close request leaves the queue only when a response with it was handled, or when the
agent no longer holds the window it held at the request. -/
def NeverLost (s : State) (_ : Event) (t : State) : Prop :=
  ∀ requestedAt, s.row.schedCloseRequestedAt = some requestedAt →
    t.row.schedCloseRequestedAt = none →
    requestedAt ∈ s.handled ∨ ∀ window, s.askedOf = some window → s.held ≠ some window

/-- A handled request clears a stored window only if it was made after the grant of it. -/
def SparesLater (s : State) (e : Event) (t : State) : Prop :=
  e = .deliver → ∀ requestedAt, s.waiting = some (.answered (some requestedAt)) →
    s.file.isSome → t.file = none → requestedAt ∈ s.askedSince

/-- Recording the end the server has stored already changes neither column. -/
theorem recorded_same {s : State} (now : Nat) (beat : Beat) {report : Option Int} {end' : Int}
    (stored : s.row.schedOpenUntil = some (end' * 1000)) (nonzero : s.row.schedOpenUntil ≠ some 0)
    (same : report = none ∨ report = some end') :
    (s.recorded now beat report).schedOpenUntil = s.row.schedOpenUntil ∧
      (s.recorded now beat report).schedCloseRequestedAt = s.row.schedCloseRequestedAt := by
  have running : end' ≠ 0 := by
    rintro rfl
    exact nonzero stored
  obtain rfl | rfl := same
  · simp [State.recorded, reporting]
  · simp [State.recorded, reporting, stored, schedColumns_same now _ running]

/-- Recording a report never stores a zero end. -/
theorem recorded_nonzero {s : State} (now : Nat) (beat : Beat) (report : Option Int)
    (nonzero : s.row.schedOpenUntil ≠ some 0) :
    (s.recorded now beat report).schedOpenUntil ≠ some 0 := by
  cases report with
  | none => simpa [State.recorded, reporting] using nonzero
  | some seconds =>
    simpa [State.recorded, reporting] using
      schedColumns_nonzero now seconds s.row.schedCloseRequestedAt nonzero

/-- Recording a report leaves the request or removes it. -/
theorem recorded_request {s : State} {now : Nat} {beat : Beat} {report : Option Int}
    {requestedAt : Nat}
    (queued : (s.recorded now beat report).schedCloseRequestedAt = some requestedAt) :
    (s.recorded now beat report).schedOpenUntil = s.row.schedOpenUntil ∧
      s.row.schedCloseRequestedAt = some requestedAt := by
  cases report with
  | none => simpa [State.recorded, reporting] using queued
  | some seconds =>
    simp only [State.recorded, reporting, Option.map_some, beatSet_schedCloseRequestedAt,
      beatSet_schedOpenUntil] at queued ⊢
    obtain kept | cleared := schedColumns_keeps_or_clears now seconds s.row.schedOpenUntil
      s.row.schedCloseRequestedAt
    · rw [kept] at queued ⊢
      exact ⟨rfl, queued⟩
    · rw [cleared] at queued
      cases queued

/-- Recording another end that the server accepts empties the queue. -/
theorem recorded_other {s : State} (now : Nat) (beat : Beat) {seconds : Int}
    (positive : 0 ≤ seconds) (bounded : seconds * 1000 ≤ now + 25 * 3600 * 1000)
    (other : s.row.schedOpenUntil ≠ some (seconds * 1000)) :
    (s.recorded now beat (some seconds)).schedCloseRequestedAt = none := by
  simpa [State.recorded, reporting] using
    schedColumns_other now s.row.schedCloseRequestedAt positive bounded other

/-- A window step of the agent leaves no window, or one with the same end. -/
def SameEnd (before after : Option SchedWindow) : Prop :=
  after = none ∨ after.map SchedWindow.endAt = before.map SchedWindow.endAt

/-- A step that leaves the file or removes it is a window step. -/
theorem SameEnd.of_file {before after : Option SchedWindow}
    (file : after = before ∨ after = none) : SameEnd before after := by
  obtain rfl | rfl := file
  · exact .inr rfl
  · exact .inl rfl

/-- A window left by a window step was stored before it, with the same end. -/
theorem SameEnd.stored {before : Option SchedWindow} {after : SchedWindow}
    (same : SameEnd before (some after)) : ∃ w, before = some w ∧ w.endAt = after.endAt := by
  obtain gone | same := same
  · cases gone
  · exact Option.map_eq_some_iff.mp same.symm

/-- A late report is on its way. -/
theorem late_inFlight {s : State} {report : Option Int} (late : report ∈ s.late) :
    report ∈ s.inFlight := by
  unfold State.inFlight
  split
  · exact .tail _ late
  · exact late

/-- Dropping a late report leaves fewer reports on their way. -/
theorem inFlight_eraseIdx {s : State} {i : Nat} {other : Option Int}
    (sent : other ∈ { s with late := s.late.eraseIdx i }.inFlight) : other ∈ s.inFlight := by
  have late : ∀ report, report ∈ s.late.eraseIdx i → report ∈ s.late :=
    fun report => List.mem_of_mem_eraseIdx
  unfold State.inFlight at sent ⊢
  split
  · rename_i report waiting
    simp only [waiting, List.mem_cons] at sent ⊢
    exact sent.imp id (late other)
  · rename_i unsent
    split at sent
    · rename_i report waiting
      exact absurd waiting (unsent report)
    · exact late other sent

/-- What the panel runs on its table of customers at an event of the agent or a press of its
button. -/
def State.onTable (hash : String → String) (device token : String) (tenant : Nat) (s : State)
    (rows : List Customer) : Event → List Customer
  | .record now beat =>
    match s.waiting with
    | some (.sent report) => (recordHeartbeat hash now device token (reporting beat report) rows).2
    | _ => rows
  | .recordLate i now beat =>
    match s.late[i]? with
    | some report => (recordHeartbeat hash now device token (reporting beat report) rows).2
    | none => rows
  | .request now => (requestSchedClose now device tenant rows).2
  | _ => rows

/-- The only steps that write the row record a report that was on its way, or queue a request;
the panel runs the same on its table. -/
theorem step_row {s t : State} {e : Event} (next : SchedClose.step s e = some t) :
    (t.row = s.row ∧
      ∀ hash device token tenant rows, s.onTable hash device token tenant rows e = rows) ∨
    (∃ now beat, ∃ report ∈ s.inFlight, t.row = s.recorded now beat report ∧
      ∀ hash device token tenant rows, s.onTable hash device token tenant rows e =
        (recordHeartbeat hash now device token (reporting beat report) rows).2) ∨
    ∃ now, t.row = closeSet now s.row ∧
      ∀ hash device token tenant rows, s.onTable hash device token tenant rows e =
        (requestSchedClose now device tenant rows).2 := by
  cases e with
  | record now beat =>
    simp only [SchedClose.step] at next
    split at next
    · rename_i report waiting
      obtain rfl := Option.some.inj next
      refine .inr (.inl ⟨now, beat, report, by simp [State.inFlight, waiting], rfl, ?_⟩)
      intros
      simp only [State.onTable, waiting]
    · cases next
  | recordLate i now beat =>
    simp only [SchedClose.step] at next
    split at next
    · rename_i report found
      obtain rfl := Option.some.inj next
      have late := late_inFlight (List.mem_of_getElem? found)
      refine .inr (.inl ⟨now, beat, report, late, rfl, ?_⟩)
      intros
      simp only [State.onTable, found]
    · cases next
  | request now =>
    obtain rfl := Option.some.inj next
    exact .inr (.inr ⟨now, rfl, fun _ _ _ _ _ => rfl⟩)
  | send t followUp =>
    simp only [SchedClose.step, State.sending] at next
    split at next
    · obtain rfl := Option.some.inj next
      exact .inl ⟨by cases followUp <;> rfl, fun _ _ _ _ _ => rfl⟩
    · cases next
  | answer | deliver | abandon =>
    simp only [SchedClose.step] at next
    split at next
    all_goals
      first
      | cases next; done
      | obtain rfl := Option.some.inj next; exact .inl ⟨rfl, fun _ _ _ _ _ => rfl⟩
  | _ =>
    obtain rfl := Option.some.inj next
    exact .inl ⟨rfl, fun _ _ _ _ _ => rfl⟩

section Table

variable {hash : String → String} {device token : String} {tenant : Nat} {s t : State}
  {rows : List Customer}

/-- The row of the system is the agent's row of the table, at every step. -/
theorem step_onTable {e : Event} (own : OwnRow hash device token tenant rows s.row)
    (next : SchedClose.step s e = some t) :
    OwnRow hash device token tenant (s.onTable hash device token tenant rows e) t.row := by
  obtain ⟨same, ran⟩ | ⟨now, beat, report, _, recorded, ran⟩ | ⟨now, asked, ran⟩ := step_row next
  · rw [same, ran]
    exact own
  · rw [recorded, ran]
    exact (own.recordHeartbeat now _).2
  · rw [asked, ran]
    exact (own.updateDevice (closeSet now) fun _ => ⟨rfl, rfl, rfl⟩).2

/-- The queue that a response carries is the one `getSchedCloseRequest` reads in the table. -/
theorem answer_reads (own : OwnRow hash device token tenant rows s.row)
    (next : SchedClose.step s .answer = some t) :
    t.waiting = some (.answered (getSchedCloseRequest device rows)) := by
  rw [own.reads.1]
  simp only [SchedClose.step] at next
  split at next
  · obtain rfl := Option.some.inj next
    rfl
  · cases next

end Table

end ChainRemote.Link.SchedClose
