import Mathlib.Data.List.AList
import ChainRemote.Lib.Machine
import ChainRemote.Server.TerminalReplay

/-!
# The sessions of a terminal service

A service knows its sessions by terminal ids. A session outlives the connection that opened it:
`reset_status` closes every session for a new client, and the first open after it may give the
session with the lowest id the requested one. `read_outputs` takes a copy of the map and then locks
one session after another, while other calls go on; each of these steps is an event of its own.

The sessions are objects in a heap, as the map, the copy and the reader threads share them.
-/

namespace ChainRemote.Server.TerminalService

open Lib
open TerminalReplay (TerminalSession DataResponse Compression deliver trySendOutput)

/-- What the service uses of a `TerminalSession`. -/
structure Session where
  pid : Nat := 0
  output : TerminalSession := { state := .closed }
  /-- `child` is there. -/
  child : Bool := false
  /-- `reader_thread` has finished. -/
  readerFinished : Bool := false
  closedMessageSent : Bool := false

/-- The `sessions` of a service: terminal ids and session objects. -/
abbrev Sessions := AList fun _ : Int => Nat

/-- `PersistentTerminalService`, with the heap its sessions are in. -/
structure PersistentTerminalService where
  serviceId : String
  sessions : Sessions
  heap : Nat → Session
  /-- The objects from here on do not exist yet. -/
  allocated : Nat
  isPersistent : Bool
  needsSessionSync : Bool

/-- `TerminalOpened`. -/
structure TerminalOpened where
  terminalId : Int
  success : Bool
  message : String
  pid : Nat
  serviceId : String
  persistentSessions : List Int
deriving DecidableEq, Repr

/-- `TerminalClosed`. -/
structure TerminalClosed where
  terminalId : Int
  exitCode : Int
deriving DecidableEq, Repr

/-- A `TerminalResponse` of `read_outputs`. -/
inductive TerminalResponse
  | data (response : DataResponse)
  | closed (response : TerminalClosed)
deriving DecidableEq, Repr

/-- How it goes to start a shell. -/
inductive Launch
  | failed
  | shell (pid : Nat)
  /-- A helper process has the shell; Windows with a user token. -/
  | helper (pid : Nat)
deriving DecidableEq, Repr

namespace PersistentTerminalService

/-- `PersistentTerminalService::new`. -/
def new (serviceId : String) (isPersistent : Bool) : PersistentTerminalService where
  serviceId
  sessions := ∅
  heap _ := {}
  allocated := 0
  isPersistent
  needsSessionSync := false

variable (service : PersistentTerminalService)

/-- Changes one session object. -/
def modify (object : Nat) (change : Session → Session) : PersistentTerminalService :=
  { service with heap := Function.update service.heap object (change (service.heap object)) }

/-- `reset_status`. -/
def resetStatus (isPersistent : Bool) : PersistentTerminalService :=
  { service with
    isPersistent
    needsSessionSync := true
    heap := fun object =>
      if object ∈ service.sessions.entries.map Sigma.snd then
        { service.heap object with
          output := TerminalReplay.resetStatus (service.heap object).output }
      else service.heap object }

/-- The first part of `handle_open`: the session with the lowest id gets the requested id. -/
def remap (terminalId : Int) : PersistentTerminalService :=
  if terminalId ∉ service.sessions ∧ service.needsSessionSync = true ∧
      service.sessions.keys ≠ [] then
    match service.sessions.keys.min? with
    | some lowestId =>
      match service.sessions.lookup lowestId with
      | some object =>
        { service with
          sessions := (service.sessions.erase lowestId).insert terminalId object }
      | none => service
    | none => service
  else service

/-- `handle_open` of a session that is there. -/
def reopen (terminalId : Int) (object : Nat) : TerminalOpened × PersistentTerminalService :=
  let opened :=
    { terminalId
      success := true
      message := "Reconnected to existing terminal"
      pid := (service.heap object).pid
      serviceId := service.serviceId
      persistentSessions :=
        if service.needsSessionSync ∧ service.sessions.keys.length > 1 then
          service.sessions.keys.filter (· ≠ terminalId)
        else [] }
  let service := service.modify object fun session =>
    { session with output := TerminalReplay.handleOpen session.output }
  (opened, { service with needsSessionSync := false })

/-- `handle_open` of a new session, once its shell runs. -/
def create (terminalId : Int) (message : String) (pid : Nat) (child : Bool) :
    TerminalOpened × PersistentTerminalService :=
  let opened :=
    { terminalId
      success := true
      message
      pid
      serviceId := service.serviceId
      persistentSessions := if service.needsSessionSync then service.sessions.keys else [] }
  let session : Session := { pid, child, output := { state := .active none .idle } }
  (opened,
    { service with
      needsSessionSync := false
      sessions := service.sessions.insert terminalId service.allocated
      heap := Function.update service.heap service.allocated session
      allocated := service.allocated + 1 })

/-- `handle_open`; no answer where it fails. -/
def handleOpen (terminalId : Int) (launch : Launch) :
    Option TerminalOpened × PersistentTerminalService :=
  let service := service.remap terminalId
  match service.sessions.lookup terminalId with
  | some object =>
    let (opened, service) := service.reopen terminalId object
    (some opened, service)
  | none =>
    match launch with
    | .failed => (none, service)
    | .shell pid =>
      let (opened, service) := service.create terminalId "Terminal opened" pid true
      (some opened, service)
    | .helper pid =>
      let (opened, service) := service.create terminalId "Terminal opened (helper mode)" pid false
      (some opened, service)

/-- `handle_close`; no answer where there is no such session or the shell cannot be killed. -/
def handleClose (terminalId : Int) (killed : Bool) :
    Option TerminalClosed × PersistentTerminalService :=
  match service.sessions.lookup terminalId with
  | some object =>
    let left := { service with sessions := service.sessions.erase terminalId }
    if (service.heap object).child then
      let left := left.modify object fun session => { session with child := false }
      (if killed then some { terminalId, exitCode := -1 } else none, left)
    else (some { terminalId, exitCode := 0 }, left)
  | none => (none, service)

/-- One round of the last loop of `read_outputs`: the answer for a closed terminal, the service and
the copy of its sessions. `tryWait` gives the exit codes there are. -/
def closeTerminal (tryWait : Nat → Option Int) (isPersistent : Bool) (sessions : Sessions)
    (terminalId : Int) : TerminalClosed × PersistentTerminalService × Sessions :=
  match sessions.lookup terminalId with
  | some object =>
    let exitCode := if (service.heap object).child then (tryWait object).getD 0 else 0
    let reaped := service.modify object fun session => { session with child := false }
    if isPersistent then ({ terminalId, exitCode }, reaped, sessions)
    else
      ({ terminalId, exitCode }, { reaped with sessions := reaped.sessions.erase terminalId },
        sessions.erase terminalId)
  | none => ({ terminalId, exitCode := 0 }, service, sessions)

/-- The last loop of `read_outputs`. -/
def closeTerminals (tryWait : Nat → Option Int) (isPersistent : Bool) :
    PersistentTerminalService → Sessions → List Int →
      List TerminalClosed × PersistentTerminalService
  | service, _, [] => ([], service)
  | service, sessions, terminalId :: rest =>
    let (closed, service, sessions) :=
      service.closeTerminal tryWait isPersistent sessions terminalId
    let (others, service) := closeTerminals tryWait isPersistent service sessions rest
    (closed :: others, service)

end PersistentTerminalService

/-- What `read_outputs` does with a session it has locked: if the terminal is closed, the answers
and the session; none where an append never returns. -/
def readSession (zstd : Compression) (terminalId : Int) (resizeOk : Bool) (session : Session) :
    Option (Bool × List TerminalResponse × Session) := do
  let shouldSendClosed := !session.closedMessageSent && session.readerFinished
  let received := session.output.channel
  let (responses, output) ←
    deliver zstd terminalId resizeOk received { session.output with channel := [] }
  return (shouldSendClosed, responses.map .data,
    { session with output, closedMessageSent := session.closedMessageSent || shouldSendClosed })

/-- `read_outputs` between its copy of the sessions and its last loop. -/
structure Tick where
  /-- The sessions of the copy that the first loop has not reached. -/
  left : Sessions
  closedTerminals : List Int := []
  responses : List TerminalResponse := []
  isPersistent : Bool
  /-- The objects whose reader had finished when the tick began. -/
  finished : Nat → Bool

/-- A successful `handle_open`. -/
structure Opening where
  terminalId : Int
  object : Nat
  /-- There was a `TerminalClosed` for the terminal since. -/
  reported : Bool := false
deriving DecidableEq, Repr

/-- A service, its run loop and what happened so far. -/
structure State where
  service : PersistentTerminalService
  tick : Option Tick := none
  /-- There was a `reset_status` and no successful open since. -/
  reconnecting : Bool := false
  /-- The successful opens of the sessions that still have the id of that open. -/
  openings : List Opening := []

/-- What can happen to a service. -/
inductive Event
  /-- The reader of a session sends a chunk. -/
  | output (object : Nat) (data : Bytes)
  /-- A shell exits and the reader of its session finishes. -/
  | exit (object : Nat)
  /-- `read_outputs` copies the sessions. -/
  | snapshot
  /-- Its first loop reaches a terminal, and gets the lock or not. -/
  | visit (terminalId : Int) (locked resizeOk : Bool)
  /-- It does the rest. -/
  | finish (tryWait : Nat → Option Int)
  /-- `reset_status` for a client with a persistent service. -/
  | reset
  | handleOpen (terminalId : Int) (launch : Launch)
  | handleClose (terminalId : Int) (killed : Bool)

/-- The opens of the sessions that a service still knows by the id of the open. -/
def known (service : PersistentTerminalService) (openings : List Opening) : List Opening :=
  openings.filter fun opening =>
    service.sessions.lookup opening.terminalId = some opening.object

/-- The opens after an answer that a terminal is closed. -/
def report (terminals : List Int) (openings : List Opening) : List Opening :=
  openings.map fun opening =>
    if opening.terminalId ∈ terminals then { opening with reported := true } else opening

section Step

variable (zstd : Compression) (s : State)

/-- The first loop of `read_outputs` at one terminal. -/
def visit (tick : Tick) (terminalId : Int) (object : Nat) (locked resizeOk : Bool) :
    Option State :=
  let left := tick.left.erase terminalId
  if locked then
    match readSession zstd terminalId resizeOk (s.service.heap object) with
    | some (shouldSendClosed, responses, session) =>
      some { s with
        service := s.service.modify object fun _ => session
        tick := some { tick with
          left
          closedTerminals :=
            if shouldSendClosed then tick.closedTerminals ++ [terminalId]
            else tick.closedTerminals
          responses := tick.responses ++ responses } }
    | none => none
  else some { s with tick := some { tick with left } }

/-- The rest of `read_outputs`: the answers and the state. -/
def finish (tick : Tick) (tryWait : Nat → Option Int) : List TerminalResponse × State :=
  let (closed, service) :=
    s.service.closeTerminals tryWait tick.isPersistent s.service.sessions tick.closedTerminals
  (tick.responses ++ closed.map .closed,
    { s with
      service
      tick := none
      openings := known service (report (closed.map TerminalClosed.terminalId) s.openings) })

/-- The state after `handle_open`. -/
def opened (terminalId : Int) (launch : Launch) : State :=
  let (response, service) := s.service.handleOpen terminalId launch
  match response, service.sessions.lookup terminalId with
  | some _, some object =>
    { s with
      service
      reconnecting := false
      openings := { terminalId, object } :: known service s.openings }
  | _, _ => { s with service }

/-- The state after `handle_close`. -/
def closed (terminalId : Int) (killed : Bool) : State :=
  let (response, service) := s.service.handleClose terminalId killed
  { s with
    service
    openings := known service
      (report (response.toList.map TerminalClosed.terminalId) s.openings) }

/-- The state after an event; none where it cannot happen. -/
def step : Event → Option State
  | .output object data =>
    some { s with
      service := s.service.modify object fun session =>
        { session with output := trySendOutput data session.output } }
  | .exit object =>
    some { s with
      service := s.service.modify object fun session => { session with readerFinished := true } }
  | .snapshot =>
    match s.tick with
    | none =>
      some { s with
        tick := some
          { left := s.service.sessions
            isPersistent := s.service.isPersistent
            finished := fun object =>
              decide (object < s.service.allocated) &&
                (s.service.heap object).readerFinished } }
    | some _ => none
  | .visit terminalId locked resizeOk =>
    match s.tick with
    | some tick =>
      match tick.left.lookup terminalId with
      | some object => visit zstd s tick terminalId object locked resizeOk
      | none => none
    | none => none
  | .finish tryWait =>
    match s.tick with
    | some tick => if tick.left.keys = [] then some (finish s tick tryWait).2 else none
    | none => none
  | .reset => some { s with service := s.service.resetStatus true, reconnecting := true }
  | .handleOpen terminalId launch => some (opened s terminalId launch)
  | .handleClose terminalId killed => some (closed s terminalId killed)

end Step

/-- A persistent service from its creation on. -/
def service (zstd : Compression) : Machine State Event where
  start s := ∃ serviceId, s = { service := .new serviceId true }
  step := step zstd

end ChainRemote.Server.TerminalService
