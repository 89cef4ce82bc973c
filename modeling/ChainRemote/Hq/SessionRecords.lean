import ChainRemote.Lib.Machine
import ChainRemote.Lib.Rows
import Mathlib.Logic.Function.Basic

/-!
# The records of remote windows

`chainremote_session_record.dart` keeps a record for each remote window, in a map by the peer of the
window. `crSessionStart` posts the start of the session and does not wait for its id;
`crSessionEndAuto`, called when the window is disposed, waits up to three seconds for the id, then
posts the end, or a discard for a session under fifteen seconds, and takes the key out of the map.

A record is known by its place, so that one that the map has lost can be named. `answer` is the id
that the start will return, and `disposed` and `closings` are history.
-/

namespace ChainRemote.Hq.SessionRecords

open Lib

/-- `kCrMinRecordSec`. -/
def minRecordSec : Nat := 15

/-- The timeout of `_resolveSid` in milliseconds. -/
def resolveMs : Nat := 3000

/-- `_elapsedSec`. -/
def elapsedSec (now startMs : Nat) : Nat := if startMs = 0 then 0 else (now - startMs) / 1000

/-- Where `crSessionEndAuto` of a record is. -/
inductive Stage
  /-- In `_resolveSid`. -/
  | resolving (since : Nat)
  /-- The discard or the end is on its way. -/
  | posting (discard : Bool)
  /-- The main window is asked for the notes. -/
  | notifying
  | finished
deriving DecidableEq, Repr

/-- A session that is discarded or ended. -/
structure Closing where
  sessionId : String
  discard : Bool
deriving DecidableEq, Repr

/-- `_CrRec`, with the call of `crSessionEndAuto` that works on it. -/
structure Rec where
  peerId : String
  /-- The id that `startFuture` completes with; empty where no session is recorded. -/
  answer : String
  /-- `startFuture` has completed. -/
  arrived : Bool := false
  sessionId : String := ""
  startMs : Nat
  recorded : Bool := false
  stage : Option Stage := none
  /-- The window is disposed. -/
  disposed : Bool := false
  /-- The ends and discards that were posted. -/
  closings : List Closing := []
deriving DecidableEq, Repr

/-- The records, `_crRecs` and the clock. -/
structure State where
  recs : List Rec
  crRecs : String → Option Nat
  /-- The time in milliseconds. -/
  now : Nat

/-- What can happen next; a number is the place of a record. -/
inductive Event
  /-- A window opens. -/
  | start (peerId answer : String)
  /-- The reply to a start arrives. -/
  | reply (i : Nat)
  /-- A window is disposed. -/
  | dispose (i : Nat)
  /-- `_resolveSid` has the id. -/
  | resolve (i : Nat)
  /-- `_resolveSid` gives up. -/
  | cutoff (i : Nat)
  /-- The post of an end or a discard returns. -/
  | posted (i : Nat)
  /-- The main window has been asked. -/
  | notified (i : Nat)
  /-- Time passes. -/
  | pass (ms : Nat)
deriving DecidableEq, Repr

namespace State

/-- `crSessionStart`. -/
def crSessionStart (s : State) (peerId answer : String) : State :=
  { s with
    recs := s.recs ++ [{ peerId := peerId, answer := answer, startMs := s.now }]
    crRecs := Function.update s.crRecs peerId (some s.recs.length) }

/-- Change a record. -/
def change (s : State) (i : Nat) (set : Rec → Rec) : State :=
  { s with recs := s.recs.modify i set }

/-- The start of `crSessionEndAuto`. -/
def crSessionEndAuto (s : State) (peerId : String) : State :=
  match s.crRecs peerId with
  | none => s
  | some i =>
    if (s.recs[i]?).any Rec.recorded then
      { s with crRecs := Function.update s.crRecs peerId none }
    else
      s.change i fun rec => { rec with recorded := true, stage := some (.resolving s.now) }

/-- The end of `crSessionEndAuto`. -/
def finish (s : State) (i : Nat) (rec : Rec) : State :=
  { s.change i fun rec => { rec with stage := some .finished } with
    crRecs := Function.update s.crRecs rec.peerId none }

/-- `crSessionEndAuto` after `_resolveSid`. -/
def close (s : State) (i : Nat) (rec : Rec) (sid : String) : State :=
  if sid = "" then s.finish i rec
  else
    let discard := decide (elapsedSec s.now rec.startMs < minRecordSec)
    s.change i fun rec =>
      { rec with
        stage := some (.posting discard)
        closings := { sessionId := sid, discard := discard } :: rec.closings }

/-- The window of a record is disposed. -/
def dispose (s : State) (i : Nat) (rec : Rec) : Option State :=
  if rec.disposed then none
  else
    some ((s.change i fun rec => { rec with disposed := true }).crSessionEndAuto rec.peerId)

/-- The reply to the start of a record. -/
def reply (s : State) (i : Nat) (rec : Rec) : Option State :=
  if rec.arrived then none
  else some (s.change i fun rec => { rec with arrived := true, sessionId := rec.answer })

/-- `_resolveSid` returns the id of the record or of its future. -/
def resolve (s : State) (i : Nat) (rec : Rec) : Option State :=
  match rec.stage with
  | some (.resolving _) =>
    if rec.sessionId ≠ "" then some (s.close i rec rec.sessionId)
    else if rec.arrived then
      some ((s.change i fun rec => { rec with sessionId := rec.answer }).close i rec rec.answer)
    else none
  | _ => none

/-- `_resolveSid` returns without the id. -/
def cutoff (s : State) (i : Nat) (rec : Rec) : Option State :=
  match rec.stage with
  | some (.resolving since) =>
    if rec.sessionId = "" ∧ rec.arrived = false ∧ since + resolveMs ≤ s.now then
      some ((s.change i fun rec => { rec with sessionId := "" }).close i rec "")
    else none
  | _ => none

/-- The end or the discard has been posted. -/
def posted (s : State) (i : Nat) (rec : Rec) : Option State :=
  match rec.stage with
  | some (.posting true) => some (s.finish i rec)
  | some (.posting false) => some (s.change i fun rec => { rec with stage := some .notifying })
  | _ => none

/-- The main window has been asked for the notes. -/
def notified (s : State) (i : Nat) (rec : Rec) : Option State :=
  match rec.stage with
  | some .notifying => some (s.finish i rec)
  | _ => none

end State

/-- One event. -/
def step (s : State) : Event → Option State
  | .start peerId answer => some (s.crSessionStart peerId answer)
  | .reply i => (s.recs[i]?).bind fun rec => s.reply i rec
  | .dispose i => (s.recs[i]?).bind fun rec => s.dispose i rec
  | .resolve i => (s.recs[i]?).bind fun rec => s.resolve i rec
  | .cutoff i => (s.recs[i]?).bind fun rec => s.cutoff i rec
  | .posted i => (s.recs[i]?).bind fun rec => s.posted i rec
  | .notified i => (s.recs[i]?).bind fun rec => s.notified i rec
  | .pass ms => some { s with now := s.now + ms }

/-- The app after its start. -/
def launched (now : Nat) : State where
  recs := []
  crRecs := fun _ => none
  now := now

/-- The app. -/
def machine : Machine State Event where
  start s := ∃ now, s = launched now
  step := step

/-- The window of the record is disposed, its reply is there and no step of it is pending. -/
def Rec.Settled (rec : Rec) : Prop :=
  rec.disposed = true ∧ rec.arrived = true ∧ (rec.stage = none ∨ rec.stage = some .finished)

/-- The session of the record was ended or discarded exactly once, and none where there is none. -/
def Rec.Closed (rec : Rec) : Prop :=
  if rec.answer = "" then rec.closings = []
  else ∃ discard, rec.closings = [{ sessionId := rec.answer, discard := discard }]

/-- Every settled record is closed. -/
def State.AllClosed (s : State) : Prop := ∀ rec ∈ s.recs, rec.Settled → rec.Closed

/-- The window whose end an event belongs to. -/
def Event.endOf : Event → Option Nat
  | .dispose i | .resolve i | .cutoff i | .posted i | .notified i => some i
  | _ => none

/-- The end of a window leaves the records of later windows, and their keys. -/
def SparesLater (s : State) (e : Event) (t : State) : Prop :=
  ∀ i, e.endOf = some i → ∀ later, i < later →
    t.recs[later]? = s.recs[later]? ∧
      ∀ peerId, s.crRecs peerId = some later → t.crRecs peerId = some later

/-- A window opens only where the map has no record of its peer, and only a start without a session
is given up. -/
def Apart (s : State) : Event → Prop
  | .start peerId _ => s.crRecs peerId = none
  | .cutoff i => ∀ rec, s.recs[i]? = some rec → rec.answer = ""
  | _ => True

end ChainRemote.Hq.SessionRecords
