import ChainRemote.Hq.SessionRecords
import ChainRemote.Panel.SupportSessionRuns

/-!
# Which sessions are erased

The HQ app discards a session under fifteen seconds, and the panel then deletes its row; the app
measures from the opening of its window, while the row may be of an earlier window. The button of
the notes that records nothing posts the same discard.

A window here is a record of the app together with the row that its start returned. A post is
handled some time after it was sent. A window whose app restarts does nothing more. `reused` is
history.
-/

namespace ChainRemote.Link.ShortSessions

open Lib Hq.SessionRecords Panel.SupportSessions

/-- Where the session of a window is. -/
inductive Phase
  /-- The start is on its way. -/
  | starting
  /-- The row is known, if there is one. -/
  | running
  /-- The automatic end or discard is on its way. -/
  | posting (discard : Bool)
  /-- The main window asks for the notes. -/
  | annotating
  | done
deriving DecidableEq, Repr

/-- A remote window of the HQ app. -/
structure Window where
  /-- What its start posts. -/
  input : StartInput
  startMs : Nat
  sessionId : Option Nat := none
  /-- The start returned a session that is older than the window. -/
  reused : Bool := false
  phase : Phase := .starting

/-- The windows, the panel and the clock. -/
structure State where
  windows : List Window
  table : Table
  /-- The time in milliseconds. -/
  now : Nat

/-- What can happen next; a number is the place of a window. -/
inductive Event
  /-- `crSessionStart`. -/
  | start (input : StartInput)
  /-- The panel handles the start. -/
  | started (i : Nat) (seat : Option (Option String × Option String))
  /-- `crSessionEndAuto` measures the session and posts. -/
  | endAuto (i : Nat)
  /-- The panel handles that post. -/
  | handled (i : Nat) (body : EndBody)
  /-- A button of the notes; the panel handles its post. -/
  | annotate (i : Nat) (discard : Bool) (body : EndBody)
  /-- The notes are closed without a post. -/
  | dismiss (i : Nat)
  /-- `closeOrphanSessions`. -/
  | closeOrphans (tenantId : Nat) (seen : Nat → Option Int)
  /-- The app of a window restarts. -/
  | restart (i : Nat)
  /-- Time passes. -/
  | pass (ms : Nat)

namespace State

/-- Change a window. -/
def change (s : State) (i : Nat) (set : Window → Window) : State :=
  { s with windows := s.windows.modify i set }

/-- The panel handles a start. -/
def started (s : State) (i : Nat) (window : Window)
    (seat : Option (Option String × Option String)) : Option State :=
  if window.phase = .starting then
    match startSession s.now s.table window.input seat with
    | .ok (row, table) =>
      some { s.change i fun window =>
        { window with
          sessionId := some row.id
          reused := decide (row.startedAt < window.startMs)
          phase := .running } with table := table }
    | .error _ => some (s.change i fun window => { window with phase := .running })
  else none

/-- `crSessionEndAuto` of a window. -/
def endAuto (s : State) (i : Nat) (window : Window) : Option State :=
  if window.phase = .running then
    match window.sessionId with
    | none => some (s.change i fun window => { window with phase := .done })
    | some _ =>
      let discard := decide (elapsedSec s.now window.startMs < minRecordSec)
      some (s.change i fun window => { window with phase := .posting discard })
  else none

/-- `POST /api/sessions/[id]/discard`. -/
def discarded (s : State) (window : Window) : Table :=
  match window.sessionId with
  | none => s.table
  | some sessionId => discardSession s.table sessionId window.input.tenantId

/-- `POST /api/sessions/[id]/end`. -/
def ended (s : State) (window : Window) (body : EndBody) : Table :=
  match window.sessionId with
  | none => s.table
  | some sessionId =>
    match endSession s.now s.table sessionId window.input.tenantId body.fields with
    | .ok table => table
    | .error _ => s.table

/-- The panel handles the automatic post of a window. -/
def handled (s : State) (i : Nat) (window : Window) (body : EndBody) : Option State :=
  match window.phase with
  | .posting true =>
    some { s.change i fun window => { window with phase := .done } with
      table := s.discarded window }
  | .posting false =>
    some { s.change i fun window => { window with phase := .annotating } with
      table := s.ended window body }
  | _ => none

/-- The panel handles the post of a button. -/
def annotate (s : State) (i : Nat) (window : Window) (discard : Bool) (body : EndBody) :
    Option State :=
  if window.phase = .annotating then
    some { s.change i fun window => { window with phase := .done } with
      table := if discard then s.discarded window else s.ended window body }
  else none

/-- `closeOrphanSessions`; one that throws changes nothing. -/
def closeOrphans (s : State) (tenantId : Nat) (seen : Nat → Option Int) : State :=
  match closeOrphanSessions s.now s.table tenantId seen with
  | .ok table => { s with table := table }
  | .error _ => s

end State

/-- One event. -/
def step (s : State) : Event → Option State
  | .start input => some { s with windows := s.windows ++ [{ input := input, startMs := s.now }] }
  | .started i seat => (s.windows[i]?).bind fun window => s.started i window seat
  | .endAuto i => (s.windows[i]?).bind fun window => s.endAuto i window
  | .handled i body => (s.windows[i]?).bind fun window => s.handled i window body
  | .annotate i discard body =>
    (s.windows[i]?).bind fun window => s.annotate i window discard body
  | .dismiss i => (s.windows[i]?).bind fun window =>
      if window.phase = .annotating then
        some (s.change i fun window => { window with phase := .done })
      else none
  | .closeOrphans tenantId seen => some (s.closeOrphans tenantId seen)
  | .restart i => (s.windows[i]?).bind fun window =>
      if window.phase = .running ∨ window.phase = .annotating then
        some (s.change i fun window => { window with phase := .done })
      else none
  | .pass ms => some { s with now := s.now + ms }

/-- No row is ended in the future. -/
def Started (s : State) : Prop :=
  s.windows = [] ∧ ∀ row ∈ s.table.rows, ∀ ended, row.endedAt = some ended → ended ≤ s.now

/-- The HQ app and the panel. -/
def machine : Machine State Event := { start := Started, step := step }

/-- How long the session of a row lasted until now. -/
def span (now : Nat) (row : SupportSession) : Int := row.endedAt.getD now - row.startedAt

/-- A row that is gone lasted less than fifteen seconds. -/
def ErasesShort (s : State) (_ : Event) (t : State) : Prop :=
  ∀ row ∈ s.table.rows, (∀ other ∈ t.table.rows, other.id ≠ row.id) →
    span s.now row < minRecordSec * 1000

/-- A discard is for a session that is not older than its window, and is handled within fifteen
seconds of the opening of the window; and no notes are refused. -/
def Prompt (s : State) : Event → Prop
  | .handled i _ => ∀ window, s.windows[i]? = some window → window.phase = .posting true →
      window.reused = false ∧ s.now < window.startMs + minRecordSec * 1000
  | .annotate _ discard _ => discard = false
  | _ => True

end ChainRemote.Link.ShortSessions
