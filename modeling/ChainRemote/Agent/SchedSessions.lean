import Mathlib.Logic.Function.Basic
import ChainRemote.Lib.Machine
import ChainRemote.Agent.SchedWindow

/-!
# The sessions of a scheduled window

One boolean of the marker file stands for all connections the window admitted. Connections
come and go in any order, an admitted one notes its session at admission and in `on_close`,
the customer may approve a new window while old sessions run, and a restart drops every
connection without `on_close` while the file stays.

Windows are numbered by their approvals. The number a connection was admitted under and the
list of ended sessions are history: no step reads them.
-/

namespace ChainRemote.Agent.SchedSessions

open Lib

/-- What the bookkeeping knows of a connection. -/
structure Conn where
  /-- `sched_window_session`, with the number of the window that admitted it last. -/
  admitted : Option Nat
  /-- `authorized`: further login requests are ignored. -/
  authorized : Bool
deriving DecidableEq, Repr

/-- The marker file and the connections of the agent. -/
structure State where
  /-- The content of the marker file. -/
  file : Option SchedWindow
  /-- The number of the latest approved window. -/
  window : Nat
  /-- The open connections. -/
  conns : Nat → Option Conn
  /-- The ended sessions, the latest first: the window that admitted each and its end. -/
  ended : List (Nat × Int)

/-- A step of a connection, of the customer or of the process. -/
inductive Event
  /-- A peer connects. -/
  | connect (c : Nat)
  /-- A login request reaches the gate; `authorizes` says whether it completes the login,
  which a pending second factor or an error prevents. -/
  | login (c : Nat) (t : Int) (authorizes : Bool)
  /-- A login is accepted without the gate. -/
  | authorize (c : Nat)
  /-- `on_close`. -/
  | close (c : Nat) (t : Int)
  /-- The customer accepts a proposal. -/
  | grant (t start endAt hqNow : Int) (label : String)
  /-- A screen or the heartbeat asks for the window. -/
  | status (t : Int)
  /-- The window is taken back. -/
  | clear
  /-- The process dies and starts again. -/
  | restart

/-- A clock reading: seconds since the epoch in `i64`. -/
def Reading (t : Int) : Prop := 0 ≤ t ∧ t < 2 ^ 63

instance (t : Int) : Decidable (Reading t) := inferInstanceAs (Decidable (_ ∧ _))

/-- The state with one connection replaced, or dropped. -/
def State.setConn (s : State) (c : Nat) (x : Option Conn) : State :=
  { s with conns := Function.update s.conns c x }

/-- The login branches at the gate. -/
def State.login (s : State) (c : Nat) (t : Int) (authorizes : Bool) (x : Conn) : State :=
  let gate := isOpen t s.file
  if gate.1 then
    { s.setConn c (some { admitted := some s.window, authorized := authorizes }) with
      file := noteSessionStart gate.2 }
  else
    { s.setConn c (some { x with authorized := authorizes }) with file := gate.2 }

/-- `on_close` of connection `c`. -/
def State.close (s : State) (c : Nat) (t : Int) (x : Conn) : State :=
  match x.admitted with
  | some window =>
    { s.setConn c none with
      file := noteSessionEnd t s.file
      ended := (window, t) :: s.ended }
  | none => s.setConn c none

/-- The state after the customer approves a window. -/
def State.grant (s : State) (t start endAt hqNow : Int) (label : String) : State :=
  { s with file := some (Agent.grant t start endAt hqNow label), window := s.window + 1 }

/-- One step; `none` where the event cannot happen. -/
def step (s : State) : Event → Option State
  | .connect c =>
    match s.conns c with
    | some _ => none
    | none => some (s.setConn c (some { admitted := none, authorized := false }))
  | .login c t authorizes =>
    match s.conns c with
    | none => none
    | some x =>
      if x.authorized then some s
      else if Reading t then some (s.login c t authorizes x) else none
  | .authorize c =>
    match s.conns c with
    | none => none
    | some x => some (s.setConn c (some { x with authorized := true }))
  | .close c t =>
    match s.conns c with
    | none => none
    | some x => if Reading t then some (s.close c t x) else none
  | .grant t start endAt hqNow label =>
    if Reading t then some (s.grant t start endAt hqNow label) else none
  | .status t => if Reading t then some { s with file := Agent.status t s.file } else none
  | .clear => some { s with file := none }
  | .restart => some { s with conns := fun _ => none }

/-- An agent that has never stored a window and has no connection. -/
def machine : Machine State Event where
  start s := s.file = none ∧ (∀ c, s.conns c = none) ∧ s.ended = []
  step := step

/-- A connection admitted under the latest window is connected. -/
def Connected (s : State) : Prop := ∃ c x, s.conns c = some x ∧ x.admitted = some s.window

/-- When the last session admitted under the latest window ended. -/
def lastEnded (s : State) : Option Int :=
  (s.ended.find? fun e => e.1 == s.window).map Prod.snd

/-- The stored window's two session fields say what the connections are. -/
def Bookkept (s : State) (w : SchedWindow) : Prop :=
  (w.inSession = true ↔ Connected s) ∧
    ∀ last, w.lastSessionEnd = some last → (s.window, last) ∈ s.ended

/-- While a session of the window is connected, a login inside its bounds passes and the
window stays. -/
def StaysOpen (s : State) (w : SchedWindow) : Prop :=
  Connected s → ∀ t, Reading t → w.start ≤ t → t < w.endAt → t < w.grantedAt + maxWindowSecs →
    isOpen t (some w) = (true, some w)

/-- From the close time after its last session ended, and while none is connected, no login
passes; the marker goes unless the clock stands before the window. -/
def IdleCloses (s : State) (w : SchedWindow) : Prop :=
  ¬ Connected s → ∀ last, lastEnded s = some last → ∀ t, Reading t → last + idleCloseSecs ≤ t →
    (isOpen t (some w)).1 = false ∧ (w.start ≤ t → (isOpen t (some w)).2 = none)

/-- The condition on a step: while a window is stored, a connection the gate admitted closes
only if that window admitted it and has no other connection, and the process restarts only
while no connection of that window is open. -/
def Undisturbed (s : State) : Event → Prop
  | .close c _ =>
    s.file ≠ none → ∀ x, s.conns c = some x → x.admitted ≠ none →
      x.admitted = some s.window ∧
        ∀ d y, d ≠ c → s.conns d = some y → y.admitted ≠ some s.window
  | .restart => s.file ≠ none → ¬ Connected s
  | _ => True

/-- The stored window, read as the fields the bookkeeping keeps. -/
structure Kept (s : State) (w : SchedWindow) : Prop where
  /-- It says whether one of its connections is open. -/
  inSession : w.inSession = true ↔ Connected s
  /-- It says when the last of them ended. -/
  lastEnd : w.lastSessionEnd = lastEnded s
  /-- It was approved at a clock reading. -/
  granted : Reading w.grantedAt

/-- What holds along undisturbed runs. -/
structure Inv (s : State) : Prop where
  /-- The stored window is right about its sessions. -/
  kept : ∀ w, s.file = some w → Kept s w
  /-- Connections were admitted under windows approved so far. -/
  admitted : ∀ c x k, s.conns c = some x → x.admitted = some k → k ≤ s.window
  /-- So were the ended sessions, which ended at clock readings. -/
  ended : ∀ e ∈ s.ended, e.1 ≤ s.window ∧ Reading e.2

/-- A connection of the latest window is `c` or another one. -/
theorem connected_split (s : State) (c : Nat) :
    Connected s ↔ (∃ x, s.conns c = some x ∧ x.admitted = some s.window) ∨
      ∃ d x, d ≠ c ∧ s.conns d = some x ∧ x.admitted = some s.window := by
  constructor
  · rintro ⟨d, x, found, admitted⟩
    by_cases same : d = c
    · subst same
      exact .inl ⟨x, found, admitted⟩
    · exact .inr ⟨d, x, same, found, admitted⟩
  · rintro (⟨x, found, admitted⟩ | ⟨d, x, _, found, admitted⟩)
    · exact ⟨c, x, found, admitted⟩
    · exact ⟨d, x, found, admitted⟩

/-- The same after one connection is replaced. -/
theorem connected_setConn (s : State) (c : Nat) (x : Option Conn) :
    Connected (s.setConn c x) ↔ (∃ y, x = some y ∧ y.admitted = some s.window) ∨
      ∃ d y, d ≠ c ∧ s.conns d = some y ∧ y.admitted = some s.window := by
  rw [connected_split (s.setConn c x) c]
  constructor
  · rintro (⟨y, found, admitted⟩ | ⟨d, y, other, found, admitted⟩)
    · simp only [State.setConn, Function.update_self] at found
      exact .inl ⟨y, found, admitted⟩
    · simp only [State.setConn, Function.update_of_ne other] at found
      exact .inr ⟨d, y, other, found, admitted⟩
  · rintro (⟨y, found, admitted⟩ | ⟨d, y, other, found, admitted⟩)
    · exact .inl ⟨y, by simp only [State.setConn, Function.update_self, found], admitted⟩
    · exact .inr ⟨d, y, other, by simp only [State.setConn, Function.update_of_ne other, found],
        admitted⟩

/-- Replacing a connection by one of the same admission changes no window's sessions. -/
theorem connected_setConn_same {s : State} {c : Nat} {x : Option Conn}
    (same : x.bind Conn.admitted = (s.conns c).bind Conn.admitted) :
    Connected (s.setConn c x) ↔ Connected s := by
  rw [connected_setConn, connected_split s c]
  have own : (∃ y, x = some y ∧ y.admitted = some s.window) ↔
      ∃ y, s.conns c = some y ∧ y.admitted = some s.window := by
    rw [← Option.bind_eq_some_iff, ← Option.bind_eq_some_iff, same]
  rw [own]

/-- The window's fields stay right where neither its sessions nor its approval change. -/
theorem Kept.congr {s s' : State} {v w : SchedWindow} (kept : Kept s v)
    (connected : Connected s' ↔ Connected s) (window : s'.window = s.window)
    (ended : s'.ended = s.ended) (inSession : w.inSession = v.inSession)
    (lastEnd : w.lastSessionEnd = v.lastSessionEnd) (granted : w.grantedAt = v.grantedAt) :
    Kept s' w where
  inSession := by rw [inSession, connected, kept.inSession]
  lastEnd := by rw [lastEnd, kept.lastEnd, lastEnded, lastEnded, window, ended]
  granted := by rw [granted]; exact kept.granted

/-- The connections after one is replaced were admitted under windows approved so far. -/
theorem Inv.admitted_setConn {s : State} {c : Nat} {x : Option Conn} (inv : Inv s)
    (own : ∀ y k, x = some y → y.admitted = some k → k ≤ s.window) (d : Nat) (y : Conn) (k : Nat)
    (found : (s.setConn c x).conns d = some y) (admitted : y.admitted = some k) :
    k ≤ s.window := by
  by_cases same : d = c
  · subst same
    simp only [State.setConn, Function.update_self] at found
    exact own y k found admitted
  · simp only [State.setConn, Function.update_of_ne same] at found
    exact inv.admitted d y k found admitted

/-- A step that replaces a connection by one of the same admission and keeps or removes the
marker keeps the invariant. -/
theorem Inv.setConn {s : State} {c : Nat} {x : Option Conn} {file : Option SchedWindow}
    (inv : Inv s) (same : x.bind Conn.admitted = (s.conns c).bind Conn.admitted)
    (left : file = s.file ∨ file = none) : Inv { s.setConn c x with file } where
  kept := by
    intro w stored
    have before : s.file = some w := by
      cases left with
      | inl kept => exact kept.symm.trans stored
      | inr gone => cases gone.symm.trans stored
    exact (inv.kept w before).congr (connected_setConn_same same) rfl rfl rfl rfl rfl
  admitted := by
    apply inv.admitted_setConn
    intro y k replaced admitted
    have own : (s.conns c).bind Conn.admitted = some k := by
      rw [← same, replaced]
      exact admitted
    obtain ⟨z, found, before⟩ := Option.bind_eq_some_iff.mp own
    exact inv.admitted c z k found before
  ended := inv.ended

/-- A step that only keeps or removes the marker keeps the invariant. -/
theorem Inv.file {s : State} {file : Option SchedWindow} (inv : Inv s)
    (left : file = s.file ∨ file = none) : Inv { s with file } where
  kept := by
    intro w stored
    have before : s.file = some w := by
      cases left with
      | inl kept => exact kept.symm.trans stored
      | inr gone => cases gone.symm.trans stored
    exact (inv.kept w before).congr Iff.rfl rfl rfl rfl rfl rfl
  admitted := inv.admitted
  ended := inv.ended

/-- A login keeps the bookkeeping right: where it passes, the window gains a connection. -/
theorem inv_login {s : State} {c : Nat} {x : Conn} (inv : Inv s) (found : s.conns c = some x)
    (t : Int) (authorizes : Bool) : Inv (s.login c t authorizes x) := by
  unfold State.login
  have left := isOpen_file t s.file
  dsimp only
  split
  · exact
      { kept := by
          intro w stored
          cases gate : (isOpen t s.file).2 with
          | none =>
            rw [gate] at stored
            cases stored
          | some v =>
            have before : s.file = some v := by
              cases left with
              | inl kept => exact kept.symm.trans gate
              | inr gone => cases gone.symm.trans gate
            simp only [gate, noteSessionStart, Option.map_some, Option.some.injEq] at stored
            subst stored
            have kept := inv.kept v before
            refine ⟨?_, kept.lastEnd, kept.granted⟩
            have connected := connected_setConn s c
              (some { admitted := some s.window, authorized := authorizes })
            exact iff_of_true rfl (connected.mpr (.inl ⟨_, rfl, rfl⟩))
        admitted := by
          apply inv.admitted_setConn
          intro y k replaced admitted
          obtain rfl := Option.some.inj replaced
          obtain rfl := Option.some.inj admitted
          exact Nat.le_refl _
        ended := inv.ended }
  · apply inv.setConn _ left
    rw [found]
    rfl

/-- An admitted connection that closes under the condition leaves a window without
connections, which records the time. -/
theorem inv_close {s : State} {c : Nat} {x : Conn} {t : Int} (inv : Inv s)
    (found : s.conns c = some x) (undisturbed : Undisturbed s (.close c t)) (reading : Reading t) :
    Inv (s.close c t x) := by
  unfold State.close
  split
  · rename_i window admitted
    have bound := inv.admitted c x window found admitted
    exact
      { kept := by
          intro w stored
          cases before : s.file with
          | none =>
            rw [before] at stored
            cases stored
          | some v =>
            have present : s.file ≠ none := by simp [before]
            have ⟨own, others⟩ := undisturbed present x found (by simp [admitted])
            obtain rfl := Option.some.inj (admitted.symm.trans own)
            rw [before] at stored
            simp only [noteSessionEnd, Option.map_some, Option.some.injEq] at stored
            subst stored
            refine ⟨?_, ?_, (inv.kept v before).granted⟩
            · have alone : ¬ Connected (s.setConn c none) := by
                rw [connected_setConn]
                rintro (⟨y, gone, _⟩ | ⟨d, y, other, open', admitted'⟩)
                · cases gone
                · exact others d y other open' admitted'
              exact iff_of_false Bool.false_ne_true alone
            · simp [lastEnded, State.setConn]
        admitted := by
          apply inv.admitted_setConn
          intro y k gone
          cases gone
        ended := by
          intro e member
          cases List.mem_cons.mp member with
          | inl new =>
            subst new
            exact ⟨bound, reading⟩
          | inr old => exact inv.ended e old }
  · rename_i unadmitted
    apply inv.setConn _ (.inl rfl)
    rw [found]
    exact unadmitted.symm

/-- A new window has no connection and no ended session yet. -/
theorem inv_grant {s : State} {t : Int} (inv : Inv s) (reading : Reading t)
    (start endAt hqNow : Int) (label : String) : Inv (s.grant t start endAt hqNow label) where
  kept := by
    intro w stored
    obtain rfl := Option.some.inj stored
    refine ⟨?_, ?_, reading⟩
    · have fresh : ¬ Connected (s.grant t start endAt hqNow label) := by
        rintro ⟨c, x, found, admitted⟩
        have bound := inv.admitted c x _ found admitted
        simp only [State.grant] at bound
        omega
      exact iff_of_false Bool.false_ne_true fresh
    · have none_ended : s.ended.find? (fun e => e.1 == s.window + 1) = none := by
        rw [List.find?_eq_none]
        intro e member
        have bound := (inv.ended e member).1
        simp only [beq_iff_eq]
        omega
      simp only [lastEnded, State.grant, none_ended, Option.map_none]
      rfl
  admitted := by
    intro c x k found admitted
    have bound := inv.admitted c x k found admitted
    simp only [State.grant]
    omega
  ended := by
    intro e member
    have ⟨bound, reading'⟩ := inv.ended e member
    simp only [State.grant]
    exact ⟨by omega, reading'⟩

/-- Every step under the condition keeps the invariant. -/
theorem inv_step {s s' : State} {e : Event} (inv : Inv s) (undisturbed : Undisturbed s e)
    (next : machine.step s e = some s') : Inv s' := by
  cases e with
  | connect c =>
    simp only [machine, step] at next
    split at next
    · cases next
    · rename_i absent
      obtain rfl := Option.some.inj next
      apply inv.setConn _ (.inl rfl)
      rw [absent]
      rfl
  | login c t authorizes =>
    simp only [machine, step] at next
    split at next
    · cases next
    · rename_i x found
      split at next
      · obtain rfl := Option.some.inj next
        exact inv
      · split at next
        · obtain rfl := Option.some.inj next
          exact inv_login inv found t authorizes
        · cases next
  | authorize c =>
    simp only [machine, step] at next
    split at next
    · cases next
    · rename_i x found
      obtain rfl := Option.some.inj next
      apply inv.setConn _ (.inl rfl)
      rw [found]
      rfl
  | close c t =>
    simp only [machine, step] at next
    split at next
    · cases next
    · rename_i x found
      split at next
      · rename_i reading
        obtain rfl := Option.some.inj next
        exact inv_close inv found undisturbed reading
      · cases next
  | grant t start endAt hqNow label =>
    simp only [machine, step] at next
    split at next
    · rename_i reading
      obtain rfl := Option.some.inj next
      exact inv_grant inv reading start endAt hqNow label
    · cases next
  | status t =>
    simp only [machine, step] at next
    split at next
    · obtain rfl := Option.some.inj next
      exact inv.file (status_file t s.file)
    · cases next
  | clear =>
    obtain rfl := Option.some.inj next
    exact inv.file (.inr rfl)
  | restart =>
    obtain rfl := Option.some.inj next
    exact
      { kept := by
          intro w stored
          have idle := undisturbed (by simp [show s.file = some w from stored])
          have dropped : ¬ Connected { s with conns := fun _ => none } := by
            rintro ⟨c, x, found, _⟩
            cases found
          exact (inv.kept w stored).congr (iff_of_false dropped idle) rfl rfl rfl rfl rfl
        admitted := by
          intro c x k found
          cases found
        ended := inv.ended }

/-- Along undisturbed runs every reached state satisfies the invariant. -/
theorem inv_reaches {s : State} (reached : machine.Reaches Undisturbed s) : Inv s := by
  apply reached.invariant Inv
  · rintro s ⟨absent, disconnected, fresh⟩
    exact
      { kept := by
          intro w stored
          cases absent.symm.trans stored
        admitted := by
          intro c x k found
          cases (disconnected c).symm.trans found
        ended := by
          intro e member
          rw [fresh] at member
          cases member }
  · intro s e t inv undisturbed next
    exact inv_step inv undisturbed next

/-- The recorded end is the end of a session of the window. -/
theorem lastEnded_mem {s : State} {last : Int} (ended : lastEnded s = some last) :
    (s.window, last) ∈ s.ended := by
  obtain ⟨e, found, rfl⟩ := Option.map_eq_some_iff.mp ended
  have window := List.find?_some found
  simp only [beq_iff_eq] at window
  rw [← window]
  exact List.mem_of_find?_eq_some found

/-- A window with a connection is never idle. -/
theorem Kept.staysOpen {s : State} {w : SchedWindow} (kept : Kept s w) : StaysOpen s w := by
  intro connected t reading started unended young
  have passes : (isOpen t (some w)).1 = true := by
    rw [isOpen_iff, wrap64_sub reading kept.granted]
    refine ⟨⟨started, unended⟩, by omega, ?_⟩
    intro idle
    rw [kept.inSession.mpr connected] at idle
    cases idle
  have stays := isOpen_passes passes
  exact Prod.ext passes stays

/-- A window whose last session ended the close time ago is closed. -/
theorem Kept.idleCloses {s : State} {w : SchedWindow} (inv : Inv s) (kept : Kept s w) :
    IdleCloses s w := by
  intro alone last ended t reading late
  have idle : w.inSession = false := by
    cases connected : w.inSession with
    | false => rfl
    | true => exact absurd (kept.inSession.mp connected) alone
  have recorded : w.lastSessionEnd = some last := kept.lastEnd.trans ended
  have elapsed := wrap64_sub reading (inv.ended _ (lastEnded_mem ended)).2
  have refused : (isOpen t (some w)).1 = false := by
    rw [Bool.eq_false_iff, ne_eq, isOpen_iff]
    rintro ⟨_, _, active⟩
    have recent := active idle last recorded
    rw [elapsed] at recent
    omega
  exact ⟨refused, isOpen_refused refused⟩

/-- Along every undisturbed run, the stored window says whether one of its sessions is
connected and records an end only after one of them ended; it is not idle-closed while one
is connected, and it is closed from fifteen minutes after the last one ended. -/
theorem sessions_match_window {s : State} (reached : machine.Reaches Undisturbed s)
    {w : SchedWindow} (stored : s.file = some w) :
    Bookkept s w ∧ StaysOpen s w ∧ IdleCloses s w := by
  have inv := inv_reaches reached
  have kept := inv.kept w stored
  refine ⟨⟨kept.inSession, ?_⟩, kept.staysOpen, kept.idleCloses inv⟩
  intro last recorded
  exact lastEnded_mem (kept.lastEnd.symm.trans recorded)

/-- An agent before its first window. -/
def fresh : State := { file := none, window := 0, conns := fun _ => none, ended := [] }

/-- The window both runs below use: the first hour after second 1000. -/
def hour : SchedWindow := Agent.grant 1000 1000 4600 1000 ""

/-- One operator connects through the window. -/
def duringSession : State :=
  { file := some { hour with inSession := true }
    window := 1
    conns := Function.update (Function.update fresh.conns 0 (some ⟨none, false⟩)) 0
      (some ⟨some 1, true⟩)
    ended := [] }

/-- The operator leaves at second 1500. -/
def oneSession : State :=
  { file := some { hour with lastSessionEnd := some 1500 }
    window := 1
    conns := Function.update duringSession.conns 0 none
    ended := [(1, 1500)] }

/-- The run of one operator is undisturbed. -/
theorem oneSession_reached : machine.Reaches Undisturbed oneSession := by
  refine ⟨fresh, ⟨rfl, fun _ => rfl, rfl⟩, ?_⟩
  have granted : machine.Runs Undisturbed fresh (fresh.grant 1000 1000 4600 1000 "") :=
    .step (.grant 1000 1000 4600 1000 "") .refl trivial rfl
  have connected := granted.step (Event.connect 0) trivial rfl
  have admitted : machine.Runs Undisturbed fresh duringSession :=
    connected.step (Event.login 0 1200 true) trivial rfl
  refine admitted.step (Event.close 0 1500) ?_ rfl
  intro _ x found _
  obtain rfl := Option.some.inj found
  refine ⟨rfl, ?_⟩
  intro d y other present _
  simp only [duringSession, Function.update_of_ne other, fresh] at present
  cases present

/-- After the run of one operator, the window is closed from second 2400. -/
theorem oneSession_matches :
    Bookkept oneSession { hour with lastSessionEnd := some 1500 } ∧
      StaysOpen oneSession { hour with lastSessionEnd := some 1500 } ∧
      IdleCloses oneSession { hour with lastSessionEnd := some 1500 } :=
  sessions_match_window oneSession_reached rfl

/-- Two operators connect through the window and the first leaves at second 1500. -/
def twoSessions : State :=
  machine.play Machine.free fresh
    [.grant 1000 1000 4600 1000 "", .connect 0, .login 0 1200 true, .connect 1,
      .login 1 1300 true, .close 0 1500]

/-- With two sessions the first end clears the mark of both, and fifteen minutes later the
gate closes the window of the one still connected. -/
theorem twoSessions_idleClosed :
    machine.Reaches Machine.free twoSessions ∧
      ∃ w, twoSessions.file = some w ∧ ¬ Bookkept twoSessions w ∧
        isOpen 2400 twoSessions.file = (false, none) ∧ Connected twoSessions := by
  have connected : Connected twoSessions := ⟨1, ⟨some 1, true⟩, rfl, rfl⟩
  refine ⟨⟨fresh, ⟨rfl, fun _ => rfl, rfl⟩, Machine.runs_play ..⟩,
    { hour with lastSessionEnd := some 1500 }, rfl, ?_, rfl, connected⟩
  intro kept
  exact absurd (kept.1.mpr connected) Bool.false_ne_true

end ChainRemote.Agent.SchedSessions
