import Mathlib.Logic.Function.Basic
import ChainRemote.Lib.Machine

/-!
# The keyboard grab of the HQ app

`keyboard.rs` on Linux. Each session window reports when the pointer enters and leaves it; the
window that entered owns the grab of the keyboard, and the keys that are grabbed go to the current
session. Several threads take part: the windows, the threads of deferred releases, and the listener
of the grab. A step here is what one of them does between two points at which another one can come
in: a read or a write of one shared value, or one region under a lock.

All sessions are in map mode, and the relative mouse mode is off. What `GRAB_STATE` guards is in the
state itself; `GRAB_OP_LOCK` is held over two steps, the check of the owner and the call of `rdev`.
-/

namespace ChainRemote.Hq.KeyboardGrab

open Lib

/-- The id of a session window. -/
abbrev SessionId := Nat

/-- A key of `rdev`: those that `MODIFIERS_STATE` tracks, and the others. -/
inductive Key
  | shiftLeft
  | shiftRight
  | controlLeft
  | controlRight
  | alt
  | altGr
  | metaLeft
  | metaRight
  | other (code : Nat)
deriving DecidableEq, Repr

/-- `MODIFIERS_STATE` has an entry for the key. -/
def Key.tracked : Key → Bool
  | .other _ => false
  | _ => true

/-- A key event of `rdev`. -/
structure Input where
  key : Key
  press : Bool
deriving DecidableEq, Repr

/-- What the code takes from the keyboard, from `rdev` and from the sessions. -/
structure Host where
  /-- The `position_code` of a key. -/
  positionCode : Key → Nat
  linuxCodeToWinScancode : Nat → Option Nat
  linuxCodeToMacosCode : Nat → Option Nat
  linuxCodeToMacosIsoCode : Nat → Option Nat
  linuxCodeToAndroidKeyCode : Nat → Option Nat
  /-- `get_kb_layout_type() == "ISO"`. -/
  isoLayout : Bool
  /-- `peer_platform` of a session. -/
  peerPlatform : SessionId → String

/-- `to_lowercase` and the removal of blanks. -/
def peerName (platform : String) : String :=
  String.ofList ((platform.toList.map Char.toLower).filter fun c => !c.isWhitespace)

/-- `map_keyboard_mode`: the code that is sent for a key. -/
def mapKeyboardMode (host : Host) (platform : String) (key : Key) : Option Nat :=
  let position := host.positionCode key
  let peer := peerName platform
  if peer = "windows" then host.linuxCodeToWinScancode position
  else if peer = "macos" then
    if host.isoLayout then host.linuxCodeToMacosIsoCode position
    else host.linuxCodeToMacosCode position
  else if peer = "android" then host.linuxCodeToAndroidKeyCode position
  else some position

/-- A key event that was sent to a session. -/
structure Sent where
  session : SessionId
  key : Key
  code : Nat
  press : Bool
deriving DecidableEq, Repr

/-- The states that the windows ask for. -/
inductive GrabState
  | run
  | wait
deriving DecidableEq, Repr

/-- Where a thread stands in `process_event`. -/
inductive Stage
  /-- `is_long_press`. -/
  | start
  /-- `get_peer_platform`. -/
  | platform
  /-- `update_modifiers_state`. -/
  | modifiers (platform : String)
  /-- The change of `TO_RELEASE`; the code of the event is known after it. -/
  | hold (platform : String)
  /-- `send_key_event`. -/
  | send (code : Nat)
deriving DecidableEq, Repr

/-- A thread, by what it does next. -/
inductive Task
  /-- `session_enter_or_leave(session, true)` sets the current session. -/
  | enter (session : SessionId)
  /-- `change_grab_status` reads `IS_RDEV_ENABLED`. -/
  | call (state : GrabState) (session : SessionId)
  /-- Its region under the lock of `GRAB_STATE`. -/
  | change (state : GrabState) (session : SessionId)
  /-- `apply_run_grab_if_owner` takes `GRAB_OP_LOCK` and checks the owner. -/
  | applyRun (session : SessionId) (disableFirst : Bool)
  /-- It calls `rdev` and gives the lock back. -/
  | enable (disableFirst : Bool)
  /-- `disable_grab_if_released` takes `GRAB_OP_LOCK` and checks the state; the keys that were taken
  are released afterwards. -/
  | released (keys : List Key)
  /-- It calls `rdev` and gives the lock back. -/
  | disable (keys : List Key)
  /-- `release_remote_keys_for_events`: the events of the key at hand, and the keys to come. -/
  | deliver (todo : List Input) (stage : Stage) (keys : List Key)
  /-- The thread of a deferred release sleeps. -/
  | deferred (session : SessionId) (wakeAt : Nat) (snapshot : Option Nat)
deriving DecidableEq

/-- The state that the threads share, the threads, and the history. Times are nanoseconds. -/
structure State where
  now : Nat
  /-- `IS_RDEV_ENABLED`. -/
  rdevEnabled : Bool
  /-- `CUR_SESSION_ID`, where it names a session. -/
  current : Option SessionId
  owner : Option SessionId
  lastGrab : Option Nat
  deferredPending : Bool
  /-- `KEYBOARD_HOOKED`. -/
  hooked : Bool
  /-- `GRAB_OP_LOCK` is taken. -/
  opLock : Bool
  /-- The operating system grabs the keyboard. -/
  grabbed : Bool
  /-- The keys of `TO_RELEASE`. -/
  toRelease : List Key
  /-- `MODIFIERS_STATE`. -/
  modifiers : Key → Bool
  /-- The listener of the grab is in `process_event`. -/
  listener : Option (Input × Stage)
  tasks : List Task
  /-- The requests in the order of their regions under the lock, the newest first. -/
  processed : List (SessionId × GrabState)
  /-- The events that were sent, the newest first. -/
  sent : List Sent

/-- What happens. -/
inductive Act
  /-- The pointer enters a window. -/
  | enter (session : SessionId)
  /-- The pointer leaves a window. -/
  | leave (session : SessionId)
  /-- The input source is changed. -/
  | setRdev (enabled : Bool)
  /-- A key event is grabbed. -/
  | key (input : Input)
  /-- The listener goes on. -/
  | listen
  /-- A thread goes on. If it takes the keys of `TO_RELEASE`, it finds them in some order. -/
  | run (i : Nat) (order : List Key)
deriving DecidableEq

/-- Something that happens after some time, which never is none. -/
structure Event where
  ticks : Nat
  act : Act
deriving DecidableEq

/-- `GRAB_DEBOUNCE_MS`. -/
def grabDebounceMs : Nat := 300

/-- Nanoseconds of a millisecond. -/
def nanos : Nat := 1000000

/-- `elapsed().as_millis()`. -/
def State.elapsedMs (s : State) (since : Nat) : Nat := (s.now - since) / nanos

/-- The keys are taken from `TO_RELEASE` and nobody owns the grab any more. -/
def State.release (s : State) (order : List Key) : Option State :=
  if order.isPerm s.toRelease then
    some { s with
      hooked := false, owner := none, lastGrab := none, deferredPending := false
      toRelease := [], tasks := .released order :: s.tasks }
  else none

/-- `change_grab_status` under the lock, for `Run`. -/
def State.changeRun (s : State) (session : SessionId) : State :=
  if s.owner = some session then { s with lastGrab := some s.now, deferredPending := false }
  else
    { s with
      hooked := true, owner := some session, lastGrab := some s.now, deferredPending := false
      tasks := .applyRun session s.owner.isSome :: s.tasks }

/-- `change_grab_status` under the lock, for `Wait`. -/
def State.changeWait (s : State) (session : SessionId) (order : List Key) : Option State :=
  if s.owner ≠ some session then some s
  else
    match s.lastGrab.filter fun t => s.elapsedMs t < grabDebounceMs with
    | some t =>
      if s.deferredPending then some s
      else
        -- the sleep ends 50 ms after the debounce
        let remaining := grabDebounceMs - s.elapsedMs t + 50
        some { s with
          deferredPending := true
          tasks := .deferred session (s.now + remaining * nanos) s.lastGrab :: s.tasks }
    | none => s.release order

/-- `change_grab_status` under the lock. -/
def State.change (s : State) (session : SessionId) (order : List Key) : GrabState → Option State
  | .run => some (s.changeRun session)
  | .wait => s.changeWait session order

/-- The events that release a key; those of Alt are sent once more. -/
def releases (key : Key) : List Input :=
  if key = .alt ∨ key = .altGr then [⟨key, false⟩, ⟨key, true⟩, ⟨key, false⟩] else [⟨key, false⟩]

/-- `release_remote_keys_for_events` for the keys to come. -/
def State.deliver (s : State) : List Key → State
  | [] => s
  | key :: keys => { s with tasks := .deliver (releases key) .start keys :: s.tasks }

/-- The key is in `TO_RELEASE` after its press, and not after its release. -/
def holdKey (input : Input) (held : List Key) : List Key :=
  if input.press then if input.key ∈ held then held else input.key :: held
  else held.filter (· ≠ input.key)

/-- One step of `process_event`, and where it stands then; `none` at its end. -/
def State.process (host : Host) (s : State) (input : Input) : Stage → State × Option Stage
  | .start =>
    if input.press && input.key.tracked && s.modifiers input.key then (s, none)
    else (s, some .platform)
  | .platform =>
    (s, some (.modifiers ((s.current.map host.peerPlatform).getD "Windows")))
  | .modifiers platform =>
    ({ s with modifiers :=
        if input.key.tracked then Function.update s.modifiers input.key input.press
        else s.modifiers },
      some (.hold platform))
  | .hold platform =>
    ({ s with toRelease := holdKey input s.toRelease },
      (mapKeyboardMode host platform input.key).map Stage.send)
  | .send code =>
    match s.current with
    | none => (s, none)
    | some session =>
      ({ s with sent := ⟨session, input.key, code, input.press⟩ :: s.sent }, none)

/-- One step of a thread in `release_remote_keys_for_events`. -/
def State.runDeliver (host : Host) (s : State) (todo : List Input) (stage : Stage)
    (keys : List Key) : State :=
  match todo with
  | [] => s.deliver keys
  | input :: todo =>
    match s.process host input stage with
    | (t, some stage) => { t with tasks := .deliver (input :: todo) stage keys :: t.tasks }
    | (t, none) =>
      match todo with
      | [] => t.deliver keys
      | next :: todo => { t with tasks := .deliver (next :: todo) .start keys :: t.tasks }

/-- What a thread does next, after it was taken off the threads; `none` where it waits. -/
def State.runTask (host : Host) (s : State) (order : List Key) : Task → Option State
  | .enter session =>
    some { s with current := some session, tasks := .call .run session :: s.tasks }
  | .call state session =>
    if s.rdevEnabled then some { s with tasks := .change state session :: s.tasks } else some s
  | .change state session =>
    { s with processed := (session, state) :: s.processed }.change session order state
  | .applyRun session disableFirst =>
    if s.opLock then none
    else if s.owner ≠ some session then some s
    else some { s with opLock := true, tasks := .enable disableFirst :: s.tasks }
  | .enable _ => some { s with grabbed := true, opLock := false }
  | .released keys =>
    if s.opLock then none
    else if s.owner.isNone && s.lastGrab.isNone then
      some { s with opLock := true, tasks := .disable keys :: s.tasks }
    else some (s.deliver keys)
  | .disable keys => some ({ s with grabbed := false, opLock := false }.deliver keys)
  | .deliver todo stage keys => some (s.runDeliver host todo stage keys)
  | .deferred session wakeAt snapshot =>
    if s.now < wakeAt then none
    else if s.owner = some session ∧ s.lastGrab = snapshot then s.release order
    else some s

/-- One step at its time; `none` where it cannot happen. -/
def State.act (host : Host) (s : State) : Act → Option State
  | .enter session => some { s with tasks := .enter session :: s.tasks }
  | .leave session => some { s with tasks := .call .wait session :: s.tasks }
  | .setRdev enabled => some { s with rdevEnabled := enabled }
  | .key input =>
    if s.grabbed && s.listener.isNone then some { s with listener := some (input, .start) }
    else none
  | .listen =>
    s.listener.map fun work =>
      let after := s.process host work.1 work.2
      { after.1 with listener := after.2.map fun stage => (work.1, stage) }
  | .run i order =>
    s.tasks[i]?.bind fun task => { s with tasks := s.tasks.eraseIdx i }.runTask host order task

/-- One step; the clock runs on before it. -/
def step (host : Host) (s : State) (e : Event) : Option State :=
  { s with now := s.now + e.ticks + 1 }.act host e.act

/-- Nothing is grabbed and no window was entered yet. -/
def initial (now : Nat) (rdevEnabled : Bool) : State where
  now := now
  rdevEnabled := rdevEnabled
  current := none
  owner := none
  lastGrab := none
  deferredPending := false
  hooked := false
  opLock := false
  grabbed := false
  toRelease := []
  modifiers := fun _ => false
  listener := none
  tasks := []
  processed := []
  sent := []

/-- The HQ app. -/
def grab (host : Host) : Machine State Event where
  start s := ∃ now rdevEnabled, s = initial now rdevEnabled
  step := step host

end ChainRemote.Hq.KeyboardGrab
