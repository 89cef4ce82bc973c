import ChainRemote.Lib.Machine
import ChainRemote.Agent.PushChecks
import ChainRemote.Agent.SchedWindow

/-!
# An incoming connection up to its authorization

One `Connection` of `server/connection.rs`: the login messages and the events of the
connection manager that decide over `authorized`, and what is kept about the peer. What the
connection shares with others or reads from outside (other connections, recent sessions,
marker files, options, the one-time password clock) may change between any two messages, so
each event carries it.

`factors`, `passed`, `shown`, `lastLogin`, `accepted` and `graced` are history.
-/

namespace ChainRemote.Server

open Lib Agent

/-- `AuthConnType`, and the kind of a login request: one without a `union` asks for remote
control. -/
inductive AuthConnType
  | remote
  | fileTransfer
  | portForward
  | viewCamera
  | terminal
deriving DecidableEq, Repr

/-- `LoginRequest`, as far as it decides over the login. -/
structure LoginRequest where
  username : String
  password : List Nat
  myId : String
  myName : String
  myPlatform : String
  sessionId : Nat
  hwid : String
  kind : AuthConnType
deriving DecidableEq, Repr

/-- `SessionKey`. -/
structure SessionKey where
  peerId : String
  name : String
  sessionId : Nat
deriving DecidableEq, Repr

/-- `session_key`. -/
def LoginRequest.key (lr : LoginRequest) : SessionKey := ⟨lr.myId, lr.myName, lr.sessionId⟩

/-- An entry of `AUTHED_CONNS`. -/
structure AuthedConn where
  connType : AuthConnType
  sessionKey : SessionKey
deriving DecidableEq, Repr

/-- An entry of `SESSIONS` that has not timed out. -/
structure Session where
  randomPassword : String
  tfa : Bool
deriving DecidableEq, Repr

/-- `TrustedDevice`. -/
structure TrustedDevice where
  hwid : String
  id : String
  name : String
  platform : String
  outdated : Bool
deriving DecidableEq, Repr

/-- `ApproveMode`. -/
inductive ApproveMode
  | both
  | password
  | click
deriving DecidableEq, Repr

/-- The hashes of a connection, over its salt and challenge. -/
structure Hash where
  /-- `SHA256(password ‖ salt)`. -/
  plain : String → List Nat
  /-- `SHA256(h1 ‖ challenge)`. -/
  answer : List Nat → List Nat
  /-- `decode_permanent_password_h1_from_storage`. -/
  decodeStorage : String → Option (List Nat)

/-- What a connection reads at one moment from outside itself. -/
structure World where
  /-- `AUTHED_CONNS`. -/
  authedConns : List AuthedConn
  /-- `SESSIONS`, after the expired ones are dropped. -/
  sessions : SessionKey → Option Session
  /-- The text of the file `restart-grace`. -/
  restartGrace : String
  /-- Seconds since the epoch. -/
  now : Nat
  /-- The marker file of the scheduled window. -/
  schedWindow : Option SchedWindow
  /-- `SWITCH_SIDES_UUID`, after the expired ones are dropped. -/
  switchSidesUuid : String → Option Nat
  approveMode : ApproveMode
  hasValidPassword : Bool
  /-- `OPTION_ALLOW_LOGON_SCREEN_PASSWORD` at a logon screen. -/
  allowLogonScreenPassword : Bool
  temporaryEnabled : Bool
  temporaryPassword : String
  permanentEnabled : Bool
  /-- `get_local_permanent_password_storage_and_salt`. -/
  localStorage : String
  /-- `HARD_SETTINGS["password"]`. -/
  hardPassword : String
  enableTrustedDevices : Bool
  trustedDevices : List TrustedDevice
  /-- The permission to log in as a kind. -/
  permission : AuthConnType → Bool
  /-- The checks on a terminal's user and service pass. -/
  terminalAdmitted : Bool
  inPrivacyMode : Bool
  /-- `try_start_desktop`; empty but on Linux. -/
  errMsg : String
  /-- The user name is an address or the own id. -/
  addressed : String → Bool
  /-- `check_failure`. -/
  checkFailure : Nat → Bool
  /-- `totp.check_current`; `none` where it fails. -/
  checkCurrent : String → Option Bool
  /-- The target of a port forward accepts a connection. -/
  connects : Bool
  /-- `last_test_delay` is none. -/
  testDelayIdle : Bool

/-- What counts as a first factor. -/
inductive FirstFactor
  | accepted
  | password
  | recentSession
  | restartGrace
  | schedWindow
  | fileTransfer
  | switchSides
deriving DecidableEq, Repr

/-- Where the connection's loop is. -/
inductive LoopPhase
  | looping
  /-- In `try_port_forward_loop`, which handles no message. -/
  | forwarding
  | closed
deriving DecidableEq, Repr

/-- A connection. -/
structure State where
  lr : LoginRequest
  authorized : Bool
  /-- `require_2fa` is some. -/
  require2fa : Bool
  /-- `file_transfer` is some. -/
  fileTransfer : Bool
  viewCamera : Bool
  terminal : Bool
  /-- `port_forward_socket` is some. -/
  portForwardSocket : Bool
  fromSwitch : Bool
  /-- The connection's own entry of `AUTHED_CONNS`. -/
  authedConn : Option AuthedConn
  phase : LoopPhase
  /-- The first factors so far. -/
  factors : List FirstFactor
  /-- The last login that passed a branch of acceptance. -/
  passed : Option LoginRequest
  /-- The login that the connection manager was last told of. -/
  shown : Option LoginRequest
  /-- The last login request whose kind was admitted. -/
  lastLogin : Option LoginRequest
  /-- The login whose acceptance authorized the connection. -/
  accepted : Option LoginRequest
  /-- The ids written by `set_restart_reconnect_grace`. -/
  graced : List String
deriving DecidableEq, Repr

/-- A message of the peer. -/
inductive Message
  | loginRequest (lr : LoginRequest)
  | auth2fa (code : String)
  /-- The uuid is `none` where it does not parse. -/
  | switchSidesResponse (lr : Option LoginRequest) (uuid : Option Nat)
  | closeReason
  | restartRemoteDevice (restart : Bool)
  /-- Any other message. -/
  | other

/-- A message, or an event of the connection manager. -/
inductive Event
  | message (w : World) (m : Message)
  /-- `Data::Authorize`. -/
  | authorize (w : World)
  /-- `Data::Close`, or an error of the connection manager. -/
  | close

/-- `LOGIN_MSG_DESKTOP_SESSION_NOT_READY`. -/
def desktopSessionNotReady : String := "Desktop session not ready"

/-- `str::parse::<u64>().unwrap_or(0)`. -/
def parseU64 (text : List Char) : Nat :=
  let digits := withoutPlus text
  if isDigits digits && digitsValue digits < 2 ^ 64 then digitsValue digits else 0

/-- `consume_restart_reconnect_grace`: the marker names the operator and has not expired. -/
def World.consumeRestartReconnectGrace (w : World) (operatorId : String) : Bool :=
  match (rustTrim w.restartGrace).span (· ≠ ':') with
  | (gid, _ :: gexp) => w.now ≤ parseU64 gexp && gid != [] && gid == operatorId.toList
  | (_, []) => false

/-- `has_active_remote_session`. -/
def World.hasActiveRemoteSession (w : World) (peerId : String) : Bool :=
  w.authedConns.any fun c => c.connType == .remote && c.sessionKey.peerId == peerId

section Passwords

variable (hash : Hash)

/-- `validate_password_plain`. -/
def LoginRequest.validatePasswordPlain (lr : LoginRequest) (password : String) : Bool :=
  password != "" && hash.answer (hash.plain password) == lr.password

/-- `validate_password_storage`. -/
def LoginRequest.validatePasswordStorage (lr : LoginRequest) (storage : String) : Bool :=
  storage != "" &&
    match hash.decodeStorage storage with
    | some h1 => hash.answer h1 == lr.password
    | none => lr.validatePasswordPlain hash storage

/-- `validate_password`. -/
def World.validatePassword (w : World) (lr : LoginRequest) (allowPermanentPassword : Bool) : Bool :=
  (w.temporaryEnabled && lr.validatePasswordPlain hash w.temporaryPassword) ||
    (w.permanentEnabled || allowPermanentPassword) &&
      if w.localStorage != "" then lr.validatePasswordStorage hash w.localStorage
      else lr.validatePasswordPlain hash w.hardPassword

/-- `is_recent_session`. -/
def World.isRecentSession (w : World) (lr : LoginRequest) (tfa : Bool) : Bool :=
  match w.sessions lr.key with
  | none => false
  | some session =>
    lr.password != [] &&
      if tfa then session.tfa else lr.validatePasswordPlain hash session.randomPassword

end Passwords

/-- The type of an authorized connection. -/
def State.connType (s : State) : AuthConnType :=
  if s.fileTransfer then .fileTransfer
  else if s.portForwardSocket then .portForward
  else if s.viewCamera then .viewCamera
  else if s.terminal then .terminal
  else .remote

/-- `handle_login_request_without_validation`. -/
def State.handleLoginRequestWithoutValidation (s : State) (w : World) (lr : LoginRequest) : State :=
  let bypassed := s.require2fa && lr.hwid != "" && w.enableTrustedDevices &&
    (w.trustedDevices.find? fun d => d.hwid == lr.hwid).any fun d =>
      !d.outdated && d.id == lr.myId && d.name == lr.myName && d.platform == lr.myPlatform
  { s with lr, require2fa := s.require2fa && !bypassed }

section Login

variable (hash : Hash)

/-- `connect_port_forward_if_needed`; `none` where the target refuses. -/
def State.connectPortForwardIfNeeded (s : State) (w : World) : Option State :=
  if s.portForwardSocket || s.lr.kind != .portForward then some s
  else if w.connects then some { s with portForwardSocket := true }
  else none

/-- `send_logon_response_and_keep_alive`, for the acceptance of a login. The second result
says whether the connection is kept. -/
def State.sendLogonResponseAndKeepAlive (s : State) (w : World) (login : Option LoginRequest) :
    State × Bool :=
  if s.authorized then (s, true)
  else if s.require2fa && !w.isRecentSession hash s.lr true && !s.fromSwitch then (s, true)
  else
    match s.connectPortForwardIfNeeded w with
    | none => (s, false)
    | some s =>
      ({ s with
          authorized := true
          authedConn := some { connType := s.connType, sessionKey := s.lr.key }
          accepted := login }, true)

/-- `try_start_cm` after a logon response: the connection manager is told of a login, unless
the connection ends. -/
def tryStartCm (lr : LoginRequest) (sent : State × Bool) : State × Bool :=
  (if sent.2 then { sent.1 with shown := some lr } else sent.1, sent.2)

/-- A branch of acceptance: the logon response, and the login shown as authorized or not. -/
def State.accept (s : State) (w : World) (lr : LoginRequest) (factors : List FirstFactor) :
    State × Bool :=
  let noted := { s with factors := factors ++ s.factors, passed := some lr }
  if w.errMsg = "" then tryStartCm lr (noted.sendLogonResponseAndKeepAlive hash w (some lr))
  else (noted, true)

/-- The checks on the kind of a login; `none` where it is refused. -/
def State.admitKind (s : State) (w : World) (lr : LoginRequest) : Option State :=
  match lr.kind with
  | .fileTransfer => if w.permission .fileTransfer then some { s with fileTransfer := true } else none
  | .viewCamera => if w.permission .viewCamera then some { s with viewCamera := true } else none
  | .terminal =>
    if w.permission .terminal && w.terminalAdmitted then some { s with terminal := true } else none
  | .portForward => if w.permission .portForward then some s else none
  | .remote => if w.inPrivacyMode then none else some s

/-- The branches of `on_message` for a login request, after its kind is admitted. -/
def State.decideLogin (s : State) (w : World) (lr : LoginRequest) : State × Bool :=
  if w.errMsg ≠ "" ∧ w.errMsg ≠ desktopSessionNotReady then (s, true)
  else if !w.addressed lr.username then (s, false)
  else if s.fileTransfer && w.hasActiveRemoteSession lr.myId then
    -- The flag may be left over from an earlier request of another kind.
    s.accept hash w lr (if lr.kind = .fileTransfer then [.fileTransfer] else [])
  else if w.consumeRestartReconnectGrace lr.myId then s.accept hash w lr [.restartGrace]
  else if (isOpen w.now w.schedWindow).1 then s.accept hash w lr [.schedWindow]
  else if w.approveMode = .click ∧ w.allowLogonScreenPassword = false ∨
      w.approveMode = .both ∧ w.hasValidPassword = false then
    ({ s with shown := some lr }, true)
  else if w.isRecentSession hash lr false then s.accept hash w lr [.recentSession]
  else if lr.password = [] then
    (if w.errMsg = "" then { s with shown := some lr } else s, true)
  else if !w.checkFailure 0 then (s, true)
  else if w.validatePassword hash lr w.allowLogonScreenPassword then s.accept hash w lr [.password]
  else (if w.errMsg = "" then { s with shown := some lr } else s, true)

/-- `on_message`, a `LoginRequest`. -/
def State.onLoginRequest (s : State) (w : World) (lr : LoginRequest) : State × Bool :=
  let s := s.handleLoginRequestWithoutValidation w lr
  if s.authorized then (s, true)
  else
    match s.admitKind w lr with
    | none => (s, false)
    | some s => { s with lastLogin := some lr }.decideLogin hash w lr

/-- A code that `on_message` accepts. -/
def State.passesAuth2fa (s : State) (w : World) (code : String) : Bool :=
  w.checkFailure 1 && s.require2fa && w.checkCurrent code == some true

/-- `on_message`, an `Auth2fa`. -/
def State.onAuth2fa (s : State) (w : World) (code : String) : State × Bool :=
  if s.passesAuth2fa w code then
    tryStartCm s.lr ({ s with require2fa := false }.sendLogonResponseAndKeepAlive hash w s.passed)
  else (s, true)

/-- The response carries the recorded uuid of its peer. -/
def World.matchesUuid (w : World) (lr : LoginRequest) (uuid : Option Nat) : Bool :=
  uuid.isSome && w.switchSidesUuid lr.myId == uuid

/-- `on_message`, a `SwitchSidesResponse`. -/
def State.onSwitchSidesResponse (s : State) (w : World) (lr : Option LoginRequest)
    (uuid : Option Nat) : State × Bool :=
  match lr with
  | none => (s, true)
  | some lr =>
    let s := s.handleLoginRequestWithoutValidation w lr
    if w.matchesUuid lr uuid then
      let noted :=
        { s with fromSwitch := true, factors := .switchSides :: s.factors, passed := some lr }
      tryStartCm lr (noted.sendLogonResponseAndKeepAlive hash w (some lr))
    else (s, true)

/-- `on_message`. -/
def State.onMessage (s : State) (w : World) : Message → State × Bool
  | .loginRequest lr => s.onLoginRequest hash w lr
  | .auth2fa code => s.onAuth2fa hash w code
  | .switchSidesResponse lr uuid => s.onSwitchSidesResponse hash w lr uuid
  | .closeReason => (s, false)
  | .restartRemoteDevice restart =>
    (if s.authorized && !s.portForwardSocket && restart then
        { s with graced := s.lr.myId :: s.graced }
      else s, true)
  | .other => (s, true)

/-- The loop goes on, forwards a port, or ends. -/
def State.continues (s : State) (alive forwards : Bool) : State :=
  if !alive then { s with phase := .closed }
  else if s.portForwardSocket && forwards then { s with phase := .forwarding }
  else s

/-- One step of the connection; `none` where the event cannot happen. The connection manager
knows the connection once it was told of a login. -/
def step (s : State) : Event → Option State
  | .message w m =>
    if s.phase = .looping then
      let after := s.onMessage hash w m
      some (after.1.continues after.2 (after.1.authorized && w.testDelayIdle))
    else none
  | .authorize w =>
    if s.phase = .looping ∧ s.shown.isSome = true then
      let noted := { s with require2fa := false, factors := .accepted :: s.factors }
      let after := noted.sendLogonResponseAndKeepAlive hash w s.shown
      some (after.1.continues after.2 true)
    else none
  | .close => some { s with phase := .closed }

/-- A new connection. -/
structure Start (s : State) : Prop where
  lr : s.lr = ⟨"", [], "", "", "", 0, "", .remote⟩
  authorized : s.authorized = false
  fileTransfer : s.fileTransfer = false
  viewCamera : s.viewCamera = false
  terminal : s.terminal = false
  portForwardSocket : s.portForwardSocket = false
  fromSwitch : s.fromSwitch = false
  authedConn : s.authedConn = none
  phase : s.phase = .looping
  factors : s.factors = []
  passed : s.passed = none
  shown : s.shown = none
  lastLogin : s.lastLogin = none
  accepted : s.accepted = none
  graced : s.graced = []

/-- A connection, with or without a second factor. -/
def connection : Machine State Event where
  start := Start
  step := step hash

end Login

end ChainRemote.Server
