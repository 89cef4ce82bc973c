import ChainRemote.Server.Connection
import ChainRemote.Server.SnapshotService

/-!
# The services of a server and who is subscribed to them

`Server` of `src/server.rs` keeps the services under their names, and every connection subscribes to
those it may have: audio, the clipboard, the cursor, the displays. What it may have follows from
permissions that the connection manager switches, from options that the peer sends and from the kind
of the connection, and each handler of `src/server/connection.rs` that changes one of them brings
the subscriptions along.

Here are these handlers and the registry, for any number of connections. Of a handler only what
decides over subscriptions is here; that a connection is authorized at some moment is an event
(`Server.Connection` is about when).
-/

namespace ChainRemote.Server.Subscriptions

open Lib

variable {α : Type}

/-- `VideoSource`. -/
inductive VideoSource
  | monitor
  | camera
deriving DecidableEq

/-- The names of services; `get_service_name` gives those of the video services. -/
inductive ServiceName
  | audio
  | display
  | clipboard
  /-- `clipboard_service::FILE_NAME`. -/
  | fileClipboard
  | cursor
  | pos
  | windowFocus
  | printer
  | video (source : VideoSource) (display : Nat)
deriving DecidableEq

/-- `is_video_service_name`. -/
def ServiceName.isVideo : ServiceName → Bool
  | .video .. => true
  | _ => false

/-- The `need_snapshot` that a service is made with. -/
def ServiceName.needSnapshot : ServiceName → Bool
  | .audio | .display | .cursor | .video .. => true
  | .clipboard | .fileClipboard | .pos | .windowFocus | .printer => false

/-- What a server is built and configured with. -/
structure Env where
  /-- The feature `unix-file-copy-paste`. -/
  unixFileCopyPaste : Bool
  /-- `capture_cursor_embedded`. -/
  cursorEmbedded : Bool
  /-- There is a service for the focus: not on Linux without X11. -/
  hasWindowFocus : Bool
  /-- The printer service came up. -/
  hasPrinter : Bool
  /-- `OPTION_ONE_WAY_CLIPBOARD_REDIRECTION` is `Y`. -/
  oneWayClipboard : Bool
  /-- `OPTION_ONE_WAY_FILE_TRANSFER` is `Y`. -/
  oneWayFileTransfer : Bool
  /-- `PRIMARY_DISPLAY_IDX`. -/
  primary : Nat

/-- The services of `server::new`. -/
def Env.names (env : Env) : List ServiceName :=
  [.audio, .display, .clipboard] ++
    (if env.unixFileCopyPaste then [.fileClipboard] else []) ++
    (if env.cursorEmbedded then []
      else [.cursor, .pos] ++ if env.hasWindowFocus then [.windowFocus] else []) ++
    if env.hasPrinter then [.printer] else []

/-- A service under its name. -/
structure Service (α : Type) where
  name : ServiceName
  state : SnapshotService.State α

namespace Service

/-- A service as it is made. -/
def new (name : ServiceName) : Service α := ⟨name, SnapshotService.new name.needSnapshot⟩

/-- `is_subed`. -/
def isSubed (v : Service α) (id : Int) : Bool :=
  decide (id ∈ v.state.subscribes) || decide (id ∈ v.state.newSubscribes)

/-- `on_subscribe`. -/
def onSubscribe (v : Service α) (id : Int) : Service α :=
  { v with state := { v.state.onSubscribe id with clock := v.state.clock + 1 } }

/-- `on_unsubscribe`. -/
def onUnsubscribe (v : Service α) (id : Int) : Service α :=
  { v with state := { v.state.onUnsubscribe id with clock := v.state.clock + 1 } }

/-- A service in `Server::subscribe`. -/
def resubscribe (v : Service α) (id : Int) (sub : Bool) : Service α :=
  if v.isSubed id = sub then v else if sub then v.onSubscribe id else v.onUnsubscribe id

end Service

/-! ## `Server` -/

/-- `contains`. -/
def contains (services : List (Service α)) (name : ServiceName) : Bool :=
  services.any (·.name == name)

/-- `add_service`, of a service that is missing. -/
def addMissing (services : List (Service α)) (name : ServiceName) : List (Service α) :=
  if contains services name then services else services ++ [.new name]

/-- `subscribe`. -/
def subscribe (services : List (Service α)) (name : ServiceName) (id : Int) (sub : Bool) :
    List (Service α) :=
  services.map fun v => if v.name = name then v.resubscribe id sub else v

/-- `add_connection`. -/
def addConnection (primary : Nat) (services : List (Service α)) (id : Int)
    (noperms : List ServiceName) : List (Service α) :=
  services.map fun v =>
    if v.name.isVideo ∧ v.name ≠ .video .monitor primary then v
    else if v.name ∉ noperms then v.onSubscribe id
    else v

/-- `try_add_primary_camera_service` and `add_camera_connection`. -/
def addCameraConnection (primaryCameraExists : Bool) (services : List (Service α)) (id : Int) :
    List (Service α) :=
  if primaryCameraExists then
    (addMissing services (.video .camera 0)).map fun v =>
      if v.name = .video .camera 0 then v.onSubscribe id else v
  else services

/-- `remove_connection`. -/
def removeConnection (services : List (Service α)) (id : Int) : List (Service α) :=
  services.map (·.onUnsubscribe id)

/-- `get_subbed_displays_count`. -/
def getSubbedDisplaysCount (services : List (Service α)) (id : Int) : Nat :=
  (services.filter fun v => v.name.isVideo && v.isSubed id).length

/-- `Server::capture_displays`. -/
def captureDisplays (services : List (Service α)) (id : Int) (displays : List ServiceName)
    (including excluding : Bool) : List (Service α) :=
  services.map fun v =>
    if v.name.isVideo then
      if v.name ∈ displays then if including then v.resubscribe id true else v
      else if excluding then v.resubscribe id false
      else v
    else v

/-! ## `Connection` -/

/-- A permission that the connection manager switches. -/
inductive Permission
  | keyboard
  | clipboard
  | audio
  | file
  | restart
  | recording
  | blockInput
deriving DecidableEq

/-- `OptionMessage`; `none` is `NotSet`. -/
structure OptionMessage where
  showRemoteCursor : Option Bool := none
  followRemoteWindow : Option Bool := none
  disableAudio : Option Bool := none
  enableFileTransfer : Option Bool := none
  disableClipboard : Option Bool := none
  disableKeyboard : Option Bool := none
deriving DecidableEq

/-- What decides over the subscriptions of a connection. -/
structure Conn where
  /-- The kind of the last login request. -/
  lastKind : AuthConnType := .remote
  fileTransfer : Bool := false
  portForwardSocket : Bool := false
  viewCamera : Bool := false
  terminal : Bool := false
  authorized : Bool := false
  /-- The type of `authed_conn_id`. -/
  connType : Option AuthConnType := none
  keyboard : Bool
  clipboard : Bool
  audio : Bool
  file : Bool
  restart : Bool
  recording : Bool
  blockInput : Bool
  showRemoteCursor : Bool := false
  followRemoteWindow : Bool := false
  disableAudio : Bool := false
  enableFileTransfer : Bool := false
  disableClipboard : Bool := false
  disableKeyboard : Bool := false
  /-- There is a `voice_call_request_timestamp`. -/
  voiceCallRequest : Bool := false
  voiceCalling : Bool := false
  optionsInLogin : Option OptionMessage := none
  /-- `is_support_multi_ui_session` of the peer's version. -/
  multiUi : Bool := false
  servicesSubed : Bool := false
  displayIdx : Nat
  multiUiSession : Bool := false
deriving DecidableEq

namespace Conn

/-- The connection of `Connection::start`. -/
def start (env : Env) (permission : Permission → Bool) : Conn where
  keyboard := permission .keyboard
  clipboard := permission .clipboard
  audio := permission .audio
  file := permission .file
  restart := permission .restart
  recording := permission .recording
  blockInput := permission .blockInput
  displayIdx := env.primary

/-- `is_remote`. -/
def isRemote (c : Conn) : Bool :=
  !c.fileTransfer && !c.portForwardSocket && !c.viewCamera && !c.terminal

/-- `peer_keyboard_enabled`. -/
def peerKeyboardEnabled (c : Conn) : Bool := c.keyboard && !c.disableKeyboard

/-- `clipboard_enabled`. -/
def clipboardEnabled (c : Conn) : Bool := c.clipboard && !c.disableClipboard

/-- `can_sub_clipboard_service`. -/
def canSubClipboardService (env : Env) (c : Conn) : Bool :=
  c.clipboardEnabled && c.peerKeyboardEnabled && !env.oneWayClipboard

/-- `audio_enabled`. -/
def audioEnabled (c : Conn) : Bool := c.audio && !c.disableAudio

/-- `file_transfer_enabled`. -/
def fileTransferEnabled (c : Conn) : Bool := c.file && c.enableFileTransfer

/-- `can_sub_file_clipboard_service`. -/
def canSubFileClipboardService (env : Env) (c : Conn) : Bool :=
  c.clipboardEnabled && c.fileTransferEnabled && !env.oneWayFileTransfer

/-- `video_source`. -/
def videoSource (c : Conn) : VideoSource := if c.viewCamera then .camera else .monitor

/-- `is_authed_view_camera_conn`. -/
def isAuthedViewCameraConn (c : Conn) : Bool := c.connType == some .viewCamera

/-- The type that a connection is authorized as. -/
def authConnType (c : Conn) : AuthConnType :=
  if c.fileTransfer then .fileTransfer
  else if c.portForwardSocket then .portForward
  else if c.viewCamera then .viewCamera
  else if c.terminal then .terminal
  else .remote

/-- The services that a connection has no permission for, in `try_sub_monitor_services`. -/
def noperms (env : Env) (c : Conn) : List ServiceName :=
  (if !c.peerKeyboardEnabled && !c.showRemoteCursor then [.cursor] else []) ++
    (if !c.showRemoteCursor then [.pos] else []) ++
    (if !c.followRemoteWindow then [.windowFocus] else []) ++
    (if !c.canSubClipboardService env then [.clipboard] else []) ++
    (if env.unixFileCopyPaste && !c.canSubFileClipboardService env then [.fileClipboard] else []) ++
    if !c.audioEnabled then [.audio] else []

end Conn

/-- A connection in a handler, with the services of the server. -/
structure Handling (α : Type) where
  conn : Conn
  services : List (Service α)

section Handlers

variable (env : Env) (id : Int)

/-- A call of `subscribe` for the connection. -/
def Handling.subscribe (h : Handling α) (name : ServiceName) (sub : Bool) : Handling α :=
  { h with services := Subscriptions.subscribe h.services name id sub }

/-- The calls of `subscribe` with `can_sub_clipboard_service`. -/
def Handling.subClipboard (h : Handling α) : Handling α :=
  h.subscribe id .clipboard (h.conn.canSubClipboardService env)

/-- The calls of `subscribe` with `can_sub_file_clipboard_service`. -/
def Handling.subFileClipboard (h : Handling α) : Handling α :=
  if env.unixFileCopyPaste then
    h.subscribe id .fileClipboard (h.conn.canSubFileClipboardService env)
  else h

/-- The subscription to audio after `audio_enabled` changed. -/
def Handling.subAudio (h : Handling α) : Handling α :=
  if h.conn.isAuthedViewCameraConn then
    if h.conn.voiceCalling || !h.conn.audioEnabled then
      h.subscribe id .audio h.conn.audioEnabled
    else h
  else h.subscribe id .audio h.conn.audioEnabled

/-- `SwitchPermission`. -/
def switchPermission (h : Handling α) (name : Permission) (enabled : Bool) : Handling α :=
  match name with
  | .keyboard =>
    let h := { h with conn := { h.conn with keyboard := enabled } }
    ((h.subClipboard env id).subFileClipboard env id).subscribe id .cursor
      (enabled || h.conn.showRemoteCursor)
  | .clipboard =>
    let h := { h with conn := { h.conn with clipboard := enabled } }
    h.subClipboard env id
  | .audio =>
    let h := { h with conn := { h.conn with audio := enabled } }
    if h.conn.authorized then h.subAudio id else h
  | .file =>
    let h := { h with conn := { h.conn with file := enabled } }
    h.subFileClipboard env id
  | .restart => { h with conn := { h.conn with restart := enabled } }
  | .recording => { h with conn := { h.conn with recording := enabled } }
  | .blockInput => { h with conn := { h.conn with blockInput := enabled } }

/-- `show_remote_cursor` in `update_options`. -/
def updateShowRemoteCursor (q : Option Bool) (h : Handling α) : Handling α :=
  match q with
  | some yes =>
    let h := { h with conn := { h.conn with showRemoteCursor := yes } }
    (h.subscribe id .cursor (h.conn.peerKeyboardEnabled || yes)).subscribe id .pos yes
  | none => h

/-- `follow_remote_window` in `update_options`. -/
def updateFollowRemoteWindow (q : Option Bool) (h : Handling α) : Handling α :=
  match q with
  | some yes =>
    let h := { h with conn := { h.conn with followRemoteWindow := yes } }
    h.subscribe id .windowFocus yes
  | none => h

/-- `disable_audio` in `update_options`. -/
def updateDisableAudio (q : Option Bool) (h : Handling α) : Handling α :=
  match q with
  | some yes =>
    let h := { h with conn := { h.conn with disableAudio := yes } }
    h.subAudio id
  | none => h

/-- `enable_file_transfer` in `update_options`. -/
def updateEnableFileTransfer (q : Option Bool) (h : Handling α) : Handling α :=
  match q with
  | some yes =>
    let h := { h with conn := { h.conn with enableFileTransfer := yes } }
    h.subFileClipboard env id
  | none => h

/-- `disable_clipboard` in `update_options`. -/
def updateDisableClipboard (q : Option Bool) (h : Handling α) : Handling α :=
  match q with
  | some yes =>
    let h := { h with conn := { h.conn with disableClipboard := yes } }
    h.subClipboard env id
  | none => h

/-- `disable_keyboard` in `update_options`. -/
def updateDisableKeyboard (q : Option Bool) (h : Handling α) : Handling α :=
  match q with
  | some yes =>
    let h := { h with conn := { h.conn with disableKeyboard := yes } }
    ((h.subClipboard env id).subFileClipboard env id).subscribe id .cursor
      (h.conn.peerKeyboardEnabled || h.conn.showRemoteCursor)
  | none => h

/-- `update_options`. -/
def updateOptions (o : OptionMessage) (h : Handling α) : Handling α :=
  let h := updateShowRemoteCursor id o.showRemoteCursor h
  let h := updateFollowRemoteWindow id o.followRemoteWindow h
  let h := updateDisableAudio id o.disableAudio h
  let h := updateEnableFileTransfer env id o.enableFileTransfer h
  let h := updateDisableClipboard env id o.disableClipboard h
  updateDisableKeyboard env id o.disableKeyboard h

/-- `try_sub_camera_displays`. -/
def trySubCameraDisplays (primaryCameraExists : Bool) (h : Handling α) : Handling α :=
  { h with services := addCameraConnection primaryCameraExists h.services id }

/-- `try_sub_monitor_services`. -/
def trySubMonitorServices (h : Handling α) : Handling α :=
  if h.conn.isRemote && !h.conn.servicesSubed then
    { conn := { h.conn with servicesSubed := true }
      services := addConnection env.primary (addMissing h.services (.video .monitor env.primary)) id
        (h.conn.noperms env) }
  else h

/-- What a connection finds when it is authorized. -/
structure Startup where
  /-- The display server can be shown. -/
  supported : Bool
  /-- `update_get_sync_displays_on_login` gave displays. -/
  displays : Bool
  /-- `wait_session_id_confirm`. -/
  waitSessionIdConfirm : Bool
  primaryCameraExists : Bool
deriving DecidableEq

/-- The connection as `send_logon_response_and_keep_alive` authorizes it. -/
def Conn.authorize (c : Conn) : Conn :=
  let c := { c with
    portForwardSocket := c.portForwardSocket || (c.lastKind == AuthConnType.portForward) }
  { c with authorized := true, connType := some c.authConnType }

/-- The options of the login request. -/
def Handling.takeOptionsInLogin (h : Handling α) : Handling α :=
  match h.conn.optionsInLogin with
  | some o => updateOptions env id o { h with conn := { h.conn with optionsInLogin := none } }
  | none => h

/-- `send_logon_response_and_keep_alive` past the second factor. -/
def sendLogonResponse (startup : Startup) (h : Handling α) : Handling α :=
  if h.conn.authorized then h
  else
    let h := { h with conn := h.conn.authorize }
    if h.conn.portForwardSocket then h
    else if h.conn.isRemote && !startup.supported then h
    else
      let h := h.takeOptionsInLogin env id
      if h.conn.fileTransfer then h
      else if h.conn.terminal then { h with conn := { h.conn with keyboard := false } }
      else if h.conn.viewCamera then
        let h := if startup.waitSessionIdConfirm then h
          else trySubCameraDisplays id startup.primaryCameraExists h
        { h with conn := { h.conn with keyboard := false } }
      else if startup.displays && !startup.waitSessionIdConfirm then trySubMonitorServices env id h
      else h

/-- A login request, as far as the connection keeps it. -/
def loginRequest (kind : AuthConnType) (option : Option OptionMessage) (multiUi : Bool) (c : Conn) :
    Conn :=
  let c := { c with
    lastKind := kind
    multiUi := multiUi
    optionsInLogin := option.or c.optionsInLogin }
  if c.authorized then c
  else
    match kind with
    | .fileTransfer => { c with fileTransfer := true }
    | .viewCamera => { c with viewCamera := true }
    | .terminal => { c with terminal := true }
    | .portForward | .remote => c

/-- `SelectedSid`, of the session that the process runs in. -/
def selectedSid (primaryCameraExists : Bool) (h : Handling α) : Handling α :=
  if h.conn.fileTransfer then h
  else if h.conn.viewCamera then trySubCameraDisplays id primaryCameraExists h
  else if !h.conn.terminal then trySubMonitorServices env id h
  else h

/-- `switch_display_to`. -/
def switchDisplayTo (display : Nat) (h : Handling α) : Handling α :=
  let services := if display ≠ env.primary then
      addMissing h.services (.video h.conn.videoSource display)
    else h.services
  let h := { h with services := services }
  let h := if h.conn.multiUi then h
    else h.subscribe id (.video h.conn.videoSource h.conn.displayIdx) false
  let h := h.subscribe id (.video h.conn.videoSource display) true
  { h with conn := { h.conn with displayIdx := display } }

/-- `handle_switch_display`. -/
def handleSwitchDisplay (display : Nat) (h : Handling α) : Handling α :=
  if h.conn.displayIdx ≠ display then switchDisplayTo env id display h else h

/-- `Connection::capture_displays`. -/
def Handling.captureDisplays (add sub set : List Nat) (h : Handling α) : Handling α :=
  let name := ServiceName.video h.conn.videoSource
  let services := (add.map name).foldl addMissing h.services
  let services := (set.map name).foldl addMissing services
  let services :=
    if add ≠ [] then Subscriptions.captureDisplays services id (add.map name) true false
    else if sub ≠ [] then Subscriptions.captureDisplays services id (sub.map name) false true
    else Subscriptions.captureDisplays services id (set.map name) true true
  let multiUiSession := decide (getSubbedDisplaysCount services id > 1)
  let h : Handling α := ⟨{ h.conn with multiUiSession := multiUiSession }, services⟩
  if h.conn.followRemoteWindow then h.subscribe id .windowFocus (!multiUiSession) else h

/-- `close_voice_call`. -/
def closeVoiceCall (h : Handling α) : Handling α :=
  let h := { h with conn := { h.conn with voiceCalling := false } }
  if h.conn.isAuthedViewCameraConn then h.subscribe id .audio false else h

/-- A `VoiceCallRequest`. -/
def voiceCallRequest (isConnect : Bool) (h : Handling α) : Handling α :=
  if isConnect then { h with conn := { h.conn with voiceCallRequest := true } }
  else closeVoiceCall id h

/-- `handle_voice_call`. -/
def handleVoiceCall (accepted : Bool) (h : Handling α) : Handling α :=
  if h.conn.voiceCallRequest then
    let h := { h with
      conn := { h.conn with voiceCallRequest := false, voiceCalling := accepted } }
    if h.conn.isAuthedViewCameraConn then
      h.subscribe id .audio (h.conn.audioEnabled && accepted)
    else h
  else h

end Handlers

/-! ## The server -/

/-- A server with its connections. -/
structure State (α : Type) where
  idCount : Int
  /-- The connections whose loop runs. -/
  conns : Int → Option Conn
  services : List (Service α)

/-- What a service does by itself. -/
def ofService : SnapshotService.Event α → Bool
  | .onSubscribe _ | .onUnsubscribe _ => false
  | _ => true

/-- What happens at a server. -/
inductive Event (α : Type)
  /-- `Connection::start` with a new id. -/
  | connect (permission : Permission → Bool)
  /-- A login request that is not turned away. -/
  | loginRequest (id : Int) (kind : AuthConnType) (option : Option OptionMessage) (multiUi : Bool)
  /-- The connection is authorized. -/
  | authorize (id : Int) (startup : Startup)
  | switchPermission (id : Int) (name : Permission) (enabled : Bool)
  /-- The connection manager accepts or refuses a voice call. -/
  | handleVoiceCall (id : Int) (accepted : Bool)
  /-- The connection manager ends a voice call. -/
  | closeVoiceCall (id : Int)
  /-- Messages of a peer that is authorized. -/
  | selectedSid (id : Int) (primaryCameraExists : Bool)
  | options (id : Int) (o : OptionMessage)
  | switchDisplay (id : Int) (display : Nat)
  | captureDisplays (id : Int) (add sub set : List Nat)
  | voiceCallRequest (id : Int) (isConnect : Bool)
  /-- The loop of a connection ends. -/
  | close (id : Int)
  /-- A service sends, or takes a step of a snapshot. -/
  | service (i : Nat) (e : SnapshotService.Event α)

/-- A handler of a connection. -/
def State.handle (s : State α) (id : Int) (f : Handling α → Handling α) : Option (State α) :=
  (s.conns id).map fun c =>
    let h := f ⟨c, s.services⟩
    { s with conns := Function.update s.conns id (some h.conn), services := h.services }

/-- A handler of a message that only an authorized peer may send. -/
def State.handleAuthorized (s : State α) (id : Int) (f : Handling α → Handling α) :
    Option (State α) :=
  s.handle id fun h => if h.conn.authorized then f h else h

/-- What an event does. -/
def step (env : Env) (s : State α) : Event α → Option (State α)
  | .connect permission =>
    some { s with
      idCount := s.idCount + 1
      conns := Function.update s.conns (s.idCount + 1) (some (.start env permission)) }
  | .loginRequest id kind option multiUi =>
    s.handle id fun h => { h with conn := loginRequest kind option multiUi h.conn }
  | .authorize id startup => s.handle id (sendLogonResponse env id startup)
  | .switchPermission id name enabled =>
    s.handle id fun h => switchPermission env id h name enabled
  | .handleVoiceCall id accepted => s.handle id (handleVoiceCall id accepted)
  | .closeVoiceCall id => s.handle id (closeVoiceCall id)
  | .selectedSid id camera => s.handleAuthorized id (selectedSid env id camera)
  | .options id o => s.handleAuthorized id (updateOptions env id o)
  | .switchDisplay id display => s.handleAuthorized id (handleSwitchDisplay env id display)
  | .captureDisplays id add sub set =>
    s.handleAuthorized id (Handling.captureDisplays id add sub set)
  | .voiceCallRequest id isConnect => s.handleAuthorized id (voiceCallRequest id isConnect)
  | .close id => (s.conns id).map fun _ =>
      { s with
        conns := Function.update s.conns id none
        services := removeConnection s.services id }
  | .service i e =>
    match s.services[i]? with
    | some v =>
      if ofService e then (SnapshotService.step v.state e).map fun t =>
        { s with services := s.services.set i { v with state := t } }
      else none
    | none => none

/-- A server from its start on. -/
def server (α : Type) (env : Env) : Machine (State α) (Event α) where
  start s := (∀ id, s.conns id = none) ∧ s.services = env.names.map Service.new
  step := step env

end ChainRemote.Server.Subscriptions
