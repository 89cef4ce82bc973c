import ChainRemote.Lib.Machine
import ChainRemote.Server.OutputBuffer

/-!
# History and live output of a terminal session

A reader thread sends the output of a shell to a bounded channel. The run loop calls `read_outputs`,
which empties the channel, adds the chunks to the history and, while the session is active, answers
with the pending history and the chunks. `handle_open` on a session that is there takes the end of
the history as pending and makes the session active; `reset_status` closes it.

The session is locked from the first chunk that `read_outputs` takes to its last answer, while the
reader goes on sending; each step of that is an event of its own.
-/

namespace ChainRemote.Server.TerminalReplay

open Lib

/-- `CHANNEL_BUFFER_SIZE`. -/
def channelBufferSize : Nat := 500

/-- `COMPRESS_THRESHOLD`. -/
def compressThreshold : Nat := 512

/-- `DEFAULT_RECONNECT_BUFFER_BYTES`. -/
def defaultReconnectBufferBytes : Nat := 8 * 1024

/-- `MAX_SIGWINCH_PHASE_ATTEMPTS`. -/
def maxSigwinchPhaseAttempts : Nat := 3

/-- `SigwinchPhase`. -/
inductive SigwinchPhase
  | idle
  | tempResize (retries : Nat)
  | restore (retries : Nat)
deriving DecidableEq, Repr

/-- The phase after a tick, where a resize, if there is one, succeeds or not. -/
def SigwinchPhase.next (resizeOk : Bool) : SigwinchPhase → SigwinchPhase
  | .tempResize 0 => .idle
  | .tempResize (retries + 1) =>
    if resizeOk then .restore maxSigwinchPhaseAttempts else .tempResize retries
  | .restore 0 => .idle
  | .restore (retries + 1) => if resizeOk then .idle else .restore retries
  | .idle => .idle

/-- `SessionState`. -/
inductive SessionState
  | closed
  | active (pendingBuffer : Option Bytes) (sigwinch : SigwinchPhase)
deriving DecidableEq, Repr

/-- The part of `TerminalSession` that the output passes through. -/
structure TerminalSession where
  /-- The chunks between the reader and `output_rx`. -/
  channel : List Bytes := []
  outputBuffer : OutputBuffer := {}
  state : SessionState
deriving DecidableEq, Repr

/-- `compress` and `decompress`. -/
structure Compression where
  compress : Bytes → Bytes
  decompress : Bytes → Bytes
  roundtrip : ∀ data, decompress (compress data) = data

/-- A `TerminalResponse` with `TerminalData`. -/
structure DataResponse where
  terminalId : Int
  data : Bytes
  compressed : Bool
deriving DecidableEq, Repr

section Responses

variable (zstd : Compression)

/-- `create_terminal_data_response`. -/
def createTerminalDataResponse (terminalId : Int) (data : Bytes) : DataResponse :=
  if data.length > compressThreshold then
    let compressed := zstd.compress data
    if compressed.length < data.length then { terminalId, data := compressed, compressed := true }
    else { terminalId, data, compressed := false }
  else { terminalId, data, compressed := false }

/-- What the other side reads from an answer. -/
def payload (response : DataResponse) : Bytes :=
  if response.compressed then zstd.decompress response.data else response.data

@[simp] theorem payload_create (terminalId : Int) (data : Bytes) :
    payload zstd (createTerminalDataResponse zstd terminalId data) = data := by
  unfold payload createTerminalDataResponse
  split
  · simp only
    split
    · exact zstd.roundtrip data
    · rfl
  · rfl

end Responses

/-- The chunks are added to the history in order; none where an `append` never returns. -/
def appendAll (chunks : List Bytes) (buffer : OutputBuffer) : Option OutputBuffer :=
  chunks.foldlM (fun buffer data => buffer.append data) buffer

/-- `read_outputs` for a session after its channel is empty: the answers and the session. -/
def deliver (zstd : Compression) (terminalId : Int) (resizeOk : Bool) (received : List Bytes)
    (session : TerminalSession) : Option (List DataResponse × TerminalSession) := do
  let outputBuffer ← appendAll received session.outputBuffer
  let session := { session with outputBuffer }
  match session.state with
  | .closed => return ([], session)
  | .active pendingBuffer sigwinch =>
    let history := (pendingBuffer.filter fun buffer => !buffer.isEmpty).toList
    let responses := (history ++ received).map (createTerminalDataResponse zstd terminalId)
    return (responses, { session with state := .active none (sigwinch.next resizeOk) })

/-- What `handle_open` reads from the history. -/
def TerminalSession.recent (session : TerminalSession) : Bytes :=
  session.outputBuffer.getRecent defaultReconnectBufferBytes

/-- `handle_open` of a session that is there. -/
def handleOpen (session : TerminalSession) : TerminalSession :=
  let buffer := session.recent
  { session with
    state := .active (if buffer.isEmpty then none else some buffer)
      (.tempResize maxSigwinchPhaseAttempts) }

/-- `reset_status`, for one session. -/
def resetStatus (session : TerminalSession) : TerminalSession := { session with state := .closed }

/-- `try_send_output` of a chunk: a full channel drops it. -/
def trySendOutput (data : Bytes) (session : TerminalSession) : TerminalSession :=
  if session.channel.length < channelBufferSize then
    { session with channel := session.channel ++ [data] }
  else session

/-- Where the run loop is. -/
inductive Tick
  | idle
  /-- `read_outputs` has the lock and has taken these chunks. -/
  | draining (received : List Bytes)
  /-- An `append` under the lock never returns. -/
  | stuck
deriving DecidableEq, Repr

/-- What happened since an open. -/
structure Stream where
  /-- The accepted output drained before the open. -/
  before : Bytes
  /-- What `get_recent` gave. -/
  recent : Bytes
  /-- The accepted output drained since. -/
  since : Bytes := []
  /-- The answers since, one after another. -/
  sent : Bytes := []
  /-- `read_outputs` has answered since. -/
  ticked : Bool := false
deriving DecidableEq, Repr

/-- A session and its run loop. -/
structure State where
  session : TerminalSession
  tick : Tick := .idle
  /-- The accepted output that was drained. -/
  drained : Bytes := []
  /-- The opens since the session was last closed, the newest first. -/
  streams : List Stream
deriving DecidableEq, Repr

/-- What can happen to a session. -/
inductive Event
  /-- The reader sends a chunk. -/
  | send (data : Bytes)
  /-- `read_outputs` gets the lock. -/
  | lock
  /-- It takes a chunk. -/
  | recv
  /-- It finds the channel empty and does the rest. -/
  | finish (terminalId : Int) (resizeOk : Bool)
  | resetStatus
  | handleOpen

/-- A stream after a tick that drained and sent something. -/
def Stream.record (drained sent : Bytes) (stream : Stream) : Stream :=
  { stream with since := stream.since ++ drained, sent := stream.sent ++ sent, ticked := true }

/-- A stream after something was drained in a tick that never ends. -/
def Stream.lose (drained : Bytes) (stream : Stream) : Stream :=
  { stream with since := stream.since ++ drained }

/-- The state after an event; none where the lock or the channel does not allow it. -/
def step (zstd : Compression) (s : State) : Event → Option State
  | .send data => some { s with session := trySendOutput data s.session }
  | .lock =>
    match s.tick with
    | .idle => some { s with tick := .draining [] }
    | _ => none
  | .recv =>
    match s.tick, s.session.channel with
    | .draining received, data :: rest =>
      some { s with
        session := { s.session with channel := rest }
        tick := .draining (received ++ [data]) }
    | _, _ => none
  | .finish terminalId resizeOk =>
    match s.tick, s.session.channel with
    | .draining received, [] =>
      let chunk := received.flatten
      match deliver zstd terminalId resizeOk received s.session with
      | some (responses, session) =>
        let sent := (responses.map (payload zstd)).flatten
        some
          { session, drained := s.drained ++ chunk, streams := s.streams.map (.record chunk sent) }
      | none =>
        some { s with
          tick := .stuck, drained := s.drained ++ chunk, streams := s.streams.map (.lose chunk) }
    | _, _ => none
  | .resetStatus =>
    match s.tick with
    | .idle => some { s with session := resetStatus s.session, streams := [] }
    | _ => none
  | .handleOpen =>
    match s.tick with
    | .idle =>
      some { s with
        session := handleOpen s.session
        streams := { before := s.drained, recent := s.session.recent } :: s.streams }
    | _ => none

/-- A session from its creation on, which is its first open. -/
def terminal (zstd : Compression) : Machine State Event where
  start s := s =
    { session := { state := .active none .idle }, streams := [{ before := [], recent := [] }] }
  step := step zstd

/-- Since an open the answers are the end of what was drained before it, once there was a tick, and
then what was drained since. -/
structure Stream.Exact (stream : Stream) : Prop where
  history : stream.recent <:+ stream.before
  answers : stream.sent = (if stream.ticked then stream.recent else []) ++ stream.since

/-- Every open is answered so. -/
def Delivers (s : State) : Prop := ∀ stream ∈ s.streams, stream.Exact

/-- An open finds the session closed, its history not yet sent or no history; and every append
returns. -/
def Sane (s : State) : Event → Prop
  | .handleOpen =>
    match s.session.state with
    | .closed => True
    | .active pendingBuffer _ => pendingBuffer.isSome = true ∨ s.session.recent = []
  | .finish _ _ =>
    match s.tick with
    | .draining received => (appendAll received s.session.outputBuffer).isSome = true
    | _ => True
  | _ => True

section Runs

variable {zstd : Compression} {s t : State}

/-- The history after the chunks is the newest part of the history before them and the chunks. -/
theorem appendAll_suffix {chunks : List Bytes} {buffer after : OutputBuffer}
    (appended : appendAll chunks buffer = some after) :
    after.content <:+ buffer.content ++ chunks.flatten := by
  induction chunks generalizing buffer with
  | nil =>
    obtain rfl := Option.some.inj appended
    exact ⟨[], by rw [List.flatten_nil, List.append_nil, List.nil_append]⟩
  | cons data rest ih =>
    obtain ⟨middle, first, others⟩ := Option.bind_eq_some_iff.mp appended
    obtain ⟨front, shape⟩ := OutputBuffer.append_suffix first
    have later := ih others
    rw [List.flatten_cons, ← List.append_assoc, ← shape, List.append_assoc]
    exact later.trans (List.suffix_append front _)

/-- How a stream stands to the session: what is pending is its history as long as there was no tick,
and nothing is pending afterwards. -/
structure Stream.Fits (session : TerminalSession) (pendingBuffer : Option Bytes)
    (stream : Stream) : Prop where
  exact : stream.Exact
  fresh : stream.ticked = false → stream.recent = session.recent ∧
    pendingBuffer.getD [] = stream.recent ∧ stream.sent = [] ∧ stream.since = []
  later : stream.ticked = true → pendingBuffer = none

/-- The history is the newest part of what was drained, a closed session has no streams, and those
of an active one fit. -/
structure Held (s : State) : Prop where
  history : s.session.outputBuffer.content <:+ s.drained
  free : s.tick ≠ .stuck
  closed : s.session.state = .closed → s.streams = []
  active : ∀ pendingBuffer sigwinch, s.session.state = .active pendingBuffer sigwinch →
    ∀ stream ∈ s.streams, stream.Fits s.session pendingBuffer

theorem Held.delivers (held : Held s) : Delivers s := by
  intro stream inside
  cases state : s.session.state with
  | closed =>
    rw [held.closed state] at inside
    cases inside
  | active pendingBuffer sigwinch =>
    exact (held.active pendingBuffer sigwinch state stream inside).exact

theorem recent_suffix (session : TerminalSession) :
    session.recent <:+ session.outputBuffer.content :=
  OutputBuffer.getRecent_suffix _ _

/-- What a tick sends: the pending history and the chunks. -/
theorem deliver_active {terminalId : Int} {resizeOk : Bool} {received : List Bytes}
    {session after : TerminalSession} {responses : List DataResponse}
    {pendingBuffer : Option Bytes} {sigwinch : SigwinchPhase}
    (state : session.state = .active pendingBuffer sigwinch)
    (delivered : deliver zstd terminalId resizeOk received session = some (responses, after)) :
    (responses.map (payload zstd)).flatten = pendingBuffer.getD [] ++ received.flatten ∧
      after.state = .active none (sigwinch.next resizeOk) ∧
      appendAll received session.outputBuffer = some after.outputBuffer := by
  obtain ⟨buffer, appended, rest⟩ := Option.bind_eq_some_iff.mp delivered
  simp only [state] at rest
  obtain ⟨rfl, rfl⟩ := Prod.mk.inj (Option.some.inj rest)
  refine ⟨?_, rfl, appended⟩
  rw [List.map_map]
  have payloads : (payload zstd ∘ createTerminalDataResponse zstd terminalId) = id :=
    funext (payload_create zstd terminalId)
  rw [payloads, List.map_id, List.flatten_append]
  congr 1
  cases pendingBuffer with
  | none => rfl
  | some buffer =>
    cases buffer with
    | nil => rfl
    | cons byte bytes =>
      show ([byte :: bytes] : List Bytes).flatten = byte :: bytes
      rw [List.flatten_singleton]

theorem deliver_closed {terminalId : Int} {resizeOk : Bool} {received : List Bytes}
    {session after : TerminalSession} {responses : List DataResponse}
    (state : session.state = .closed)
    (delivered : deliver zstd terminalId resizeOk received session = some (responses, after)) :
    after.state = .closed ∧ appendAll received session.outputBuffer = some after.outputBuffer := by
  obtain ⟨buffer, appended, rest⟩ := Option.bind_eq_some_iff.mp delivered
  simp only [state] at rest
  obtain ⟨rfl, rfl⟩ := Prod.mk.inj (Option.some.inj rest)
  exact ⟨rfl, appended⟩

/-- A tick fails only in an append. -/
theorem deliver_some (zstd : Compression) (terminalId : Int) (resizeOk : Bool)
    {received : List Bytes} {session : TerminalSession}
    (returns : (appendAll received session.outputBuffer).isSome = true) :
    ∃ result, deliver zstd terminalId resizeOk received session = some result := by
  obtain ⟨buffer, appended⟩ := Option.isSome_iff_exists.mp returns
  obtain ⟨channel, old, state⟩ := session
  simp only [deliver, appended, Option.bind_eq_bind, Option.bind_some]
  cases state with
  | closed => exact ⟨_, rfl⟩
  | active pendingBuffer sigwinch => exact ⟨_, rfl⟩

theorem Held.start (started : (terminal zstd).start s) : Held s := by
  obtain rfl := started
  refine ⟨List.suffix_refl _, nofun, nofun, ?_⟩
  intro pendingBuffer sigwinch state stream inside
  obtain ⟨rfl, rfl⟩ := SessionState.active.inj state
  obtain rfl := List.mem_singleton.mp inside
  exact ⟨⟨List.suffix_refl _, rfl⟩, fun _ => ⟨by decide, rfl, rfl, rfl⟩, nofun⟩

/-- Nothing but the channel and the place of the run loop changes. -/
theorem Held.channel (held : Held s) {channel : List Bytes} {tick : Tick}
    (free : tick ≠ .stuck) :
    Held { s with session := { s.session with channel }, tick } :=
  ⟨held.history, free, held.closed, fun pendingBuffer sigwinch state stream inside =>
    let fits := held.active pendingBuffer sigwinch state stream inside
    ⟨fits.exact, fits.fresh, fits.later⟩⟩

theorem Held.reset (held : Held s) :
    Held { s with session := resetStatus s.session, streams := [] } :=
  ⟨held.history, held.free, fun _ => rfl, nofun⟩

theorem Held.open (held : Held s) (sane : Sane s .handleOpen) :
    Held { s with
      session := handleOpen s.session
      streams := { before := s.drained, recent := s.session.recent } :: s.streams } := by
  refine ⟨held.history, held.free, nofun, ?_⟩
  intro pendingBuffer sigwinch state stream inside
  have pendingIs : pendingBuffer =
      if s.session.recent.isEmpty then none else some s.session.recent :=
    (SessionState.active.inj state).1.symm
  have pending : pendingBuffer.getD [] = s.session.recent := by
    rw [pendingIs]
    split
    · rename_i empty
      exact (List.isEmpty_iff.mp empty).symm
    · rfl
  rcases List.mem_cons.mp inside with rfl | old
  · refine ⟨⟨(recent_suffix s.session).trans held.history, rfl⟩, ?_, nofun⟩
    exact fun _ => ⟨rfl, pending, rfl, rfl⟩
  · -- the stream of an earlier open, of a session that was not closed in between
    cases was : s.session.state with
    | closed =>
      rw [held.closed was] at old
      cases old
    | active oldPending oldSigwinch =>
      have fits := held.active oldPending oldSigwinch was stream old
      refine ⟨fits.exact, ?_, ?_⟩
      · intro fresh
        obtain ⟨same, _, nothing, none⟩ := fits.fresh fresh
        exact ⟨same, pending.trans same.symm, nothing, none⟩
      · intro ticked
        simp only [Sane, was] at sane
        rcases sane with unsent | empty
        · rw [fits.later ticked] at unsent
          cases unsent
        · rw [pendingIs, empty]
          rfl

theorem Held.finish (held : Held s) {terminalId : Int} {resizeOk : Bool} {received : List Bytes}
    {responses : List DataResponse} {session : TerminalSession}
    (delivered : deliver zstd terminalId resizeOk received s.session = some (responses, session)) :
    Held
      { session, drained := s.drained ++ received.flatten,
        streams := s.streams.map
          (.record received.flatten (responses.map (payload zstd)).flatten) } := by
  have grown : ∀ after, appendAll received s.session.outputBuffer = some after →
      after.content <:+ s.drained ++ received.flatten := by
    intro after appended
    obtain ⟨front, shape⟩ := held.history
    apply (appendAll_suffix appended).trans
    rw [← shape, List.append_assoc]
    exact List.suffix_append front _
  cases state : s.session.state with
  | closed =>
    obtain ⟨still, appended⟩ := deliver_closed state delivered
    refine ⟨grown _ appended, nofun, ?_, ?_⟩
    · intro _
      rw [held.closed state]
      rfl
    · intro pendingBuffer sigwinch active
      rw [still] at active
      cases active
  | active oldPending oldSigwinch =>
    obtain ⟨sent, now, appended⟩ := deliver_active state delivered
    refine ⟨grown _ appended, nofun, ?_, ?_⟩
    · intro closed
      rw [now] at closed
      cases closed
    · intro pendingBuffer sigwinch active stream inside
      rw [now] at active
      obtain ⟨rfl, -⟩ := SessionState.active.inj active
      obtain ⟨old, there, rfl⟩ := List.mem_map.mp inside
      have fits := held.active oldPending oldSigwinch state old there
      refine ⟨⟨fits.exact.history, ?_⟩, nofun, fun _ => rfl⟩
      show old.sent ++ (responses.map (payload zstd)).flatten =
        old.recent ++ (old.since ++ received.flatten)
      rw [sent]
      cases ticked : old.ticked with
      | false =>
        obtain ⟨_, pending, nothing, none⟩ := fits.fresh ticked
        rw [pending, nothing, none, List.nil_append, List.nil_append]
      | true =>
        have answers := fits.exact.answers
        rw [if_pos ticked] at answers
        rw [fits.later ticked, answers, List.append_assoc]
        rfl

theorem Held.step (held : Held s) {e : Event} (sane : Sane s e)
    (stepped : step zstd s e = some t) : Held t := by
  cases e with
  | send data =>
    obtain rfl := Option.some.inj stepped
    unfold trySendOutput
    split
    · exact held.channel held.free
    · exact held
  | lock =>
    simp only [TerminalReplay.step] at stepped
    split at stepped
    · obtain rfl := Option.some.inj stepped
      exact held.channel nofun
    · cases stepped
  | recv =>
    simp only [TerminalReplay.step] at stepped
    split at stepped
    · obtain rfl := Option.some.inj stepped
      exact held.channel nofun
    · cases stepped
  | finish terminalId resizeOk =>
    simp only [TerminalReplay.step] at stepped
    split at stepped
    · rename_i received draining empty
      simp only [Sane, draining] at sane
      obtain ⟨⟨responses, session⟩, delivered⟩ :=
        deliver_some zstd terminalId resizeOk sane
      rw [delivered] at stepped
      obtain rfl := Option.some.inj stepped
      exact held.finish delivered
    · cases stepped
  | resetStatus =>
    simp only [TerminalReplay.step] at stepped
    split at stepped
    · obtain rfl := Option.some.inj stepped
      exact held.reset
    · cases stepped
  | handleOpen =>
    simp only [TerminalReplay.step] at stepped
    split at stepped
    · obtain rfl := Option.some.inj stepped
      exact held.open sane
    · cases stepped

end Runs

/-- In every run in which no open finds an active session whose history was sent and is not empty,
and in which every append returns, the answers since each open are the end of what was drained
before it and then exactly what was drained since. -/
theorem replay_exact (zstd : Compression) (s : State)
    (reached : (terminal zstd).Reaches Sane s) : Delivers s := by
  have held : Held s := by
    apply reached.invariant Held
    · exact fun s started => Held.start started
    · exact fun s e t held sane stepped => held.step sane stepped
  exact held.delivers

instance (s : State) (e : Event) : Decidable (Sane s e) :=
  match e with
  | .handleOpen =>
    match state : s.session.state with
    | .closed => isTrue (by simp only [Sane, state])
    | .active pendingBuffer _ =>
      decidable_of_iff (pendingBuffer.isSome = true ∨ s.session.recent = [])
        (by simp only [Sane, state])
  | .finish _ _ =>
    match tick : s.tick with
    | .draining received =>
      decidable_of_iff ((appendAll received s.session.outputBuffer).isSome = true)
        (by simp only [Sane, tick])
    | .idle => isTrue (by simp only [Sane, tick])
    | .stuck => isTrue (by simp only [Sane, tick])
  | .send _ => isTrue trivial
  | .lock => isTrue trivial
  | .recv => isTrue trivial
  | .resetStatus => isTrue trivial

/-- A new session. -/
def created : State where
  session := { state := .active none .idle }
  streams := [{ before := [], recent := [] }]

/-- Answers as they are, which is how short ones go. -/
def plain : Compression := ⟨id, id, fun _ => rfl⟩

/-- Output before, during and after a time without a client. -/
def reconnect : List Event :=
  [.send [97], .lock, .recv, .finish 1 true, .resetStatus, .send [98], .lock, .recv,
    .finish 1 true, .handleOpen, .send [99], .lock, .recv, .finish 1 true]

theorem reconnect_exact :
    ((terminal plain).play Sane created reconnect).streams =
        [{ before := [97, 98], recent := [97, 98], since := [99], sent := [97, 98, 99],
           ticked := true }] ∧
      Delivers ((terminal plain).play Sane created reconnect) := by
  refine ⟨by decide +kernel, ?_⟩
  exact replay_exact plain _ ⟨created, rfl, Machine.runs_play _ _ _ _⟩

/-- A second open of a session that is active. -/
def openedTwice : List Event :=
  [.send [97], .lock, .recv, .finish 1 true, .handleOpen, .lock, .finish 1 true]

/-- What was drained since the first open is answered twice. -/
theorem history_repeated : ∃ s, (terminal plain).Reaches Machine.free s ∧
    { before := [], recent := [], since := [97], sent := [97, 97], ticked := true } ∈ s.streams ∧
      ¬ Delivers s := by
  have run := (terminal plain).runs_play Machine.free created openedTwice
  have listed : ({ before := [], recent := [], since := [97], sent := [97, 97], ticked := true } :
      Stream) ∈ ((terminal plain).play Machine.free created openedTwice).streams := by
    decide +kernel
  refine ⟨_, ⟨created, rfl, run⟩, listed, ?_⟩
  intro delivers
  have answers := (delivers _ listed).answers
  revert answers
  decide

end ChainRemote.Server.TerminalReplay
