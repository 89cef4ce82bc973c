import ChainRemote.Lib.LittleEndian
import ChainRemote.Server.OutputBuffer

/-!
# Messages to the terminal helper

The service sends data and resizes to the helper over a pipe, each as a type, a length and a
payload. The input thread of the helper reads them into two buffers that it uses again and again,
and a read may give any part of what is on the pipe or be interrupted.
-/

namespace ChainRemote.Server.TerminalHelper

open Lib

/-- `MSG_TYPE_DATA`. -/
def msgTypeData : UInt8 := 1

/-- `MSG_TYPE_RESIZE`. -/
def msgTypeResize : UInt8 := 2

/-- `MSG_HEADER_SIZE`. -/
def msgHeaderSize : Nat := 5

/-- `MAX_PAYLOAD_SIZE`. -/
def maxPayloadSize : Nat := 16 * 1024 * 1024

/-- `encode_helper_message`. -/
def encodeHelperMessage (msgType : UInt8) (payload : Bytes) : Bytes :=
  [msgType] ++ toLe 4 payload.length ++ payload

/-- `encode_resize_message`. -/
def encodeResizeMessage (rows cols : UInt16) : Bytes :=
  encodeHelperMessage msgTypeResize (toLe 2 rows.toNat ++ toLe 2 cols.toNat)

/-- What one call of `read` can find. -/
inductive Read
  /-- Bytes, of which a read takes as many as it has room for. -/
  | fragment (bytes : Bytes)
  | interrupted
  | error
deriving DecidableEq, Repr

/-- What `read_exact_or_eof` returns. -/
inductive Filled
  | full
  | eof
  | error
deriving DecidableEq, Repr

/-- Puts bytes into a buffer. -/
def overwrite (buf : Bytes) (pos : Nat) (bytes : Bytes) : Bytes :=
  buf.take pos ++ bytes ++ buf.drop (pos + bytes.length)

/-- The loop of `read_exact_or_eof`: the result, the buffer and what is left on the pipe, which is
at its end where there is nothing more to find. -/
def readFrom : List Read → Nat → Bytes → Filled × Bytes × List Read
  | [], pos, buf => if pos < buf.length then (.eof, buf, []) else (.full, buf, [])
  | .interrupted :: rest, pos, buf =>
    if pos < buf.length then readFrom rest pos buf else (.full, buf, .interrupted :: rest)
  | .error :: rest, pos, buf =>
    if pos < buf.length then (.error, buf, rest) else (.full, buf, .error :: rest)
  | .fragment bytes :: rest, pos, buf =>
    if pos < buf.length then
      let room := buf.length - pos
      if bytes = [] then (.eof, buf, rest)
      else if bytes.length ≤ room then
        readFrom rest (pos + bytes.length) (overwrite buf pos bytes)
      else
        (.full, overwrite buf pos (bytes.take room), .fragment (bytes.drop room) :: rest)
    else (.full, buf, .fragment bytes :: rest)

/-- `read_exact_or_eof`. -/
def readExactOrEof (reads : List Read) (buf : Bytes) : Filled × Bytes × List Read :=
  readFrom reads 0 buf

/-- What the input thread does to the terminal. -/
inductive Action
  | write (data : Bytes)
  | resize (rows cols : UInt16)
deriving DecidableEq, Repr

/-- Why the input thread ends. -/
inductive Stop
  | exiting
  | eof
  | readError
  | payloadTooLarge
  | ptyError
  | unknownType
deriving DecidableEq, Repr

/-- How a write to the terminal goes. -/
inductive PtyWrite
  | ok
  | writeError
  | flushError
deriving DecidableEq, Repr

/-- What the input thread meets in each round of its loop. -/
structure Surroundings where
  exiting : Nat → Bool
  pty : Nat → PtyWrite

/-- The shell runs and takes what it gets. -/
def running : Surroundings where
  exiting _ := false
  pty _ := .ok

/-- What the loop of the input thread keeps. -/
structure Loop where
  headerBuf : Bytes := List.replicate msgHeaderSize 0
  payloadBuf : Bytes := List.replicate 4096 0
  reads : List Read

/-- What a round of the loop ends in. -/
inductive Round
  | stop (actions : List Action) (reason : Stop)
  | next (actions : List Action) (loop : Loop)

/-- A round of the loop once a message is in the buffers. -/
def handleMessage (pty : PtyWrite) (payloadLen : Nat) (loop : Loop) : Round :=
  let msgType := loop.headerBuf.headD 0
  if msgType = msgTypeData then
    let data := loop.payloadBuf.take payloadLen
    match pty with
    | .ok => .next [.write data] loop
    | .writeError => .stop [] .ptyError
    | .flushError => .stop [.write data] .ptyError
  else if msgType = msgTypeResize then
    if payloadLen ≥ 4 then
      let rows := UInt16.ofNat (ofLe (loop.payloadBuf.take 2))
      let cols := UInt16.ofNat (ofLe ((loop.payloadBuf.drop 2).take 2))
      .next [.resize rows cols] loop
    else .next [] loop
  else .stop [] .unknownType

/-- A round of the loop of the input thread. -/
def round (around : Surroundings) (n : Nat) (loop : Loop) : Round :=
  if around.exiting n then .stop [] .exiting
  else
    match readExactOrEof loop.reads loop.headerBuf with
    | (.eof, _, _) => .stop [] .eof
    | (.error, _, _) => .stop [] .readError
    | (.full, headerBuf, reads) =>
      let payloadLen := ofLe ((headerBuf.drop 1).take 4)
      if payloadLen > maxPayloadSize then .stop [] .payloadTooLarge
      else
        -- the buffer grows with zeros and is never cut
        let payloadBuf := loop.payloadBuf ++
          List.replicate (payloadLen - loop.payloadBuf.length) 0
        if payloadLen > 0 then
          match readExactOrEof reads (payloadBuf.take payloadLen) with
          | (.eof, _, _) => .stop [] .eof
          | (.error, _, _) => .stop [] .readError
          | (.full, payload, reads) =>
            handleMessage (around.pty n) payloadLen
              { headerBuf, payloadBuf := payload ++ payloadBuf.drop payloadLen, reads }
        else handleMessage (around.pty n) payloadLen { headerBuf, payloadBuf, reads }

/-- The input thread from a round on, as far as some number of rounds: what it did, and why it ended
if it did. -/
def inputThread (around : Surroundings) : Nat → Nat → Loop → List Action × Option Stop
  | 0, _, _ => ([], none)
  | rounds + 1, n, loop =>
    match round around n loop with
    | .stop actions reason => (actions, some reason)
    | .next actions loop =>
      let (later, reason) := inputThread around rounds (n + 1) loop
      (actions ++ later, reason)

/-- What the service sends. -/
inductive Message
  | data (payload : Bytes) (fits : payload.length ≤ maxPayloadSize)
  | resize (rows cols : UInt16)

/-- A message on the pipe. -/
def Message.encode : Message → Bytes
  | .data payload _ => encodeHelperMessage msgTypeData payload
  | .resize rows cols => encodeResizeMessage rows cols

/-- What a message asks for. -/
def Message.action : Message → Action
  | .data payload _ => .write payload
  | .resize rows cols => .resize rows cols

/-- The messages that are complete in the first bytes of a stream. -/
def complete : Nat → List Message → List Message
  | _, [] => []
  | cut, message :: rest =>
    if message.encode.length ≤ cut then
      message :: complete (cut - message.encode.length) rest
    else []

/-- The bytes that reads give, in pieces that are not empty and with any interruptions. -/
inductive Arrives : Bytes → List Read → Prop
  | nil : Arrives [] []
  | interrupted {bytes : Bytes} {reads : List Read} (rest : Arrives bytes reads) :
      Arrives bytes (.interrupted :: reads)
  | fragment {bytes later : Bytes} {reads : List Read} (some : bytes ≠ [])
      (rest : Arrives later reads) : Arrives (bytes ++ later) (.fragment bytes :: reads)

section Reading

variable {bytes buf : Bytes} {reads : List Read} {pos : Nat}

theorem length_overwrite {piece : Bytes} (room : pos + piece.length ≤ buf.length) :
    (overwrite buf pos piece).length = buf.length := by
  simp only [overwrite, List.length_append, List.length_take, List.length_drop]
  omega

theorem take_overwrite {piece : Bytes} (room : pos + piece.length ≤ buf.length) :
    (overwrite buf pos piece).take (pos + piece.length) = buf.take pos ++ piece := by
  have whole : (buf.take pos ++ piece).length = pos + piece.length := by
    rw [List.length_append, List.length_take]
    omega
  rw [overwrite, ← whole, List.take_left' rfl]

/-- A full buffer needs no more reads. -/
theorem full_of_end (arrives : Arrives bytes reads) (within : pos ≤ buf.length)
    (stop : ¬ pos < buf.length) :
    ∃ rest, (Filled.full, buf, reads) =
        (Filled.full, buf.take pos ++ bytes.take (buf.length - pos), rest) ∧
      Arrives (bytes.drop (buf.length - pos)) rest := by
  have all : pos = buf.length := by omega
  refine ⟨reads, ?_, ?_⟩
  · rw [all, Nat.sub_self, List.take_zero, List.append_nil, List.take_length]
  · rw [all, Nat.sub_self, List.drop_zero]
    exact arrives

/-- A buffer that the bytes on the pipe can fill is filled with the first of them. -/
theorem readFrom_full (arrives : Arrives bytes reads) (within : pos ≤ buf.length)
    (enough : buf.length - pos ≤ bytes.length) :
    ∃ rest, readFrom reads pos buf =
        (.full, buf.take pos ++ bytes.take (buf.length - pos), rest) ∧
      Arrives (bytes.drop (buf.length - pos)) rest := by
  induction arrives generalizing pos buf with
  | nil =>
    have stop : ¬ pos < buf.length := by
      rw [List.length_nil] at enough
      omega
    rw [readFrom, if_neg stop]
    exact full_of_end .nil within stop
  | interrupted rest ih =>
    rw [readFrom]
    by_cases more : pos < buf.length
    · rw [if_pos more]
      exact ih within enough
    · rw [if_neg more]
      exact full_of_end (.interrupted rest) within more
  | @fragment piece later reads some rest ih =>
    rw [readFrom]
    by_cases more : pos < buf.length
    · rw [if_pos more]
      simp only
      rw [if_neg some]
      rw [List.length_append] at enough
      by_cases room : piece.length ≤ buf.length - pos
      · -- the whole piece, and the rest of the buffer from the later ones
        rw [if_pos room]
        have size : (overwrite buf pos piece).length = buf.length :=
          length_overwrite (by omega)
        obtain ⟨after, filled, arrives⟩ :=
          @ih (overwrite buf pos piece) (pos + piece.length) (by omega) (by omega)
        have need : buf.length - pos = piece.length + (buf.length - (pos + piece.length)) := by
          omega
        rw [size] at filled arrives
        rw [take_overwrite (by omega), List.append_assoc] at filled
        refine ⟨after, ?_, ?_⟩
        · rw [filled, need, List.take_length_add_append]
        · rw [need, List.drop_length_add_append]
          exact arrives
      · -- the first part of the piece
        rw [if_neg room]
        have most : buf.length - pos ≤ piece.length := by omega
        have cut : (piece.take (buf.length - pos)).length = buf.length - pos :=
          List.length_take_of_le most
        refine ⟨.fragment (piece.drop (buf.length - pos)) :: reads, ?_, ?_⟩
        · rw [overwrite, cut, List.take_append_of_le_length most, List.drop_of_length_le (by omega),
            List.append_nil]
        · rw [List.drop_append_of_le_length most]
          refine .fragment ?_ rest
          intro none
          have length := congrArg List.length none
          rw [List.length_drop, List.length_nil] at length
          omega
    · rw [if_neg more]
      exact full_of_end (.fragment some rest) within more

/-- A buffer that the bytes on the pipe cannot fill is not filled. -/
theorem readFrom_eof (arrives : Arrives bytes reads) (short : bytes.length < buf.length - pos) :
    (readFrom reads pos buf).1 = .eof := by
  induction arrives generalizing pos buf with
  | nil =>
    rw [List.length_nil] at short
    rw [readFrom, if_pos (by omega)]
  | interrupted rest ih =>
    rw [readFrom, if_pos (by omega)]
    exact ih short
  | @fragment piece later reads some rest ih =>
    rw [List.length_append] at short
    rw [readFrom, if_pos (by omega)]
    simp only
    rw [if_neg some, if_pos (by omega)]
    apply ih
    rw [length_overwrite (by omega)]
    omega

/-- `read_exact_or_eof` of a buffer. -/
theorem readExactOrEof_full {first later : Bytes} (arrives : Arrives (first ++ later) reads)
    (size : buf.length = first.length) :
    ∃ rest, readExactOrEof reads buf = (.full, first, rest) ∧ Arrives later rest := by
  have enough : buf.length - 0 ≤ (first ++ later).length := by
    rw [List.length_append]
    omega
  obtain ⟨rest, filled, arrives⟩ := readFrom_full arrives (Nat.zero_le _) enough
  rw [Nat.sub_zero, size, List.take_zero, List.nil_append, List.take_left' rfl] at filled
  rw [Nat.sub_zero, size, List.drop_left' rfl] at arrives
  exact ⟨rest, filled, arrives⟩

theorem readExactOrEof_eof (arrives : Arrives bytes reads) (short : bytes.length < buf.length) :
    ∃ left rest, readExactOrEof reads buf = (.eof, left, rest) := by
  have eof : (readExactOrEof reads buf).1 = .eof := readFrom_eof arrives short
  exact ⟨_, _, Prod.ext eof rfl⟩

end Reading

namespace Message

/-- The type of a message. -/
def msgType : Message → UInt8
  | .data _ _ => msgTypeData
  | .resize _ _ => msgTypeResize

/-- The payload of a message. -/
def payload : Message → Bytes
  | .data payload _ => payload
  | .resize rows cols => toLe 2 rows.toNat ++ toLe 2 cols.toNat

/-- What comes before the payload. -/
def header (message : Message) : Bytes := [message.msgType] ++ toLe 4 message.payload.length

theorem encode_eq (message : Message) : message.encode = message.header ++ message.payload := by
  cases message with
  | data payload fits => rfl
  | resize rows cols => rfl

@[simp] theorem length_header (message : Message) : message.header.length = msgHeaderSize := by
  rw [header, List.length_append, length_toLe]
  rfl

theorem payload_fits (message : Message) : message.payload.length ≤ maxPayloadSize := by
  cases message with
  | data payload fits => exact fits
  | resize rows cols =>
    rw [payload, List.length_append, length_toLe, length_toLe]
    decide

/-- The length in the header is that of the payload. -/
theorem header_length (message : Message) :
    ofLe ((message.header.drop 1).take 4) = message.payload.length := by
  have field : (message.header.drop 1).take 4 = toLe 4 message.payload.length := by
    rw [header, List.singleton_append, List.drop_succ_cons, List.drop_zero]
    exact List.take_of_length_le (by rw [length_toLe])
  rw [field]
  apply ofLe_toLe_of_lt
  calc
    message.payload.length ≤ maxPayloadSize := message.payload_fits
    _ < 256 ^ 4 := by decide

/-- What the input thread does with a message that is in its buffers. -/
def handled (message : Message) (pty : PtyWrite) (loop : Loop) : Round :=
  match message, pty with
  | .resize rows cols, _ => .next [.resize rows cols] loop
  | .data payload _, .ok => .next [.write payload] loop
  | .data _ _, .writeError => .stop [] .ptyError
  | .data payload _, .flushError => .stop [.write payload] .ptyError

theorem handleMessage_eq (message : Message) (pty : PtyWrite) {loop : Loop} {stale : Bytes}
    (header : loop.headerBuf = message.header)
    (filled : loop.payloadBuf = message.payload ++ stale) :
    handleMessage pty message.payload.length loop = message.handled pty loop := by
  have type : loop.headerBuf.headD 0 = message.msgType := by
    rw [header]
    rfl
  cases message with
  | data payload fits =>
    have data : loop.payloadBuf.take (Message.data payload fits).payload.length = payload := by
      rw [filled, List.take_left' rfl]
      rfl
    simp only [handleMessage, type, msgType, if_true, data]
    cases pty with
    | ok => rfl
    | writeError => rfl
    | flushError => rfl
  | resize rows cols =>
    have rowsField : loop.payloadBuf.take 2 = toLe 2 rows.toNat := by
      rw [filled, payload, List.append_assoc, List.take_left' (length_toLe 2 _)]
    have colsField : (loop.payloadBuf.drop 2).take 2 = toLe 2 cols.toNat := by
      rw [filled, payload, List.append_assoc, List.drop_left' (length_toLe 2 _),
        List.take_left' (length_toLe 2 _)]
    have number : ∀ n : UInt16, UInt16.ofNat (ofLe (toLe 2 n.toNat)) = n := by
      intro n
      rw [ofLe_toLe_of_lt n.toNat_lt, UInt16.ofNat_toNat]
    have long : (Message.resize rows cols).payload.length ≥ 4 := by
      rw [payload, List.length_append, length_toLe, length_toLe]
    have notData : msgTypeResize ≠ msgTypeData := by decide
    simp only [handleMessage, type, msgType, if_neg notData, if_true, if_pos long, rowsField,
      colsField, number]
    rfl

end Message

section Rounds

variable {around : Surroundings} {n : Nat} {loop : Loop}

/-- A round that finds a whole message. -/
theorem round_message (alive : around.exiting n = false)
    (size : loop.headerBuf.length = msgHeaderSize) (message : Message) {later : Bytes}
    (arrives : Arrives (message.encode ++ later) loop.reads) :
    ∃ after : Loop, after.headerBuf.length = msgHeaderSize ∧ Arrives later after.reads ∧
      round around n loop = message.handled (around.pty n) after := by
  rw [message.encode_eq, List.append_assoc] at arrives
  obtain ⟨reads, headerRead, arrives⟩ := readExactOrEof_full arrives (by
    rw [size, message.length_header])
  have small : ¬ message.payload.length > maxPayloadSize := Nat.not_lt.mpr message.payload_fits
  unfold round
  rw [if_neg (by rw [alive]; exact Bool.false_ne_true), headerRead]
  simp only [message.header_length, if_neg small]
  generalize grown : loop.payloadBuf ++
    List.replicate (message.payload.length - loop.payloadBuf.length) 0 = payloadBuf
  have room : message.payload.length ≤ payloadBuf.length := by
    rw [← grown, List.length_append, List.length_replicate]
    omega
  by_cases some : message.payload.length > 0
  · obtain ⟨rest, payloadRead, arrives⟩ := readExactOrEof_full arrives
      (List.length_take_of_le room)
    simp only [if_pos some, payloadRead]
    exact ⟨_, message.length_header, arrives, message.handleMessage_eq _ rfl rfl⟩
  · have empty : message.payload = [] := List.length_eq_zero_iff.mp (by omega)
    rw [if_neg some]
    rw [empty, List.nil_append] at arrives
    exact ⟨_, message.length_header, arrives, message.handleMessage_eq _ rfl (by
      rw [empty, List.nil_append])⟩

/-- A round that finds the stream cut in a message. -/
theorem round_cut (alive : around.exiting n = false)
    (size : loop.headerBuf.length = msgHeaderSize) (message : Message) {cut : Nat}
    (short : cut < message.encode.length)
    (arrives : Arrives (message.encode.take cut) loop.reads) :
    round around n loop = .stop [] .eof := by
  have dead : ¬ around.exiting n = true := by
    rw [alive]
    exact Bool.false_ne_true
  rw [message.encode_eq, List.length_append, message.length_header] at short
  rw [message.encode_eq] at arrives
  unfold round
  rw [if_neg dead]
  by_cases inHeader : cut < msgHeaderSize
  · have few : ((message.header ++ message.payload).take cut).length < loop.headerBuf.length := by
      rw [size, List.length_take]
      omega
    obtain ⟨left, rest, read⟩ := readExactOrEof_eof arrives few
    rw [read]
  · have parts : (message.header ++ message.payload).take cut =
        message.header ++ message.payload.take (cut - msgHeaderSize) := by
      rw [List.take_append, message.length_header,
        List.take_of_length_le (by rw [message.length_header]; omega)]
    rw [parts] at arrives
    obtain ⟨reads, headerRead, arrives⟩ := readExactOrEof_full arrives (by
      rw [size, message.length_header])
    have small : ¬ message.payload.length > maxPayloadSize := Nat.not_lt.mpr message.payload_fits
    have some : message.payload.length > 0 := by omega
    rw [headerRead]
    simp only [message.header_length, if_neg small, if_pos some]
    generalize grown : loop.payloadBuf ++
      List.replicate (message.payload.length - loop.payloadBuf.length) 0 = payloadBuf
    have few : (message.payload.take (cut - msgHeaderSize)).length <
        (payloadBuf.take message.payload.length).length := by
      rw [← grown, List.length_take, List.length_take, List.length_append, List.length_replicate]
      omega
    obtain ⟨left, rest, read⟩ := readExactOrEof_eof arrives few
    rw [read]

/-- A round that finds nothing more. -/
theorem round_end (alive : around.exiting n = false)
    (size : loop.headerBuf.length = msgHeaderSize) (arrives : Arrives [] loop.reads) :
    round around n loop = .stop [] .eof := by
  have few : ([] : Bytes).length < loop.headerBuf.length := by
    rw [size]
    decide
  obtain ⟨left, rest, read⟩ := readExactOrEof_eof arrives few
  unfold round
  rw [if_neg (by rw [alive]; exact Bool.false_ne_true), read]

end Rounds

/-- The input thread on messages instead of bytes. -/
def process (around : Surroundings) : Nat → List Message → List Action × Stop
  | n, [] => ([], if around.exiting n then .exiting else .eof)
  | n, message :: rest =>
    if around.exiting n then ([], .exiting)
    else
      let (later, reason) := process around (n + 1) rest
      match message with
      | .resize rows cols => (.resize rows cols :: later, reason)
      | .data payload _ =>
        match around.pty n with
        | .ok => (.write payload :: later, reason)
        | .writeError => ([], .ptyError)
        | .flushError => ([.write payload], .ptyError)

theorem round_exiting {around : Surroundings} {n : Nat} (exiting : around.exiting n = true)
    (loop : Loop) : round around n loop = .stop [] .exiting := by
  rw [round, if_pos exiting]

/-- On a stream cut anywhere, read in any pieces, the input thread is the one on its complete
messages. -/
theorem inputThread_eq (around : Surroundings) (messages : List Message) (cut n rounds : Nat)
    {loop : Loop} (size : loop.headerBuf.length = msgHeaderSize)
    (arrives : Arrives ((messages.flatMap Message.encode).take cut) loop.reads)
    (enough : (complete cut messages).length < rounds) :
    inputThread around rounds n loop =
      ((process around n (complete cut messages)).1,
        some (process around n (complete cut messages)).2) := by
  induction messages generalizing cut n rounds loop with
  | nil =>
    obtain ⟨rounds, rfl⟩ : ∃ r, rounds = r + 1 := ⟨rounds - 1, by omega⟩
    rw [List.flatMap_nil, List.take_nil] at arrives
    cases exiting : around.exiting n with
    | true => simp only [inputThread, round_exiting exiting, complete, process, exiting, if_true]
    | false =>
      have ended : ¬ around.exiting n = true := by
        rw [exiting]
        exact Bool.false_ne_true
      simp only [inputThread, round_end exiting size arrives, complete, process, if_neg ended]
  | cons message rest ih =>
    obtain ⟨rounds, rfl⟩ : ∃ r, rounds = r + 1 := ⟨rounds - 1, by omega⟩
    rw [List.flatMap_cons] at arrives
    by_cases whole : message.encode.length ≤ cut
    · have first : complete cut (message :: rest) =
          message :: complete (cut - message.encode.length) rest := by
        rw [complete, if_pos whole]
      rw [first, List.length_cons] at enough
      rw [List.take_append, List.take_of_length_le whole] at arrives
      rw [first]
      cases exiting : around.exiting n with
      | true => simp only [inputThread, round_exiting exiting, process, exiting, if_true]
      | false =>
        have alive : ¬ around.exiting n = true := by
          rw [exiting]
          exact Bool.false_ne_true
        obtain ⟨after, still, arrives, eq⟩ := round_message exiting size message arrives
        have later := @ih (cut - message.encode.length) (n + 1) rounds after still arrives
          (by omega)
        rw [inputThread, eq, process, if_neg alive]
        cases message with
        | data payload fits =>
          cases pty : around.pty n with
          | ok => simp only [Message.handled, later, List.singleton_append]
          | writeError => rfl
          | flushError => rfl
        | resize rows cols => simp only [Message.handled, later, List.singleton_append]
    · have none : complete cut (message :: rest) = [] := by
        rw [complete, if_neg whole]
      rw [List.take_append_of_le_length (by omega)] at arrives
      rw [none]
      cases exiting : around.exiting n with
      | true => simp only [inputThread, round_exiting exiting, process, exiting, if_true]
      | false =>
        have ended : ¬ around.exiting n = true := by
          rw [exiting]
          exact Bool.false_ne_true
        have cutShort := round_cut exiting size message (by omega) arrives
        simp only [inputThread, cutShort, process, if_neg ended]

theorem process_running (n : Nat) (messages : List Message) :
    process running n messages = (messages.map Message.action, .eof) := by
  induction messages generalizing n with
  | nil => rfl
  | cons message rest ih =>
    have alive : ¬ running.exiting n = true := Bool.false_ne_true
    rw [process, if_neg alive, ih]
    cases message with
    | data payload fits => rfl
    | resize rows cols => rfl

theorem length_complete (cut : Nat) (messages : List Message) :
    (complete cut messages).length ≤ messages.length := by
  induction messages generalizing cut with
  | nil => exact Nat.le_refl _
  | cons message rest ih =>
    rw [complete]
    split
    · exact Nat.succ_le_succ (ih _)
    · exact Nat.zero_le _

theorem complete_whole {messages : List Message} {cut : Nat}
    (whole : (messages.flatMap Message.encode).length ≤ cut) :
    complete cut messages = messages := by
  induction messages generalizing cut with
  | nil => rfl
  | cons message rest ih =>
    rw [List.flatMap_cons, List.length_append] at whole
    rw [complete, if_pos (by omega), ih (by omega)]

/-- While the shell runs, the input thread does exactly what the messages on the pipe ask for, in
order, however the reads give the bytes; on a stream cut anywhere it does so for the complete
messages; and then it ends. -/
theorem messages_delivered (messages : List Message) (reads : List Read) (cut rounds : Nat)
    (arrives : Arrives ((messages.flatMap Message.encode).take cut) reads)
    (enough : messages.length < rounds) :
    inputThread running rounds 0 { reads } =
        ((complete cut messages).map Message.action, some .eof) ∧
      ((messages.flatMap Message.encode).length ≤ cut → complete cut messages = messages) := by
  refine ⟨?_, complete_whole⟩
  have few : (complete cut messages).length < rounds :=
    Nat.lt_of_le_of_lt (length_complete cut messages) enough
  rw [inputThread_eq running messages cut 0 rounds rfl arrives few, process_running]

theorem keys_fit : ([108, 115] : Bytes).length ≤ maxPayloadSize := by decide

theorem nothing_fits : ([] : Bytes).length ≤ maxPayloadSize := by decide

/-- Two keys, nothing and a resize. -/
def typed : List Message := [.data [108, 115] keys_fit, .data [] nothing_fits, .resize 24 80]

/-- Their bytes up to the middle of the resize, with an interruption in the second header. -/
def pieces : List Read :=
  [.fragment [1, 2, 0], .fragment [0, 0, 108, 115, 1], .interrupted,
    .fragment [0, 0, 0, 0, 2, 4, 0]]

theorem typed_delivered :
    inputThread running 4 0 { reads := pieces } =
      ([.write [108, 115], .write []], some .eof) := by
  have bytes : (typed.flatMap Message.encode).take 15 =
      [1, 2, 0] ++ ([0, 0, 108, 115, 1] ++ ([0, 0, 0, 0, 2, 4, 0] ++ [])) := by decide
  have arrives : Arrives ((typed.flatMap Message.encode).take 15) pieces := by
    rw [bytes]
    exact .fragment (by decide) (.fragment (by decide) (.interrupted (.fragment (by decide) .nil)))
  rw [(messages_delivered typed pieces 15 4 arrives (by decide)).1]
  decide

end ChainRemote.Server.TerminalHelper
