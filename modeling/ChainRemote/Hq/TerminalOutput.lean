import ChainRemote.Lib.Base64
import ChainRemote.Lib.Utf16
import ChainRemote.Lib.Utf8Cut
import ChainRemote.Server.TerminalReplay

/-!
# Output shown by a terminal

The agent cuts the output of a shell into messages of bytes; the HQ app decodes each message by
itself and writes it to the view, or keeps it, up to some length, until the view has a size. Dart
strings are their UTF-16 units.
-/

namespace ChainRemote.Hq.TerminalOutput

open Lib
open Server.TerminalReplay (Compression createTerminalDataResponse DataResponse payload
  payload_create)

/-- A Dart string. -/
abbrev Units := List UInt16

/-- The bytes of a byte order mark. -/
def bom : List UInt8 := [0xef, 0xbb, 0xbf]

/-- `utf8.decode` with `allowMalformed`, which drops a byte order mark in front. -/
def utf8Decode (bytes : List UInt8) : List Char :=
  if bom <+: bytes then decodeUtf8 (bytes.drop 3) else decodeUtf8 bytes

/-- `evt['data']`. -/
inductive EventData
  | string (data : List Char)
  | list (data : List UInt8)
  | other
deriving DecidableEq, Repr

/-- The event that `handle_terminal_response` of the Rust side makes of a message. -/
def handleTerminalResponse (zstd : Compression) (response : DataResponse) : EventData :=
  .string (encodePadded (payload zstd response))

/-- `_kMaxOutputBufferChars`. -/
def kMaxOutputBufferChars : Nat := 8 * 1024

/-- The loop that drops the oldest chunks. -/
def dropOldest : List Units → Nat → List Units × Nat
  | removed :: next :: rest, size =>
    if size > kMaxOutputBufferChars then dropOldest (next :: rest) (size - removed.length)
    else (removed :: next :: rest, size)
  | chunks, size => (chunks, size)

/-- `TerminalModel`, as far as output uses it; `written` is what was given to `terminal.write`. -/
structure TerminalModel where
  pendingOutputChunks : List Units := []
  pendingOutputSize : Nat := 0
  terminalViewReady : Bool := false
  written : List Units := []
deriving DecidableEq, Repr

namespace TerminalModel

variable (model : TerminalModel)

/-- `_writeToTerminal`. -/
def writeToTerminal (text : Units) : TerminalModel :=
  if !model.terminalViewReady then
    if text.length ≥ kMaxOutputBufferChars then
      let truncated := text.drop (text.length - kMaxOutputBufferChars)
      { model with pendingOutputChunks := [truncated], pendingOutputSize := truncated.length }
    else
      let (chunks, size) := dropOldest (model.pendingOutputChunks ++ [text])
        (model.pendingOutputSize + text.length)
      { model with pendingOutputChunks := chunks, pendingOutputSize := size }
  else { model with written := model.written ++ [text] }

/-- `_flushOutputBuffer`. -/
def flushOutputBuffer : TerminalModel :=
  { model with
    written := model.written ++ model.pendingOutputChunks
    pendingOutputChunks := []
    pendingOutputSize := 0 }

/-- `_markViewReady`. -/
def markViewReady : TerminalModel :=
  if model.terminalViewReady then model
  else { model with terminalViewReady := true }.flushOutputBuffer

/-- `_handleTerminalData`. -/
def handleTerminalData : Option EventData → TerminalModel
  | none => model
  | some (.string data) =>
    model.writeToTerminal (encodeUtf16 <|
      match decodePadded data with
      | some bytes => utf8Decode bytes
      | none => data)
  | some (.list data) => model.writeToTerminal (encodeUtf16 (utf8Decode data))
  | some .other => model

/-- The messages for chunks of output, handled one after the other. -/
def receive (zstd : Compression) (terminalId : Int) (chunks : List (List UInt8)) : TerminalModel :=
  chunks.foldl (fun model chunk => model.handleTerminalData
    (some (handleTerminalResponse zstd (createTerminalDataResponse zstd terminalId chunk)))) model

end TerminalModel

/-- A chunk has whole characters, and no byte order mark in front. -/
def Whole (chunk : List UInt8) : Prop :=
  (∃ part, chunk = encodeUtf8 part) ∧ ¬ bom <+: chunk

/-! ## The chunks that are kept -/

/-- The chunks that are kept are counted, and within their bound. -/
def TerminalModel.Bounded (model : TerminalModel) : Prop :=
  model.pendingOutputSize = model.pendingOutputChunks.flatten.length ∧
    model.pendingOutputSize ≤ kMaxOutputBufferChars

theorem dropOldest_bounded {chunks : List Units} {size : Nat} {last : Units}
    (counted : size = (chunks ++ [last]).flatten.length)
    (fits : last.length ≤ kMaxOutputBufferChars) :
    let (kept, left) := dropOldest (chunks ++ [last]) size
    left = kept.flatten.length ∧ left ≤ kMaxOutputBufferChars := by
  induction chunks generalizing size with
  | nil =>
    rw [List.nil_append, List.flatten_singleton] at counted
    rw [List.nil_append, dropOldest]
    · exact ⟨by rw [List.flatten_singleton, counted], counted ▸ fits⟩
    · rintro removed next rest ⟨⟩
  | cons first chunks ih =>
    obtain ⟨next, rest, is⟩ : ∃ next rest, chunks ++ [last] = next :: rest :=
      List.exists_cons_of_ne_nil (by simp)
    rw [List.cons_append, is] at counted ⊢
    rw [dropOldest]
    by_cases excess : size > kMaxOutputBufferChars
    · rw [if_pos excess]
      rw [is] at ih
      refine ih ?_
      rw [counted, List.flatten_cons, List.length_append, Nat.add_sub_cancel_left]
    · rw [if_neg excess]
      exact ⟨counted, Nat.le_of_not_lt excess⟩

/-- Writing keeps the bound, and so does the view when it gets ready. -/
theorem TerminalModel.Bounded.step {model : TerminalModel} (bounded : model.Bounded)
    (text : Units) : (model.writeToTerminal text).Bounded ∧ model.markViewReady.Bounded := by
  constructor
  · unfold TerminalModel.writeToTerminal
    by_cases ready : (!model.terminalViewReady) = true
    · rw [if_pos ready]
      by_cases long : text.length ≥ kMaxOutputBufferChars
      · rw [if_pos long]
        unfold TerminalModel.Bounded
        dsimp only
        rw [List.flatten_singleton, List.length_drop]
        exact ⟨rfl, by omega⟩
      · rw [if_neg long]
        refine dropOldest_bounded ?_ (Nat.le_of_not_le long)
        rw [List.flatten_append, List.length_append, List.flatten_singleton, bounded.1]
    · rw [if_neg ready]
      exact bounded
  · unfold TerminalModel.markViewReady
    split
    · exact bounded
    · exact ⟨rfl, Nat.zero_le _⟩

/-! ## Cuts through characters are seen -/

section Chunks

variable {chunks : List (List UInt8)} {text : List Char}

/-- A message is written as the characters that its bytes are by themselves. -/
theorem receive_written (zstd : Compression) (terminalId : Int) {model : TerminalModel}
    (ready : model.terminalViewReady = true) :
    (model.receive zstd terminalId chunks).written =
      model.written ++ chunks.map fun chunk => encodeUtf16 (utf8Decode chunk) := by
  induction chunks generalizing model with
  | nil => exact (List.append_nil _).symm
  | cons chunk chunks ih =>
    have first : model.handleTerminalData (some (handleTerminalResponse zstd
        (createTerminalDataResponse zstd terminalId chunk))) =
        { model with written := model.written ++ [encodeUtf16 (utf8Decode chunk)] } := by
      unfold handleTerminalResponse TerminalModel.handleTerminalData TerminalModel.writeToTerminal
      dsimp only
      rw [payload_create, decodePadded_encode, ready]
      rfl
    have step : model.receive zstd terminalId (chunk :: chunks) = TerminalModel.receive
        { model with written := model.written ++ [encodeUtf16 (utf8Decode chunk)] }
        zstd terminalId chunks := congrArg (chunks.foldl _) first
    have later := @ih { model with written := model.written ++ [encodeUtf16 (utf8Decode chunk)] }
      ready
    rw [step, later, List.map_cons, List.append_assoc]
    rfl

theorem encodeUtf16_inj {first second : List Char} :
    encodeUtf16 first = encodeUtf16 second ↔ first = second := by
  refine ⟨fun same => ?_, congrArg _⟩
  have read : ∀ text, decodeUtf16 (encodeUtf16 text) = some text := by
    intro text
    have decoded := decodeUtf16_encode text []
    rw [List.append_nil] at decoded
    rw [decoded]
    simp [decodeUtf16]
  exact Option.some.inj ((read first).symm.trans ((congrArg decodeUtf16 same).trans (read second)))

/-- A byte order mark in front of a chunk is one character that is dropped. -/
theorem decodeUtf8_bom {chunk : List UInt8} (marked : bom <+: chunk) :
    decodeUtf8 chunk = '\uFEFF' :: utf8Decode chunk := by
  obtain ⟨rest, rfl⟩ := marked
  have mark : bom = String.utf8EncodeChar '\uFEFF' := by decide
  unfold utf8Decode
  rw [if_pos (List.prefix_append _ _)]
  show decodeUtf8 (bom ++ rest) = '\uFEFF' :: decodeUtf8 rest
  rw [mark, decodeUtf8_encodeChar]

/-- What all chunks are read as differs by the byte order marks in front of them. -/
theorem utf8Decode_marks (chunks : List (List UInt8)) :
    (chunks.flatMap decodeUtf8).length =
        (chunks.flatMap utf8Decode).length + chunks.countP (bom <+: ·) ∧
      (chunks.flatMap decodeUtf8).count '\uFEFF' =
        (chunks.flatMap utf8Decode).count '\uFEFF' + chunks.countP (bom <+: ·) := by
  induction chunks with
  | nil => exact ⟨rfl, rfl⟩
  | cons chunk chunks ih =>
    rw [List.flatMap_cons, List.flatMap_cons, List.length_append, List.length_append,
      List.count_append, List.count_append, ih.1, ih.2]
    by_cases marked : bom <+: chunk
    · have more : (chunk :: chunks).countP (bom <+: ·) = chunks.countP (bom <+: ·) + 1 :=
        List.countP_cons_of_pos (decide_eq_true marked)
      rw [more, decodeUtf8_bom marked, List.length_cons, List.count_cons_self]
      omega
    · have same : utf8Decode chunk = decodeUtf8 chunk := if_neg marked
      have equal : (chunk :: chunks).countP (bom <+: ·) = chunks.countP (bom <+: ·) :=
        List.countP_cons_of_neg (Bool.eq_false_iff.mp (decide_eq_false marked))
      rw [equal, same]
      omega

/-- Chunks of whole characters are read as all characters. -/
theorem decodeChunks_eq (whole : ∀ chunk ∈ chunks, ∃ part, chunk = encodeUtf8 part) :
    chunks.flatMap decodeUtf8 = decodeUtf8 chunks.flatten := by
  induction chunks with
  | nil => rfl
  | cons chunk chunks ih =>
    obtain ⟨part, rfl⟩ := whole chunk List.mem_cons_self
    rw [List.flatMap_cons, List.flatten_cons, decodeUtf8_append, decodeUtf8_encode,
      ih fun other inside => whole other (List.mem_cons_of_mem _ inside)]

theorem utf8Decode_chunks_iff (stream : chunks.flatten = encodeUtf8 text) :
    chunks.flatMap utf8Decode = text ↔ ∀ chunk ∈ chunks, Whole chunk := by
  constructor
  · intro same
    obtain ⟨size, marks⟩ := utf8Decode_marks chunks
    have fresh : chunks.flatten = [] ++ encodeUtf8 text := stream
    have bounds := (decodeChunks_bounds (List.forall_mem_nil _) fresh).2 '\uFEFF' (by decide)
    rw [same] at size marks
    have none : chunks.countP (bom <+: ·) = 0 := by omega
    have parts := decodeChunks_whole stream (by omega)
    intro chunk inside
    exact ⟨parts chunk inside, of_decide_eq_false
      (Bool.eq_false_iff.mpr (List.countP_eq_zero.mp none chunk inside))⟩
  · intro whole
    have same : chunks.flatMap utf8Decode = chunks.flatMap decodeUtf8 :=
      List.flatMap_congr fun chunk inside => if_neg (whole chunk inside).2
    rw [same, decodeChunks_eq fun chunk inside => (whole chunk inside).1, stream,
      decodeUtf8_encode]

end Chunks

/-- A stream of text that is cut into messages is shown as it is, in a view that is ready, if and
only if every message has whole characters and no byte order mark in front. -/
theorem chunks_shown_iff (zstd : Compression) (terminalId : Int) {text : List Char}
    {chunks : List (List UInt8)} (stream : chunks.flatten = encodeUtf8 text) :
    (({ terminalViewReady := true : TerminalModel }.receive zstd terminalId
      chunks).written.flatten = encodeUtf16 text) ↔ ∀ chunk ∈ chunks, Whole chunk := by
  have joined : ∀ texts : List (List Char),
      (texts.map encodeUtf16).flatten = encodeUtf16 texts.flatten := by
    intro texts
    unfold encodeUtf16
    induction texts with
    | nil => rfl
    | cons first texts ih =>
      rw [List.map_cons, List.flatten_cons, List.flatten_cons, List.flatMap_append, ih]
  rw [receive_written zstd terminalId rfl, List.nil_append]
  have parts : chunks.map (fun chunk => encodeUtf16 (utf8Decode chunk)) =
      (chunks.map utf8Decode).map encodeUtf16 := List.map_map.symm
  rw [parts, joined, encodeUtf16_inj, ← List.flatMap_def]
  exact utf8Decode_chunks_iff stream

/-- Nothing is compressed. -/
def plain : Compression := ⟨id, id, @Eq.refl Server.Bytes⟩

/-- Two messages with one Korean character each. -/
theorem two_characters_shown :
    ({ terminalViewReady := true : TerminalModel }.receive plain 1
      [[0xea, 0xb0, 0x80], [0xeb, 0x82, 0x98]]).written.flatten = encodeUtf16 ['가', '나'] := by
  have stream : [[0xea, 0xb0, 0x80], [0xeb, 0x82, 0x98]].flatten = encodeUtf8 ['가', '나'] := by
    decide
  refine (chunks_shown_iff plain 1 stream).mpr ?_
  intro chunk inside
  rcases List.mem_cons.mp inside with rfl | second
  · exact ⟨⟨['가'], by decide⟩, by decide⟩
  · rw [List.mem_singleton.mp second]
    exact ⟨⟨['나'], by decide⟩, by decide⟩

/-- One character in two messages is shown as three replacement characters. -/
theorem character_cut :
    [[0xea], [0xb0, 0x80]].flatten = encodeUtf8 ['가'] ∧
      ({ terminalViewReady := true : TerminalModel }.receive plain 1
        [[0xea], [0xb0, 0x80]]).written.flatten = [0xfffd, 0xfffd, 0xfffd] ∧
      encodeUtf16 ['가'] = [0xac00] := by
  decide +kernel

end ChainRemote.Hq.TerminalOutput
