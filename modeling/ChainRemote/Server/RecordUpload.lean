import Mathlib.Logic.Function.Basic
import ChainRemote.Lib.GrowingCopy
import ChainRemote.Lib.Machine

/-!
# Upload of recordings

The recorder writes a file and tells the uploader through a queue what it does. The uploader sends
the file in parts from where it has sent all, while the recorder goes on writing, and at the end its
first bytes once more, as the recorder writes them again. A step is one call to the file system or
one request, so that the recorder can do anything between two of them. Instants are in nanoseconds.
-/

namespace ChainRemote.Server.RecordUpload

open Lib

abbrev Bytes := List UInt8

/-- `MAX_HEADER_LEN`. -/
def maxHeaderLen : Nat := 1024

/-- `SHOULD_SEND_TIME`. -/
def shouldSendTime : Nat := 1000000000

/-- `SHOULD_SEND_SIZE`. -/
def shouldSendSize : Nat := 1024 * 1024

/-- A file that the recorder makes: its path, and which of all files it is. -/
@[ext]
structure Recording where
  filepath : String
  file : Nat
deriving DecidableEq, Repr

/-- `RecordState`. All but the path in `NewFile` is history: which file it is about, and how often
the file had been changed. -/
inductive RecordState
  | newFile (recording : Recording)
  | newFrame
  | writeTail (recording : Recording) (changes : Nat)
  | removeFile (recording : Recording)
deriving DecidableEq, Repr

/-- `flush` of `handle_frame`. -/
def RecordState.flush : RecordState → Bool
  | .writeTail _ _ => true
  | _ => false

/-- What the recorder is at. -/
inductive Recorder
  | idle
  /-- The file is there, but `NewFile` is not sent. -/
  | created (recording : Recording)
  | recording (recording : Recording)
  /-- The file is removed, if that succeeded, but `RemoveFile` is not sent. -/
  | discarding (recording : Recording)
deriving DecidableEq, Repr

/-- What the uploader does next. -/
inductive Phase
  | new
  | remove
  /-- `handle_frame`. -/
  | frame
  | opened (file : Nat)
  | reading (file len : Nat) (buf : Bytes)
  | part (len : Nat) (buf : Bytes)
  /-- `handle_tail` after `handle_frame`. -/
  | tail
  | tailOpened (file : Nat)
  | header (buf : Bytes)
deriving DecidableEq, Repr

/-- `RecordUploader`. -/
structure RecordUploader where
  filepath : String := ""
  filename : String := ""
  uploadSize : Nat := 0
  running : Bool := false
  lastSend : Nat := 0
  handling : Option (RecordState × Phase) := none
deriving DecidableEq, Repr

namespace RecordUploader

variable (uploader : RecordUploader)

/-- An error: the file is not uploaded further. -/
def failed : RecordUploader := { uploader with running := false, handling := none }

/-- What is left to do for a state after `handle_frame`. -/
def framed (state : RecordState) : RecordUploader :=
  { uploader with handling := if state.flush then some (state, .tail) else none }

/-- A state comes from the queue: `handle_new_file` up to its request, or the start of another
one. -/
def receive (fileName : String → Option String) (state : RecordState) (now : Nat) :
    RecordUploader :=
  match state with
  | .newFile recording =>
    match fileName recording.filepath with
    | some filename =>
      { filepath := recording.filepath
        filename
        uploadSize := 0
        running := true
        lastSend := now
        handling := some (state, .new) }
    | none => { uploader with running := false }
  | .removeFile _ =>
    if uploader.running then { uploader with handling := some (state, .remove) } else uploader
  | _ => if uploader.running then { uploader with handling := some (state, .frame) } else uploader

/-- The calls of `handle_frame` and `handle_tail` that open the file, and those that then take its
length or read its header. -/
def work (names : String → Option Nat) (files : Nat → Bytes) (now : Nat) :
    Option RecordUploader :=
  match uploader.handling with
  | some (state, .frame) =>
    if !state.flush && now - uploader.lastSend < shouldSendTime then some (uploader.framed state)
    else
      match names uploader.filepath with
      | some file => some { uploader with handling := some (state, .opened file) }
      | none => some uploader.failed
  | some (state, .opened file) =>
    let len := (files file).length
    if len ≤ uploader.uploadSize then some (uploader.framed state)
    else if !state.flush && len - uploader.uploadSize < shouldSendSize then
      some (uploader.framed state)
    else some { uploader with handling := some (state, .reading file len []) }
  | some (state, .tail) =>
    match names uploader.filepath with
    | some file => some { uploader with handling := some (state, .tailOpened file) }
    | none => some uploader.failed
  | some (state, .tailOpened file) =>
    some { uploader with handling := some (state, .header ((files file).take maxHeaderLen)) }
  | _ => none

/-- One read of `read_to_end`, with room for so many bytes; it ends when there are none. -/
def read (files : Nat → Bytes) (size : Nat) : Option RecordUploader :=
  match uploader.handling with
  | some (state, .reading file len buf) =>
    match ((files file).drop (uploader.uploadSize + buf.length)).take size with
    | [] => some { uploader with handling := some (state, .part len buf) }
    | bytes => some { uploader with handling := some (state, .reading file len (buf ++ bytes)) }
  | _ => none

/-- A call to the file system fails. -/
def callFailed : Option RecordUploader :=
  match uploader.handling with
  | some (_, .frame) | some (_, .opened _) | some (_, .reading _ _ _) | some (_, .tail)
  | some (_, .tailOpened _) => some uploader.failed
  | _ => none

/-- The file at the server after a request, and the uploader. -/
def sent (copy : Option Bytes) (now : Nat) : Option (Option Bytes × RecordUploader) :=
  match uploader.handling with
  | some (_, .new) => some (some [], { uploader with handling := none })
  | some (_, .remove) => some (none, { uploader with handling := none })
  | some (state, .part len buf) =>
    some (some (writeAt 0 (copy.getD []) uploader.uploadSize buf),
      { uploader with uploadSize := len, lastSend := now }.framed state)
  | some (_, .header buf) =>
    some (some (writeAt 0 (copy.getD []) 0 buf), { uploader with handling := none })
  | _ => none

end RecordUploader

/-- The files, the recorder, the queue, the uploader and the server. `changes` counts the changes of
a file. -/
structure System where
  files : Nat → Bytes := fun _ => []
  changes : Nat → Nat := fun _ => 0
  names : String → Option Nat := fun _ => none
  created : Nat := 0
  recorder : Recorder := .idle
  queue : List RecordState := []
  /-- The recording that the next states in the queue are about. -/
  session : Option Recording := none
  uploader : RecordUploader := {}
  server : String → Option Bytes := fun _ => none

/-- The recording after a state. -/
def RecordState.session : RecordState → Option Recording → Option Recording
  | .newFile recording, _ => some recording
  | .newFrame, session => session
  | _, _ => none

namespace System

variable (s : System)

/-- A file is changed. -/
def write (file : Nat) (content : Bytes) : System :=
  { s with
    files := Function.update s.files file content
    changes := Function.update s.changes file (s.changes file + 1) }

/-- `send_state`. -/
def sendState (state : RecordState) (recorder : Recorder) : System :=
  { s with queue := s.queue ++ [state], recorder }

end System

/-- What happens. -/
inductive Event
  /-- The recorder creates a file. -/
  | create (filepath : String)
  | abandon
  | append (file : Nat) (bytes : Bytes)
  /-- Bytes within the header are written again. -/
  | rewrite (file position : Nat) (bytes : Bytes)
  | newFile
  | newFrame
  | writeTail
  /-- The recorder removes its file, or fails to. -/
  | remove (removed : Bool)
  | removeFile
  | receive (now : Nat)
  | work (now : Nat)
  | read (size : Nat)
  | callFailed
  | sent (now : Nat)
  /-- A request fails, and leaves something at the server. -/
  | sendFailed (left : Option Bytes)

/-- One step. -/
def step (fileName : String → Option String) (s : System) : Event → Option System
  | .create filepath =>
    if s.recorder = .idle ∧ s.names filepath = none then
      some { s with
        files := Function.update s.files s.created []
        names := Function.update s.names filepath (some s.created)
        created := s.created + 1
        recorder := .created ⟨filepath, s.created⟩ }
    else none
  | .abandon =>
    match s.recorder with
    | .created _ => some { s with recorder := .idle }
    | _ => none
  | .append file bytes =>
    if file < s.created then some (s.write file (s.files file ++ bytes)) else none
  | .rewrite file position bytes =>
    if file < s.created ∧ position + bytes.length ≤ (s.files file).length ∧
        position + bytes.length ≤ maxHeaderLen then
      some (s.write file (writeAt 0 (s.files file) position bytes))
    else none
  | .newFile =>
    match s.recorder with
    | .created recording => some (s.sendState (.newFile recording) (.recording recording))
    | _ => none
  | .newFrame =>
    match s.recorder with
    | .recording recording => some (s.sendState .newFrame (.recording recording))
    | _ => none
  | .writeTail =>
    match s.recorder with
    | .recording recording =>
      some (s.sendState (.writeTail recording (s.changes recording.file)) .idle)
    | _ => none
  | .remove removed =>
    match s.recorder with
    | .recording recording =>
      some { s with
        names :=
          if removed then Function.update s.names recording.filepath none else s.names
        recorder := .discarding recording }
    | _ => none
  | .removeFile =>
    match s.recorder with
    | .discarding recording => some (s.sendState (.removeFile recording) .idle)
    | _ => none
  | .receive now =>
    match s.uploader.handling, s.queue with
    | none, state :: queue =>
      some { s with
        queue
        session := state.session s.session
        uploader := s.uploader.receive fileName state now }
    | _, _ => none
  | .work now =>
    (s.uploader.work s.names s.files now).map fun uploader => { s with uploader }
  | .read size =>
    if 0 < size then (s.uploader.read s.files size).map fun uploader => { s with uploader }
    else none
  | .callFailed => s.uploader.callFailed.map fun uploader => { s with uploader }
  | .sent now =>
    (s.uploader.sent (s.server s.uploader.filename) now).map fun (copy, uploader) =>
      { s with
        server := Function.update s.server s.uploader.filename copy
        uploader }
  | .sendFailed left =>
    (s.uploader.sent none 0).map fun _ =>
      { s with
        server := Function.update s.server s.uploader.filename left
        uploader := s.uploader.failed }

/-- The upload of recordings; `fileName` is the name of the file at a path. -/
def recordUpload (fileName : String → Option String) : Machine System Event where
  start s := ∃ server, s = { server }
  step := step fileName

end ChainRemote.Server.RecordUpload
