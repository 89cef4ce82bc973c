import ChainRemote.Lib.Machine
import Mathlib.Logic.Function.Basic

/-!
# Downloads

`src/hbbs_http/downloader.rs` keeps the downloads of the program in one map under their addresses.
`download_file` inserts an entry and starts a thread, which finds the entry by the address again at
every step, and the callers poll, cancel and remove entries in between. Every lock, every received
chunk and every look at the channel is a step. A channel is ready once a cancel was sent or the
entry with its sender is gone; then either branch of a `select!` may go on.

The thread runs `do_download` on a runtime of its own. The runtime ends with it, so the task that
would remove the entry later never runs.

Downloads are numbered in the order in which they inserted their entries; the number of an entry is
history that no step reads.
-/

namespace ChainRemote.Hq.Downloads

open Lib

/-- Bytes of a body or a file. -/
abbrev Bytes := List UInt8

/-- `Downloader`. -/
structure Downloader where
  /-- The download that inserted the entry. -/
  number : Nat
  data : Bytes := []
  path : Option String
  totalSize : Option Nat := none
  downloadedSize : Nat := 0
  error : Option String := none
  finished : Bool := false
deriving DecidableEq

/-- Where a download stands once its entry is inserted. -/
inductive Phase
  /-- The caller removes the file of the entry that it replaced. -/
  | stale (path : Option String)
  /-- It starts the thread. -/
  | spawn
  /-- The thread waits for the head of the body. -/
  | head
  /-- It stores the length. -/
  | total
  /-- It waits for the response. -/
  | get
  /-- It creates the file. -/
  | create
  /-- It waits for the rest of the body. -/
  | body (left : Bytes)
  /-- It stores a chunk in the entry or writes it to the file. -/
  | store (chunk left : Bytes)
  /-- It counts a chunk that it wrote. -/
  | count (chunk left : Bytes)
  /-- It flushes the file and marks the entry as finished. -/
  | finish (isAllDownloaded : Bool)
  /-- `do_download` returned, and the thread reads the sizes. -/
  | report (isAllDownloaded : Bool)
  /-- It removes a cancelled entry and its file. -/
  | discard
  /-- `do_download` failed, and the thread stores the error. -/
  | failing (error : String)
  | done
deriving DecidableEq

/-- A download whose entry was inserted. -/
structure Download where
  url : String
  path : Option String
  phase : Phase
deriving DecidableEq

/-- Where a call of `download_file` stands before it inserts its entry. -/
inductive CallPhase
  /-- The first lock. -/
  | first
  /-- It removes the file of an entry that failed. -/
  | stale (path : Option String)
  /-- It looks whether its own file exists. -/
  | check
  /-- The second lock. -/
  | second
deriving DecidableEq

/-- A call of `download_file`. -/
structure Call where
  url : String
  path : Option String
  phase : CallPhase
deriving DecidableEq

/-- `DOWNLOADERS`, the files, the calls in progress and the downloads. -/
structure State where
  downloaders : String → Option Downloader
  files : String → Option Bytes
  calls : List Call
  downloads : List Download
  /-- The downloads to which a cancel was sent. -/
  cancelled : List Nat

/-- What a thread meets at a step. -/
inductive Outcome
  /-- `rx_cancel.recv()` is ready. -/
  | closed
  /-- The operation succeeds; a chunk has so many bytes. -/
  | ok (size : Nat)
  | error (text : String)
deriving DecidableEq

namespace State

variable (s : State)

/-- A lock that changes the entry of an address, if there is one. -/
def modify (url : String) (change : Downloader → Downloader) : State :=
  { s with
    downloaders := Function.update s.downloaders url ((s.downloaders url).map change) }

/-- `DOWNLOADERS.lock().unwrap().remove(&id)`. -/
def removeEntry (url : String) : State :=
  { s with downloaders := Function.update s.downloaders url none }

/-- `std::fs::remove_file`, if there is a path and a file. -/
def removeFile (path : Option String) : State :=
  match path with
  | none => s
  | some path => { s with files := Function.update s.files path none }

/-- The channel of a download is ready. -/
def Ready (url : String) (number : Nat) : Prop :=
  number ∈ s.cancelled ∨ (s.downloaders url).map Downloader.number ≠ some number

instance (url : String) (number : Nat) : Decidable (s.Ready url number) :=
  inferInstanceAs (Decidable (_ ∨ _))

end State

section Server

variable (body : String → Bytes)

/-- One step of a download: the state apart from its phase, and its next phase. `body` is what the
server returns for each address. -/
def Download.step (s : State) (number : Nat) (d : Download) : Outcome → Option (State × Phase)
  | outcome =>
    match d.phase, outcome with
    | .stale path, .ok _ => some (s.removeFile path, .spawn)
    | .stale _, .error _ => some (s, .spawn)
    | .spawn, .ok _ => some (s, .head)
    | .head, .closed => if s.Ready d.url number then some (s, .report false) else none
    | .head, .ok _ => some (s, .total)
    | .head, .error text => some (s, .failing text)
    | .total, .ok _ =>
      some (s.modify d.url fun entry =>
        { entry with totalSize := some (body d.url).length }, .get)
    | .get, .closed => if s.Ready d.url number then some (s, .report false) else none
    | .get, .ok _ => some (s, if d.path.isSome then .create else .body (body d.url))
    | .get, .error text => some (s, .failing text)
    | .create, .ok _ =>
      match d.path with
      | none => none
      | some path =>
        some ({ s with files := Function.update s.files path (some []) }, .body (body d.url))
    | .create, .error text => some (s, .failing text)
    | .body _, .closed => if s.Ready d.url number then some (s, .finish false) else none
    | .body left, .ok size =>
      some (s, if left = [] then .finish true else .store (left.take size) (left.drop size))
    | .body _, .error text => some (s, .failing text)
    | .store chunk left, .ok _ =>
      match d.path with
      | none =>
        some (s.modify d.url fun entry =>
          { entry with
            data := entry.data ++ chunk
            downloadedSize := entry.downloadedSize + chunk.length }, .body left)
      | some path =>
        some ({ s with
          files := Function.update s.files path ((s.files path).map (· ++ chunk)) },
          .count chunk left)
    | .store _ _, .error text => if d.path.isSome then some (s, .failing text) else none
    | .count chunk left, .ok _ =>
      some (s.modify d.url fun entry =>
        { entry with downloadedSize := entry.downloadedSize + chunk.length }, .body left)
    | .finish isAllDownloaded, .ok _ =>
      some (s.modify d.url fun entry => { entry with finished := true }, .report isAllDownloaded)
    | .finish _, .error text => if d.path.isSome then some (s, .failing text) else none
    | .report isAllDownloaded, .ok _ => some (s, if isAllDownloaded then .done else .discard)
    | .discard, .ok _ =>
      match s.downloaders d.url with
      | none => some (s, .done)
      | some entry => some ((s.removeEntry d.url).removeFile entry.path, .done)
    | .discard, .error _ => some (s.removeEntry d.url, .done)
    | .failing error, .ok _ =>
      some (s.modify d.url fun entry => { entry with error := some error }, .done)
    | _, _ => none

/-- The second lock of `download_file`, where no entry without an error is found. -/
def State.insert (s : State) (url : String) (path stale : Option String) : State :=
  { s with
    downloaders := Function.update s.downloaders url (some { number := s.downloads.length, path })
    downloads := s.downloads ++ [{ url, path, phase := .stale stale }] }

/-- One step of a call of `download_file`, which was taken off the calls in progress; `ok` is
whether it succeeds with the file system. -/
def State.callStep (s : State) (call : Call) (ok : Bool) : State :=
  let goOn := fun (s : State) phase => { s with calls := { call with phase } :: s.calls }
  match call.phase with
  | .first =>
    match s.downloaders call.url with
    | none => goOn s (.stale none)
    | some entry =>
      if entry.error.isNone then s else goOn (s.removeEntry call.url) (.stale entry.path)
  | .stale path => goOn (if ok then s.removeFile path else s) .check
  | .check =>
    -- "File already exists", or its directory cannot be created.
    if (call.path.bind s.files).isSome ∨ (call.path.isSome ∧ ok = false) then s
    else goOn s .second
  | .second =>
    match s.downloaders call.url with
    | none => s.insert call.url call.path none
    | some entry => if entry.error.isNone then s else s.insert call.url call.path entry.path

/-- A step of the program. -/
inductive Event
  /-- `download_file` is called. -/
  | downloadFile (url : String) (path : Option String)
  /-- A call goes on. -/
  | call (i : Nat) (ok : Bool)
  /-- A download goes on. -/
  | download (number : Nat) (outcome : Outcome)
  | cancel (url : String)
  | remove (url : String)
deriving DecidableEq

/-- One step; `none` where the event cannot happen. -/
def step (s : State) : Event → Option State
  | .downloadFile url path => some { s with calls := { url, path, phase := .first } :: s.calls }
  | .call i ok =>
    s.calls[i]?.map fun call => { s with calls := s.calls.eraseIdx i }.callStep call ok
  | .download number outcome => do
    let d ← s.downloads[number]?
    let (t, phase) ← d.step body s number outcome
    return { t with downloads := t.downloads.set number { d with phase } }
  | .cancel url =>
    match s.downloaders url with
    | none => some s
    | some entry => some { s with cancelled := entry.number :: s.cancelled }
  | .remove url => some (s.removeEntry url)

/-- The program as it starts, with the files that are there. -/
def start (files : String → Option Bytes) : State where
  downloaders := fun _ => none
  files := files
  calls := []
  downloads := []
  cancelled := []

/-- The program against a server. -/
def program : Machine State Event where
  start s := ∃ files, s = start files
  step := step body

end Server

/-- `DownloadData`. -/
structure DownloadData where
  data : Bytes
  path : Option String
  totalSize : Option Nat
  downloadedSize : Nat
  error : Option String
deriving DecidableEq

/-- What `get_download_data` returns of an entry. -/
def Downloader.downloadData (entry : Downloader) : DownloadData where
  data :=
    if entry.totalSize.getD 0 = entry.downloadedSize ∧ entry.path.isNone then entry.data else []
  path := entry.path
  totalSize := entry.totalSize
  downloadedSize := entry.downloadedSize
  error := entry.error

/-- `get_download_data`; `none` is "Downloader not found". -/
def getDownloadData (s : State) (id : String) : Option DownloadData :=
  (s.downloaders id).map Downloader.downloadData

end ChainRemote.Hq.Downloads
