import ChainRemote.Clipboard.LocalFile

/-!
# Serving copied files

The files on the clipboard are kept as one list. The other side asks for the size or a range of an
entry by its index; the first range of the first file also gives a record for the audit.
-/

namespace ChainRemote.Clipboard

open Lib

/-- `isize::MAX`, the bound of the bytes of a `Vec`. -/
def isizeMax : Nat := 9223372036854775807

/-- `usize::MAX`. -/
def usizeMax : UInt64 := 18446744073709551615

/-- `FileContentsRequest` of `serv_files`. -/
inductive FileContentsRequest
  | size (streamId : Int32) (fileIdx : UInt64)
  | range (streamId : Int32) (fileIdx offset length : UInt64)
deriving DecidableEq

/-- The `ClipboardFile`s that a request is answered with. -/
inductive ClipboardFile
  | fileContentsResponse (msgFlags streamId : Int32) (requestedData : Bytes)
  | files (files : List (String × UInt64))
deriving DecidableEq

/-- `ClipFiles`. -/
structure ClipFiles where
  files : List String := []
  fileList : List LocalFile := []
  firstFileIndex : UInt64 := 0
  filesPdu : Bytes := []
  /-- The list is a `Vec`. -/
  fits : fileList.length ≤ isizeMax

theorem fits_nil : ([] : List LocalFile).length ≤ isizeMax := Nat.zero_le _

/-- What the disk holds during a call: the paths that are directories and regular files, and the
entries below some paths. -/
structure Disk where
  isDir : String → Bool
  isFile : String → Bool
  /-- `construct_file_list`. -/
  fileList : List String → Except CliprdrError { files : List LocalFile // files.length ≤ isizeMax }

/-- `build_file_list_pdu`; none where an entry does not fit in its record. -/
def buildFileListPdu (fileList : List LocalFile) : Option Bytes := do
  let records ← fileList.mapM LocalFile.asBin
  return toLe 4 fileList.length ++ records.flatten

/-- The list is written exactly where every path fits. -/
theorem records_fit (files : List LocalFile) :
    ((∀ file ∈ files, file.Fits) → ∃ records, files.mapM LocalFile.asBin = some records ∧
      records.flatten.length = 592 * files.length) ∧
    (¬ (∀ file ∈ files, file.Fits) → files.mapM LocalFile.asBin = none) := by
  induction files with
  | nil => exact ⟨fun _ => ⟨[], rfl, rfl⟩, fun some => absurd (by simp) some⟩
  | cons file files ih =>
    rw [List.mapM_cons]
    by_cases fits : file.Fits
    · obtain ⟨record, written, size⟩ := file.asBin_fits.1 fits
      rw [written]
      constructor
      · intro all
        obtain ⟨records, others, length⟩ := ih.1 fun other inside =>
          all other (List.mem_cons_of_mem _ inside)
        refine ⟨record :: records, by rw [others]; rfl, ?_⟩
        rw [List.flatten_cons, List.length_append, size, length, List.length_cons]
        omega
      · intro some
        have rest : ¬ ∀ other ∈ files, other.Fits := by
          intro all
          refine some ?_
          intro other inside
          rcases List.mem_cons.mp inside with rfl | later
          · exact fits
          · exact all other later
        rw [ih.2 rest]
        rfl
    · constructor
      · intro all
        exact absurd (all file List.mem_cons_self) fits
      · intro _
        rw [file.asBin_fits.2 fits]
        rfl

/-- A list is written exactly where every path fits: its length, and 592 bytes for each entry. -/
theorem buildFileListPdu_fits (fileList : List LocalFile) :
    ((∀ file ∈ fileList, file.Fits) → ∃ pdu, buildFileListPdu fileList = some pdu ∧
      pdu.length = 4 + 592 * fileList.length) ∧
    (¬ (∀ file ∈ fileList, file.Fits) → buildFileListPdu fileList = none) := by
  constructor
  · intro all
    obtain ⟨records, written, size⟩ := (records_fit fileList).1 all
    refine ⟨_, by rw [buildFileListPdu, written]; rfl, ?_⟩
    rw [List.length_append, length_toLe, size]
  · intro some
    rw [buildFileListPdu, (records_fit fileList).2 some]
    rfl

namespace ClipFiles

variable (clip : ClipFiles)

/-- `ClipFiles::clear`. -/
def clear : ClipFiles where
  firstFileIndex := usizeMax
  fits := fits_nil

/-- `ClipFiles::sync_files`. -/
def syncFiles (disk : Disk) (clipboardFiles : List String) : Except CliprdrError ClipFiles := do
  let fileList ← disk.fileList clipboardFiles
  return {
    files := clipboardFiles
    fileList := fileList.val
    firstFileIndex :=
      match fileList.val.findIdx? (fun file => !disk.isDir file.path) with
      | some index => UInt64.ofNat index
      | none => usizeMax
    filesPdu := clip.filesPdu
    fits := fileList.property }

/-- `get_files_for_audit`. -/
def getFilesForAudit (disk : Disk) : FileContentsRequest → Option ClipboardFile
  | .range _ fileIdx offset _ =>
    if fileIdx = clip.firstFileIndex ∧ offset = 0 then
      let files := clip.fileList.filterMap fun file =>
        if disk.isFile file.path then some (file.path, file.size) else none
      if files.isEmpty then none else some (.files files)
    else none
  | .size _ _ => none

/-- The entries after the one that was served: the handle of the next file is loaded. -/
def loadNext (opens : Bool) : List LocalFile → Except CliprdrError (List LocalFile)
  | [] => .ok []
  | file :: rest =>
    if !file.isDir then (· :: rest) <$> file.loadHandle opens
    else (file :: ·) <$> loadNext opens rest

/-- What loading a handle keeps of a file, loading the next one keeps of the list. -/
theorem loadNext_map {κ : Type} (column : LocalFile → κ) {opens : Bool}
    (kept : ∀ file loaded, file.loadHandle opens = .ok loaded → column loaded = column file)
    {files loaded : List LocalFile} (done : loadNext opens files = .ok loaded) :
    loaded.map column = files.map column := by
  induction files generalizing loaded with
  | nil =>
    obtain rfl := Except.ok.inj done
    rfl
  | cons file rest ih =>
    rw [loadNext] at done
    split at done
    · cases handle : file.loadHandle opens with
      | error e =>
        rw [handle] at done
        cases done
      | ok opened =>
        rw [handle] at done
        obtain rfl := Except.ok.inj done
        rw [List.map_cons, List.map_cons, kept file opened handle]
    · cases later : loadNext opens rest with
      | error e =>
        rw [later] at done
        cases done
      | ok files =>
        rw [later] at done
        obtain rfl := Except.ok.inj done
        rw [List.map_cons, List.map_cons, ih later]

theorem length_loadNext {opens : Bool} {files loaded : List LocalFile}
    (done : loadNext opens files = .ok loaded) : loaded.length = files.length := by
  have same := loadNext_map (fun _ => ()) (fun _ _ _ => rfl) done
  have lengths := congrArg List.length same
  rwa [List.length_map, List.length_map] at lengths

theorem fits_set {files : List LocalFile} (fits : files.length ≤ isizeMax) (index : Nat)
    (file : LocalFile) : (files.set index file).length ≤ isizeMax := by
  rwa [List.length_set]

/-- Replaces an entry. -/
def setFile (index : Nat) (file : LocalFile) : ClipFiles :=
  { clip with
    fileList := clip.fileList.set index file
    fits := fits_set clip.fits index file }

/-- The list after the next file was loaded, or as it is. -/
def loaded (opens : Bool) (index : Nat) : List LocalFile :=
  match loadNext opens (clip.fileList.drop (index + 1)) with
  | .ok rest => clip.fileList.take (index + 1) ++ rest
  | .error _ => clip.fileList

theorem fits_loaded (opens : Bool) (index : Nat) :
    (clip.loaded opens index).length ≤ isizeMax := by
  unfold loaded
  split
  · rename_i rest done
    have same := length_loadNext done
    have fits := clip.fits
    rw [List.length_drop] at same
    rw [List.length_append, List.length_take, same]
    omega
  · exact clip.fits

/-- How a request ends. -/
inductive Outcome
  | ok (response : ClipboardFile)
  | error (e : CliprdrError)
  /-- An allocation beyond the bound of a `Vec` ends the process. -/
  | aborted

/-- A request that was served. -/
structure Served where
  outcome : Outcome
  clip : ClipFiles
  work : Work := {}

/-- The end of `serve_file_contents`, once there is an answer for an entry. -/
def hotReload (io : Io) (fileIdx : UInt64) (response : ClipboardFile) (work : Work) : Served :=
  let work := { work with additions := work.additions ++ [(fileIdx, 1)] }
  let index := fileIdx.toNat
  match loadNext io.opensNext (clip.fileList.drop (index + 1)) with
  | .ok _ =>
    { outcome := .ok response
      clip := { clip with
        fileList := clip.loaded io.opensNext index
        fits := clip.fits_loaded io.opensNext index }
      work }
  | .error e => { outcome := .error e, clip, work }

/-- The length of the buffer for a range of a file of some size. -/
def readSize (offset length size : UInt64) : UInt64 :=
  if offset + length > size then size - offset else length

/-- `serve_file_contents` of a range, once the entry is found. -/
def serveRange (connId : Int32) (io : Io) (streamId : Int32) (fileIdx offset length : UInt64)
    (file : LocalFile) : Served :=
  if offset > file.size then
    { outcome := .error (.invalidRequest s!"invalid reading offset requested from conn: {connId}")
      clip }
  else
    let readSize := readSize offset length file.size
    let work := { additions := [(offset, length)], allocations := [readSize] }
    if readSize.toNat > isizeMax then { outcome := .aborted, clip, work }
    else
      let (result, file, reading) := file.readExactAt io readSize offset
      let clip := clip.setFile fileIdx.toNat file
      let work := { work with additions := work.additions ++ reading.additions }
      match result with
      | .error e => { outcome := .error e, clip, work }
      | .ok buf => clip.hotReload io fileIdx (.fileContentsResponse 0x1 streamId buf) work

/-- `serve_file_contents`. -/
def serveFileContents (connId : Int32) (io : Io) (request : FileContentsRequest) : Served :=
  let invalidIndex (fileIdx : UInt64) : Served :=
    { outcome := .error
        (.invalidRequest s!"invalid file index {fileIdx} requested from conn: {connId}")
      clip }
  match request with
  | .size streamId fileIdx =>
    match clip.fileList[fileIdx.toNat]? with
    | none => invalidIndex fileIdx
    | some file =>
      clip.hotReload io fileIdx (.fileContentsResponse 0x1 streamId (toLe 8 file.size.toNat)) {}
  | .range streamId fileIdx offset length =>
    match clip.fileList[fileIdx.toNat]? with
    | none => invalidIndex fileIdx
    | some file => clip.serveRange connId io streamId fileIdx offset length file

end ClipFiles

/-- `ClipboardFile::FileContentsRequest`, what is sent. -/
structure ContentsRequest where
  streamId : Int32
  listIndex : Int32
  dwFlags : Int32
  nPositionLow : Int32
  nPositionHigh : Int32
  cbRequested : Int32
  haveClipDataId : Bool := false
  clipDataId : Int32 := 0
deriving DecidableEq

/-- `as u64` of an `i32`. -/
def asU64 (n : Int32) : UInt64 := n.toInt64.toUInt64

/-- The request that `read_file_contents` takes from what is sent. -/
def ContentsRequest.decode (sent : ContentsRequest) : Except CliprdrError FileContentsRequest :=
  if sent.dwFlags = 0x1 then .ok (.size sent.streamId (asU64 sent.listIndex))
  else if sent.dwFlags = 0x2 then
    let offset := asU64 sent.nPositionHigh <<< 32 ||| asU64 sent.nPositionLow
    let length := asU64 sent.cbRequested
    .ok (.range sent.streamId (asU64 sent.listIndex) offset length)
  else
    let flags := sent.dwFlags
    .error (.invalidRequest s!"got invalid FileContentsRequest, dw_flats: {flags}")

/-- `read_file_contents`: what is returned, and how serving went. -/
def readFileContents (disk : Disk) (io : Io) (connId : Int32) (sent : ContentsRequest)
    (clip : ClipFiles) : List (Except CliprdrError ClipboardFile) × ClipFiles.Served :=
  match sent.decode with
  | .error e => ([.error e], { outcome := .error e, clip })
  | .ok request =>
    let audit := (clip.getFilesForAudit disk request).toList.map .ok
    let served := clip.serveFileContents connId io request
    match served.outcome with
    | .ok response => (audit ++ [.ok response], served)
    | .error e => (audit ++ [.error e], served)
    | .aborted => ([], served)

/-- `sync_files`; none where a name does not fit in its record, which ends the process. -/
def syncFiles (disk : Disk) (files : List String) (clip : ClipFiles) :
    Option (Except CliprdrError ClipFiles) :=
  if clip.files = files then some (.ok clip)
  else
    match clip.syncFiles disk files with
    | .error e => some (.error e)
    | .ok synced =>
      (buildFileListPdu synced.fileList).map fun filesPdu => .ok { synced with filesPdu }

end ChainRemote.Clipboard
