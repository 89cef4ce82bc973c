import ChainRemote.Lib.Machine
import ChainRemote.Clipboard.ServFiles

/-!
# Records for the audit of copied files

A range of the first file at offset 0 gives a record that names every regular file of the list. The
other side chooses what it asks for and in which order; contents that it takes without such a
request go without a record.
-/

namespace ChainRemote.Clipboard.FileAudit

open Lib

/-- The paths that the returned records name. -/
def recorded (results : List (Except CliprdrError ClipboardFile)) : List String :=
  results.flatMap fun
    | .ok (.files files) => files.map Prod.fst
    | _ => []

/-- A range of the first file at offset 0. -/
def startsCopy (clip : ClipFiles) : FileContentsRequest → Bool
  | .range _ fileIdx offset _ => fileIdx == clip.firstFileIndex && offset == 0
  | .size _ _ => false

/-- The clipboard and what happened since its list was last synchronised. -/
structure State where
  clip : ClipFiles
  /-- The paths that records named. -/
  audited : List String := []
  /-- The regular files of the disk at each range of the first file at offset 0. -/
  starts : List (String → Bool) := []

/-- The calls; each finds the disk as it is then. -/
inductive Event
  | syncFiles (disk : Disk) (files : List String)
  | clearFiles
  | readFileContents (disk : Disk) (io : Io) (connId : Int32) (sent : ContentsRequest)

/-- The state after `read_file_contents`. -/
def read (disk : Disk) (io : Io) (connId : Int32) (sent : ContentsRequest) (s : State) : State :=
  let (results, served) := readFileContents disk io connId sent s.clip
  { clip := served.clip
    audited := s.audited ++ recorded results
    starts :=
      match sent.decode with
      | .ok request => if startsCopy s.clip request then disk.isFile :: s.starts else s.starts
      | .error _ => s.starts }

/-- The state after a call; none where it ends the process. -/
def step (s : State) : Event → Option State
  | .syncFiles disk files =>
    if s.clip.files = files then some s
    else
      match Clipboard.syncFiles disk files s.clip with
      | some (.ok clip) => some { clip }
      | some (.error _) => some s
      | none => none
  | .clearFiles => some { clip := .clear }
  | .readFileContents disk io connId sent =>
    match (readFileContents disk io connId sent s.clip).2.outcome with
    | .aborted => none
    | _ => some (read disk io connId sent s)

/-- The clipboard from the start of the process on. -/
def clipboard : Machine State Event where
  start s := s = { clip := { fits := fits_nil } }
  step := step

/-- An answer has at least one byte of the contents of a regular file. -/
def Carries (disk : Disk) (io : Io) (connId : Int32) (sent : ContentsRequest) (clip : ClipFiles)
    (file : LocalFile) : Prop :=
  ∃ streamId fileIdx offset length, sent.decode = .ok (.range streamId fileIdx offset length) ∧
    clip.fileList[fileIdx.toNat]? = some file ∧ disk.isFile file.path = true ∧
    ∃ msgFlags id data, data ≠ [] ∧ Except.ok (.fileContentsResponse msgFlags id data) ∈
      (readFileContents disk io connId sent clip).1

/-- Contents that are returned are recorded. -/
def Audits (s : State) (e : Event) (t : State) : Prop :=
  match e with
  | .readFileContents disk io connId sent =>
    ∀ file, Carries disk io connId sent s.clip file → file.path ∈ t.audited
  | _ => True

/-- Contents that are returned are recorded if the copy was started while the file was a regular
file. -/
def AuditsStarted (s : State) (e : Event) (t : State) : Prop :=
  match e with
  | .readFileContents disk io connId sent =>
    ∀ file, Carries disk io connId sent s.clip file →
      (∃ isFile ∈ t.starts, isFile file.path = true) → file.path ∈ t.audited
  | _ => True

/-- Since the copy was started every entry that was a regular file then is recorded. -/
def Recorded (s : State) : Prop :=
  ∀ isFile ∈ s.starts, ∀ path ∈ s.clip.fileList.map LocalFile.path, isFile path = true →
    path ∈ s.audited

section Paths

variable {clip : ClipFiles} {io : Io}

theorem loadHandle_path {opens : Bool} {file loaded : LocalFile}
    (done : file.loadHandle opens = .ok loaded) : loaded.path = file.path := by
  unfold LocalFile.loadHandle at done
  split at done
  · split at done
    · obtain rfl := Except.ok.inj done
      rfl
    · cases done
  · obtain rfl := Except.ok.inj done
    rfl

theorem readExactAt_path (io : Io) (bufLen offset : UInt64) (file : LocalFile) :
    (file.readExactAt io bufLen offset).2.1.path = file.path := by
  unfold LocalFile.readExactAt
  split
  · rfl
  · rename_i loaded done
    have same := loadHandle_path done
    split
    · exact same
    · split
      · exact same
      · split
        · exact same
        · simp only
          split
          · exact same
          · exact same

theorem hotReload_paths (clip : ClipFiles) (io : Io) (fileIdx : UInt64) (response : ClipboardFile)
    (work : Work) :
    (clip.hotReload io fileIdx response work).clip.fileList.map LocalFile.path =
      clip.fileList.map LocalFile.path := by
  unfold ClipFiles.hotReload
  simp only
  split
  · rename_i rest done
    simp only [ClipFiles.loaded, done]
    have paths := ClipFiles.loadNext_map LocalFile.path (fun _ _ => loadHandle_path) done
    rw [List.map_append, paths, ← List.map_append, List.take_append_drop]
  · rfl

theorem setFile_paths (clip : ClipFiles) {index : Nat} {file changed : LocalFile}
    (found : clip.fileList[index]? = some file) (same : changed.path = file.path) :
    (clip.setFile index changed).fileList.map LocalFile.path =
      clip.fileList.map LocalFile.path := by
  apply List.ext_getElem?
  intro i
  simp only [ClipFiles.setFile, List.getElem?_map, List.getElem?_set]
  by_cases own : index = i
  · rw [if_pos own, ← own, found]
    have inside : index < clip.fileList.length := (List.getElem?_eq_some_iff.mp found).1
    rw [if_pos inside, Option.map_some, Option.map_some, same]
  · rw [if_neg own]

/-- Serving a request changes no path of the list. -/
theorem serveFileContents_paths (clip : ClipFiles) (connId : Int32) (io : Io)
    (request : FileContentsRequest) :
    (clip.serveFileContents connId io request).clip.fileList.map LocalFile.path =
      clip.fileList.map LocalFile.path := by
  cases request with
  | size streamId fileIdx =>
    simp only [ClipFiles.serveFileContents]
    split
    · rfl
    · exact hotReload_paths ..
  | range streamId fileIdx offset length =>
    simp only [ClipFiles.serveFileContents]
    split
    · rfl
    · rename_i file found
      have same := setFile_paths clip found
        (readExactAt_path io (ClipFiles.readSize offset length file.size) offset file)
      unfold ClipFiles.serveRange
      split
      · rfl
      · simp only
        split
        · rfl
        · split
          · exact same
          · rw [hotReload_paths]
            exact same

end Paths

/-- The record at the start of a copy names every regular file of the list. -/
theorem getFilesForAudit_start {disk : Disk} {clip : ClipFiles} {request : FileContentsRequest}
    (start : startsCopy clip request = true) {path : String}
    (listed : path ∈ clip.fileList.map LocalFile.path) (regular : disk.isFile path = true) :
    ∃ files, clip.getFilesForAudit disk request = some (.files files) ∧
      path ∈ files.map Prod.fst := by
  cases request with
  | size => cases start
  | range streamId fileIdx offset length =>
    obtain ⟨first, zero⟩ : fileIdx = clip.firstFileIndex ∧ offset = 0 := by
      simpa only [startsCopy, Bool.and_eq_true, beq_iff_eq] using start
    obtain ⟨file, inside, rfl⟩ := List.mem_map.mp listed
    let files := clip.fileList.filterMap fun file =>
      if disk.isFile file.path then some (file.path, file.size) else none
    have named : (file.path, file.size) ∈ files :=
      List.mem_filterMap.mpr ⟨file, inside, if_pos regular⟩
    have some : ¬ files.isEmpty = true := by
      intro empty
      rw [List.isEmpty_iff.mp empty] at named
      cases named
    refine ⟨files, ?_, List.mem_map.mpr ⟨_, named, rfl⟩⟩
    have here : fileIdx = clip.firstFileIndex ∧ offset = 0 := ⟨first, zero⟩
    simp only [ClipFiles.getFilesForAudit, if_pos here]
    exact if_neg some

/-- What a call that does not end the process returns begins with the record. -/
theorem recorded_of_audit {disk : Disk} {io : Io} {connId : Int32} {sent : ContentsRequest}
    {clip : ClipFiles} {request : FileContentsRequest} (decoded : sent.decode = .ok request)
    (alive : (readFileContents disk io connId sent clip).2.outcome ≠ .aborted)
    {files : List (String × UInt64)}
    (audit : clip.getFilesForAudit disk request = some (.files files)) {path : String}
    (named : path ∈ files.map Prod.fst) :
    path ∈ recorded (readFileContents disk io connId sent clip).1 := by
  have first : ∀ results, path ∈ recorded (.ok (.files files) :: results) := by
    intro results
    exact List.mem_flatMap.mpr ⟨_, List.mem_cons_self, named⟩
  revert alive
  simp only [readFileContents, decoded, audit, Option.toList_some, List.map_cons, List.map_nil]
  split
  · exact fun _ => first _
  · exact fun _ => first _
  · rename_i aborted
    exact fun alive => absurd aborted alive

theorem readFileContents_paths (disk : Disk) (io : Io) (connId : Int32) (sent : ContentsRequest)
    (clip : ClipFiles) :
    (readFileContents disk io connId sent clip).2.clip.fileList.map LocalFile.path =
      clip.fileList.map LocalFile.path := by
  unfold readFileContents
  split
  · rfl
  · simp only
    split
    · exact serveFileContents_paths ..
    · exact serveFileContents_paths ..
    · exact serveFileContents_paths ..

theorem Recorded.read {s : State} (held : Recorded s) (disk : Disk) (io : Io) (connId : Int32)
    (sent : ContentsRequest)
    (alive : (readFileContents disk io connId sent s.clip).2.outcome ≠ .aborted) :
    Recorded (read disk io connId sent s) := by
  intro isFile started path listed regular
  have listed : path ∈ s.clip.fileList.map LocalFile.path := by
    rw [← readFileContents_paths disk io connId sent s.clip]
    exact listed
  have old : isFile ∈ s.starts → path ∈ s.audited ++
      recorded (readFileContents disk io connId sent s.clip).1 := by
    intro before
    exact List.mem_append_left _ (held isFile before path listed regular)
  show path ∈ s.audited ++ recorded (readFileContents disk io connId sent s.clip).1
  simp only [FileAudit.read] at started
  cases decoded : sent.decode with
  | error e =>
    rw [decoded] at started
    exact old started
  | ok request =>
    simp only [decoded] at started
    by_cases start : startsCopy s.clip request = true
    · rw [if_pos start] at started
      rcases List.mem_cons.mp started with rfl | before
      · obtain ⟨files, audit, named⟩ := getFilesForAudit_start start listed regular
        exact List.mem_append_right _ (recorded_of_audit decoded alive audit named)
      · exact old before
    · rw [if_neg start] at started
      exact old started

theorem Recorded.step {s t : State} {e : Event} (held : Recorded s) (stepped : step s e = some t) :
    Recorded t := by
  cases e with
  | syncFiles disk files =>
    simp only [FileAudit.step] at stepped
    split at stepped
    · obtain rfl := Option.some.inj stepped
      exact held
    · split at stepped
      · obtain rfl := Option.some.inj stepped
        exact nofun
      · obtain rfl := Option.some.inj stepped
        exact held
      · cases stepped
  | clearFiles =>
    obtain rfl := Option.some.inj stepped
    exact nofun
  | readFileContents disk io connId sent =>
    simp only [FileAudit.step] at stepped
    split at stepped
    · cases stepped
    · rename_i alive
      obtain rfl := Option.some.inj stepped
      exact held.read disk io connId sent alive

/-- Contents of a regular file that are returned are recorded, by the same or an earlier call since
the list was last synchronised, if one of these asked for the first file at offset 0. -/
theorem started_copies_audited : clipboard.Always Machine.free AuditsStarted := by
  refine Machine.Always.of_invariant Recorded ?_ ?_ ?_
  · rintro s rfl
    exact nofun
  · exact fun s e t held _ stepped => held.step stepped
  · intro s e t held _ stepped
    cases e with
    | readFileContents disk io connId sent =>
      have later : Recorded t :=
        Recorded.step (e := .readFileContents disk io connId sent) held stepped
      rintro file ⟨streamId, fileIdx, offset, length, decoded, found, -, -⟩ ⟨isFile, start, regular⟩
      have listed : file.path ∈ s.clip.fileList.map LocalFile.path :=
        List.mem_map.mpr ⟨file, List.mem_of_getElem? found, rfl⟩
      have same : t.clip.fileList.map LocalFile.path = s.clip.fileList.map LocalFile.path := by
        simp only [clipboard, step] at stepped
        split at stepped
        · cases stepped
        · obtain rfl := Option.some.inj stepped
          exact readFileContents_paths ..
      rw [← same] at listed
      exact later isFile start file.path listed regular
    | _ => trivial

/-- A file of two bytes. -/
def secret : LocalFile where
  path := "/home/u/secret.txt"
  relativePath := "secret.txt"
  size := 2
  lastWriteTime := 0
  isDir := false
  perm := 33188

theorem secret_fits : [secret].length ≤ isizeMax := by decide

/-- A disk with that file. -/
def oneFile : Disk where
  isDir _ := false
  isFile path := path == "/home/u/secret.txt"
  fileList _ := .ok ⟨[secret], secret_fits⟩

/-- Reading works and gives the letter a. -/
def letters : Io := ⟨true, true, some fun _ => 97, true⟩

/-- The last byte of the only file. -/
def lastByte : ContentsRequest where
  streamId := 1
  listIndex := 0
  dwFlags := 2
  nPositionLow := 1
  nPositionHigh := 0
  cbRequested := 1

/-- The clipboard with that file. -/
def copied : State :=
  clipboard.play Machine.free { clip := { fits := fits_nil } }
    [.syncFiles oneFile ["/home/u/secret.txt"]]

/-- A byte of the file is returned and nothing is recorded. -/
theorem last_byte_unaudited :
    (readFileContents oneFile letters 1 lastByte copied.clip).1 =
        [.ok (.fileContentsResponse 1 1 [97])] ∧
      ¬ clipboard.Always Machine.free Audits := by
  have answer : (readFileContents oneFile letters 1 lastByte copied.clip).1 =
      [.ok (.fileContentsResponse 1 1 [97])] := by rfl
  refine ⟨answer, ?_⟩
  intro always
  have reached : clipboard.Reaches Machine.free copied :=
    ⟨_, rfl, Machine.runs_play _ _ _ _⟩
  have stepped : ((step copied (.readFileContents oneFile letters 1 lastByte)).any fun t =>
      t.audited.isEmpty) = true := by decide +kernel
  obtain ⟨t, after, none⟩ := (Option.any_eq_true _ _).mp stepped
  have found : copied.clip.fileList[0]? = some secret := by decide +kernel
  have carries : Carries oneFile letters 1 lastByte copied.clip secret :=
    ⟨1, 0, 1, 1, rfl, found, rfl, 1, 1, [97], List.cons_ne_nil _ _, by
      rw [answer]
      exact List.mem_cons_self⟩
  have audited := always copied (.readFileContents oneFile letters 1 lastByte) t reached trivial
    after secret carries
  rw [List.isEmpty_iff.mp none] at audited
  cases audited

end ChainRemote.Clipboard.FileAudit
