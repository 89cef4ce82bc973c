import Mathlib.Tactic.ByContra
import ChainRemote.Clipboard.ServFiles

/-!
# A copied file and the files beside it

Once a request is answered, the next regular file of the list is opened in advance. If it cannot be
opened, the request fails as well: a file that nobody asked for decides the result. In all other
cases the result is a matter of the file that is asked for.
-/

namespace ChainRemote.Clipboard

/-- The index of the file that is asked for. -/
def FileContentsRequest.fileIdx : FileContentsRequest → UInt64
  | .size _ fileIdx => fileIdx
  | .range _ fileIdx _ _ => fileIdx

/-- Some bytes of a file can be read: it is open or can be opened, and seeking and reading work. -/
structure LocalFile.Reads (io : Io) (offset : UInt64) (file : LocalFile) : Prop where
  opens : file.handle = true ∨ file.isDir = false ∧ io.opens = true
  seeks : offset = file.offset ∨ io.seeks = true
  reads : io.reads.isSome = true

/-- A file has an answer for a request by itself. -/
def FileContentsRequest.Answerable (io : Io) (file : LocalFile) : FileContentsRequest → Prop
  | .size _ _ => True
  | .range _ _ offset length =>
    offset ≤ file.size ∧ (ClipFiles.readSize offset length file.size).toNat ≤ isizeMax ∧
      file.Reads io offset

/-- What a request for a file comes to if that file alone decides. -/
def FileContentsRequest.answer (connId : Int32) (io : Io) (file? : Option LocalFile)
    (request : FileContentsRequest) : ClipFiles.Outcome :=
  match file? with
  | none =>
    let fileIdx := request.fileIdx
    .error (.invalidRequest s!"invalid file index {fileIdx} requested from conn: {connId}")
  | some file =>
    match request with
    | .size streamId _ => .ok (.fileContentsResponse 0x1 streamId (Lib.toLe 8 file.size.toNat))
    | .range streamId _ offset length =>
      if offset > file.size then
        .error (.invalidRequest s!"invalid reading offset requested from conn: {connId}")
      else
        let readSize := ClipFiles.readSize offset length file.size
        if readSize.toNat > isizeMax then .aborted
        else
          match (file.readExactAt io readSize offset).1 with
          | .error e => .error e
          | .ok buf => .ok (.fileContentsResponse 0x1 streamId buf)

namespace ClipFiles

variable (clip : ClipFiles)

/-- The entry that a request names. -/
def file? (request : FileContentsRequest) : Option LocalFile :=
  clip.fileList[request.fileIdx.toNat]?

/-- The first regular file after the one that is asked for. -/
def nextRegular (request : FileContentsRequest) : Option LocalFile :=
  (clip.fileList.drop (request.fileIdx.toNat + 1)).find? (!·.isDir)

/-- The result of a request is that of the file asked for. -/
def Independent (connId : Int32) (io : Io) (request : FileContentsRequest) : Prop :=
  (clip.serveFileContents connId io request).outcome =
    request.answer connId io (clip.file? request)

/-- The next regular file, if there is one, is open or can be opened. -/
def NextOpens (io : Io) (request : FileContentsRequest) : Prop :=
  ∀ next, clip.nextRegular request = some next → next.handle = true ∨ io.opensNext = true

variable {clip}

/-- Loading the next file fails with the path of that file. -/
theorem loadNext_find (opens : Bool) (files : List LocalFile) :
    match files.find? (!·.isDir) with
    | none => loadNext opens files = .ok files
    | some next =>
      (next.handle = true ∨ opens = true → ∃ loaded, loadNext opens files = .ok loaded) ∧
        (¬ (next.handle = true ∨ opens = true) →
          loadNext opens files = .error (.fileError next.path)) := by
  induction files with
  | nil => rfl
  | cons file rest ih =>
    by_cases dir : file.isDir = true
    · have skipped : loadNext opens (file :: rest) = (file :: ·) <$> loadNext opens rest := by
        rw [loadNext, dir, Bool.not_true, if_neg (by decide)]
      rw [List.find?_cons_of_neg (by rw [dir]; decide), skipped]
      cases found : rest.find? (!·.isDir) with
      | none =>
        rw [found] at ih
        have same : loadNext opens rest = .ok rest := ih
        show (file :: ·) <$> loadNext opens rest = .ok (file :: rest)
        rw [same]
        rfl
      | some next =>
        rw [found] at ih
        refine ⟨fun opened => ?_, fun closed => ?_⟩
        · obtain ⟨loaded, done⟩ := ih.1 opened
          exact ⟨file :: loaded, by rw [done]; rfl⟩
        · rw [ih.2 closed]
          rfl
    · have plain : file.isDir = false := Bool.eq_false_iff.mpr dir
      have here : loadNext opens (file :: rest) = (· :: rest) <$> file.loadHandle opens := by
        rw [loadNext, plain, Bool.not_false, if_pos rfl]
      rw [List.find?_cons_of_pos (by rw [plain]; rfl), here]
      refine ⟨fun opened => ?_, fun closed => ?_⟩
      · have loads : ∃ loaded, file.loadHandle opens = .ok loaded := by
          unfold LocalFile.loadHandle
          split
          · rename_i unopened
            rw [plain, Bool.not_false, Bool.true_and, Bool.not_eq_true'] at unopened
            have can : opens = true := opened.resolve_left (by rw [unopened]; decide)
            exact ⟨_, if_pos can⟩
          · exact ⟨_, rfl⟩
        obtain ⟨loaded, done⟩ := loads
        exact ⟨loaded :: rest, by rw [done]; rfl⟩
      · have unopened : file.handle = false := Bool.eq_false_iff.mpr fun is => closed (.inl is)
        have cannot : ¬ opens = true := fun can => closed (.inr can)
        have fails : file.loadHandle opens = .error (.fileError file.path) := by
          rw [LocalFile.loadHandle, plain, unopened, Bool.not_false, Bool.and_self, if_pos rfl,
            if_neg cannot]
        rw [fails]
        rfl

/-- How an answer is decided by the file after it. -/
theorem hotReload_outcome {io : Io} {request : FileContentsRequest} {response : ClipboardFile}
    {work : Work} :
    (clip.NextOpens io request →
      (clip.hotReload io request.fileIdx response work).outcome = .ok response) ∧
    (¬ clip.NextOpens io request →
      ∃ e, (clip.hotReload io request.fileIdx response work).outcome = .error e) := by
  have cases := loadNext_find io.opensNext (clip.fileList.drop (request.fileIdx.toNat + 1))
  cases found : (clip.fileList.drop (request.fileIdx.toNat + 1)).find? (!·.isDir) with
  | none =>
    rw [found] at cases
    refine ⟨fun _ => ?_, fun blocked => ?_⟩
    · unfold hotReload
      dsimp only at cases ⊢
      rw [cases]
    · refine absurd ?_ blocked
      intro next is
      cases found.symm.trans is
  | some next =>
    rw [found] at cases
    refine ⟨fun opens => ?_, fun blocked => ?_⟩
    · obtain ⟨loaded, done⟩ := cases.1 (opens next found)
      unfold hotReload
      dsimp only
      rw [done]
    · have closed : ¬ (next.handle = true ∨ io.opensNext = true) := by
        intro opened
        refine blocked ?_
        intro other is
        obtain rfl := Option.some.inj (found.symm.trans is)
        exact opened
      refine ⟨.fileError next.path, ?_⟩
      unfold hotReload
      dsimp only
      rw [cases.2 closed]

/-- Changing an entry leaves the ones after it. -/
theorem nextOpens_setFile {io : Io} {request : FileContentsRequest} (file : LocalFile) :
    (clip.setFile request.fileIdx.toNat file).NextOpens io request ↔
      clip.NextOpens io request := by
  have same : (clip.setFile request.fileIdx.toNat file).nextRegular request =
      clip.nextRegular request := by
    unfold nextRegular setFile
    dsimp only
    rw [List.drop_set_of_lt (Nat.lt_succ_self _)]
  unfold NextOpens
  rw [same]

end ClipFiles

section Reads

variable {io : Io} {file : LocalFile} {bufLen offset : UInt64}

theorem loadHandle_open {opens : Bool}
    (can : file.handle = true ∨ file.isDir = false ∧ opens = true) :
    file.loadHandle opens = .ok { file with handle := true } := by
  unfold LocalFile.loadHandle
  rcases can with there | ⟨plain, opens⟩
  · rw [there, Bool.not_true, Bool.and_false, if_neg (by decide), ← there]
  · subst opens
    split
    · rfl
    · rename_i loaded
      rw [plain, Bool.not_false, Bool.true_and, Bool.not_eq_true', Bool.not_eq_false] at loaded
      rw [← loaded]

/-- A file that is not open cannot be read. -/
theorem readExactAt_closed
    (cannot : ¬ (file.handle = true ∨ file.isDir = false ∧ io.opens = true)) :
    (file.readExactAt io bufLen offset).1 = .error (.fileError file.path) := by
  have shut : file.handle = false := Bool.eq_false_iff.mpr fun is => cannot (.inl is)
  unfold LocalFile.readExactAt LocalFile.loadHandle
  rw [shut]
  by_cases dir : file.isDir = true
  · rw [dir, Bool.not_true, Bool.false_and, if_neg (by decide)]
    dsimp only
    rw [shut, Bool.not_false, if_pos rfl]
  · have plain : file.isDir = false := Bool.eq_false_iff.mpr dir
    have closed : ¬ io.opens = true := fun opens => cannot (.inr ⟨plain, opens⟩)
    rw [plain, Bool.not_false, Bool.and_self, if_pos rfl, if_neg closed]

/-- `read_exact_at` succeeds exactly if the file can be read. -/
theorem readExactAt_ok :
    (∃ buf, (file.readExactAt io bufLen offset).1 = .ok buf) ↔ file.Reads io offset := by
  by_cases can : file.handle = true ∨ file.isDir = false ∧ io.opens = true
  · unfold LocalFile.readExactAt
    rw [loadHandle_open can]
    dsimp only
    rw [Bool.not_true, if_neg (by decide)]
    by_cases unsought : (offset != file.offset && !io.seeks) = true
    · rw [if_pos unsought]
      rw [Bool.and_eq_true, bne_iff_ne, Bool.not_eq_true'] at unsought
      constructor
      · intro ⟨buf, read⟩
        cases read
      · intro reads
        rcases reads.seeks with same | seeks
        · exact absurd same unsought.1
        · cases unsought.2.symm.trans seeks
    · rw [if_neg unsought]
      have sought : offset = file.offset ∨ io.seeks = true := by
        by_contra neither
        rw [not_or, Bool.not_eq_true] at neither
        rw [bne_iff_ne.mpr neither.1, neither.2] at unsought
        exact unsought rfl
      cases reads : io.reads with
      | none =>
        constructor
        · intro ⟨buf, read⟩
          cases read
        · intro can
          have some := can.reads
          rw [reads] at some
          cases some
      | some byte =>
        constructor
        · intro _
          exact ⟨can, sought, by rw [reads]; rfl⟩
        · intro _
          exact ⟨_, rfl⟩
  · rw [readExactAt_closed can]
    constructor
    · intro ⟨buf, read⟩
      cases read
    · intro reads
      exact absurd reads.opens can

end Reads

section Answer

variable {connId : Int32} {io : Io} {request : FileContentsRequest}

/-- Whether a file has an answer by itself. -/
theorem answer_ok {file : LocalFile} :
    (∃ response, request.answer connId io (some file) = .ok response) ↔
      request.Answerable io file := by
  cases request with
  | size streamId fileIdx => exact ⟨fun _ => trivial, fun _ => ⟨_, rfl⟩⟩
  | range streamId fileIdx offset length =>
    unfold FileContentsRequest.answer FileContentsRequest.Answerable
    dsimp only
    by_cases beyond : offset > file.size
    · rw [if_pos beyond]
      constructor
      · intro ⟨response, done⟩
        cases done
      · intro can
        exact absurd can.1 (UInt64.not_le.mpr beyond)
    · rw [if_neg beyond]
      by_cases large : (ClipFiles.readSize offset length file.size).toNat > isizeMax
      · rw [if_pos large]
        constructor
        · intro ⟨response, done⟩
          cases done
        · intro can
          exact absurd can.2.1 (Nat.not_le.mpr large)
      · rw [if_neg large]
        constructor
        · intro ⟨response, done⟩
          have reads : file.Reads io offset := by
            apply (@readExactAt_ok io file
              (ClipFiles.readSize offset length file.size) offset).mp
            cases read : (file.readExactAt io
              (ClipFiles.readSize offset length file.size) offset).1 with
            | error e =>
              rw [read] at done
              cases done
            | ok buf => exact ⟨buf, rfl⟩
          exact ⟨UInt64.not_lt.mp beyond, Nat.not_lt.mp large, reads⟩
        · intro can
          obtain ⟨buf, read⟩ := readExactAt_ok.mpr can.2.2
          rw [read]
          exact ⟨_, rfl⟩

variable {clip : ClipFiles}

/-- Where the answer is there, the opening of the next file decides. -/
theorem independent_reload {opened : ClipFiles} {response : ClipboardFile}
    (answer : request.answer connId io (clip.file? request) = .ok response)
    (same : opened.NextOpens io request ↔ clip.NextOpens io request)
    (served : ∃ work, (clip.serveFileContents connId io request).outcome =
      (opened.hotReload io request.fileIdx response work).outcome) :
    clip.Independent connId io request ↔ clip.NextOpens io request := by
  obtain ⟨work, served⟩ := served
  have reload := @ClipFiles.hotReload_outcome opened io request response work
  unfold ClipFiles.Independent
  rw [served, answer]
  constructor
  · intro done
    by_contra blocked
    obtain ⟨e, failed⟩ := reload.2 (same.not.mpr blocked)
    rw [failed] at done
    cases done
  · intro opens
    exact reload.1 (same.mpr opens)

/-- Where the file has no answer, the request ends with what the file gives. -/
theorem independent_of_not_answerable {file : LocalFile} (found : clip.file? request = some file)
    (cannot : ¬ request.Answerable io file) : clip.Independent connId io request := by
  unfold ClipFiles.Independent
  rw [found]
  cases request with
  | size streamId fileIdx => exact absurd trivial cannot
  | range streamId fileIdx offset length =>
    have entry : clip.fileList[fileIdx.toNat]? = some file := found
    unfold ClipFiles.serveFileContents ClipFiles.serveRange FileContentsRequest.answer
    dsimp only
    rw [entry]
    dsimp only
    by_cases beyond : offset > file.size
    · rw [if_pos beyond, if_pos beyond]
    · rw [if_neg beyond, if_neg beyond]
      by_cases large : (ClipFiles.readSize offset length file.size).toNat > isizeMax
      · rw [if_pos large, if_pos large]
      · rw [if_neg large, if_neg large]
        cases read :
          (file.readExactAt io (ClipFiles.readSize offset length file.size) offset).1 with
        | error e => rfl
        | ok buf =>
          have can := readExactAt_ok.mp ⟨buf, read⟩
          exact absurd ⟨UInt64.not_lt.mp beyond, Nat.not_lt.mp large, can⟩ cannot

theorem independent_of_answerable {file : LocalFile} (found : clip.file? request = some file)
    (can : request.Answerable io file) :
    clip.Independent connId io request ↔ clip.NextOpens io request := by
  cases request with
  | size streamId fileIdx =>
    have entry : clip.fileList[fileIdx.toNat]? = some file := found
    refine @independent_reload connId io _ clip clip
      (.fileContentsResponse 0x1 streamId (Lib.toLe 8 file.size.toNat)) ?_ Iff.rfl ⟨{}, ?_⟩
    · rw [found]
      rfl
    · unfold ClipFiles.serveFileContents
      dsimp only
      rw [entry]
      rfl
  | range streamId fileIdx offset length =>
    have entry : clip.fileList[fileIdx.toNat]? = some file := found
    obtain ⟨within, small, reads⟩ := can
    obtain ⟨buf, read⟩ :=
      (@readExactAt_ok io file (ClipFiles.readSize offset length file.size) offset).mpr reads
    refine @independent_reload connId io _ clip _ (.fileContentsResponse 0x1 streamId buf) ?_
      (ClipFiles.nextOpens_setFile
        (file.readExactAt io (ClipFiles.readSize offset length file.size) offset).2.1) ?_
    · rw [found, FileContentsRequest.answer]
      dsimp only
      rw [if_neg (UInt64.not_lt.mpr within), if_neg (Nat.not_lt.mpr small), read]
    · unfold ClipFiles.serveFileContents ClipFiles.serveRange
      dsimp only
      rw [entry]
      dsimp only
      rw [if_neg (UInt64.not_lt.mpr within), if_neg (Nat.not_lt.mpr small), read]
      exact ⟨_, rfl⟩

end Answer

/-- A request comes to what the file asked for gives, unless there is an answer and the next regular
file can neither be read already nor be opened. -/
theorem serve_independent_iff (clip : ClipFiles) (connId : Int32) (io : Io)
    (request : FileContentsRequest) :
    clip.Independent connId io request ↔
      ∀ file, clip.file? request = some file → request.Answerable io file →
        clip.NextOpens io request := by
  cases found : clip.file? request with
  | none =>
    constructor
    · intro _ file is
      cases is
    · intro _
      have missing : clip.fileList[request.fileIdx.toNat]? = none := found
      unfold ClipFiles.Independent
      rw [found]
      cases request with
      | size streamId fileIdx =>
        unfold ClipFiles.serveFileContents
        dsimp only
        rw [show clip.fileList[fileIdx.toNat]? = none from missing]
        rfl
      | range streamId fileIdx offset length =>
        unfold ClipFiles.serveFileContents
        dsimp only
        rw [show clip.fileList[fileIdx.toNat]? = none from missing]
        rfl
  | some file =>
    by_cases can : request.Answerable io file
    · rw [independent_of_answerable found can]
      constructor
      · intro opens _ _ _
        exact opens
      · intro always
        exact always file rfl can
    · constructor
      · intro _ other is able
        obtain rfl := Option.some.inj is
        exact absurd able can
      · intro _
        exact independent_of_not_answerable found can

/-- Two files, of which the second cannot be opened. -/
def twoFiles : ClipFiles where
  fileList := [
    { path := "/home/u/a.txt", relativePath := "a.txt", size := 3, lastWriteTime := 0,
      isDir := false, perm := 0o644 },
    { path := "/home/u/b.txt", relativePath := "b.txt", size := 3, lastWriteTime := 0,
      isDir := false, perm := 0 }]
  fits := by decide

/-- A disk with the bytes of the first file. -/
def firstOnly : Io where
  opens := true
  seeks := true
  reads := some fun k => [97, 98, 99].getD k 0
  opensNext := false

/-- The bytes of the first file are read, and the request fails for the second. -/
theorem unreadable_neighbour :
    (FileContentsRequest.range 7 0 0 3).answer 1 firstOnly twoFiles.fileList[0]? =
        .ok (.fileContentsResponse 0x1 7 [97, 98, 99]) ∧
      (twoFiles.serveFileContents 1 firstOnly (.range 7 0 0 3)).outcome =
        .error (.fileError "/home/u/b.txt") ∧
      ¬ twoFiles.Independent 1 firstOnly (.range 7 0 0 3) := by
  refine ⟨rfl, rfl, ?_⟩
  intro same
  cases same

end ChainRemote.Clipboard
