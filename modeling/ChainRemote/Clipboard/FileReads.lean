import ChainRemote.Lib.Machine
import ChainRemote.Clipboard.FileRange

/-!
# The bytes of copied files

An open handle stands somewhere in its file, and the offset kept beside it lets a request that goes
on there do without a seek. A read that fails moves the handle and not the offset. So a later
request for the offset kept is answered with the bytes from where the handle stands; all other
requests are answered with the bytes they ask for.
-/

namespace ChainRemote.Clipboard.FileReads

open Lib

/-- The files of the clipboard, and where their handles stand. -/
structure State where
  clip : ClipFiles
  position : Nat → Nat

/-- A request for a range, and what the disk does with it. -/
structure Event where
  connId : Int32
  streamId : Int32
  fileIdx : UInt64
  offset : UInt64
  length : UInt64
  opens : Bool := true
  seeks : Bool := true
  /-- A read that fails, after so many bytes. -/
  fails : Option Nat := none
  opensNext : Bool := true

variable (contents : Nat → Bytes)

/-- The entry that a request names. -/
def State.file? (s : State) (e : Event) : Option LocalFile := s.clip.fileList[e.fileIdx.toNat]?

/-- Where the handle of a file stands as soon as it is open. -/
def State.start (s : State) (e : Event) (file : LocalFile) : Nat :=
  if file.handle then s.position e.fileIdx.toNat else 0

/-- Where the read of a request starts: a seek is left out for the offset kept. -/
def State.readFrom (s : State) (e : Event) (file : LocalFile) : Nat :=
  if e.offset = file.offset then s.start e file else e.offset.toNat

/-- The length of the buffer that is read into. -/
def Event.readSize (e : Event) (file : LocalFile) : UInt64 :=
  ClipFiles.readSize e.offset e.length file.size

/-- Whether the request ends before the file is read. -/
def Event.Rejected (e : Event) (file : LocalFile) : Prop :=
  e.offset > file.size ∨ (e.readSize file).toNat > isizeMax

instance (e : Event) (file : LocalFile) : Decidable (e.Rejected file) :=
  inferInstanceAs (Decidable (_ ∨ _))

/-- `read_exact` from some place: the bytes, unless it fails or comes to the end of the file, and
where the handle stands then. -/
def readExact (content : Bytes) (fails : Option Nat) (place len : Nat) :
    Option (Nat → UInt8) × Nat :=
  match fails with
  | some consumed => (none, place + consumed)
  | none =>
    if place + len ≤ content.length then
      (some fun k => content.getD (place + k) 0, place + len)
    else (none, max place content.length)

/-- The read of a request. -/
def State.reading (s : State) (e : Event) (file : LocalFile) : Option (Nat → UInt8) × Nat :=
  readExact (contents e.fileIdx.toNat) e.fails (s.readFrom e file) (e.readSize file).toNat

/-- What the disk does during a request. -/
def State.io (s : State) (e : Event) : Io where
  opens := e.opens
  seeks := e.seeks
  reads := (s.file? e).bind fun file => (s.reading contents e file).1
  opensNext := e.opensNext

/-- `serve_file_contents` of the request. -/
def State.serve (s : State) (e : Event) : ClipFiles.Served :=
  s.clip.serveFileContents e.connId (s.io contents e)
    (.range e.streamId e.fileIdx e.offset e.length)

/-- Where the handle of the requested file stands after the request, if it is open. -/
def State.moved (s : State) (e : Event) (file : LocalFile) : Nat :=
  if e.Rejected file then s.position e.fileIdx.toNat
  else if e.offset ≠ file.offset ∧ e.seeks = false then s.start e file
  else (s.reading contents e file).2

/-- Where a handle stands after the request: another one that was opened stands at the start. -/
def State.placed (s : State) (e : Event) (index : Nat) : Nat :=
  match s.clip.fileList[index]? with
  | none => s.position index
  | some file =>
    if index = e.fileIdx.toNat then s.moved contents e file
    else if file.handle then s.position index
    else 0

/-- Requests for files with these contents, from a list of files that are not opened yet. -/
def requests : Machine State Event where
  start s := ∀ (index : Nat) (file : LocalFile), s.clip.fileList[index]? = some file →
    file.handle = false ∧ file.offset = 0 ∧
      (file.isDir = false → (contents index).length = file.size.toNat)
  step s e := some { clip := (s.serve contents e).clip, position := s.placed contents e }

/-- The sum of the offset and the length stays in 64 bits. -/
def NoOverflow (_ : State) (e : Event) : Prop :=
  e.offset.toNat + e.length.toNat < 18446744073709551616

instance (s : State) (e : Event) : Decidable (NoOverflow s e) :=
  inferInstanceAs (Decidable (_ < _))

/-- And no read fails. -/
def NoFailure (s : State) (e : Event) : Prop := NoOverflow s e ∧ e.fails.isNone = true

instance (s : State) (e : Event) : Decidable (NoFailure s e) :=
  inferInstanceAs (Decidable (_ ∧ _))

/-- The bytes that are asked for: those of the file from the offset on, at most so many. -/
def Event.requested (e : Event) : Bytes :=
  ((contents e.fileIdx.toNat).drop e.offset.toNat).take e.length.toNat

/-- Where the request is for the offset kept beside an open handle, the handle stands there, or the
file has the same bytes in both places. -/
def InPlace (s : State) (e : Event) : Prop :=
  ∀ file, s.file? e = some file → file.handle = true → e.offset = file.offset →
    ((contents e.fileIdx.toNat).drop (s.position e.fileIdx.toNat)).take
      (e.requested contents).length = e.requested contents

section Entries

variable {clip : ClipFiles} {io : Io} {file after : LocalFile} {index : Nat}

theorem loadHandle_cases {opens : Bool} {loaded : LocalFile}
    (done : file.loadHandle opens = .ok loaded) :
    loaded = file ∨ file.isDir = false ∧ file.handle = false ∧
      loaded = { file with handle := true } := by
  unfold LocalFile.loadHandle at done
  split at done
  · rename_i closed
    rw [Bool.and_eq_true, Bool.not_eq_true', Bool.not_eq_true'] at closed
    split at done
    · exact .inr ⟨closed.1, closed.2, (Except.ok.inj done).symm⟩
    · cases done
  · exact .inl (Except.ok.inj done).symm

theorem loadNext_entry {opens : Bool} {files loaded : List LocalFile}
    (done : ClipFiles.loadNext opens files = .ok loaded) (found : loaded[index]? = some after) :
    ∃ before, files[index]? = some before ∧
      (after = before ∨ before.loadHandle opens = .ok after) := by
  induction files generalizing loaded index with
  | nil =>
    obtain rfl := Except.ok.inj done
    cases found
  | cons file rest ih =>
    rw [ClipFiles.loadNext] at done
    split at done
    · cases handle : file.loadHandle opens with
      | error e =>
        rw [handle] at done
        cases done
      | ok opened =>
        rw [handle] at done
        obtain rfl := Except.ok.inj done
        cases index with
        | zero =>
          obtain rfl := Option.some.inj found
          exact ⟨file, rfl, .inr handle⟩
        | succ index => exact ⟨after, found, .inl rfl⟩
    · cases later : ClipFiles.loadNext opens rest with
      | error e =>
        rw [later] at done
        cases done
      | ok files =>
        rw [later] at done
        obtain rfl := Except.ok.inj done
        cases index with
        | zero =>
          obtain rfl := Option.some.inj found
          exact ⟨file, rfl, .inl rfl⟩
        | succ index => exact ih later found

/-- After an answer only a later entry may have been opened. -/
theorem hotReload_entry {fileIdx : UInt64} {response : ClipboardFile} {work : Work}
    (found : (clip.hotReload io fileIdx response work).clip.fileList[index]? = some after) :
    ∃ before, clip.fileList[index]? = some before ∧
      (after = before ∨
        fileIdx.toNat < index ∧ before.loadHandle io.opensNext = .ok after) := by
  unfold ClipFiles.hotReload at found
  simp only at found
  split at found
  · rename_i rest done
    simp only [ClipFiles.loaded, done, List.getElem?_append, List.length_take] at found
    split at found
    · rename_i early
      rw [List.getElem?_take_of_lt (by omega)] at found
      exact ⟨after, found, .inl rfl⟩
    · rename_i late
      obtain ⟨before, entry, same⟩ := loadNext_entry done found
      rw [List.getElem?_drop] at entry
      have inside := (List.getElem?_eq_some_iff.mp entry).1
      have place : fileIdx.toNat + 1 + (index - min (fileIdx.toNat + 1) clip.fileList.length) =
          index := by omega
      rw [place] at entry
      refine ⟨before, entry, same.imp_right fun handle => ⟨by omega, handle⟩⟩
  · exact ⟨after, found, .inl rfl⟩

/-- How `read_exact_at` ends. -/
inductive Read (io : Io) (bufLen offset : UInt64) (file : LocalFile) :
    Except CliprdrError Bytes → LocalFile → Prop
  /-- The file is not open. -/
  | closed (e : CliprdrError) (none : file.handle = false) :
      Read io bufLen offset file (.error e) file
  | failed (e : CliprdrError) (opened : file.handle = true ∨ file.isDir = false)
      (cause : offset ≠ file.offset ∧ io.seeks = false ∨
        ¬ (offset ≠ file.offset ∧ io.seeks = false) ∧ io.reads = none) :
      Read io bufLen offset file (.error e) { file with handle := true }
  | read (byte : Nat → UInt8) (opened : file.handle = true ∨ file.isDir = false)
      (sought : ¬ (offset ≠ file.offset ∧ io.seeks = false)) (reads : io.reads = some byte) :
      Read io bufLen offset file (.ok ((List.range bufLen.toNat).map byte))
        (if offset + bufLen ≥ file.size then { file with offset := 0, handle := false }
          else { file with handle := true, offset := offset + bufLen })

theorem readExactAt_read (io : Io) (bufLen offset : UInt64) (file : LocalFile) :
    Read io bufLen offset file (file.readExactAt io bufLen offset).1
      (file.readExactAt io bufLen offset).2.1 := by
  unfold LocalFile.readExactAt
  cases handle : file.loadHandle io.opens with
  | error e =>
    have none : file.handle = false := by
      by_contra open_
      unfold LocalFile.loadHandle at handle
      rw [Bool.not_eq_false] at open_
      rw [open_, Bool.not_true, Bool.and_false, if_neg (by decide)] at handle
      cases handle
    exact .closed e none
  | ok loaded =>
    dsimp only
    by_cases none : loaded.handle = false
    · rcases loadHandle_cases handle with rfl | ⟨-, -, rfl⟩
      · rw [none]
        exact .closed _ none
      · cases none
    · have there : loaded.handle = true := by simpa using none
      have shape : loaded = { file with handle := true } := by
        rcases loadHandle_cases handle with rfl | ⟨-, -, rfl⟩
        · rw [← there]
        · rfl
      have opened : file.handle = true ∨ file.isDir = false := by
        rcases loadHandle_cases handle with rfl | ⟨plain, -⟩
        · exact .inl there
        · exact .inr plain
      subst shape
      rw [Bool.not_true, if_neg (by decide)]
      dsimp only
      split
      · rename_i unsought
        rw [Bool.and_eq_true, bne_iff_ne, Bool.not_eq_true'] at unsought
        exact .failed _ opened (.inl unsought)
      · rename_i sought
        rw [Bool.and_eq_true, bne_iff_ne, Bool.not_eq_true'] at sought
        cases reads : io.reads with
        | none => exact .failed _ opened (.inr ⟨sought, reads⟩)
        | some byte => exact .read byte opened sought reads

end Entries

section Serve

variable {contents : Nat → Bytes} {s : State} {e : Event} {index : Nat} {after : LocalFile}

/-- What `read_exact_at` does for the request. -/
def State.readAt (contents : Nat → Bytes) (s : State) (e : Event) (file : LocalFile) :
    Except CliprdrError Bytes × LocalFile × Work :=
  file.readExactAt (s.io contents e) (e.readSize file) e.offset

theorem serve_missing (none : s.file? e = none) :
    (s.serve contents e).clip = s.clip ∧
      ∀ response, (s.serve contents e).outcome ≠ .ok response := by
  unfold State.file? at none
  unfold State.serve ClipFiles.serveFileContents
  dsimp only
  rw [none]
  exact ⟨rfl, fun _ => nofun⟩

theorem serve_found {file : LocalFile} (found : s.file? e = some file) :
    s.serve contents e = s.clip.serveRange e.connId (s.io contents e) e.streamId e.fileIdx e.offset
      e.length file := by
  unfold State.file? at found
  unfold State.serve ClipFiles.serveFileContents
  dsimp only
  rw [found]

theorem serve_rejected {file : LocalFile} (found : s.file? e = some file)
    (rejected : e.Rejected file) :
    (s.serve contents e).clip = s.clip ∧
      ∀ response, (s.serve contents e).outcome ≠ .ok response := by
  rw [serve_found found]
  unfold ClipFiles.serveRange
  by_cases beyond : e.offset > file.size
  · rw [if_pos beyond]
    exact ⟨rfl, fun _ => nofun⟩
  · have large : (ClipFiles.readSize e.offset e.length file.size).toNat > isizeMax :=
      rejected.resolve_left beyond
    rw [if_neg beyond]
    dsimp only
    rw [if_pos large]
    exact ⟨rfl, fun _ => nofun⟩

/-- A request that is not rejected is read, and a later file may be opened if that succeeds. -/
theorem serve_read {file : LocalFile} (found : s.file? e = some file)
    (accepted : ¬ e.Rejected file) :
    (∃ error, (s.readAt contents e file).1 = .error error ∧
      (s.serve contents e).clip = s.clip.setFile e.fileIdx.toNat (s.readAt contents e file).2.1 ∧
      (s.serve contents e).outcome = .error error) ∨
    ∃ data work, (s.readAt contents e file).1 = .ok data ∧
      s.serve contents e =
        (s.clip.setFile e.fileIdx.toNat (s.readAt contents e file).2.1).hotReload
          (s.io contents e) e.fileIdx (.fileContentsResponse 0x1 e.streamId data) work := by
  have within : ¬ e.offset > file.size := fun beyond => accepted (.inl beyond)
  have small : ¬ (ClipFiles.readSize e.offset e.length file.size).toNat > isizeMax :=
    fun large => accepted (.inr large)
  rw [serve_found found]
  unfold ClipFiles.serveRange
  rw [if_neg within]
  dsimp only
  rw [if_neg small]
  cases result : (s.readAt contents e file).1 with
  | error error =>
    left
    refine ⟨error, rfl, ?_⟩
    unfold State.readAt Event.readSize at result
    rw [result]
    exact ⟨rfl, rfl⟩
  | ok data =>
    right
    unfold State.readAt Event.readSize at result ⊢
    rw [result]
    exact ⟨data, _, rfl, rfl⟩

theorem setFile_entry {clip : ClipFiles} {changed : LocalFile} {i : Nat}
    (found : (clip.setFile i changed).fileList[index]? = some after) :
    ∃ before, clip.fileList[index]? = some before ∧
      (index ≠ i → after = before) ∧ (index = i → after = changed) := by
  simp only [ClipFiles.setFile, List.getElem?_set] at found
  split at found
  · rename_i own
    subst own
    split at found
    · rename_i inside
      obtain rfl := Option.some.inj found
      exact ⟨_, List.getElem?_eq_getElem inside, fun other => absurd rfl other, fun _ => rfl⟩
    · cases found
  · rename_i other
    exact ⟨after, found, fun _ => rfl, fun own => absurd own.symm other⟩

/-- What a request does to an entry. -/
theorem serve_entry (found : (s.serve contents e).clip.fileList[index]? = some after) :
    ∃ before, s.clip.fileList[index]? = some before ∧
      (index ≠ e.fileIdx.toNat → after = before ∨ before.loadHandle e.opensNext = .ok after) ∧
      (index = e.fileIdx.toNat → e.Rejected before ∧ after = before ∨
        ¬ e.Rejected before ∧ after = (s.readAt contents e before).2.1) := by
  cases entry : s.file? e with
  | none =>
    rw [(serve_missing entry).1] at found
    refine ⟨after, found, fun _ => .inl rfl, ?_⟩
    rintro rfl
    unfold State.file? at entry
    cases entry.symm.trans found
  | some file =>
    have here : s.clip.fileList[e.fileIdx.toNat]? = some file := entry
    by_cases rejected : e.Rejected file
    · rw [(serve_rejected entry rejected).1] at found
      refine ⟨after, found, fun _ => .inl rfl, ?_⟩
      rintro rfl
      obtain rfl := Option.some.inj (here.symm.trans found)
      exact .inl ⟨rejected, rfl⟩
    · have changed : ∃ before,
          (s.clip.setFile e.fileIdx.toNat (s.readAt contents e file).2.1).fileList[index]? =
            some before ∧
          (after = before ∨
            e.fileIdx.toNat < index ∧ before.loadHandle e.opensNext = .ok after) := by
        rcases serve_read entry rejected with ⟨error, -, clip, -⟩ | ⟨data, work, -, served⟩
        · rw [clip] at found
          exact ⟨after, found, .inl rfl⟩
        · rw [served] at found
          exact hotReload_entry found
      obtain ⟨read, there, reloaded⟩ := changed
      obtain ⟨before, first, others, own⟩ := setFile_entry there
      refine ⟨before, first, ?_, ?_⟩
      · intro other
        rw [← others other]
        exact reloaded.imp_right And.right
      · intro same
        have latest : after = read := reloaded.resolve_right fun later => by omega
        subst same
        obtain rfl := Option.some.inj (here.symm.trans first)
        exact .inr ⟨rejected, latest.trans (own rfl)⟩

/-- An answer has the bytes that were read. -/
theorem serve_answer {response : ClipboardFile}
    (answered : (s.serve contents e).outcome = .ok response) :
    ∃ file data, s.file? e = some file ∧ ¬ e.Rejected file ∧
      (s.readAt contents e file).1 = .ok data ∧
      response = .fileContentsResponse 0x1 e.streamId data := by
  cases entry : s.file? e with
  | none => exact absurd answered ((serve_missing entry).2 response)
  | some file =>
    by_cases rejected : e.Rejected file
    · exact absurd answered ((serve_rejected entry rejected).2 response)
    · rcases serve_read entry rejected with ⟨error, -, -, failed⟩ | ⟨data, work, read, served⟩
      · rw [failed] at answered
        cases answered
      · refine ⟨file, data, rfl, rejected, read, ?_⟩
        rw [served] at answered
        unfold ClipFiles.hotReload at answered
        dsimp only at answered
        split at answered
        · injection answered with same
          exact same.symm
        · cases answered

end Serve

section Bytes

variable {contents : Nat → Bytes} {s t : State} {e : Event} {file after : LocalFile} {index : Nat}

/-- What every entry keeps: a file that is not open has no offset kept, and its size is right. -/
structure Sound (contents : Nat → Bytes) (index : Nat) (file : LocalFile) : Prop where
  rested : file.handle = false → file.offset = 0
  plain : file.handle = true → file.isDir = false
  sized : file.isDir = false → (contents index).length = file.size.toNat

theorem Sound.opened (sound : Sound contents index file)
    (opened : file.handle = true ∨ file.isDir = false) : file.isDir = false :=
  opened.elim sound.plain id

theorem Sound.loadHandle (sound : Sound contents index file) {opens : Bool}
    (done : file.loadHandle opens = .ok after) : Sound contents index after := by
  rcases loadHandle_cases done with rfl | ⟨plain, -, rfl⟩
  · exact sound
  · exact ⟨nofun, fun _ => plain, sound.sized⟩

theorem Sound.read (sound : Sound contents index file) {io : Io} {bufLen offset : UInt64}
    {result : Except CliprdrError Bytes} (read : Read io bufLen offset file result after) :
    Sound contents index after := by
  cases read with
  | closed => exact sound
  | failed e opened => exact ⟨nofun, fun _ => sound.opened opened, sound.sized⟩
  | read byte opened =>
    split
    · exact ⟨fun _ => rfl, nofun, sound.sized⟩
    · exact ⟨nofun, fun _ => sound.opened opened, sound.sized⟩

/-- All entries of the list. -/
def AllSound (contents : Nat → Bytes) (s : State) : Prop :=
  ∀ index file, s.clip.fileList[index]? = some file → Sound contents index file

theorem AllSound.step (sound : AllSound contents s)
    (stepped : (requests contents).step s e = some t) : AllSound contents t := by
  obtain rfl := Option.some.inj stepped
  intro index after found
  obtain ⟨before, first, others, own⟩ := serve_entry found
  have held := sound index before first
  by_cases same : index = e.fileIdx.toNat
  · rcases own same with ⟨-, rfl⟩ | ⟨-, rfl⟩
    · exact held
    · exact held.read (readExactAt_read ..)
  · rcases others same with rfl | handle
    · exact held
    · exact held.loadHandle handle

theorem allSound_start (started : (requests contents).start s) : AllSound contents s := by
  intro index file found
  obtain ⟨closed, offset, sized⟩ := started index file found
  refine ⟨fun _ => offset, ?_, sized⟩
  intro open_
  exact absurd (closed.symm.trans open_) (by decide)

/-- The buffer is as long as what is left of the file, or as the request. -/
theorem toNat_readSize (accepted : ¬ e.Rejected file) (sum : NoOverflow s e) :
    e.offset.toNat + (e.readSize file).toNat ≤ file.size.toNat ∧
      (e.readSize file).toNat = min e.length.toNat (file.size.toNat - e.offset.toNat) := by
  have beyond : ¬ e.offset > file.size := fun beyond => accepted (.inl beyond)
  have within : e.offset.toNat ≤ file.size.toNat :=
    UInt64.le_iff_toNat_le.mp (UInt64.not_lt.mp beyond)
  have added : (e.offset + e.length).toNat = e.offset.toNat + e.length.toNat := by
    rw [UInt64.toNat_add, Nat.mod_eq_of_lt sum]
  refine ⟨ClipFiles.readSize_bound beyond sum, ?_⟩
  unfold Event.readSize ClipFiles.readSize
  split
  · rename_i long
    have long : file.size.toNat < (e.offset + e.length).toNat := UInt64.lt_iff_toNat_lt.mp long
    rw [UInt64.toNat_sub_of_le _ _ (UInt64.le_iff_toNat_le.mpr within)]
    omega
  · rename_i short
    have short : (e.offset + e.length).toNat ≤ file.size.toNat :=
      UInt64.le_iff_toNat_le.mp (UInt64.not_lt.mp short)
    omega

/-- The requested bytes are those of the length of the buffer. -/
theorem requested_readSize (sized : (contents e.fileIdx.toNat).length = file.size.toNat)
    (accepted : ¬ e.Rejected file) (sum : NoOverflow s e) :
    e.requested contents =
        ((contents e.fileIdx.toNat).drop e.offset.toNat).take (e.readSize file).toNat ∧
      (e.requested contents).length = (e.readSize file).toNat := by
  obtain ⟨-, size⟩ := toNat_readSize accepted sum
  constructor
  · unfold Event.requested
    rw [List.take_eq_take_iff, List.length_drop, sized]
    omega
  · unfold Event.requested
    rw [List.length_take, List.length_drop, sized]
    omega

theorem range_getD {content : Bytes} {place len : Nat} (fits : place + len ≤ content.length) :
    (List.range len).map (fun k => content.getD (place + k) 0) =
      (content.drop place).take len := by
  apply List.ext_getElem
  · rw [List.length_map, List.length_range, List.length_take, List.length_drop]
    omega
  · intro k left right
    rw [List.length_map, List.length_range] at left
    rw [List.getElem_map, List.getElem_range, List.getElem_take, List.getElem_drop,
      List.getElem_eq_getD 0]

/-- What a read that succeeds gives. -/
theorem readExact_some {content : Bytes} {fails : Option Nat} {place len : Nat} {byte : Nat → UInt8}
    (read : (readExact content fails place len).1 = some byte) :
    (List.range len).map byte = (content.drop place).take len := by
  unfold readExact at read
  split at read
  · cases read
  · split at read
    · rename_i fits
      obtain rfl := Option.some.inj read
      exact range_getD fits
    · cases read

/-- A read that gives bytes was made, of a file that could be opened. -/
theorem Read.ok {io : Io} {bufLen offset : UInt64} {data : Bytes}
    (read : Read io bufLen offset file (.ok data) after) :
    (file.handle = true ∨ file.isDir = false) ∧
      ∃ byte, io.reads = some byte ∧ data = (List.range bufLen.toNat).map byte := by
  cases read with
  | read byte opened sought reads => exact ⟨opened, byte, reads, rfl⟩

/-- An answer has the bytes from where the read starts. -/
theorem readAt_bytes (found : s.file? e = some file) {data : Bytes}
    (read : (s.readAt contents e file).1 = .ok data) :
    data = ((contents e.fileIdx.toNat).drop (s.readFrom e file)).take (e.readSize file).toNat := by
  have shape := readExactAt_read (s.io contents e) (e.readSize file) e.offset file
  unfold State.readAt at read
  rw [read] at shape
  obtain ⟨-, byte, reads, rfl⟩ := shape.ok
  have given : (s.reading contents e file).1 = some byte := by
    unfold State.io at reads
    rw [found] at reads
    exact reads
  exact readExact_some given

/-- In every state reached an answer has the bytes that are asked for exactly where the handle is in
place. -/
theorem answer_iff (sound : AllSound contents s) (sum : NoOverflow s e) {response : ClipboardFile}
    (answered : (s.serve contents e).outcome = .ok response) :
    ∃ data, response = .fileContentsResponse 0x1 e.streamId data ∧
      (data = e.requested contents ↔ InPlace contents s e) := by
  obtain ⟨file, data, found, accepted, read, rfl⟩ := serve_answer answered
  have bytes := readAt_bytes found read
  have held := sound _ file found
  have plain : file.isDir = false := by
    have shape := readExactAt_read (s.io contents e) (e.readSize file) e.offset file
    unfold State.readAt at read
    rw [read] at shape
    exact held.opened shape.ok.1
  obtain ⟨whole, length⟩ := requested_readSize (held.sized plain) accepted sum
  refine ⟨data, rfl, ?_⟩
  by_cases kept : e.offset = file.offset
  · cases open_ : file.handle with
    | false =>
      -- a file that is opened for the request is read from its start, the offset kept for it
      have start : s.readFrom e file = e.offset.toNat := by
        unfold State.readFrom State.start
        rw [if_pos kept, open_, if_neg (by decide), kept, held.rested open_]
        rfl
      rw [start, ← whole] at bytes
      refine ⟨fun _ other same there _ => ?_, fun _ => bytes⟩
      obtain rfl := Option.some.inj (found.symm.trans same)
      exact absurd (open_.symm.trans there) (by decide)
    | true =>
      have start : s.readFrom e file = s.position e.fileIdx.toNat := by
        unfold State.readFrom State.start
        rw [if_pos kept, open_, if_pos rfl]
      rw [start, ← length] at bytes
      rw [bytes]
      constructor
      · intro right other same _ _
        exact right
      · intro place
        exact place file found open_ kept
  · have start : s.readFrom e file = e.offset.toNat := if_neg kept
    rw [start, ← whole] at bytes
    refine ⟨fun _ other same _ there => ?_, fun _ => bytes⟩
    obtain rfl := Option.some.inj (found.symm.trans same)
    exact absurd there kept

/-- Every open handle stands at the offset kept beside it. -/
def Placed (s : State) : Prop :=
  ∀ index file, s.clip.fileList[index]? = some file → file.handle = true →
    s.position index = file.offset.toNat

theorem Placed.inPlace (placed : Placed s) : InPlace contents s e := by
  intro file found open_ kept
  rw [placed _ file found open_, ← kept]
  exact (List.prefix_iff_eq_take.mp (List.take_prefix _ _)).symm

/-- In place, every read starts at the offset that is asked for. -/
theorem Placed.readFrom (placed : Placed s) (sound : AllSound contents s)
    (found : s.file? e = some file) :
    s.start e file = file.offset.toNat ∧ s.readFrom e file = e.offset.toNat := by
  have start : s.start e file = file.offset.toNat := by
    unfold State.start
    cases open_ : file.handle with
    | false =>
      rw [if_neg (by decide), (sound _ file found).rested open_]
      rfl
    | true => rw [if_pos rfl, placed _ file found open_]
  refine ⟨start, ?_⟩
  unfold State.readFrom
  split
  · rename_i kept
    rw [start, kept]
  · rfl

/-- Where no read fails on the way, the handle that was read stands behind the bytes. -/
theorem Placed.moved (placed : Placed s) (sound : AllSound contents s) (sum : NoOverflow s e)
    (reads : e.fails = none) (found : s.file? e = some file) (accepted : ¬ e.Rejected file)
    {result : Except CliprdrError Bytes}
    (read : Read (s.io contents e) (e.readSize file) e.offset file result after)
    (open_ : after.handle = true) : s.moved contents e file = after.offset.toNat := by
  obtain ⟨start, place⟩ := placed.readFrom sound found
  have held := sound _ file found
  obtain ⟨bound, -⟩ := toNat_readSize accepted sum
  have reading (plain : file.isDir = false) : (s.reading contents e file) =
      (some fun k => (contents e.fileIdx.toNat).getD (e.offset.toNat + k) 0,
        e.offset.toNat + (e.readSize file).toNat) := by
    unfold State.reading readExact
    rw [reads, place]
    dsimp only
    rw [if_pos (by rw [held.sized plain]; exact bound)]
  unfold State.moved
  rw [if_neg accepted]
  cases read with
  | closed e none => exact absurd (none.symm.trans open_) (by decide)
  | failed error opened cause =>
    rcases cause with unsought | ⟨-, failed⟩
    · have unsought : e.offset ≠ file.offset ∧ e.seeks = false := unsought
      rw [if_pos unsought, start]
    · -- the read comes to the end of its buffer
      unfold State.io at failed
      rw [found, Option.bind_some, reading (held.opened opened)] at failed
      cases failed
  | read byte opened sought =>
    have sought : ¬ (e.offset ≠ file.offset ∧ e.seeks = false) := sought
    rw [if_neg sought, reading (held.opened opened)]
    dsimp only
    split at open_
    · cases open_
    · rename_i more
      rw [if_neg more]
      dsimp only
      rw [UInt64.toNat_add, Nat.mod_eq_of_lt]
      have size := file.size.toNat_lt
      omega

theorem Placed.step (placed : Placed s) (sound : AllSound contents s) (sum : NoOverflow s e)
    (reads : e.fails = none) (stepped : (requests contents).step s e = some t) : Placed t := by
  obtain rfl := Option.some.inj stepped
  intro index after found open_
  obtain ⟨before, first, others, own⟩ := serve_entry found
  have here : s.placed contents e index =
      if index = e.fileIdx.toNat then s.moved contents e before
      else if before.handle then s.position index else 0 := by
    unfold State.placed
    rw [first]
  show s.placed contents e index = after.offset.toNat
  rw [here]
  by_cases same : index = e.fileIdx.toNat
  · subst same
    rw [if_pos rfl]
    rcases own rfl with ⟨rejected, rfl⟩ | ⟨accepted, rfl⟩
    · unfold State.moved
      rw [if_pos rejected]
      exact placed _ after first open_
    · exact placed.moved sound sum reads first accepted (readExactAt_read ..) open_
  · rw [if_neg same]
    have kept (there : before.handle = true) (eq : after = before) :
        (if before.handle then s.position index else 0) = after.offset.toNat := by
      rw [if_pos there, eq]
      exact placed index before first there
    rcases others same with rfl | handle
    · exact kept open_ rfl
    · rcases loadHandle_cases handle with rfl | ⟨-, closed, rfl⟩
      · exact kept open_ rfl
      · -- a file that was opened by the way stands at its start, where its offset is
        rw [closed, if_neg (by decide)]
        dsimp only
        rw [(sound index before first).rested closed]
        rfl

/-- For every list of files that keep their contents and every run of requests, with reads that fail
anywhere, an answer has the bytes that are asked for exactly where the open handle is in place for
them. It always is as long as no read fails. -/
theorem served_bytes (contents : Nat → Bytes) :
    (requests contents).Always NoOverflow (fun s e _ =>
      ∀ response, (s.serve contents e).outcome = .ok response →
        ∃ data, response = .fileContentsResponse 0x1 e.streamId data ∧
          (data = e.requested contents ↔ InPlace contents s e)) ∧
    ∀ s, (requests contents).Reaches NoFailure s → ∀ e, InPlace contents s e := by
  constructor
  · refine Machine.Always.of_invariant (AllSound contents) (fun s => allSound_start) ?_ ?_
    · intro s e t sound _ stepped
      exact sound.step stepped
    · intro s e t sound sum _ response answered
      exact answer_iff sound sum answered
  · intro s reached e
    have both : AllSound contents s ∧ Placed s := by
      refine reached.invariant (fun s => AllSound contents s ∧ Placed s) ?_ ?_
      · intro s started
        refine ⟨allSound_start started, ?_⟩
        intro index file found open_
        exact absurd ((started index file found).1.symm.trans open_) (by decide)
      · intro s e t held guarded stepped
        have reads : e.fails = none := Option.isNone_iff_eq_none.mp guarded.2
        exact ⟨held.1.step stepped, held.2.step held.1 guarded.1 reads stepped⟩
    exact both.2.inPlace

/-- A file of six bytes. -/
def six : LocalFile where
  path := "/six"
  relativePath := "six"
  size := 6
  lastWriteTime := 0
  isDir := false
  perm := 0o644

theorem six_fits : [six].length ≤ isizeMax := by decide

def fresh : State where
  clip := { fileList := [six], firstFileIndex := 0, fits := six_fits }
  position := fun _ => 0

def digits : Nat → Bytes := fun _ => [1, 2, 3, 4, 5, 6]

/-- A request for the first four bytes. -/
def firstFour (fails : Option Nat) : Event where
  connId := 1
  streamId := 7
  fileIdx := 0
  offset := 0
  length := 4
  fails

/-- A request for the other two. -/
def lastTwo : Event where
  connId := 1
  streamId := 8
  fileIdx := 0
  offset := 4
  length := 4

theorem fresh_start : (requests digits).start fresh := by
  intro index file found
  cases index with
  | zero =>
    obtain rfl := Option.some.inj found
    exact ⟨rfl, rfl, fun _ => rfl⟩
  | succ index => cases found

/-- After the first four bytes. -/
def fourRead : State := (requests digits).play NoFailure fresh [firstFour none]

theorem fourRead_reached : (requests digits).Reaches NoFailure fourRead :=
  ⟨fresh, fresh_start, Machine.runs_play (requests digits) NoFailure fresh [firstFour none]⟩

theorem served_bytes_last_two :
    (fourRead.serve digits lastTwo).outcome =
      .ok (.fileContentsResponse 0x1 8 (lastTwo.requested digits)) := by
  have answered : (fourRead.serve digits lastTwo).outcome =
      .ok (.fileContentsResponse 0x1 8 [5, 6]) := by rfl
  obtain ⟨always, placed⟩ := served_bytes digits
  obtain ⟨start, started, run⟩ := fourRead_reached
  obtain ⟨data, same, right⟩ := always fourRead lastTwo _
    ⟨start, started, run.mono fun _ _ => And.left⟩ (by decide) rfl _ answered
  have bytes := right.mpr (placed fourRead fourRead_reached lastTwo)
  rw [answered, same, bytes]
  rfl

/-- After a read that fails half way, the same request is answered with the bytes behind. -/
theorem retry_wrong : ∃ s, (requests digits).Reaches NoOverflow s ∧ NoOverflow s (firstFour none) ∧
    (s.serve digits (firstFour none)).outcome =
      .ok (.fileContentsResponse 0x1 7 [3, 4, 5, 6]) ∧
    (firstFour none).requested digits = [1, 2, 3, 4] := by
  have run := Machine.runs_play (requests digits) NoOverflow fresh [firstFour (some 2)]
  exact ⟨_, ⟨fresh, fresh_start, run⟩, by decide, by rfl, by decide⟩

end Bytes

end ChainRemote.Clipboard.FileReads
