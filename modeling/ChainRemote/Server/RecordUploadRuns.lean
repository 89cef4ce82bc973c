import ChainRemote.Lib.UnixPath
import ChainRemote.Server.RecordQueue

/-!
# Uploaded recordings are the local ones

Behind the header the copy at the server is a beginning of the local file at any time, as parts are
read from where the copy has all, and the length that counts as uploaded is never above what was
sent. When the file has come to rest before its last part is read, the copy is as long, and the
header makes it the file.
-/

namespace ChainRemote.Server.RecordUpload

open Lib

/-! ## The copy -/

/-- What holds between two steps for a file of some content: what its copy at the server has, and
what is in the hands of the uploader. Where the file is `settled`, it has come to rest. -/
def Stage (settled : Prop) (file : Nat) (content : Bytes) (uploadSize : Nat) (copy : Bytes) :
    Phase → Prop
  | .opened opened => opened = file
  | .reading opened len buf =>
    opened = file ∧ Chunk maxHeaderLen uploadSize buf content ∧ len ≤ content.length ∧
      (settled → len = content.length)
  | .part len buf =>
    Chunk maxHeaderLen uploadSize buf content ∧ len ≤ uploadSize + buf.length ∧
      (settled → len = content.length)
  | .tail => settled → copy.length = content.length
  | .tailOpened opened => opened = file ∧ (settled → copy.length = content.length)
  | .header buf => settled → copy.length = content.length ∧ buf = content.take maxHeaderLen
  | _ => True

/-- The copy of a file, once its upload has begun, and what is done with it. -/
structure Stored (settled : Prop) (file : Nat) (content : Bytes) (uploadSize : Nat)
    (stored : Option Bytes) (phase : Option Phase) : Prop where
  new : phase = some .new → uploadSize = 0
  copied : phase ≠ some .new → ∃ copy, stored = some copy ∧
    Copies maxHeaderLen uploadSize copy content ∧
    ∀ now, phase = some now → Stage settled file content uploadSize copy now

section Stored

variable {settled later : Prop} {file uploadSize : Nat} {content more copy : Bytes}
  {stored : Option Bytes} {phase : Option Phase}

theorem Stage.grows {phase : Phase} (stage : Stage settled file content uploadSize copy phase)
    (grows : Grows maxHeaderLen content more) (rests : later → settled ∧ more = content) :
    Stage later file more uploadSize copy phase := by
  cases phase with
  | new | remove | frame => trivial
  | opened opened => exact stage
  | reading opened len buf =>
    obtain ⟨own, chunk, within, whole⟩ := stage
    refine ⟨own, chunk.grows grows, Nat.le_trans within grows.longer, ?_⟩
    intro now
    rw [(rests now).2]
    exact whole (rests now).1
  | part len buf =>
    obtain ⟨chunk, enough, whole⟩ := stage
    refine ⟨chunk.grows grows, enough, ?_⟩
    intro now
    rw [(rests now).2]
    exact whole (rests now).1
  | tail =>
    intro now
    rw [(rests now).2]
    exact stage (rests now).1
  | tailOpened opened =>
    refine ⟨stage.1, ?_⟩
    intro now
    rw [(rests now).2]
    exact stage.2 (rests now).1
  | header buf =>
    intro now
    rw [(rests now).2]
    exact stage (rests now).1

/-- The file may grow meanwhile. -/
theorem Stored.grows (holds : Stored settled file content uploadSize stored phase)
    (grows : Grows maxHeaderLen content more) (rests : later → settled ∧ more = content) :
    Stored later file more uploadSize stored phase where
  new := holds.new
  copied begun := by
    obtain ⟨copy, there, copies, stage⟩ := holds.copied begun
    exact ⟨copy, there, copies.grows grows, fun now is => (stage now is).grows grows rests⟩

/-- Nothing more is known when the uploader is done with a state. -/
theorem Stored.rest {now : Phase} (holds : Stored settled file content uploadSize stored (some now))
    (begun : now ≠ .new) : Stored later file content uploadSize stored none where
  new := nofun
  copied _ := by
    obtain ⟨copy, there, copies, -⟩ := holds.copied fun is => begun (Option.some.inj is)
    exact ⟨copy, there, copies, nofun⟩

/-- Nothing has to be known when a state comes. -/
theorem Stored.start {now : Phase} (holds : Stored settled file content uploadSize stored none)
    (begun : now ≠ .new) (stage : ∀ copy, Stage later file content uploadSize copy now) :
    Stored later file content uploadSize stored (some now) where
  new is := absurd (Option.some.inj is) begun
  copied _ := by
    obtain ⟨copy, there, copies, -⟩ := holds.copied nofun
    exact ⟨copy, there, copies, fun other is => Option.some.inj is ▸ stage copy⟩

end Stored

/-! ## The uploader -/

/-- Nothing was written since the state was sent. -/
def RecordState.settled (changes : Nat → Nat) : RecordState → Prop
  | .writeTail recording known => changes recording.file = known
  | _ => False

/-- The recording that the uploader is at. -/
def System.about (s : System) : Option Recording :=
  match s.uploader.handling with
  | some (.writeTail recording _, _) | some (.removeFile recording, _) => some recording
  | _ => s.session

/-- What the uploader has of a recording, as long as that is at its path. -/
structure Session (fileName : String → Option String) (s : System) (recording : Recording) :
    Prop where
  filepath : s.uploader.filepath = recording.filepath
  filename : fileName recording.filepath = some s.uploader.filename
  fresh : recording.file < s.created
  stored : s.names recording.filepath = some recording.file →
    Stored (∃ state ∈ s.uploader.handling.map Prod.fst, state.settled s.changes) recording.file
      (s.files recording.file) s.uploader.uploadSize (s.server s.uploader.filename)
      (s.uploader.handling.map Prod.snd)

/-- The states for which a phase is. -/
def Fits (state : RecordState) : Phase → Prop
  | .remove => ∃ recording, state = .removeFile recording
  | .tail | .tailOpened _ | .header _ => ∃ recording changes, state = .writeTail recording changes
  | _ => True

theorem writeTail_of_flush {state : RecordState} (flush : state.flush = true) :
    ∃ recording changes, state = .writeTail recording changes := by
  cases state with
  | writeTail recording changes => exact ⟨recording, changes, rfl⟩
  | newFile _ | newFrame | removeFile _ => cases flush

/-- After `handle_frame` the uploader is at the tail of its state, or done with it. -/
theorem framed_fits (uploader : RecordUploader) (state : RecordState) :
    ∀ handled ∈ (uploader.framed state).handling, handled.1 = state ∧ Fits state handled.2 := by
  intro handled inside
  unfold RecordUploader.framed at inside
  dsimp only at inside
  split at inside
  · rename_i flush
    rw [← Option.some.inj inside]
    exact ⟨rfl, writeTail_of_flush flush⟩
  · cases inside

/-- What holds of the uploader. -/
structure Uploads (fileName : String → Option String) (s : System) : Prop where
  running : ∀ handled ∈ s.uploader.handling, s.uploader.running = true
  fits : ∀ handled ∈ s.uploader.handling, Fits handled.1 handled.2
  session : ∀ handled ∈ s.uploader.handling, handled.1.session s.session = s.session
  uploaded : s.uploader.running = true → ∀ recording, s.about = some recording →
    Session fileName s recording

section Uploads

variable {fileName : String → Option String} {s t : System} {state : RecordState} {phase : Phase}

/-- The uploader goes on with a state, or is done with it. -/
theorem Uploads.moves (uploads : Uploads fileName s)
    (handles : s.uploader.handling = some (state, phase)) {uploader : RecordUploader}
    {server : String → Option Bytes} (filepath : uploader.filepath = s.uploader.filepath)
    (filename : uploader.filename = s.uploader.filename)
    (running : uploader.running = s.uploader.running)
    (same : ∀ handled ∈ uploader.handling, handled.1 = state ∧ Fits state handled.2)
    (stored : ∀ file, s.names uploader.filepath = some file →
      Stored (state.settled s.changes) file (s.files file) s.uploader.uploadSize
        (s.server s.uploader.filename) (some phase) →
      Stored (state.settled s.changes) file (s.files file) uploader.uploadSize
        (server uploader.filename) (uploader.handling.map Prod.snd)) :
    Uploads fileName { s with server, uploader } where
  running handled inside := running.trans (uploads.running _ handles)
  fits handled inside := by
    rw [(same handled inside).1]
    exact (same handled inside).2
  session handled inside := by
    rw [(same handled inside).1]
    exact uploads.session _ handles
  uploaded active recording about := by
    have was : s.about = some recording := by
      have kept := uploads.session _ handles
      unfold System.about at about ⊢
      rw [handles]
      dsimp only at about kept ⊢
      cases next : uploader.handling with
      | none =>
        rw [next] at about
        dsimp only at about
        cases state with
        | newFile _ | newFrame => exact about
        | writeTail _ _ | removeFile _ =>
          rw [← kept] at about
          cases about
      | some handled =>
        obtain ⟨other, now⟩ := handled
        have own : other = state := (same _ next).1
        subst own
        rw [next] at about
        cases other with
        | newFile _ | newFrame | writeTail _ _ | removeFile _ => exact about
    have before := uploads.uploaded (running.symm.trans active) recording was
    refine ⟨filepath.trans before.filepath, ?_, before.fresh, ?_⟩
    · dsimp only
      rw [filename]
      exact before.filename
    · intro named
      have known := before.stored named
      rw [handles] at known
      have now := stored recording.file (by
        rw [filepath, before.filepath]
        exact named) (known.grows (Grows.refl _ _) fun rests => ⟨⟨state, rfl, rests⟩, rfl⟩)
      refine now.grows (Grows.refl _ _) ?_
      rintro ⟨other, inside, rests⟩
      obtain ⟨handled, there, rfl⟩ := Option.map_eq_some_iff.mp inside
      rw [(same handled there).1] at rests
      exact ⟨rests, rfl⟩

/-- A step that fails leaves nothing to be uploaded. -/
theorem Uploads.failed (server : String → Option Bytes) :
    Uploads fileName { s with server, uploader := s.uploader.failed } where
  running := nofun
  fits := nofun
  session := nofun
  uploaded active := by cases active

/-- After `handle_frame` the copy of a file that has come to rest is as long as the file. -/
theorem Uploads.framed (uploads : Uploads fileName s)
    (handles : s.uploader.handling = some (state, phase)) {server : String → Option Bytes}
    {uploadSize lastSend : Nat}
    (stored : ∀ file, s.names s.uploader.filepath = some file →
      Stored (state.settled s.changes) file (s.files file) s.uploader.uploadSize
        (s.server s.uploader.filename) (some phase) →
      ∃ copy, server s.uploader.filename = some copy ∧
        Copies maxHeaderLen uploadSize copy (s.files file) ∧
        (state.flush = true → state.settled s.changes → copy.length = (s.files file).length)) :
    Uploads fileName { s with
      server
      uploader := { s.uploader with uploadSize, lastSend }.framed state } := by
  refine uploads.moves handles rfl rfl rfl (framed_fits _ state) ?_
  intro file named known
  obtain ⟨copy, there, copies, whole⟩ := stored file named known
  unfold RecordUploader.framed
  dsimp only
  by_cases flush : state.flush = true
  · rw [if_pos flush]
    refine ⟨nofun, fun _ => ⟨copy, there, copies, ?_⟩⟩
    intro now is
    obtain rfl := Option.some.inj is
    exact whole flush
  · rw [if_neg flush]
    exact ⟨nofun, fun _ => ⟨copy, there, copies, nofun⟩⟩

/-- The uploader goes on with the same file and the same copy. -/
theorem Uploads.goesOn (uploads : Uploads fileName s)
    (handles : s.uploader.handling = some (state, phase)) (begun : phase ≠ .new) {next : Phase}
    (later : next ≠ .new) (fits : Fits state phase → Fits state next)
    (stage : ∀ file copy, s.names s.uploader.filepath = some file →
      Stage (state.settled s.changes) file (s.files file) s.uploader.uploadSize copy phase →
      Stage (state.settled s.changes) file (s.files file) s.uploader.uploadSize copy next) :
    Uploads fileName { s with uploader := { s.uploader with handling := some (state, next) } } := by
  refine uploads.moves handles rfl rfl rfl (fun _ is => ?_) ?_
  · rw [← Option.some.inj is]
    exact ⟨rfl, fits (uploads.fits _ handles)⟩
  · intro file named known
    obtain ⟨copy, there, copies, before⟩ := known.copied fun is => begun (Option.some.inj is)
    refine ⟨fun is => absurd (Option.some.inj is) later, fun _ => ⟨copy, there, copies, ?_⟩⟩
    intro phase is
    obtain rfl := Option.some.inj is
    exact stage file copy named (before _ rfl)

/-- `handle_frame` that sends nothing. -/
theorem Uploads.early (uploads : Uploads fileName s)
    (handles : s.uploader.handling = some (state, phase)) (begun : phase ≠ .new)
    (whole : ∀ file copy, Copies maxHeaderLen s.uploader.uploadSize copy (s.files file) →
      Stage (state.settled s.changes) file (s.files file) s.uploader.uploadSize copy phase →
      state.flush = true → copy.length = (s.files file).length) :
    Uploads fileName { s with uploader := s.uploader.framed state } := by
  refine uploads.framed handles ?_
  intro file _ known
  obtain ⟨copy, there, copies, stage⟩ := known.copied fun is => begun (Option.some.inj is)
  exact ⟨copy, there, copies, fun flush _ => whole file copy copies (stage _ rfl) flush⟩

theorem Uploads.work (uploads : Uploads fileName s) {now : Nat} {uploader : RecordUploader}
    (next : s.uploader.work s.names s.files now = some uploader) :
    Uploads fileName { s with uploader } := by
  unfold RecordUploader.work at next
  split at next
  · -- `handle_frame` is too early, or opens the file that is at the path.
    rename_i state handles
    split at next
    · rename_i early
      obtain rfl := Option.some.inj next
      refine uploads.early handles nofun ?_
      intro _ _ _ _ flush
      rw [flush] at early
      cases early
    · split at next
      · rename_i opened named
        obtain rfl := Option.some.inj next
        refine uploads.goesOn handles nofun nofun id ?_
        intro file _ own _
        exact Option.some.inj (named.symm.trans own)
      · obtain rfl := Option.some.inj next
        exact Uploads.failed s.server
  · -- It has all that there is, or waits for more, or reads from where the copy has all.
    rename_i state opened handles
    dsimp only at next
    split at next
    · rename_i all
      obtain rfl := Option.some.inj next
      refine uploads.early handles nofun ?_
      rintro file copy copies rfl -
      exact Nat.le_antisymm copies.within (Nat.le_trans all copies.uploaded)
    · rename_i more
      split at next
      · rename_i early
        obtain rfl := Option.some.inj next
        refine uploads.early handles nofun ?_
        intro _ _ _ _ flush
        rw [flush] at early
        cases early
      · obtain rfl := Option.some.inj next
        refine uploads.goesOn handles nofun nofun id ?_
        rintro file copy - rfl
        have room := Nat.le_of_lt (Nat.lt_of_not_le more)
        exact ⟨rfl, Chunk.nil room, Nat.le_refl _, fun _ => rfl⟩
  · -- `handle_tail` opens the file and reads its header.
    rename_i state handles
    split at next
    · rename_i opened named
      obtain rfl := Option.some.inj next
      refine uploads.goesOn handles nofun nofun id ?_
      intro file copy own whole
      exact ⟨Option.some.inj (named.symm.trans own), whole⟩
    · obtain rfl := Option.some.inj next
      exact Uploads.failed s.server
  · rename_i state opened handles
    obtain rfl := Option.some.inj next
    refine uploads.goesOn handles nofun nofun id ?_
    rintro file copy - ⟨rfl, whole⟩
    exact fun rests => ⟨whole rests, rfl⟩
  · cases next

/-- A read that gets nothing has come to the end of the file. -/
theorem Uploads.read (uploads : Uploads fileName s) {size : Nat} (room : 0 < size)
    {uploader : RecordUploader} (next : s.uploader.read s.files size = some uploader) :
    Uploads fileName { s with uploader } := by
  unfold RecordUploader.read at next
  split at next
  · rename_i state opened len buf handles
    split at next
    · rename_i nothing
      obtain rfl := Option.some.inj next
      refine uploads.goesOn handles nofun nofun id ?_
      rintro file copy - ⟨rfl, chunk, within, whole⟩
      have ended : (s.files opened).length ≤ s.uploader.uploadSize + buf.length := by
        rcases List.take_eq_nil_iff.mp nothing with none | past
        · omega
        · exact List.drop_eq_nil_iff.mp past
      exact ⟨chunk, Nat.le_trans within ended, whole⟩
    · obtain rfl := Option.some.inj next
      refine uploads.goesOn handles nofun nofun id ?_
      rintro file copy - ⟨rfl, chunk, within, whole⟩
      exact ⟨rfl, chunk.read size, within, whole⟩
  · cases next

/-- Nothing is uploaded of a recording whose last state is handled. -/
theorem Uploads.ended (uploads : Uploads fileName s)
    (handles : s.uploader.handling = some (state, phase)) (last : state.session s.session = none)
    (server : String → Option Bytes) :
    Uploads fileName { s with server, uploader := { s.uploader with handling := none } } where
  running := nofun
  fits := nofun
  session := nofun
  uploaded _ recording about := by
    have none : s.session = none := (uploads.session _ handles).symm.trans last
    have is : s.session = some recording := about
    rw [none] at is
    cases is

/-- A request that succeeds. -/
theorem Uploads.sent (uploads : Uploads fileName s) {now : Nat} {copy : Option Bytes}
    {uploader : RecordUploader}
    (next : s.uploader.sent (s.server s.uploader.filename) now = some (copy, uploader)) :
    Uploads fileName { s with
      server := Function.update s.server s.uploader.filename copy
      uploader } := by
  unfold RecordUploader.sent at next
  split at next
  · -- The server has an empty file.
    rename_i state handles
    obtain ⟨rfl, rfl⟩ := Prod.mk.inj (Option.some.inj next)
    refine uploads.moves handles rfl rfl rfl nofun ?_
    intro file _ known
    refine ⟨nofun, fun _ => ⟨[], Function.update_self .., ?_, nofun⟩⟩
    rw [known.new rfl]
    exact ⟨Nat.le_refl _, Nat.zero_le _, nofun⟩
  · rename_i state handles
    obtain ⟨rfl, rfl⟩ := Prod.mk.inj (Option.some.inj next)
    obtain ⟨recording, rfl⟩ := uploads.fits _ handles
    exact uploads.ended handles rfl _
  · -- What counts as uploaded is the length before the read, which a settled file still has.
    rename_i state len buf handles
    obtain ⟨rfl, rfl⟩ := Prod.mk.inj (Option.some.inj next)
    refine uploads.framed handles ?_
    intro file _ known
    obtain ⟨copy, there, copies, stage⟩ := known.copied nofun
    obtain ⟨chunk, enough, whole⟩ := stage _ rfl
    have part := @Copies.part _ 0 _ _ _ _ _ _ copies chunk enough
    rw [there, Option.getD_some]
    refine ⟨_, Function.update_self .., part, ?_⟩
    intro _ rests
    have uploaded := part.uploaded
    rw [whole rests] at uploaded
    exact Nat.le_antisymm part.within uploaded
  · rename_i state buf handles
    obtain ⟨rfl, rfl⟩ := Prod.mk.inj (Option.some.inj next)
    obtain ⟨recording, changes, rfl⟩ := uploads.fits _ handles
    exact uploads.ended handles rfl _
  · cases next

/-- The uploader begins with a state of the recording that it has, if it is still uploaded. -/
theorem Uploads.begins (uploads : Uploads fileName s) (idle : s.uploader.handling = none)
    (begun : phase ≠ .new) (fits : Fits state phase)
    (kept : state.session (state.session s.session) = state.session s.session)
    (stage : ∀ settled file content size copy, Stage settled file content size copy phase)
    (own : ∀ recording, System.about { s with
        session := state.session s.session
        uploader := { s.uploader with handling := some (state, phase) } } = some recording →
      s.session = some recording) (queue : List RecordState) :
    Uploads fileName { s with
      queue
      session := state.session s.session
      uploader :=
        if s.uploader.running then { s.uploader with handling := some (state, phase) }
        else s.uploader } := by
  by_cases active : s.uploader.running = true
  · rw [if_pos active]
    refine ⟨fun _ _ => active, ?_, ?_, ?_⟩
    · exact fun handled inside => Option.some.inj inside ▸ fits
    · exact fun handled inside => Option.some.inj inside ▸ kept
    · intro _ recording about
      have was : s.about = some recording := by
        unfold System.about
        rw [idle]
        exact own recording about
      obtain ⟨filepath, filename, fresh, stored⟩ := uploads.uploaded active recording was
      refine ⟨filepath, filename, fresh, ?_⟩
      intro named
      have known := stored named
      rw [idle] at known
      exact known.start begun fun copy => stage _ _ _ _ _
  · rw [if_neg active]
    refine ⟨?_, ?_, ?_, fun still => absurd still active⟩ <;>
    · intro handled inside
      cases idle.symm.trans inside

/-- The uploader receives the next state. -/
theorem Uploads.receive (uploads : Uploads fileName s) (idle : s.uploader.handling = none)
    {queue : List RecordState} {last : Option Recording}
    (follows : Follows s.created last s.session (state :: queue)) (now : Nat) :
    Uploads fileName { s with
      queue
      session := state.session s.session
      uploader := s.uploader.receive fileName state now } := by
  cases state with
  | newFile recording =>
    unfold RecordUploader.receive
    dsimp only
    cases named : fileName recording.filepath with
    | none =>
      refine ⟨?_, ?_, ?_, nofun⟩ <;>
      · intro handled inside
        cases idle.symm.trans inside
    | some filename =>
      refine ⟨fun _ _ => rfl, ?_, ?_, ?_⟩
      · intro handled inside
        obtain rfl := Option.some.inj inside
        trivial
      · intro handled inside
        obtain rfl := Option.some.inj inside
        rfl
      · intro _ other about
        obtain rfl := Option.some.inj about
        exact ⟨rfl, named, follows.2.1, fun _ => ⟨fun _ => rfl, fun begun => absurd rfl begun⟩⟩
  | newFrame =>
    refine uploads.begins idle ?_ ?_ ?_ ?_ ?_ queue
    · nofun
    · trivial
    · rfl
    · exact fun _ _ _ _ _ => trivial
    · exact fun _ is => is
  | writeTail recording changes =>
    refine uploads.begins idle ?_ ?_ ?_ ?_ ?_ queue
    · nofun
    · trivial
    · rfl
    · exact fun _ _ _ _ _ => trivial
    · exact fun _ is => follows.1.trans is
  | removeFile recording =>
    refine uploads.begins idle ?_ ?_ ?_ ?_ ?_ queue
    · nofun
    · exact ⟨recording, rfl⟩
    · rfl
    · exact fun _ _ _ _ _ => trivial
    · exact fun _ is => follows.1.trans is

/-- What the recorder does meanwhile. -/
theorem Uploads.world (uploads : Uploads fileName s) (uploader : t.uploader = s.uploader)
    (server : t.server = s.server) (session : t.session = s.session)
    (created : s.created ≤ t.created)
    (named : ∀ recording : Recording, recording.file < s.created →
      t.names recording.filepath = some recording.file →
      s.names recording.filepath = some recording.file)
    (grows : ∀ file < s.created, Grows maxHeaderLen (s.files file) (t.files file))
    (rests : ∀ recording changes phase,
      s.uploader.handling = some (.writeTail recording changes, phase) →
      t.changes recording.file = changes →
      s.changes recording.file = changes ∧ t.files recording.file = s.files recording.file) :
    Uploads fileName t where
  running := uploader ▸ uploads.running
  fits := uploader ▸ uploads.fits
  session := by
    rw [uploader, session]
    exact uploads.session
  uploaded active recording about := by
    have same : t.about = s.about := by
      unfold System.about
      rw [uploader, session]
    rw [uploader] at active
    rw [same] at about
    have before := uploads.uploaded active recording about
    refine ⟨uploader ▸ before.filepath, uploader ▸ before.filename,
      Nat.lt_of_lt_of_le before.fresh created, ?_⟩
    intro now
    have known := before.stored (named recording before.fresh now)
    rw [uploader, server]
    refine known.grows (grows _ before.fresh) ?_
    rintro ⟨state, inside, settled⟩
    obtain ⟨⟨state, phase⟩, handles, rfl⟩ := Option.map_eq_some_iff.mp inside
    cases state with
    | newFile _ | newFrame | removeFile _ => cases settled
    | writeTail own changes =>
      have is : s.about = some own := by
        unfold System.about
        rw [handles]
      obtain rfl := Option.some.inj (about.symm.trans is)
      obtain ⟨rested, content⟩ := rests recording changes phase handles settled
      exact ⟨⟨_, inside, rested⟩, content⟩

end Uploads

/-! ## Steps -/

/-- An uploader that is at no other state than before. -/
def Keeps (uploader later : RecordUploader) : Prop :=
  ∀ handled ∈ later.handling, handled.1 ∈ uploader.handling.map Prod.fst

section Keeps

variable {uploader later : RecordUploader} {state : RecordState} {phase : Phase}

theorem Keeps.on (handles : uploader.handling = some (state, phase))
    (same : ∀ handled ∈ later.handling, handled.1 = state) : Keeps uploader later := by
  intro handled inside
  rw [handles, same handled inside]
  rfl

theorem same_of_handling {now : Phase} (handles : later.handling = some (state, now)) :
    ∀ handled ∈ later.handling, handled.1 = state := by
  intro handled inside
  rw [← Option.some.inj (handles.symm.trans inside)]

theorem receive_same {fileName : String → Option String} (idle : uploader.handling = none)
    (now : Nat) :
    ∀ handled ∈ (uploader.receive fileName state now).handling, handled.1 = state := by
  have none : ∀ handled ∈ uploader.handling, handled.1 = state := by
    intro handled inside
    cases idle.symm.trans inside
  unfold RecordUploader.receive
  split
  · split
    · exact same_of_handling rfl
    · exact none
  · split
    · exact same_of_handling rfl
    · exact none
  · split
    · exact same_of_handling rfl
    · exact none

theorem Keeps.work {names : String → Option Nat} {files : Nat → Bytes} {now : Nat}
    (next : uploader.work names files now = some later) : Keeps uploader later := by
  unfold RecordUploader.work at next
  split at next
  · rename_i handles
    split at next
    · exact Option.some.inj next ▸ .on handles fun _ inside => (framed_fits _ _ _ inside).1
    · split at next
      · exact Option.some.inj next ▸ .on handles (same_of_handling rfl)
      · exact Option.some.inj next ▸ nofun
  · rename_i handles
    dsimp only at next
    split at next
    · exact Option.some.inj next ▸ .on handles fun _ inside => (framed_fits _ _ _ inside).1
    · split at next
      · exact Option.some.inj next ▸ .on handles fun _ inside => (framed_fits _ _ _ inside).1
      · exact Option.some.inj next ▸ .on handles (same_of_handling rfl)
  · rename_i handles
    split at next
    · exact Option.some.inj next ▸ .on handles (same_of_handling rfl)
    · exact Option.some.inj next ▸ nofun
  · rename_i handles
    exact Option.some.inj next ▸ .on handles (same_of_handling rfl)
  · cases next

theorem Keeps.read {files : Nat → Bytes} {size : Nat}
    (next : uploader.read files size = some later) : Keeps uploader later := by
  unfold RecordUploader.read at next
  split at next
  · rename_i handles
    split at next
    · exact Option.some.inj next ▸ .on handles (same_of_handling rfl)
    · exact Option.some.inj next ▸ .on handles (same_of_handling rfl)
  · cases next

theorem Keeps.sent {copy stored : Option Bytes} {now : Nat}
    (next : uploader.sent copy now = some (stored, later)) : Keeps uploader later := by
  unfold RecordUploader.sent at next
  split at next
  · exact (Prod.mk.inj (Option.some.inj next)).2 ▸ nofun
  · exact (Prod.mk.inj (Option.some.inj next)).2 ▸ nofun
  · rename_i handles
    exact (Prod.mk.inj (Option.some.inj next)).2 ▸ .on handles fun _ inside => (framed_fits _ _ _ inside).1
  · exact (Prod.mk.inj (Option.some.inj next)).2 ▸ nofun
  · cases next

end Keeps

/-- What holds in every state that is reached. -/
structure Valid (fileName : String → Option String) (s : System) : Prop where
  recorded : Recorded s
  uploads : Uploads fileName s

section Steps

variable {fileName : String → Option String} {s t : System}

/-- The uploader fails. -/
theorem Valid.failed (valid : Valid fileName s) (server : String → Option Bytes) :
    Valid fileName { s with server, uploader := s.uploader.failed } :=
  ⟨valid.recorded.uploader nofun, Uploads.failed server⟩

/-- A file is changed: it is not one that has come to rest. -/
theorem Valid.write (valid : Valid fileName s) {file : Nat} {content : Bytes}
    (grows : Grows maxHeaderLen (s.files file) content) :
    Valid fileName (s.write file content) where
  recorded := valid.recorded.write file content
  uploads := by
    refine valid.uploads.world rfl rfl rfl (Nat.le_refl _) (fun _ _ named => named) ?_ ?_
    · intro other _
      unfold System.write
      dsimp only
      by_cases own : other = file
      · rw [own, Function.update_self]
        exact grows
      · rw [Function.update_of_ne own]
        exact Grows.refl _ _
    · intro recording changes phase handles rests
      have pending : .writeTail recording changes ∈ s.pending := by
        unfold System.pending
        rw [handles]
        exact List.mem_cons_self
      have counted := (valid.recorded.complete recording changes pending).counted
      unfold System.write at rests ⊢
      dsimp only at rests ⊢
      by_cases own : recording.file = file
      · rw [own, Function.update_self] at rests
        rw [own] at counted
        omega
      · rw [Function.update_of_ne own] at rests ⊢
        exact ⟨rests, rfl⟩

/-- The recorder does something that leaves all files as they are. -/
theorem Valid.recorder (valid : Valid fileName s) (recorded : Recorded t)
    (uploader : t.uploader = s.uploader) (server : t.server = s.server)
    (session : t.session = s.session) (created : t.created = s.created)
    (files : t.files = s.files) (changes : t.changes = s.changes)
    (named : ∀ recording : Recording, t.names recording.filepath = some recording.file →
      s.names recording.filepath = some recording.file) : Valid fileName t where
  recorded := recorded
  uploads := by
    refine valid.uploads.world uploader server session (Nat.le_of_eq created.symm)
      (fun recording _ => named recording) ?_ ?_
    · intro file _
      rw [files]
      exact Grows.refl _ _
    · intro recording known _ _ rests
      rw [changes] at rests
      exact ⟨rests, congrFun files _⟩

/-- A new file is none of those that are uploaded. -/
theorem Valid.create (valid : Valid fileName s) {filepath : String}
    (idle : s.recorder = .idle) (free : s.names filepath = none) :
    Valid fileName { s with
      files := Function.update s.files s.created []
      names := Function.update s.names filepath (some s.created)
      created := s.created + 1
      recorder := .created ⟨filepath, s.created⟩ } where
  recorded := valid.recorded.create idle free _
  uploads := by
    refine valid.uploads.world rfl rfl rfl (Nat.le_succ _) ?_ ?_ ?_
    · intro recording old named
      dsimp only at named
      by_cases own : recording.filepath = filepath
      · rw [own, Function.update_self] at named
        have same := Option.some.inj named
        omega
      · rwa [Function.update_of_ne own] at named
    · intro file old
      dsimp only
      rw [Function.update_of_ne (Nat.ne_of_lt old)]
      exact Grows.refl _ _
    · intro recording changes phase handles rests
      have about : s.about = some recording := by
        unfold System.about
        rw [handles]
      have old := (valid.uploads.uploaded (valid.uploads.running _ handles) _ about).fresh
      exact ⟨rests, Function.update_of_ne (Nat.ne_of_lt old) _ _⟩

theorem Valid.step (valid : Valid fileName s) {e : Event} (next : step fileName s e = some t) :
    Valid fileName t := by
  cases e with
  | create filepath =>
    unfold RecordUpload.step at next
    dsimp only at next
    split at next
    · rename_i free
      obtain rfl := Option.some.inj next
      exact valid.create free.1 free.2
    · cases next
  | abandon =>
    unfold RecordUpload.step at next
    dsimp only at next
    split at next
    · rename_i recording made
      obtain rfl := Option.some.inj next
      refine valid.recorder ⟨nofun, nofun, ?_, ?_⟩ rfl rfl rfl rfl rfl rfl (fun _ named => named)
      · intro recording changes inside
        obtain ⟨there, counted, -⟩ := valid.recorded.complete recording changes inside
        exact ⟨there, counted, nofun⟩
      · have follows := valid.recorded.follows
        rw [made] at follows
        exact follows
    · cases next
  | append file bytes =>
    unfold RecordUpload.step at next
    dsimp only at next
    split at next
    · exact Option.some.inj next ▸ valid.write (Grows.append bytes)
    · cases next
  | rewrite file position bytes =>
    unfold RecordUpload.step at next
    dsimp only at next
    split at next
    · rename_i room
      exact Option.some.inj next ▸ valid.write (Grows.rewrite room.2.1 room.2.2)
    · cases next
  | newFile =>
    unfold RecordUpload.step at next
    dsimp only at next
    split at next
    · rename_i recording made
      obtain rfl := Option.some.inj next
      refine valid.recorder (valid.recorded.send ?_ ?_ ?_ nofun) rfl rfl rfl rfl rfl rfl
        (fun _ named => named)
      · rw [made]
        exact ⟨rfl, valid.recorded.fresh recording (by rw [made]; rfl), rfl⟩
      · rw [made]
        exact .inl rfl
      · intro other is
        rcases is with made | announced
        · cases made
        · obtain rfl := Recorder.recording.inj announced
          exact valid.recorded.named recording (.inl made)
    · cases next
  | newFrame =>
    unfold RecordUpload.step at next
    dsimp only at next
    split at next
    · rename_i recording going
      obtain rfl := Option.some.inj next
      refine valid.recorder (valid.recorded.send ?_ ?_ ?_ nofun) rfl rfl rfl rfl rfl rfl
        (fun _ named => named)
      · rw [going]
        exact rfl
      · rw [going]
        exact .inl rfl
      · rw [← going]
        exact valid.recorded.named
    · cases next
  | writeTail =>
    unfold RecordUpload.step at next
    dsimp only at next
    split at next
    · rename_i recording going
      obtain rfl := Option.some.inj next
      refine valid.recorder (valid.recorded.send ?_ (.inr rfl) nofun ?_) rfl rfl rfl rfl rfl rfl
        (fun _ named => named)
      · rw [going]
        exact ⟨rfl, rfl⟩
      · intro other changes is
        obtain ⟨rfl, rfl⟩ := RecordState.writeTail.inj is
        exact ⟨valid.recorded.named recording (.inr going), Nat.le_refl _, rfl⟩
    · cases next
  | remove removed =>
    unfold RecordUpload.step at next
    dsimp only at next
    split at next
    · rename_i recording going
      obtain rfl := Option.some.inj next
      refine valid.recorder (valid.recorded.remove going removed) rfl rfl rfl rfl rfl rfl ?_
      intro other named
      dsimp only at named
      split at named
      · by_cases own : other.filepath = recording.filepath
        · rw [own, Function.update_self] at named
          cases named
        · rwa [Function.update_of_ne own] at named
      · exact named
    · cases next
  | removeFile =>
    unfold RecordUpload.step at next
    dsimp only at next
    split at next
    · rename_i recording discarding
      obtain rfl := Option.some.inj next
      refine valid.recorder (valid.recorded.send ?_ (.inr rfl) nofun nofun) rfl rfl rfl rfl rfl rfl
        (fun _ named => named)
      rw [discarding]
      exact ⟨rfl, rfl⟩
    · cases next
  | receive now =>
    unfold RecordUpload.step at next
    dsimp only at next
    split at next
    · rename_i state queue idle queued
      obtain rfl := Option.some.inj next
      have follows := valid.recorded.follows
      rw [queued] at follows
      exact ⟨valid.recorded.receive queued (receive_same idle now),
        valid.uploads.receive idle follows now⟩
    · cases next
  | work now =>
    obtain ⟨uploader, works, rfl⟩ := Option.map_eq_some_iff.mp next
    exact ⟨valid.recorded.uploader (Keeps.work works), valid.uploads.work works⟩
  | read size =>
    unfold RecordUpload.step at next
    dsimp only at next
    split at next
    · rename_i room
      obtain ⟨uploader, reads, rfl⟩ := Option.map_eq_some_iff.mp next
      exact ⟨valid.recorded.uploader (Keeps.read reads), valid.uploads.read room reads⟩
    · cases next
  | callFailed =>
    obtain ⟨uploader, fails, rfl⟩ := Option.map_eq_some_iff.mp next
    unfold RecordUploader.callFailed at fails
    split at fails
    case h_6 => cases fails
    all_goals exact Option.some.inj fails ▸ valid.failed s.server
  | sent now =>
    obtain ⟨⟨copy, uploader⟩, sends, rfl⟩ := Option.map_eq_some_iff.mp next
    exact ⟨valid.recorded.uploader (Keeps.sent sends), valid.uploads.sent sends⟩
  | sendFailed left =>
    obtain ⟨-, -, rfl⟩ := Option.map_eq_some_iff.mp next
    exact valid.failed _

theorem Valid.reached (reached : (recordUpload fileName).Reaches Machine.free s) :
    Valid fileName s := by
  refine reached.invariant (Valid fileName) ?_ ?_
  · rintro s ⟨server, rfl⟩
    exact ⟨⟨nofun, nofun, nofun, rfl⟩, ⟨nofun, nofun, nofun, nofun⟩⟩
  · intro s e t valid _ next
    exact valid.step next

/-- When the request of `handle_tail` succeeds and the file is as it was when `WriteTail` was sent,
the server has the local file under its name. -/
theorem upload_equals_local (reached : (recordUpload fileName).Reaches Machine.free s)
    {recording : Recording} {changes now : Nat} {buf : Bytes}
    (handles : s.uploader.handling = some (.writeTail recording changes, .header buf))
    (rests : s.changes recording.file = changes)
    (sent : (recordUpload fileName).step s (.sent now) = some t) :
    ∃ filename, fileName recording.filepath = some filename ∧
      t.names recording.filepath = some recording.file ∧
      t.server filename = some (t.files recording.file) := by
  have valid := Valid.reached reached
  have pending : .writeTail recording changes ∈ s.pending := by
    unfold System.pending
    rw [handles]
    exact List.mem_cons_self
  have named := (valid.recorded.complete recording changes pending).named
  have about : s.about = some recording := by
    unfold System.about
    rw [handles]
  have session := valid.uploads.uploaded (valid.uploads.running _ handles) recording about
  have stored := session.stored named
  rw [handles] at stored
  obtain ⟨copy, there, copies, stage⟩ := stored.copied nofun
  obtain ⟨whole, rfl⟩ := stage _ rfl ⟨_, rfl, rests⟩
  obtain ⟨⟨later, uploader⟩, sends, rfl⟩ := Option.map_eq_some_iff.mp sent
  unfold RecordUploader.sent at sends
  rw [handles] at sends
  obtain ⟨rfl, -⟩ := Prod.mk.inj (Option.some.inj sends)
  refine ⟨s.uploader.filename, session.filename, named, ?_⟩
  dsimp only
  rw [Function.update_self, there, Option.getD_some, copies.tail whole]

end Steps

/-- `file_name` of a path on Unix. -/
def unixFileName (filepath : String) : Option String :=
  (Lib.fileName filepath.toList).map String.ofList

/-- A short recording: its header is written again while its frame waits, and its end comes before
the last state is sent. -/
def shortRecording : List Event :=
  [.create "/r/a.webm", .append 0 [1, 2], .newFile, .append 0 [3], .newFrame, .receive 0, .sent 0,
    .receive 5, .work 5, .rewrite 0 0 [9], .append 0 [4], .writeTail, .receive 7, .work 7, .work 7,
    .read 3, .read 3, .read 3, .sent 8, .work 8, .work 8]

/-- The short recording is uploaded. -/
theorem short_recording_uploaded :
    ∃ s t, (recordUpload unixFileName).Reaches Machine.free s ∧
      (recordUpload unixFileName).step s (.sent 9) = some t ∧
      t.names "/r/a.webm" = some 0 ∧ t.files 0 = [9, 2, 3, 4] ∧
      t.server "a.webm" = some (t.files 0) := by
  have run := Machine.runs_play (recordUpload unixFileName) Machine.free {} shortRecording
  have handles :
      ((recordUpload unixFileName).play Machine.free {} shortRecording).uploader.handling =
        some (.writeTail ⟨"/r/a.webm", 0⟩ 4, .header [9, 2, 3, 4]) := by decide +kernel
  have rests : ((recordUpload unixFileName).play Machine.free {} shortRecording).changes 0 = 4 := by
    decide +kernel
  have name : unixFileName "/r/a.webm" = some "a.webm" := by decide +kernel
  have reached : (recordUpload unixFileName).Reaches Machine.free _ := ⟨{}, ⟨_, rfl⟩, run⟩
  have content : ((recordUpload unixFileName).step
      ((recordUpload unixFileName).play Machine.free {} shortRecording) (.sent 9)).map
        (fun t => t.files 0) = some [9, 2, 3, 4] := by decide +kernel
  obtain ⟨t, sent, files⟩ := Option.map_eq_some_iff.mp content
  obtain ⟨filename, is, named, equal⟩ := upload_equals_local reached handles rests sent
  obtain rfl := Option.some.inj (name.symm.trans is)
  exact ⟨_, t, reached, sent, named, files, equal⟩

end ChainRemote.Server.RecordUpload
