import ChainRemote.Server.RecordUpload

/-!
# The queue of recordings

The states in the queue are those of one recording after the other, in the order in which the
recorder made them. A recording whose last state says that it is complete is still at its path.
-/

namespace ChainRemote.Server.RecordUpload

open Lib

/-- The recording that the recorder has announced. -/
def Recorder.announced : Recorder → Option Recording
  | .recording announced | .discarding announced => some announced
  | _ => none

/-- The recording that the recorder has. -/
def Recorder.holds : Recorder → Option Recording
  | .created held | .recording held | .discarding held => some held
  | .idle => none

/-- The states are those of one recording after the other, and the last one is still recorded. -/
def Follows (created : Nat) (last : Option Recording) : Option Recording → List RecordState → Prop
  | session, [] => session = last
  | session, .newFile recording :: queue =>
    session = none ∧ recording.file < created ∧ Follows created last (some recording) queue
  | session, .newFrame :: queue => Follows created last session queue
  | session, .writeTail recording _ :: queue =>
    session = some recording ∧ Follows created last none queue
  | session, .removeFile recording :: queue =>
    session = some recording ∧ Follows created last none queue

section Follows

variable {created : Nat} {last session : Option Recording} {queue : List RecordState}

theorem Follows.more {more : Nat} (follows : Follows created last session queue)
    (grown : created ≤ more) : Follows more last session queue := by
  induction queue generalizing session with
  | nil => exact follows
  | cons state queue ih =>
    cases state with
    | newFile recording =>
      exact ⟨follows.1, Nat.lt_of_lt_of_le follows.2.1 grown, ih follows.2.2⟩
    | newFrame => exact @ih session follows
    | writeTail recording changes => exact ⟨follows.1, ih follows.2⟩
    | removeFile recording => exact ⟨follows.1, ih follows.2⟩

theorem Follows.send {later : Option Recording} {state : RecordState}
    (follows : Follows created last session queue) (next : Follows created later last [state]) :
    Follows created later session (queue ++ [state]) := by
  induction queue generalizing session with
  | nil =>
    rw [show session = last from follows]
    exact next
  | cons first queue ih =>
    cases first with
    | newFile recording => exact ⟨follows.1, follows.2.1, ih follows.2.2⟩
    | newFrame => exact @ih session follows
    | writeTail recording changes => exact ⟨follows.1, ih follows.2⟩
    | removeFile recording => exact ⟨follows.1, ih follows.2⟩

end Follows

/-- A recording that is complete stays at its path. -/
structure Complete (s : System) (recording : Recording) (changes : Nat) : Prop where
  named : s.names recording.filepath = some recording.file
  counted : changes ≤ s.changes recording.file
  left : s.recorder.holds ≠ some recording

/-- The states that the uploader has not handled to their end. -/
def System.pending (s : System) : List RecordState :=
  (s.uploader.handling.map Prod.fst).toList ++ s.queue

/-- What holds of the recorder, the files and the queue. -/
structure Recorded (s : System) : Prop where
  named : ∀ recording, s.recorder = .created recording ∨ s.recorder = .recording recording →
    s.names recording.filepath = some recording.file
  fresh : ∀ recording, s.recorder.holds = some recording → recording.file < s.created
  complete : ∀ recording changes, .writeTail recording changes ∈ s.pending →
    Complete s recording changes
  follows : Follows s.created s.recorder.announced s.session s.queue

section Recorded

variable {s : System} {recording : Recording} {state : RecordState}

/-- The recorder sends a state. -/
theorem Recorded.send (recorded : Recorded s) {recorder : Recorder}
    (follows : Follows s.created recorder.announced s.recorder.announced [state])
    (holds : recorder.holds = s.recorder.holds ∨ recorder.holds = none)
    (named : ∀ recording, recorder = .created recording ∨ recorder = .recording recording →
      s.names recording.filepath = some recording.file)
    (complete : ∀ recording changes, state = .writeTail recording changes →
      s.names recording.filepath = some recording.file ∧ changes ≤ s.changes recording.file ∧
        recorder.holds = none) :
    Recorded (s.sendState state recorder) where
  named := named
  fresh recording held := by
    rcases holds with same | none
    · exact recorded.fresh recording (same.symm.trans held)
    · cases none.symm.trans held
  complete recording changes inside := by
    have parts : .writeTail recording changes ∈ s.pending ∨
        .writeTail recording changes = state := by
      unfold System.pending System.sendState at inside
      dsimp only at inside
      rw [← List.append_assoc] at inside
      rcases List.mem_append.mp inside with old | new
      · exact .inl old
      · exact .inr (List.mem_singleton.mp new)
    rcases parts with old | rfl
    · obtain ⟨there, counted, left⟩ := recorded.complete recording changes old
      refine ⟨there, counted, ?_⟩
      rcases holds with same | none
      · exact fun held => left (same.symm.trans held)
      · exact fun held => nomatch none.symm.trans held
    · obtain ⟨there, counted, none⟩ := complete recording changes rfl
      exact ⟨there, counted, fun held => nomatch none.symm.trans held⟩
  follows := recorded.follows.send follows

theorem Recorded.create (recorded : Recorded s) {filepath : String}
    (idle : s.recorder = .idle) (free : s.names filepath = none) (files : Nat → Bytes) :
    Recorded { s with
      files
      names := Function.update s.names filepath (some s.created)
      created := s.created + 1
      recorder := .created ⟨filepath, s.created⟩ } where
  named recording is := by
    rcases is with made | announced
    · obtain rfl := Recorder.created.inj made
      exact Function.update_self ..
    · cases announced
  fresh recording held := by
    obtain rfl := Option.some.inj held
    exact Nat.lt_succ_self _
  complete recording changes inside := by
    obtain ⟨there, counted, left⟩ := recorded.complete recording changes inside
    have other : recording.filepath ≠ filepath := by
      intro same
      rw [same, free] at there
      cases there
    refine ⟨(Function.update_of_ne other _ _).trans there, counted, ?_⟩
    intro held
    rw [← Option.some.inj held] at other
    exact other rfl
  follows := by
    have follows := recorded.follows
    rw [idle] at follows
    exact follows.more (Nat.le_succ _)

theorem Recorded.write (recorded : Recorded s) (file : Nat) (content : Bytes) :
    Recorded (s.write file content) where
  named := recorded.named
  fresh := recorded.fresh
  complete recording changes inside := by
    obtain ⟨there, counted, left⟩ := recorded.complete recording changes inside
    refine ⟨there, ?_, left⟩
    unfold System.write
    dsimp only
    by_cases own : recording.file = file
    · rw [own] at counted ⊢
      rw [Function.update_self]
      exact Nat.le_succ_of_le counted
    · rw [Function.update_of_ne own]
      exact counted
  follows := recorded.follows

/-- No recording that is complete is removed. -/
theorem Recorded.remove (recorded : Recorded s) (going : s.recorder = .recording recording)
    (removed : Bool) :
    Recorded { s with
      names := if removed then Function.update s.names recording.filepath none else s.names
      recorder := .discarding recording } where
  named other is := by
    rcases is with made | announced
    · cases made
    · cases announced
  fresh other held := recorded.fresh other (by rw [going]; exact held)
  complete other changes inside := by
    obtain ⟨there, counted, left⟩ := recorded.complete other changes inside
    rw [going] at left
    refine ⟨?_, counted, left⟩
    dsimp only
    split
    · have apart : other.filepath ≠ recording.filepath := by
        intro same
        have own := recorded.named recording (.inr going)
        rw [same, own] at there
        have is : recording = other := Recording.ext same.symm (Option.some.inj there)
        exact left (congrArg some is)
      exact (Function.update_of_ne apart _ _).trans there
    · exact there
  follows := by
    have follows := recorded.follows
    rw [going] at follows
    exact follows

/-- The uploader goes on with its state, or is done with it. -/
theorem Recorded.uploader (recorded : Recorded s) {server : String → Option Bytes}
    {uploader : RecordUploader}
    (same : ∀ handled ∈ uploader.handling, handled.1 ∈ s.uploader.handling.map Prod.fst) :
    Recorded { s with server, uploader } where
  named := recorded.named
  fresh := recorded.fresh
  complete recording changes inside := by
    have before : .writeTail recording changes ∈ s.pending := by
      unfold System.pending at inside ⊢
      dsimp only at inside
      rcases List.mem_append.mp inside with handled | queued
      · obtain ⟨handled, there, is⟩ := Option.map_eq_some_iff.mp (Option.mem_toList.mp handled)
        have known := same handled there
        rw [is] at known
        exact List.mem_append_left _ (Option.mem_toList.mpr known)
      · exact List.mem_append_right _ queued
    obtain ⟨there, counted, left⟩ := recorded.complete recording changes before
    exact ⟨there, counted, left⟩
  follows := recorded.follows

/-- The uploader receives the next state. -/
theorem Recorded.receive (recorded : Recorded s) {queue : List RecordState}
    (queued : s.queue = state :: queue) {uploader : RecordUploader}
    (same : ∀ handled ∈ uploader.handling, handled.1 = state) :
    Recorded { s with queue, session := state.session s.session, uploader } where
  named := recorded.named
  fresh := recorded.fresh
  complete recording changes inside := by
    have before : .writeTail recording changes ∈ s.pending := by
      unfold System.pending at inside ⊢
      dsimp only at inside
      rw [queued]
      refine List.mem_append_right _ ?_
      rcases List.mem_append.mp inside with handled | later
      · obtain ⟨handled, there, is⟩ := Option.map_eq_some_iff.mp (Option.mem_toList.mp handled)
        rw [← is, same handled there]
        exact List.mem_cons_self
      · exact List.mem_cons_of_mem _ later
    obtain ⟨there, counted, left⟩ := recorded.complete recording changes before
    exact ⟨there, counted, left⟩
  follows := by
    have follows := recorded.follows
    rw [queued] at follows
    cases state with
    | newFile _ => exact follows.2.2
    | newFrame => exact follows
    | writeTail _ _ | removeFile _ => exact follows.2

end Recorded

end ChainRemote.Server.RecordUpload
