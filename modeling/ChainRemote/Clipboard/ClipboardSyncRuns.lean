import ChainRemote.Clipboard.ClipboardSync

/-!
# Nothing comes back

While nothing is copied on a machine, it sends no more often than notices of what was copied there
wait, however many sessions there are and in whatever order their messages and threads come. What
is on a clipboard was copied there or, over one session, at the machine at its other end; only what
a new session reads by force goes further.
-/

namespace ChainRemote.Clipboard.Sync

open Lib MultiClipboards
open Server.TerminalReplay (Compression)

variable {ι κ β : Type}

section Echoes

/-- Nothing is copied on a machine. -/
def Quiet (m : ι) (_ : State ι κ β) (e : Event ι κ β) : Prop := ∀ board, e ≠ .copy m board

variable (arboard : Arboard β) (zstd : Compression) (unixFileCopyPaste : Bool)

/-- The notices that may find something: none where the clipboard carries the mark. -/
def State.due (s : State ι κ β) (m : ι) : Nat :=
  if owned arboard unixFileCopyPaste (s.board m) then 0
  else s.notices m .host + s.notices m .client

variable [DecidableEq ι]

/-- A notice on a machine at which something to send is found. -/
def finds (m : ι) (s : State ι κ β) : Event ι κ β → State ι κ β → Nat
  | .notice n side reads, _ =>
    if n = m ∧ reads = true ∧
        (checkClipboard arboard zstd unixFileCopyPaste (s.board n) side false).isSome
    then 1 else 0
  | _, _ => 0

variable {arboard zstd unixFileCopyPaste} {net : Sessions ι κ} {s t : State ι κ β} {m : ι}

omit [DecidableEq ι] in
/-- No more is due where the clipboard is the same and no more notices wait. -/
theorem due_le (same : t.board m = s.board m)
    (fewer : ∀ side, t.notices m side ≤ s.notices m side) :
    t.due arboard unixFileCopyPaste m ≤ s.due arboard unixFileCopyPaste m := by
  unfold State.due
  rw [same]
  have host := fewer .host
  have client := fewer .client
  split
  · exact Nat.le_refl 0
  · omega

theorem found_same (side : ClipboardSide) (clipboards : List Clipboard) :
    (s.found net m side clipboards).board = s.board ∧
      (s.found net m side clipboards).notices = s.notices := by
  unfold State.found
  cases side with
  | host => exact ⟨rfl, rfl⟩
  | client =>
    dsimp only
    split
    · exact ⟨rfl, rfl⟩
    · exact ⟨rfl, rfl⟩

/-- A change on another machine is not noticed. -/
theorem due_put_elsewhere {n : ι} (apart : m ≠ n) (board : β) :
    (s.put n board).due arboard unixFileCopyPaste m ≤ s.due arboard unixFileCopyPaste m := by
  have same : (s.put n board).board m = s.board m := Function.update_of_ne apart ..
  have notices : (s.put n board).notices m = s.notices m := Function.update_of_ne apart ..
  exact due_le same fun side => Nat.le_of_eq (congrFun notices side)

/-- Nothing is due on a clipboard that was just received. -/
theorem due_put_updated (data : List ClipboardData) (side : ClipboardSide) :
    (s.put m (doUpdateClipboard arboard data side)).due arboard unixFileCopyPaste m = 0 := by
  have same : (s.put m (doUpdateClipboard arboard data side)).board m =
      doUpdateClipboard arboard data side := Function.update_self ..
  unfold State.due
  rw [same, owned_update]
  rfl

/-- A notice that is handled is due no more, and one that finds something was due. -/
theorem due_noticed {side : ClipboardSide} {left : Nat} (waits : s.notices m side = left + 1)
    (same : t.board = s.board) (fewer : t.notices = (s.noticed m side left).notices) :
    t.due arboard unixFileCopyPaste m +
      (if owned arboard unixFileCopyPaste (s.board m) then 0 else 1) ≤
        s.due arboard unixFileCopyPaste m := by
  have one : t.notices m = Function.update (s.notices m) side left := by
    rw [fewer]
    exact Function.update_self ..
  unfold State.due
  rw [same, one]
  split
  · exact Nat.le_refl 0
  · cases side with
    | host =>
      have host : Function.update (s.notices m) .host left .host = left := Function.update_self ..
      have client : Function.update (s.notices m) .host left .client = s.notices m .client :=
        Function.update_of_ne (by decide) ..
      omega
    | client =>
      have client : Function.update (s.notices m) .client left .client = left :=
        Function.update_self ..
      have host : Function.update (s.notices m) .client left .host = s.notices m .host :=
        Function.update_of_ne (by decide) ..
      omega

theorem due_noticed_elsewhere {n : ι} (apart : m ≠ n) {side : ClipboardSide} {left : Nat}
    (same : t.board = s.board) (fewer : t.notices = (s.noticed n side left).notices) :
    t.due arboard unixFileCopyPaste m ≤ s.due arboard unixFileCopyPaste m := by
  refine due_le (congrFun same m) fun near => Nat.le_of_eq ?_
  rw [fewer]
  exact congrFun (Function.update_of_ne apart ..) near

/-- What a notice finds carries no mark. -/
theorem finds_le {n : ι} {side : ClipboardSide} {reads : Bool} :
    finds arboard zstd unixFileCopyPaste n s (.notice n side reads) t ≤
      if owned arboard unixFileCopyPaste (s.board n) then 0 else 1 := by
  by_cases marked : owned arboard unixFileCopyPaste (s.board n) = true
  · have nothing : finds arboard zstd unixFileCopyPaste n s (.notice n side reads) t = 0 := by
      refine if_neg fun found => ?_
      rw [checkClipboard_owned marked side] at found
      exact absurd found.2.2 Bool.false_ne_true
    rw [nothing]
    exact Nat.zero_le _
  · rw [if_neg marked]
    unfold finds
    dsimp only
    split
    · exact Nat.le_refl 1
    · exact Nat.zero_le 1

variable [DecidableEq κ]

omit [DecidableEq ι] in
theorem due_spawnInitial (k : κ) :
    (s.spawnInitial net k).due arboard unixFileCopyPaste m ≤ s.due arboard unixFileCopyPaste m := by
  unfold State.spawnInitial
  split
  · exact due_le rfl fun _ => Nat.le_refl _
  · exact Nat.le_refl _

/-- A notice that is handled changes no clipboard and takes one notice away. -/
theorem notice_step {n : ι} {side : ClipboardSide} {reads : Bool}
    (next : step net arboard zstd unixFileCopyPaste s (.notice n side reads) = some t) :
    ∃ left, s.notices n side = left + 1 ∧ t.board = s.board ∧
      t.notices = (s.noticed n side left).notices := by
  simp only [step] at next
  split at next
  · rename_i left waits
    refine ⟨left, waits, ?_⟩
    split at next
    · rename_i clipboards found
      obtain rfl := Option.some.inj next
      split
      · exact found_same side clipboards
      · exact ⟨rfl, rfl⟩
    · obtain rfl := Option.some.inj next
      exact ⟨rfl, rfl⟩
  · cases next

/-- Every notice that finds something to send is paid by one that was due. -/
theorem due_pays {e : Event ι κ β} (quiet : Quiet m s e)
    (next : step net arboard zstd unixFileCopyPaste s e = some t) :
    t.due arboard unixFileCopyPaste m + finds arboard zstd unixFileCopyPaste m s e t ≤
      s.due arboard unixFileCopyPaste m := by
  cases e with
  | copy n board =>
    obtain rfl := Option.some.inj next
    have apart : m ≠ n := fun is => quiet board (is ▸ rfl)
    exact due_put_elsewhere apart board
  | subscribe n side =>
    obtain rfl := Option.some.inj next
    refine due_le rfl fun near => ?_
    dsimp only
    by_cases is : m = n
    · rw [is, Function.update_self]
      by_cases same : near = side
      · rw [same, Function.update_self]
        exact Nat.zero_le _
      · rw [Function.update_of_ne same]
    · rw [Function.update_of_ne is]
  | unsubscribe n side =>
    obtain rfl := Option.some.inj next
    exact due_le rfl fun _ => Nat.le_refl _
  | notice n side reads =>
    obtain ⟨left, waits, same, fewer⟩ := notice_step next
    by_cases is : m = n
    · subst is
      have paid : t.due arboard unixFileCopyPaste m +
          (if owned arboard unixFileCopyPaste (s.board m) then 0 else 1) ≤
            s.due arboard unixFileCopyPaste m := due_noticed waits same fewer
      have few : finds arboard zstd unixFileCopyPaste m s (.notice m side reads) t ≤
          if owned arboard unixFileCopyPaste (s.board m) then 0 else 1 := finds_le
      omega
    · have nothing : finds arboard zstd unixFileCopyPaste m s (.notice n side reads) t = 0 :=
        if_neg fun found => is found.1.symm
      rw [nothing]
      exact due_noticed_elsewhere is same fewer
  | receive k side =>
    simp only [step] at next
    split at next
    · obtain rfl := Option.some.inj next
      exact due_le rfl fun _ => Nat.le_refl _
    · cases next
  | update n i sets =>
    simp only [step] at next
    split at next
    · rename_i multiClipboards side waits
      split at next
      · rename_i board updated
        obtain rfl := Option.some.inj next
        split
        · by_cases is : m = n
          · subst is
            unfold updateClipboard at updated
            dsimp only at updated
            split at updated
            · cases updated
            · obtain rfl := Option.some.inj updated
              exact Nat.le_trans (Nat.le_of_eq (due_put_updated _ side)) (Nat.zero_le _)
          · exact due_put_elsewhere is board
        · exact due_le rfl fun _ => Nat.le_refl _
      · obtain rfl := Option.some.inj next
        exact due_le rfl fun _ => Nat.le_refl _
    · cases next
  | screenshot n data =>
    obtain rfl := Option.some.inj next
    exact due_le rfl fun _ => Nat.le_refl _
  | connected k reads =>
    simp only [step] at next
    split at next
    · split at next
      · obtain rfl := Option.some.inj next
        exact due_spawnInitial k
      · obtain rfl := Option.some.inj next
        exact Nat.le_refl _
    · obtain rfl := Option.some.inj next
      exact due_spawnInitial k
  | sendInitial k i =>
    simp only [step] at next
    split at next
    · obtain rfl := Option.some.inj next
      split
      · exact due_le rfl fun _ => Nat.le_refl _
      · exact due_le rfl fun _ => Nat.le_refl _
    · cases next
  | setIsTextClipboardRequired n required =>
    obtain rfl := Option.some.inj next
    exact due_le rfl fun _ => Nat.le_refl _
  | change k session =>
    obtain rfl := Option.some.inj next
    exact due_le rfl fun _ => Nat.le_refl _
  | close k =>
    obtain rfl := Option.some.inj next
    exact due_le rfl fun _ => Nat.le_refl _

variable (net arboard zstd unixFileCopyPaste)

/-- From any state on, while nothing is copied on a machine, its notices find something to send no
more often than notices of what was copied there wait at first; on a clipboard that was received
they find nothing at all. -/
theorem nothing_echoed (s : State ι κ β) (m : ι) :
    (({ sync net arboard zstd unixFileCopyPaste with start := (· = s) }).counted
      (finds arboard zstd unixFileCopyPaste m)).Always (fun s e => Quiet m s.1 e)
        fun _ _ t => t.2 ≤ s.due arboard unixFileCopyPaste m := by
  refine Machine.counted_le (State.due arboard unixFileCopyPaste · m) ?_ ?_
  · rintro r rfl
    exact Nat.le_refl _
  · exact fun _ e _ quiet next => due_pays quiet next

end Echoes

/-! ## Where a clipboard comes from -/

section Origins

variable (net : Sessions ι κ) (arboard : Arboard β) (zstd : Compression)
  (unixFileCopyPaste : Bool)

/-- All that is on a clipboard but the owner's mark. -/
def contentOf (board : β) : List ClipboardData := get arboard unixFileCopyPaste board .client true

/-- What one side of a session has to send: what was copied on its machine, and to the viewer's side
also what was read there by force for a new session. -/
def Offered (s : State ι κ β) (k : κ) (side : ClipboardSide) (data : List ClipboardData) : Prop :=
  ∃ board, (board ∈ s.copied (net.party k side) ∨
    side = .client ∧ board ∈ s.forced (net.party k side)) ∧
    data = contentOf arboard unixFileCopyPaste board

/-- What a message toward one side of a session is read as: what the other side had to send, as it
arrives. -/
def Carried (s : State ι κ β) (k : κ) (side : ClipboardSide) (clipboards : List Clipboard) : Prop :=
  ∃ data, Offered net arboard unixFileCopyPaste s k side.other data ∧
    fromMultiClipboards zstd clipboards = received zstd (net.supports k side) data

/-- Where a clipboard comes from: it was copied on the machine, it was received over one session, or
it is a screenshot. -/
def Came (s : State ι κ β) (m : ι) (board : β) : Prop :=
  board ∈ s.copied m ∨
  (∃ k side data, net.party k side = m ∧
    Offered net arboard unixFileCopyPaste s k side.other data ∧
    board = doUpdateClipboard arboard (received zstd (net.supports k side) data) side) ∨
  ∃ data, board = doUpdateClipboard arboard [.image (.png data)] .client

/-- The clipboards of a screenshot. -/
def ofScreenshot (data : Bytes) : List Clipboard :=
  [{ compress := false, content := data, format := .imagePng }]

/-- What is on the clipboards, on its way and about to be put there comes from where it should. -/
structure Sound (s : State ι κ β) : Prop where
  boards : ∀ m, Came net arboard zstd unixFileCopyPaste s m (s.board m)
  queue : ∀ k side, ∀ msg ∈ s.queue k side,
    Carried net arboard zstd unixFileCopyPaste s k side msg.clipboards
  initial : ∀ k, ∀ msg ∈ s.initial k,
    Carried net arboard zstd unixFileCopyPaste s k .host msg.clipboards
  updates : ∀ m, ∀ waiting ∈ s.updates m,
    (∃ k, net.party k waiting.2 = m ∧
      Carried net arboard zstd unixFileCopyPaste s k waiting.2 waiting.1) ∨
    ∃ data, waiting = (ofScreenshot data, .client)
  last : ∀ m side, s.last m side = [] ∨ ∃ board, (board ∈ s.copied m ∨ board ∈ s.forced m) ∧
    s.last m side = createMultiClipboards zstd (contentOf arboard unixFileCopyPaste board)

variable {net arboard zstd unixFileCopyPaste} {s t : State ι κ β}

/-- The histories of a state are those of a later one, or shorter. -/
structure Earlier (s t : State ι κ β) : Prop where
  copied : ∀ m, s.copied m ⊆ t.copied m
  forced : ∀ m, s.forced m ⊆ t.forced m

theorem Offered.mono (earlier : Earlier s t) {k : κ} {side : ClipboardSide}
    {data : List ClipboardData} (offered : Offered net arboard unixFileCopyPaste s k side data) :
    Offered net arboard unixFileCopyPaste t k side data := by
  obtain ⟨board, there, is⟩ := offered
  refine ⟨board, there.imp ?_ ?_, is⟩
  · exact fun copied => earlier.copied _ copied
  · exact fun forced => ⟨forced.1, earlier.forced _ forced.2⟩

theorem Carried.mono (earlier : Earlier s t) {k : κ} {side : ClipboardSide}
    {clipboards : List Clipboard}
    (carried : Carried net arboard zstd unixFileCopyPaste s k side clipboards) :
    Carried net arboard zstd unixFileCopyPaste t k side clipboards := by
  obtain ⟨data, offered, read⟩ := carried
  exact ⟨data, offered.mono earlier, read⟩

theorem Came.mono (earlier : Earlier s t) {m : ι} {board : β}
    (came : Came net arboard zstd unixFileCopyPaste s m board) :
    Came net arboard zstd unixFileCopyPaste t m board := by
  rcases came with copied | ⟨k, side, data, at_, offered, is⟩ | screenshot
  · exact .inl (earlier.copied m copied)
  · exact .inr (.inl ⟨k, side, data, at_, offered.mono earlier, is⟩)
  · exact .inr (.inr screenshot)

theorem Earlier.same (copied : t.copied = s.copied) (forced : t.forced = s.forced) :
    Earlier s t :=
  ⟨fun m => by rw [copied]; exact fun _ there => there,
    fun m => by rw [forced]; exact fun _ there => there⟩

/-- What holds of the parts of a state holds of the parts of a later one that are as before. -/
theorem Sound.later (sound : Sound net arboard zstd unixFileCopyPaste s) (earlier : Earlier s t)
    (boards : ∀ m, t.board m = s.board m ∨ Came net arboard zstd unixFileCopyPaste t m (t.board m))
    (queue : ∀ k side, ∀ msg ∈ t.queue k side, msg ∈ s.queue k side ∨
      Carried net arboard zstd unixFileCopyPaste t k side msg.clipboards)
    (initial : ∀ k, ∀ msg ∈ t.initial k, msg ∈ s.initial k ∨
      Carried net arboard zstd unixFileCopyPaste t k .host msg.clipboards)
    (updates : ∀ m, ∀ waiting ∈ t.updates m, waiting ∈ s.updates m ∨
      (∃ k, net.party k waiting.2 = m ∧
        Carried net arboard zstd unixFileCopyPaste t k waiting.2 waiting.1) ∨
      ∃ data, waiting = (ofScreenshot data, .client))
    (last : ∀ m side, t.last m side = s.last m side ∨ t.last m side = [] ∨
      ∃ board, (board ∈ t.copied m ∨ board ∈ t.forced m) ∧
        t.last m side = createMultiClipboards zstd (contentOf arboard unixFileCopyPaste board)) :
    Sound net arboard zstd unixFileCopyPaste t := by
  refine ⟨fun m => ?_, fun k side msg there => ?_, fun k msg there => ?_,
    fun m waiting there => ?_, fun m side => ?_⟩
  · rcases boards m with same | came
    · rw [same]
      exact (sound.boards m).mono earlier
    · exact came
  · rcases queue k side msg there with old | carried
    · exact (sound.queue k side msg old).mono earlier
    · exact carried
  · rcases initial k msg there with old | carried
    · exact (sound.initial k msg old).mono earlier
    · exact carried
  · rcases updates m waiting there with old | new
    · refine (sound.updates m waiting old).imp_left ?_
      exact fun ⟨k, at_, carried⟩ => ⟨k, at_, carried.mono earlier⟩
    · exact new
  · rcases last m side with same | new
    · rw [same]
      refine (sound.last m side).imp_right ?_
      intro ⟨board, there, is⟩
      exact ⟨board, there.imp (earlier.copied m ·) (earlier.forced m ·), is⟩
    · exact new

/-- What is found on a clipboard carries no mark, and is all that is there. -/
theorem checkClipboard_found {board : β} {side : ClipboardSide} {clipboards : List Clipboard}
    (found : checkClipboard arboard zstd unixFileCopyPaste board side false = some clipboards) :
    owned arboard unixFileCopyPaste board = false ∧
      clipboards = createMultiClipboards zstd (contentOf arboard unixFileCopyPaste board) := by
  have unmarked : owned arboard unixFileCopyPaste board = false := by
    by_contra marked
    rw [checkClipboard_owned (Bool.of_not_eq_false marked) side] at found
    exact absurd found.symm (Option.some_ne_none _)
  refine ⟨unmarked, ?_⟩
  unfold checkClipboard at found
  rw [get_unmarked unmarked side] at found
  dsimp only at found
  split at found
  · cases found
  · exact (Option.some.inj found).symm

/-- A clipboard without the mark was copied where it is. -/
theorem Came.copied {m : ι} {board : β} (came : Came net arboard zstd unixFileCopyPaste s m board)
    (unmarked : owned arboard unixFileCopyPaste board = false) : board ∈ s.copied m := by
  have marked (data : List ClipboardData) (side : ClipboardSide)
      (is : board = doUpdateClipboard arboard data side) : False := by
    rw [is, owned_update] at unmarked
    exact Bool.false_ne_true unmarked.symm
  rcases came with copied | ⟨k, side, data, at_, offered, is⟩ | ⟨data, is⟩
  · exact copied
  · exact (marked _ side is).elim
  · exact (marked _ .client is).elim

/-- The message for a new session is read as what it was made from. -/
theorem from_currentMsg {supports : Bool} {data : List ClipboardData}
    {msg : MultiClipboards.Message}
    (made : currentMsg supports (createMultiClipboards zstd data) = some msg) :
    fromMultiClipboards zstd msg.clipboards = received zstd supports data := by
  unfold currentMsg at made
  split at made
  · cases made
  · split at made
    · rename_i supported
      obtain rfl := Option.some.inj made
      rw [supported]
      exact from_create zstd data
    · rename_i unsupported
      have is := from_outgoing zstd supports data
      unfold outgoing getMsgIfNotSupportMultiClip at is
      rw [if_neg unsupported, made] at is
      exact is

section Step

variable [DecidableEq ι]

/-- What a side finds and sends was copied on its machine. -/
theorem Sound.found (sound : Sound net arboard zstd unixFileCopyPaste s) {m : ι}
    {side : ClipboardSide} {clipboards : List Clipboard} (copied : s.board m ∈ s.copied m)
    (is : clipboards =
      createMultiClipboards zstd (contentOf arboard unixFileCopyPaste (s.board m))) :
    Sound net arboard zstd unixFileCopyPaste (s.found net m side clipboards) := by
  have stored : Sound net arboard zstd unixFileCopyPaste (s.store net m side clipboards) := by
    refine sound.later (.same rfl rfl) (fun _ => .inl rfl) (fun _ _ _ there => .inl there)
      (fun _ _ there => .inl there) (fun _ _ there => .inl there) fun n process => ?_
    by_cases here : n = m
    · subst here
      by_cases same : process = net.process n side
      · refine .inr (.inr ⟨s.board n, .inl copied, ?_⟩)
        dsimp only [State.store]
        rw [same, Function.update_self, Function.update_self, is]
      · refine .inl ?_
        dsimp only [State.store]
        rw [Function.update_self, Function.update_of_ne same]
    · refine .inl ?_
      dsimp only [State.store]
      rw [Function.update_of_ne here]
  have sent : Sound net arboard zstd unixFileCopyPaste
      ((s.store net m side clipboards).send net m side clipboards) := by
    refine stored.later (.same rfl rfl) (fun _ => .inl rfl) (fun k toward msg there => ?_)
      (fun _ _ there => .inl there) (fun _ _ there => .inl there) fun _ _ => .inl rfl
    dsimp only [State.send] at there
    split at there
    · rename_i here
      obtain ⟨rfl, at_, -⟩ := here
      rcases List.mem_append.mp there with old | new
      · exact .inl old
      · obtain rfl := List.mem_singleton.mp new
        refine .inr ⟨contentOf arboard unixFileCopyPaste (s.board m), ⟨s.board m, .inl ?_, rfl⟩, ?_⟩
        · rw [ClipboardSide.other_other, at_]
          exact copied
        · rw [is]
          exact from_outgoing zstd _ _
    · exact .inl there
  unfold State.found
  cases side with
  | host => exact sent
  | client =>
    dsimp only
    split
    · exact sent
    · exact stored

variable [DecidableEq κ]

omit [DecidableEq ι] in
/-- The message for a new session is made from what is stored. -/
theorem Sound.spawnInitial (sound : Sound net arboard zstd unixFileCopyPaste s) (k : κ) :
    Sound net arboard zstd unixFileCopyPaste (s.spawnInitial net k) := by
  unfold State.spawnInitial
  split
  · rename_i msg made
    refine sound.later (.same rfl rfl) (fun _ => .inl rfl) (fun _ _ _ there => .inl there)
      (fun j msg' there => ?_) (fun _ _ there => .inl there) fun _ _ => .inl rfl
    dsimp only at there
    by_cases here : j = k
    · subst here
      rw [Function.update_self] at there
      rcases List.mem_append.mp there with old | new
      · exact .inl old
      · obtain rfl := List.mem_singleton.mp new
        rcases sound.last (net.viewer j) (net.process (net.viewer j) .client) with empty | stored
        · rw [empty] at made
          cases made
        · obtain ⟨board, origin, is⟩ := stored
          rw [is] at made
          refine .inr ⟨contentOf arboard unixFileCopyPaste board, ⟨board, ?_, rfl⟩,
            from_currentMsg made⟩
          exact origin.imp id fun forced => ⟨rfl, forced⟩
    · rw [Function.update_of_ne here] at there
      exact .inl there
  · exact sound

omit [DecidableEq κ] in
/-- What is read by force is kept in the history. -/
theorem Sound.force (sound : Sound net arboard zstd unixFileCopyPaste s) (m : ι) :
    Sound net arboard zstd unixFileCopyPaste (s.force net m (createMultiClipboards zstd
      (contentOf arboard unixFileCopyPaste (s.board m)))) := by
  have earlier : Earlier s (s.force net m (createMultiClipboards zstd
      (contentOf arboard unixFileCopyPaste (s.board m)))) := by
    refine ⟨fun n board there => there, fun n board there => ?_⟩
    dsimp only [State.force]
    by_cases here : n = m
    · subst here
      rw [Function.update_self]
      exact List.mem_cons_of_mem _ there
    · rw [Function.update_of_ne here]
      exact there
  refine sound.later earlier (fun _ => .inl rfl) (fun _ _ _ there => .inl there)
    (fun _ _ there => .inl there) (fun _ _ there => .inl there) fun n process => ?_
  dsimp only [State.force, State.store]
  by_cases here : n = m
  · subst here
    rw [Function.update_self]
    by_cases same : process = net.process n .client
    · refine .inr (.inr ⟨s.board n, .inr ?_, ?_⟩)
      · rw [Function.update_self]
        exact List.mem_cons_self ..
      · rw [same, Function.update_self]
    · exact .inl (Function.update_of_ne same ..)
  · rw [Function.update_of_ne here]
    exact .inl rfl

omit [DecidableEq κ] in
/-- A clipboard that comes from where it should is put on its machine. -/
theorem Sound.put (sound : Sound net arboard zstd unixFileCopyPaste s) {m : ι} {board : β}
    (earlier : Earlier s t) (came : Came net arboard zstd unixFileCopyPaste t m board)
    (boards : t.board = Function.update s.board m board) (queue : t.queue = s.queue)
    (initial : t.initial = s.initial) (updates : ∀ n, t.updates n ⊆ s.updates n)
    (last : t.last = s.last) : Sound net arboard zstd unixFileCopyPaste t := by
  refine sound.later earlier (fun n => ?_) (fun k side msg there => ?_) (fun k msg there => ?_)
    (fun n waiting there => .inl (updates n there)) fun n side => ?_
  · rw [boards]
    by_cases here : n = m
    · subst here
      rw [Function.update_self]
      exact .inr came
    · exact .inl (Function.update_of_ne here ..)
  · rw [queue] at there
    exact .inl there
  · rw [initial] at there
    exact .inl there
  · rw [last]
    exact .inl rfl

/-- One message fewer waits at a side, and its clipboards may wait for their thread. -/
theorem Sound.receive (sound : Sound net arboard zstd unixFileCopyPaste s) {k : κ}
    {side : ClipboardSide}
    (next : step net arboard zstd unixFileCopyPaste s (.receive k side) = some t) :
    Sound net arboard zstd unixFileCopyPaste t := by
  simp only [step] at next
  split at next
  · rename_i msg rest waits
    obtain rfl := Option.some.inj next
    have carried := sound.queue k side msg (by rw [waits]; exact List.mem_cons_self ..)
    refine sound.later (.same rfl rfl) (fun _ => .inl rfl) (fun j toward msg' there => .inl ?_)
      (fun _ _ there => .inl there) (fun m waiting there => ?_) fun _ _ => .inl rfl
    · dsimp only at there
      by_cases here : j = k
      · subst here
        rw [Function.update_self] at there
        by_cases same : toward = side
        · rw [same, Function.update_self] at there
          rw [same, waits]
          exact List.mem_cons_of_mem _ there
        · rw [Function.update_of_ne same] at there
          exact there
      · rw [Function.update_of_ne here] at there
        exact there
    · dsimp only at there
      split at there
      · by_cases here : m = net.party k side
        · subst here
          rw [Function.update_self] at there
          rcases List.mem_append.mp there with old | new
          · exact .inl old
          · obtain rfl := List.mem_singleton.mp new
            exact .inr (.inl ⟨k, rfl, carried⟩)
        · rw [Function.update_of_ne here] at there
          exact .inl there
      · exact .inl there
  · cases next

/-- A thread puts on the clipboard what it has. -/
theorem Sound.update (sound : Sound net arboard zstd unixFileCopyPaste s) {m : ι} {i : Nat}
    {sets : Bool}
    (next : step net arboard zstd unixFileCopyPaste s (.update m i sets) = some t) :
    Sound net arboard zstd unixFileCopyPaste t := by
  simp only [step] at next
  split at next
  · rename_i multiClipboards side waits
    have fewer (n : ι) : Function.update s.updates m ((s.updates m).eraseIdx i) n ⊆
        s.updates n := by
      by_cases here : n = m
      · subst here
        rw [Function.update_self]
        exact List.eraseIdx_subset
      · rw [Function.update_of_ne here]
        exact fun _ there => there
    have unset : Sound net arboard zstd unixFileCopyPaste
        { s with updates := Function.update s.updates m ((s.updates m).eraseIdx i) } :=
      sound.later (.same rfl rfl) (fun _ => .inl rfl) (fun _ _ _ there => .inl there)
        (fun _ _ there => .inl there) (fun n _ there => .inl (fewer n there)) fun _ _ => .inl rfl
    split at next
    · rename_i board updated
      obtain rfl := Option.some.inj next
      split
      · refine sound.put (.same rfl rfl) ?_ rfl rfl rfl fewer rfl
        unfold updateClipboard at updated
        dsimp only at updated
        split at updated
        · cases updated
        · obtain rfl := Option.some.inj updated
          rcases sound.updates m _ (List.mem_of_getElem? waits) with ⟨k, at_, carried⟩ | shot
          · obtain ⟨data, offered, read⟩ := carried
            exact .inr (.inl ⟨k, side, data, at_, offered.mono (.same rfl rfl), by rw [read]⟩)
          · obtain ⟨data, is⟩ := shot
            obtain ⟨rfl, rfl⟩ := Prod.mk.inj is
            exact .inr (.inr ⟨data, rfl⟩)
      · exact unset
    · obtain rfl := Option.some.inj next
      exact unset
  · cases next

/-- The task of a new session sends its message or drops it. -/
theorem Sound.sendInitial (sound : Sound net arboard zstd unixFileCopyPaste s) {k : κ} {i : Nat}
    (next : step net arboard zstd unixFileCopyPaste s (.sendInitial k i) = some t) :
    Sound net arboard zstd unixFileCopyPaste t := by
  simp only [step] at next
  split at next
  · rename_i msg waits
    obtain rfl := Option.some.inj next
    have carried := sound.initial k msg (List.mem_of_getElem? waits)
    have fewer (j : κ) : Function.update s.initial k ((s.initial k).eraseIdx i) j ⊆
        s.initial j := by
      by_cases here : j = k
      · subst here
        rw [Function.update_self]
        exact List.eraseIdx_subset
      · rw [Function.update_of_ne here]
        exact fun _ there => there
    split
    · refine sound.later (.same rfl rfl) (fun _ => .inl rfl) (fun j toward msg' there => ?_)
        (fun j _ there => .inl (fewer j there)) (fun _ _ there => .inl there) fun _ _ => .inl rfl
      dsimp only at there
      by_cases here : j = k
      · subst here
        rw [Function.update_self] at there
        by_cases same : toward = .host
        · subst same
          rw [Function.update_self] at there
          rcases List.mem_append.mp there with old | new
          · exact .inl old
          · obtain rfl := List.mem_singleton.mp new
            exact .inr (carried.mono (.same rfl rfl))
        · rw [Function.update_of_ne same] at there
          exact .inl there
      · rw [Function.update_of_ne here] at there
        exact .inl there
    · exact sound.later (.same rfl rfl) (fun _ => .inl rfl) (fun _ _ _ there => .inl there)
        (fun j _ there => .inl (fewer j there)) (fun _ _ there => .inl there) fun _ _ => .inl rfl
  · cases next

/-- Whatever happens, all comes from where it should. -/
theorem Sound.step (sound : Sound net arboard zstd unixFileCopyPaste s) {e : Event ι κ β}
    (next : step net arboard zstd unixFileCopyPaste s e = some t) :
    Sound net arboard zstd unixFileCopyPaste t := by
  cases e with
  | copy m board =>
    obtain rfl := Option.some.inj next
    have grown (n : ι) : s.copied n ⊆ Function.update s.copied m (board :: s.copied m) n := by
      by_cases here : n = m
      · subst here
        rw [Function.update_self]
        exact fun _ there => List.mem_cons_of_mem _ there
      · rw [Function.update_of_ne here]
        exact fun _ there => there
    refine sound.put ⟨grown, fun _ _ there => there⟩ (.inl ?_) rfl rfl rfl
      (fun _ _ there => there) rfl
    dsimp only
    rw [Function.update_self]
    exact List.mem_cons_self ..
  | notice m side reads =>
    simp only [Sync.step] at next
    split at next
    · rename_i left waits
      have noticed : Sound net arboard zstd unixFileCopyPaste (s.noticed m side left) :=
        sound.later (.same rfl rfl) (fun _ => .inl rfl) (fun _ _ _ there => .inl there)
          (fun _ _ there => .inl there) (fun _ _ there => .inl there) fun _ _ => .inl rfl
      split at next
      · rename_i clipboards found
        obtain rfl := Option.some.inj next
        obtain ⟨unmarked, is⟩ := checkClipboard_found found
        split
        · exact noticed.found ((noticed.boards m).copied unmarked) is
        · exact noticed
      · obtain rfl := Option.some.inj next
        exact noticed
    · cases next
  | receive k side => exact sound.receive next
  | update m i sets => exact sound.update next
  | screenshot m data =>
    obtain rfl := Option.some.inj next
    refine sound.later (.same rfl rfl) (fun _ => .inl rfl) (fun _ _ _ there => .inl there)
      (fun _ _ there => .inl there) (fun n waiting there => ?_) fun _ _ => .inl rfl
    dsimp only at there
    by_cases here : n = m
    · subst here
      rw [Function.update_self] at there
      rcases List.mem_append.mp there with old | new
      · exact .inl old
      · exact .inr (.inr ⟨data, List.mem_singleton.mp new⟩)
    · rw [Function.update_of_ne here] at there
      exact .inl there
  | connected k reads =>
    simp only [Sync.step] at next
    split at next
    · split at next
      · obtain rfl := Option.some.inj next
        exact (sound.force (net.viewer k)).spawnInitial k
      · obtain rfl := Option.some.inj next
        exact sound
    · obtain rfl := Option.some.inj next
      exact sound.spawnInitial k
  | sendInitial k i => exact sound.sendInitial next
  | close k =>
    obtain rfl := Option.some.inj next
    refine sound.later (.same rfl rfl) (fun _ => .inl rfl) (fun j toward msg there => .inl ?_)
      (fun j msg there => .inl ?_) (fun _ _ there => .inl there) fun _ _ => .inl rfl
    · dsimp only at there
      by_cases here : j = k
      · subst here
        rw [Function.update_self] at there
        cases there
      · rw [Function.update_of_ne here] at there
        exact there
    · dsimp only at there
      by_cases here : j = k
      · subst here
        rw [Function.update_self] at there
        cases there
      · rw [Function.update_of_ne here] at there
        exact there
  | subscribe m side | unsubscribe m side | setIsTextClipboardRequired m required
  | change k session =>
    obtain rfl := Option.some.inj next
    exact sound.later (.same rfl rfl) (fun _ => .inl rfl) (fun _ _ _ there => .inl there)
      (fun _ _ there => .inl there) (fun _ _ there => .inl there) fun _ _ => .inl rfl

omit [DecidableEq κ] in
theorem found_queue (m : ι) (side : ClipboardSide) (clipboards : List Clipboard) (k : κ)
    (toward : ClipboardSide) :
    (s.found net m side clipboards).queue k toward = s.queue k toward ∨
      toward = side.other ∧ net.party k side = m ∧
        (s.found net m side clipboards).queue k toward =
          s.queue k toward ++ [outgoing (net.supports k toward) clipboards] := by
  have sent : ((s.store net m side clipboards).send net m side clipboards).queue k toward =
        s.queue k toward ∨
      toward = side.other ∧ net.party k side = m ∧
        ((s.store net m side clipboards).send net m side clipboards).queue k toward =
          s.queue k toward ++ [outgoing (net.supports k toward) clipboards] := by
    by_cases goes : toward = side.other ∧ net.party k side = m ∧ (s.session k).sends side
    · exact .inr ⟨goes.1, goes.2.1, if_pos goes⟩
    · exact .inl (if_neg goes)
  unfold State.found
  cases side with
  | host => exact sent
  | client =>
    dsimp only
    split
    · exact sent
    · exact .inl rfl

/-- What a notice sends was copied where it was noticed. -/
theorem Sound.notice (sound : Sound net arboard zstd unixFileCopyPaste s) {m : ι}
    {side : ClipboardSide} {reads : Bool}
    (next : Sync.step net arboard zstd unixFileCopyPaste s (.notice m side reads) = some t)
    (k : κ) (toward : ClipboardSide) :
    t.queue k toward = s.queue k toward ∨
      toward = side.other ∧ net.party k side = m ∧ s.board m ∈ s.copied m ∧
        t.queue k toward = s.queue k toward ++ [outgoing (net.supports k toward)
          (createMultiClipboards zstd (contentOf arboard unixFileCopyPaste (s.board m)))] := by
  simp only [Sync.step] at next
  split at next
  · rename_i left waits
    split at next
    · rename_i clipboards found
      obtain rfl := Option.some.inj next
      obtain ⟨unmarked, rfl⟩ := checkClipboard_found found
      have copied : s.board m ∈ s.copied m := (sound.boards m).copied unmarked
      split
      · refine (found_queue m side _ k toward).imp_right fun goes => ?_
        obtain ⟨away, at_, more⟩ := goes
        exact ⟨away, at_, copied, more⟩
      · exact .inl rfl
    · obtain rfl := Option.some.inj next
      exact .inl rfl
  · cases next

variable (net arboard zstd unixFileCopyPaste)

/-- In every run, what is on a clipboard was copied on that machine, is a screenshot, or arrived
over one session from what the machine at its other end had to send; the same holds of every message
on its way. A notice sends nothing but what was copied where it was noticed. -/
theorem clipboards_travel_once :
    (sync net arboard zstd unixFileCopyPaste).Always Machine.free fun s e t =>
      (∀ m, Came net arboard zstd unixFileCopyPaste t m (t.board m)) ∧
      (∀ k side, ∀ msg ∈ t.queue k side,
        Carried net arboard zstd unixFileCopyPaste t k side msg.clipboards) ∧
      ∀ m side reads, e = .notice m side reads → ∀ k toward,
        t.queue k toward = s.queue k toward ∨
          toward = side.other ∧ net.party k side = m ∧ s.board m ∈ s.copied m ∧
            t.queue k toward = s.queue k toward ++ [outgoing (net.supports k toward)
              (createMultiClipboards zstd
                (contentOf arboard unixFileCopyPaste (s.board m)))] := by
  refine Machine.Always.of_invariant (Sound net arboard zstd unixFileCopyPaste) ?_ ?_ ?_
  · rintro s ⟨copied, last, queue, initial, updates, forced⟩
    refine ⟨fun m => .inl ?_, fun k side msg there => ?_, fun k msg there => ?_,
      fun m waiting there => ?_, fun m side => .inl (last m side)⟩
    · rw [copied]
      exact List.mem_singleton_self _
    · rw [queue] at there
      cases there
    · rw [initial] at there
      cases there
    · rw [updates] at there
      cases there
  · exact fun s e t sound _ next => sound.step next
  · intro s e t sound _ next
    have later := sound.step next
    refine ⟨later.boards, later.queue, fun m side reads is k toward => ?_⟩
    subst is
    exact sound.notice next k toward

end Step

end Origins

end ChainRemote.Clipboard.Sync
