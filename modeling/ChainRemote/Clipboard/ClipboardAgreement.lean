import ChainRemote.Lib.Remembered
import ChainRemote.Clipboard.ClipboardSync

/-!
# What is copied gets there

Where every permission is given, every clipboard can be read and set, and nothing is copied before
all that was copied earlier has arrived, a copy reaches every machine in a session with the one it
was made on, and no other.
-/

namespace ChainRemote.Clipboard.Sync

open Lib MultiClipboards
open Server.TerminalReplay (Compression)

variable {ι κ β : Type}

/-- Nothing waits and nothing is on its way. -/
structure Calm (s : State ι κ β) : Prop where
  notices : ∀ m side, s.notices m side = 0
  queue : ∀ k side, s.queue k side = []
  updates : ∀ m, s.updates m = []

/-- All listen and every permission is given. -/
structure Open (s : State ι κ β) : Prop where
  listens : ∀ m side, s.listens m side = true
  isTextRequired : ∀ m, s.isTextRequired m = true
  sends : ∀ k side, (s.session k).sends side = true
  takes : ∀ k side, (s.session k).takes side = true

variable (net : Sessions ι κ) (arboard : Arboard β) (zstd : Compression)
  (unixFileCopyPaste : Bool)

/-- Copies are made where all is calm, on a machine that does not view itself, and reading and
setting succeed. Permissions stay as they are. -/
def OneAtATime (s : State ι κ β) : Event ι κ β → Prop
  | .copy m _ => Calm s ∧ ∀ k, net.viewer k = m → net.host k ≠ m
  | .notice _ _ reads => reads = true
  | .receive .. => True
  | .update _ _ sets => sets = true
  | _ => False

/-- A copy. -/
def Event.copies : Event ι κ β → Bool
  | .copy .. => true
  | _ => false

/-- What is sent of a clipboard. -/
def toSend (board : β) : List ClipboardData :=
  if owned arboard unixFileCopyPaste board then []
  else get arboard unixFileCopyPaste board .client true

/-- What a machine receives of what another sends over one of their sessions. -/
def Arrived (m : ι) (data : List ClipboardData) (n : ι) (board : β) : Prop :=
  ∃ k side, net.party k side = n ∧ net.party k side.other = m ∧
    received zstd (net.supports k side) data ≠ [] ∧
    board = doUpdateClipboard arboard (received zstd (net.supports k side) data) side

/-- A message over a session made of what was copied. -/
def messageOf (data : List ClipboardData) (k : κ) (side : ClipboardSide) : MultiClipboards.Message :=
  outgoing (net.supports k side) (createMultiClipboards zstd data)

/-- A copy on one machine on its way to the others; `before` is what was on the clipboards when it
was made. -/
structure Spreading (before : ι → β) (m : ι) (data : List ClipboardData) (s : State ι κ β) :
    Prop where
  alone : ∀ k side, net.party k side = m → net.party k side.other ≠ m
  sent : data = toSend arboard unixFileCopyPaste (before m)
  boards : ∀ n, s.board n = before n ∨ Arrived net arboard zstd m data n (s.board n)
  noticed : ∀ n side, n ≠ m → 0 < s.notices n side →
    Arrived net arboard zstd m data n (s.board n)
  queue : ∀ k side, ∀ msg ∈ s.queue k side,
    net.party k side.other = m ∧ msg = messageOf net zstd data k side
  updates : ∀ n, ∀ waiting ∈ s.updates n, ∃ k, net.party k waiting.2 = n ∧
    net.party k waiting.2.other = m ∧ waiting.1 = (messageOf net zstd data k waiting.2).clipboards
  onWay : ∀ k side, net.party k side.other = m →
    received zstd (net.supports k side) data ≠ [] →
    0 < s.notices m side.other ∨ s.queue k side ≠ [] ∨
      (∃ waiting ∈ s.updates (net.party k side), fromMultiClipboards zstd waiting.1 ≠ []) ∨
      Arrived net arboard zstd m data (net.party k side) (s.board (net.party k side))

variable {net arboard zstd unixFileCopyPaste} {s t : State ι κ β} {before : ι → β} {m : ι}
  {data : List ClipboardData}

theorem Arrived.owned {n : ι} {board : β} (arrived : Arrived net arboard zstd m data n board) :
    owned arboard unixFileCopyPaste board = true := by
  obtain ⟨k, side, -, -, -, rfl⟩ := arrived
  exact owned_update _ side

theorem from_messageOf (k : κ) (side : ClipboardSide) :
    fromMultiClipboards zstd (messageOf net zstd data k side).clipboards =
      received zstd (net.supports k side) data :=
  from_outgoing zstd _ data

@[simp] theorem received_nil (supports : Bool) : received zstd supports [] = [] := by
  cases supports <;> rfl

/-- What was copied stays where it was copied. -/
theorem Spreading.home
    (spreading : Spreading net arboard zstd unixFileCopyPaste before m data s) :
    s.board m = before m := by
  rcases spreading.boards m with same | ⟨k, side, here, there, -, -⟩
  · exact same
  · exact absurd there (spreading.alone k side here)

/-- What is found where it was copied is what is sent; nothing is found where it arrived. -/
theorem Spreading.found
    (spreading : Spreading net arboard zstd unixFileCopyPaste before m data s) {n : ι}
    {side : ClipboardSide} {left : Nat} (waits : s.notices n side = left + 1)
    {clipboards : List Clipboard}
    (found : checkClipboard arboard zstd unixFileCopyPaste (s.board n) side false =
      some clipboards) : n = m ∧ clipboards = createMultiClipboards zstd data := by
  have unmarked : owned arboard unixFileCopyPaste (s.board n) ≠ true := by
    intro marked
    rw [checkClipboard_owned marked side] at found
    cases found
  have here : n = m := by
    by_contra away
    have arrived := spreading.noticed n side away (by omega)
    exact unmarked arrived.owned
  subst here
  refine ⟨rfl, ?_⟩
  have content := get_unmarked (Bool.of_not_eq_true unmarked) side
  unfold checkClipboard at found
  dsimp only at found
  split at found
  · cases found
  · rw [spreading.sent, toSend, ← spreading.home, if_neg unmarked, ← content]
    exact (Option.some.inj found).symm

/-- Where nothing is found on the clipboard that was copied, nothing is received. -/
theorem Spreading.unfound
    (spreading : Spreading net arboard zstd unixFileCopyPaste before m data s)
    {side : ClipboardSide}
    (found : checkClipboard arboard zstd unixFileCopyPaste (s.board m) side false = none) :
    data = [] := by
  rw [spreading.sent, toSend, ← spreading.home]
  split
  · rfl
  · rename_i unmarked
    have content := get_unmarked (Bool.of_not_eq_true unmarked) side
    unfold checkClipboard at found
    dsimp only at found
    split at found
    · rename_i empty
      rw [← content]
      exact List.isEmpty_iff.mp empty
    · cases found

section Step

variable [DecidableEq ι] [DecidableEq κ]

omit [DecidableEq κ] in
/-- A copy where all is calm is on its way to the others. -/
theorem Spreading.start (calm : Calm s) (listens : ∀ m side, s.listens m side = true)
    (alone : ∀ k, net.viewer k = m → net.host k ≠ m) (board : β) :
    Spreading net arboard zstd unixFileCopyPaste (Function.update s.board m board) m
      (toSend arboard unixFileCopyPaste board) (s.put m board) := by
  refine ⟨fun k side here => ?_, ?_, fun n => .inl rfl, fun n side away some_ => ?_,
    fun k side msg there => ?_, fun n waiting there => ?_, fun k side there more => .inl ?_⟩
  · cases side with
    | host => exact fun there => alone k there here
    | client => exact alone k here
  · rw [Function.update_self]
  · have none_ : (s.put m board).notices n side = 0 := by
      dsimp only [State.put]
      rw [Function.update_of_ne away]
      exact calm.notices n side
    omega
  · rw [show (s.put m board).queue k side = s.queue k side from rfl, calm.queue] at there
    cases there
  · rw [show (s.put m board).updates n = s.updates n from rfl, calm.updates] at there
    cases there
  · dsimp only [State.put]
    rw [Function.update_self, listens]
    exact Nat.succ_pos _

omit [DecidableEq κ] in
/-- With every permission all sessions of a side are sent what it found. -/
theorem found_open (open_ : Open s) (side : ClipboardSide) (clipboards : List Clipboard) (k : κ)
    (toward : ClipboardSide) :
    (s.found net m side clipboards).queue k toward =
      if toward = side.other ∧ net.party k side = m then
        s.queue k toward ++ [outgoing (net.supports k toward) clipboards]
      else s.queue k toward := by
  have sends := open_.sends k side
  have sent : ((s.store net m side clipboards).send net m side clipboards).queue k toward =
      if toward = side.other ∧ net.party k side = m then
        s.queue k toward ++ [outgoing (net.supports k toward) clipboards]
      else s.queue k toward := by
    dsimp only [State.send, State.store]
    simp only [sends, and_true]
  unfold State.found
  cases side with
  | host => exact sent
  | client =>
    have required : (s.store net m .client clipboards).isTextRequired m = true :=
      open_.isTextRequired m
    dsimp only
    rw [if_pos required]
    exact sent

omit [DecidableEq κ] in
theorem found_updates (side : ClipboardSide) (clipboards : List Clipboard) :
    (s.found net m side clipboards).board = s.board ∧
      (s.found net m side clipboards).notices = s.notices ∧
      (s.found net m side clipboards).updates = s.updates := by
  unfold State.found
  cases side with
  | host => exact ⟨rfl, rfl, rfl⟩
  | client =>
    dsimp only
    split
    · exact ⟨rfl, rfl, rfl⟩
    · exact ⟨rfl, rfl, rfl⟩

omit [DecidableEq κ] in
theorem noticed_le {n : ι} {side : ClipboardSide} {left : Nat}
    (waits : s.notices n side = left + 1) (p : ι) (other : ClipboardSide) :
    (s.noticed n side left).notices p other ≤ s.notices p other := by
  dsimp only [State.noticed]
  by_cases here : p = n
  · subst here
    rw [Function.update_self]
    by_cases same : other = side
    · subst same
      rw [Function.update_self, waits]
      omega
    · rw [Function.update_of_ne same]
  · rw [Function.update_of_ne here]

omit [DecidableEq κ] in
theorem noticed_other {n : ι} {side other : ClipboardSide} {left : Nat}
    (apart : ¬(m = n ∧ other = side)) :
    (s.noticed n side left).notices m other = s.notices m other := by
  dsimp only [State.noticed]
  by_cases here : m = n
  · subst here
    rw [Function.update_self, Function.update_of_ne fun same => apart ⟨rfl, same⟩]
  · rw [Function.update_of_ne here]

/-- A side that finds the copy sends it to all its sessions; at any other notice nothing is sent. -/
theorem Spreading.notice
    (spreading : Spreading net arboard zstd unixFileCopyPaste before m data s) (open_ : Open s)
    {n : ι} {side : ClipboardSide}
    (next : step net arboard zstd unixFileCopyPaste s (.notice n side true) = some t) :
    Spreading net arboard zstd unixFileCopyPaste before m data t := by
  simp only [step] at next
  split at next
  · rename_i left waits
    have fewer (p : ι) (other : ClipboardSide) := noticed_le waits p other
    split at next
    · rename_i clipboards found
      obtain rfl := Option.some.inj next
      obtain ⟨rfl, rfl⟩ := spreading.found waits found
      rw [if_pos trivial]
      have opened : Open (s.noticed n side left) :=
        ⟨open_.listens, open_.isTextRequired, open_.sends, open_.takes⟩
      have queue (k : κ) (toward : ClipboardSide) := @found_open _ _ _ net (s.noticed n side left) n _ opened
        side (createMultiClipboards zstd data) k toward
      obtain ⟨board, notices, updates⟩ := @found_updates _ _ _ net (s.noticed n side left) n _ side
        (createMultiClipboards zstd data)
      refine ⟨spreading.alone, spreading.sent, fun p => ?_, fun p other away some_ => ?_,
        fun k toward msg there => ?_, fun p waiting there => ?_, fun k other there more => ?_⟩
      · rw [board]
        exact spreading.boards p
      · rw [notices] at some_
        rw [board]
        have before := fewer p other
        exact spreading.noticed p other away (by omega)
      · rw [queue] at there
        split at there
        · rename_i goes
          rcases List.mem_append.mp there with old | new
          · exact spreading.queue k toward msg old
          · refine ⟨?_, List.mem_singleton.mp new⟩
            rw [goes.1, ClipboardSide.other_other]
            exact goes.2
        · exact spreading.queue k toward msg there
      · rw [updates] at there
        exact spreading.updates p waiting there
      · rw [queue, notices, updates, board]
        by_cases same : other.other = side
        · refine .inr (.inl ?_)
          have goes : other = side.other ∧ net.party k side = n := by
            subst same
            exact ⟨(ClipboardSide.other_other other).symm, there⟩
          rw [if_pos goes]
          exact List.append_ne_nil_of_right_ne_nil _ (List.cons_ne_nil _ _)
        · have waits' : (s.noticed n side left).notices n other.other = s.notices n other.other :=
            noticed_other fun both => same both.2
          rw [waits']
          refine (spreading.onWay k other there more).imp_right (.imp_left fun old => ?_)
          split
          · exact List.append_ne_nil_of_left_ne_nil old _
          · exact old
    · rename_i found
      obtain rfl := Option.some.inj next
      refine ⟨spreading.alone, spreading.sent, spreading.boards, fun p other away some_ => ?_,
        spreading.queue, spreading.updates, fun k other there more => ?_⟩
      · have before := fewer p other
        exact spreading.noticed p other away (by omega)
      · have apart : ¬(m = n ∧ other.other = side) := by
          rintro ⟨rfl, rfl⟩
          have nothing := spreading.unfound found
          rw [nothing, received_nil] at more
          exact more rfl
        have same : (s.noticed n side left).notices m other.other = s.notices m other.other :=
          noticed_other apart
        rw [same]
        exact spreading.onWay k other there more
  · cases next

/-- What is received waits for its thread. -/
theorem Spreading.receive
    (spreading : Spreading net arboard zstd unixFileCopyPaste before m data s) (open_ : Open s)
    {k : κ} {side : ClipboardSide}
    (next : step net arboard zstd unixFileCopyPaste s (.receive k side) = some t) :
    Spreading net arboard zstd unixFileCopyPaste before m data t := by
  simp only [step] at next
  split at next
  · rename_i msg rest waits
    obtain rfl := Option.some.inj next
    obtain ⟨away, is⟩ := spreading.queue k side msg (by rw [waits]; exact List.mem_cons_self ..)
    rw [if_pos (open_.takes k side)]
    have rests (j : κ) (toward : ClipboardSide) :
        Function.update s.queue k (Function.update (s.queue k) side rest) j toward =
          if j = k ∧ toward = side then rest else s.queue j toward := by
      by_cases here : j = k
      · subst here
        rw [Function.update_self]
        by_cases same : toward = side
        · rw [same, Function.update_self, if_pos ⟨rfl, rfl⟩]
        · rw [Function.update_of_ne same, if_neg fun both => same both.2]
      · rw [Function.update_of_ne here, if_neg fun both => here both.1]
    have gains (n : ι) (waiting : List Clipboard × ClipboardSide) :
        waiting ∈ Function.update s.updates (net.party k side)
            (s.updates (net.party k side) ++ [(msg.clipboards, side)]) n ↔
          waiting ∈ s.updates n ∨ n = net.party k side ∧ waiting = (msg.clipboards, side) := by
      by_cases here : n = net.party k side
      · subst here
        rw [Function.update_self, List.mem_append, List.mem_singleton]
        simp only [true_and]
      · rw [Function.update_of_ne here]
        simp only [here, false_and, or_false]
    refine ⟨spreading.alone, spreading.sent, spreading.boards, spreading.noticed,
      fun j toward other there => ?_, fun n waiting there => ?_, fun j toward there more => ?_⟩
    · dsimp only at there
      rw [rests] at there
      split at there
      · rename_i both
        obtain ⟨rfl, rfl⟩ := both
        exact spreading.queue _ _ other (by rw [waits]; exact List.mem_cons_of_mem _ there)
      · exact spreading.queue j toward other there
    · rcases (gains n waiting).mp there with old | ⟨rfl, rfl⟩
      · exact spreading.updates n waiting old
      · exact ⟨k, rfl, away, congrArg MultiClipboards.Message.clipboards is⟩
    · dsimp only
      rw [rests]
      by_cases both : j = k ∧ toward = side
      · obtain ⟨rfl, rfl⟩ := both
        refine .inr (.inr (.inl ⟨_, (gains _ _).mpr (.inr ⟨rfl, rfl⟩), ?_⟩))
        rw [is, from_messageOf]
        exact more
      · rw [if_neg both]
        refine (spreading.onWay j toward there more).imp_right (.imp_right (.imp_left ?_))
        intro ⟨waiting, old, has⟩
        exact ⟨waiting, (gains _ _).mpr (.inl old), has⟩
  · cases next

/-- A thread puts the copy on its machine. -/
theorem Spreading.update
    (spreading : Spreading net arboard zstd unixFileCopyPaste before m data s) {n : ι} {i : Nat}
    (next : step net arboard zstd unixFileCopyPaste s (.update n i true) = some t) :
    Spreading net arboard zstd unixFileCopyPaste before m data t := by
  simp only [step] at next
  split at next
  · rename_i multiClipboards side waits
    have listed := List.mem_of_getElem? waits
    obtain ⟨k, here, away, is⟩ := spreading.updates n _ listed
    dsimp only at here away is
    have apart : m ≠ n := by
      intro same
      exact spreading.alone k side (here.trans same.symm) away
    have fewer (p : ι) (waiting : List Clipboard × ClipboardSide)
        (there : waiting ∈ Function.update s.updates n ((s.updates n).eraseIdx i) p) :
        waiting ∈ s.updates p := by
      by_cases at_ : p = n
      · subst at_
        rw [Function.update_self] at there
        exact List.mem_of_mem_eraseIdx there
      · rw [Function.update_of_ne at_] at there
        exact there
    split at next
    · rename_i board updated
      obtain rfl := Option.some.inj next
      rw [if_pos trivial]
      have arrived : Arrived net arboard zstd m data n board := by
        unfold updateClipboard at updated
        dsimp only at updated
        rw [is, from_messageOf] at updated
        split at updated
        · cases updated
        · rename_i some_
          exact ⟨k, side, here, away, fun empty => some_ (List.isEmpty_iff.mpr empty),
            (Option.some.inj updated).symm⟩
      have boards (p : ι) : Function.update s.board n board p =
          if p = n then board else s.board p := Function.update_apply ..
      refine ⟨spreading.alone, spreading.sent, fun p => ?_, fun p other apart' some_ => ?_,
        spreading.queue, fun p waiting there => spreading.updates p waiting (fewer p waiting there),
        fun j toward there more => ?_⟩
      · dsimp only [State.put]
        rw [boards]
        split
        · rename_i at_
          subst at_
          exact .inr arrived
        · exact spreading.boards p
      · dsimp only [State.put] at some_ ⊢
        rw [boards]
        split
        · rename_i at_
          subst at_
          exact arrived
        · rename_i at_
          rw [Function.update_of_ne at_] at some_
          exact spreading.noticed p other apart' some_
      · dsimp only [State.put]
        rw [boards]
        by_cases at_ : net.party j toward = n
        · rw [if_pos at_, at_]
          exact .inr (.inr (.inr arrived))
        · rw [if_neg at_, Function.update_of_ne apart, Function.update_of_ne at_]
          exact spreading.onWay j toward there more
    · rename_i unset
      obtain rfl := Option.some.inj next
      refine ⟨spreading.alone, spreading.sent, spreading.boards, spreading.noticed,
        spreading.queue, fun p waiting there => spreading.updates p waiting (fewer p waiting there),
        fun j toward there more => ?_⟩
      refine (spreading.onWay j toward there more).imp_right (.imp_right (.imp_left ?_))
      intro ⟨waiting, old, has⟩
      refine ⟨waiting, ?_, has⟩
      dsimp only
      by_cases at_ : net.party j toward = n
      · rw [at_, Function.update_self]
        rw [at_] at old
        obtain ⟨place, found⟩ := List.mem_iff_getElem?.mp old
        refine List.mem_eraseIdx_iff_getElem?.mpr ⟨place, ?_, found⟩
        rintro rfl
        obtain rfl := Option.some.inj (found.symm.trans waits)
        unfold updateClipboard at unset
        dsimp only at unset
        split at unset
        · rename_i empty
          exact has (List.isEmpty_iff.mp empty)
        · cases unset
      · rw [Function.update_of_ne at_]
        exact old
  · cases next

omit [DecidableEq ι] [DecidableEq κ] in
theorem Open.same (open_ : Open s) (listens : t.listens = s.listens)
    (isTextRequired : t.isTextRequired = s.isTextRequired) (session : t.session = s.session) :
    Open t :=
  ⟨by rw [listens]; exact open_.listens, by rw [isTextRequired]; exact open_.isTextRequired,
    by rw [session]; exact open_.sends, by rw [session]; exact open_.takes⟩

omit [DecidableEq κ] in
theorem Open.found (open_ : Open s) (n : ι) (side : ClipboardSide) (clipboards : List Clipboard) :
    Open (s.found net n side clipboards) := by
  unfold State.found
  cases side with
  | host => exact open_.same rfl rfl rfl
  | client =>
    dsimp only
    split
    · exact open_.same rfl rfl rfl
    · exact open_.same rfl rfl rfl

/-- Permissions stay as they are. -/
theorem Open.step (open_ : Open s) {e : Event ι κ β} (one : OneAtATime net s e)
    (next : step net arboard zstd unixFileCopyPaste s e = some t) : Open t := by
  cases e with
  | copy n board =>
    obtain rfl := Option.some.inj next
    exact open_.same rfl rfl rfl
  | notice n side reads =>
    have noticed (left : Nat) : Open (s.noticed n side left) := open_.same rfl rfl rfl
    simp only [Sync.step] at next
    split at next
    · rename_i left waits
      split at next
      · obtain rfl := Option.some.inj next
        split
        · exact (noticed left).found n side _
        · exact noticed left
      · obtain rfl := Option.some.inj next
        exact noticed left
    · cases next
  | receive k side =>
    simp only [Sync.step] at next
    split at next
    · obtain rfl := Option.some.inj next
      exact open_.same rfl rfl rfl
    · cases next
  | update n i sets =>
    simp only [Sync.step] at next
    split at next
    · split at next
      · obtain rfl := Option.some.inj next
        split
        · exact open_.same rfl rfl rfl
        · exact open_.same rfl rfl rfl
      · obtain rfl := Option.some.inj next
        exact open_.same rfl rfl rfl
    · cases next
  | _ => exact absurd one id

/-- A step that copies nothing leaves the copy on its way. -/
theorem Spreading.step
    (spreading : Spreading net arboard zstd unixFileCopyPaste before m data s) (open_ : Open s)
    {e : Event ι κ β} (one : OneAtATime net s e) (plain : e.copies = false)
    (next : step net arboard zstd unixFileCopyPaste s e = some t) :
    Spreading net arboard zstd unixFileCopyPaste before m data t := by
  cases e with
  | copy n board => cases plain
  | notice n side reads =>
    obtain rfl : reads = true := one
    exact spreading.notice open_ next
  | receive k side => exact spreading.receive open_ next
  | update n i sets =>
    obtain rfl : sets = true := one
    exact spreading.update next
  | _ => exact absurd one id

omit [DecidableEq ι] [DecidableEq κ] in
/-- Where all is calm, the copy is on every machine that receives any of it. -/
theorem Spreading.arrived
    (spreading : Spreading net arboard zstd unixFileCopyPaste before m data s) (calm : Calm s)
    (n : ι) :
    (s.board n = before n ∧ ∀ k side, net.party k side = n → net.party k side.other = m →
      received zstd (net.supports k side) data = []) ∨
    Arrived net arboard zstd m data n (s.board n) := by
  by_cases more : ∃ k side, net.party k side = n ∧ net.party k side.other = m ∧
      received zstd (net.supports k side) data ≠ []
  · obtain ⟨k, side, rfl, there, some_⟩ := more
    rcases spreading.onWay k side there some_ with waits | queued | ⟨waiting, listed, -⟩ | arrived
    · rw [calm.notices] at waits
      exact absurd waits (Nat.lt_irrefl 0)
    · exact absurd (calm.queue k side) queued
    · rw [calm.updates] at listed
      cases listed
    · exact .inr arrived
  · refine (spreading.boards n).imp_left fun same => ⟨same, fun k side here there => ?_⟩
    by_contra some_
    exact more ⟨k, side, here, there, some_⟩

variable (net arboard zstd unixFileCopyPaste)

end Step

end ChainRemote.Clipboard.Sync
