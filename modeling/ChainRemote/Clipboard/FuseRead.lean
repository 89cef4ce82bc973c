import ChainRemote.Lib.Machine
import ChainRemote.Clipboard.FileRange

/-!
# Reads of pasted files

A read of a file of the mounted tree sends a request to the other side and waits for a reply on the
only channel of the server. A reply names the file by its stream, but not the range it is for: after
a read has timed out, its reply can still come and is taken by the next read of the file.

The other side answers every request once, with the bytes it asks for or with a failure, after any
time and in any order.
-/

namespace ChainRemote.Clipboard.FuseRead

open Lib

/-- `READ_RETRY`. -/
def readRetry : Nat := 3

/-- An entry of the tree, as far as `read` uses it. -/
structure Entry where
  node : FuseNode
  /-- `attributes.kind` is `File`. -/
  isFile : Bool
  fileHandlers : List Nat
  marked : Bool

/-- What comes on the channel. -/
inductive Reply
  /-- `FileContentsResponse`, and the request it answers. -/
  | contents (msgFlags streamId : Int32) (requestedData : Bytes) (answers : ContentsRequest)
  /-- Another `ClipboardFile`. -/
  | other

/-- A call of `read_node` that waits for a reply. -/
structure Waiting where
  node : FuseNode
  offset : Int64
  size : UInt32
  retryTimes : Nat := 0

/-- The request of a waiting read. -/
def Waiting.request (waiting : Waiting) : ContentsRequest :=
  waiting.node.request waiting.offset waiting.size

/-- A read that succeeded. -/
structure Returned where
  node : FuseNode
  offset : Int64
  size : UInt32
  data : Bytes

/-- The server, its channel and the requests that the other side has not answered. -/
structure State where
  files : List Entry
  waiting : Option Waiting := none
  channel : List Reply := []
  unanswered : List ContentsRequest := []
  returned : List Returned := []

/-- What can happen. A read holds the lock of the server until it returns. -/
inductive Event
  | read (ino fh : Nat) (offset : Int64) (size : UInt32) (sent : Bool)
  /-- The waiting read takes a reply; a request that it repeats is sent or not. -/
  | receive (sent : Bool)
  | timeout
  /-- The other side answers a request; one with no lowest flag is a failure. -/
  | answer (index : Nat) (msgFlags : Int32) (failed : Bytes)
  /-- Something else comes on the channel. -/
  | other

/-- A reply is no failure. -/
def succeeds (msgFlags : Int32) : Prop := msgFlags &&& 1 ≠ 0

instance (msgFlags : Int32) : Decidable (succeeds msgFlags) :=
  inferInstanceAs (Decidable (msgFlags &&& 1 ≠ 0))

/-- `FuseServer::read` up to its first wait: the entry it reads, if its checks pass. -/
def readable (files : List Entry) : Nat → Nat → Option FuseNode
  | 0, _ => none
  | index + 1, fh =>
    match files[index]? with
    | some entry =>
      if fh ∈ entry.fileHandlers ∧ entry.isFile = true ∧ entry.marked = false then
        some entry.node
      else none
    | none => none

/-- A round of the loop of `read_node`. -/
def receive (s : State) (waiting : Waiting) (reply : Reply) (channel : List Reply) (sent : Bool) :
    State :=
  match reply with
  | .other => { s with waiting := none, channel }
  | .contents msgFlags streamId requestedData _ =>
    if streamId ≠ waiting.node.streamId then { s with channel }
    else if succeeds msgFlags then
      { s with
        waiting := none
        channel
        returned := s.returned ++
          [⟨waiting.node, waiting.offset, waiting.size, requestedData⟩] }
    else
      let retryTimes := waiting.retryTimes + 1
      if retryTimes > readRetry ∨ sent = false then { s with waiting := none, channel }
      else
        { s with
          waiting := some { waiting with retryTimes }
          channel
          unanswered := s.unanswered ++ [waiting.request] }

/-- The state after an event; none where it cannot happen. `bytes` are those a request asks for. -/
def step (bytes : ContentsRequest → Bytes) (s : State) : Event → Option State
  | .read ino fh offset size sent =>
    match s.waiting with
    | some _ => none
    | none =>
      match readable s.files ino fh with
      | some node =>
        if sent then
          some { s with
            waiting := some { node, offset, size }
            unanswered := s.unanswered ++ [node.request offset size] }
        else some s
      | none => some s
  | .receive sent =>
    match s.waiting, s.channel with
    | some waiting, reply :: channel => some (receive s waiting reply channel sent)
    | _, _ => none
  | .timeout =>
    match s.waiting with
    | some _ => some { s with waiting := none }
    | none => none
  | .answer index msgFlags failed =>
    match s.unanswered[index]? with
    | some request =>
      let requestedData := if succeeds msgFlags then bytes request else failed
      some { s with
        unanswered := s.unanswered.eraseIdx index
        channel := s.channel ++
          [.contents msgFlags request.streamId requestedData request] }
    | none => none
  | .other => some { s with channel := s.channel ++ [.other] }

/-- A server with a tree whose files have different streams. -/
def fuse (bytes : ContentsRequest → Bytes) : Machine State Event where
  start s := ∃ files, (files.map fun entry => entry.node.streamId).Nodup ∧ s = { files }
  step := step bytes

/-- Every read that succeeded returned the bytes it asked for. -/
def Correct (bytes : ContentsRequest → Bytes) (s : State) : Prop :=
  ∀ read ∈ s.returned, read.data = bytes (read.node.request read.offset read.size)

/-- A reply with bytes for the stream of a request answers this request. -/
def Reply.AnswersOnly (request : ContentsRequest) : Reply → Prop
  | .contents msgFlags streamId _ answers =>
    succeeds msgFlags → streamId = request.streamId → answers = request
  | .other => True

instance (request : ContentsRequest) (reply : Reply) : Decidable (reply.AnswersOnly request) :=
  match reply with
  | .contents msgFlags streamId _ answers =>
    inferInstanceAs (Decidable
      (succeeds msgFlags → streamId = request.streamId → answers = request))
  | .other => isTrue trivial

/-- Nothing is on its way for the stream of a request but answers to the same request. -/
def Alone (s : State) (request : ContentsRequest) : Prop :=
  (∀ other ∈ s.unanswered, other.streamId = request.streamId → other = request) ∧
    ∀ reply ∈ s.channel, reply.AnswersOnly request

instance (s : State) (request : ContentsRequest) : Decidable (Alone s request) :=
  inferInstanceAs (Decidable
    ((∀ other ∈ s.unanswered, other.streamId = request.streamId → other = request) ∧
      ∀ reply ∈ s.channel, reply.AnswersOnly request))

/-- A read of a file begins when no answer for another range of it is on its way. -/
def Settled (s : State) : Event → Prop
  | .read ino fh offset size _ =>
    ∀ node ∈ readable s.files ino fh, Alone s (node.request offset size)
  | _ => True

section Runs

variable {bytes : ContentsRequest → Bytes} {s t : State}

/-- The replies are right, and the waiting read is alone on its stream. -/
structure Held (bytes : ContentsRequest → Bytes) (s : State) : Prop where
  correct : Correct bytes s
  answers : ∀ msgFlags streamId requestedData answers,
    Reply.contents msgFlags streamId requestedData answers ∈ s.channel →
    succeeds msgFlags → requestedData = bytes answers
  alone : ∀ waiting ∈ s.waiting, Alone s waiting.request

theorem Held.start (started : (fuse bytes).start s) : Held bytes s := by
  obtain ⟨files, _, rfl⟩ := started
  exact ⟨nofun, nofun, nofun⟩

/-- A request that is sent is alone on its stream if what is on its way is. -/
theorem Alone.send {request : ContentsRequest} (alone : Alone s request) :
    Alone { s with unanswered := s.unanswered ++ [request] } request := by
  refine ⟨?_, alone.2⟩
  intro other listed same
  rcases List.mem_append.mp listed with old | new
  · exact alone.1 other old same
  · exact List.mem_singleton.mp new

theorem Held.receive (held : Held bytes s) {waiting : Waiting} (waits : s.waiting = some waiting)
    {reply : Reply} {channel : List Reply} (shape : s.channel = reply :: channel) (sent : Bool) :
    Held bytes (receive s waiting reply channel sent) := by
  have inside : ∀ later ∈ channel, later ∈ s.channel := by
    intro later listed
    rw [shape]
    exact List.mem_cons_of_mem _ listed
  have alone := held.alone waiting waits
  have answers : ∀ msgFlags streamId requestedData answers,
      Reply.contents msgFlags streamId requestedData answers ∈ channel →
      succeeds msgFlags → requestedData = bytes answers :=
    fun msgFlags streamId data answers listed =>
      held.answers msgFlags streamId data answers (inside _ listed)
  have rest : Alone { s with channel } waiting.request :=
    ⟨alone.1, fun later listed => alone.2 later (inside later listed)⟩
  unfold FuseRead.receive
  split
  · exact ⟨held.correct, answers, nofun⟩
  · rename_i msgFlags streamId requestedData origin
    split
    · refine ⟨held.correct, answers, ?_⟩
      intro still is
      obtain rfl := Option.some.inj (waits.symm.trans is)
      exact ⟨rest.1, rest.2⟩
    · rename_i same
      rw [Decidable.not_not] at same
      have listed : Reply.contents msgFlags streamId requestedData origin ∈ s.channel := by
        rw [shape]
        exact List.mem_cons_self
      split
      · rename_i success
        refine ⟨?_, answers, nofun⟩
        intro read returned
        rcases List.mem_append.mp returned with old | new
        · exact held.correct read old
        · obtain rfl := List.mem_singleton.mp new
          have own : origin = waiting.request := alone.2 _ listed success same
          show requestedData = bytes waiting.request
          rw [held.answers _ _ _ _ listed success, own]
      · simp only
        split
        · exact ⟨held.correct, answers, nofun⟩
        · refine ⟨held.correct, answers, ?_⟩
          intro again is
          obtain rfl := Option.some.inj is
          exact rest.send

theorem Held.answer (held : Held bytes s) {index : Nat} {request : ContentsRequest}
    (found : s.unanswered[index]? = some request) (msgFlags : Int32) {requestedData : Bytes}
    (right : succeeds msgFlags → requestedData = bytes request) :
    Held bytes { s with
      unanswered := s.unanswered.eraseIdx index
      channel := s.channel ++ [.contents msgFlags request.streamId requestedData request] } := by
  refine ⟨held.correct, ?_, ?_⟩
  · intro flags streamId data answers listed success
    rcases List.mem_append.mp listed with old | new
    · exact held.answers flags streamId data answers old success
    · injection List.mem_singleton.mp new with sameFlags _ sameData sameOrigin
      rw [sameData, sameOrigin]
      rw [sameFlags] at success
      exact right success
  · intro waiting waits
    have alone := held.alone waiting waits
    refine ⟨fun other listed => alone.1 other (List.mem_of_mem_eraseIdx listed), ?_⟩
    intro reply listed
    rcases List.mem_append.mp listed with old | new
    · exact alone.2 reply old
    · obtain rfl := List.mem_singleton.mp new
      intro _ same
      exact alone.1 request (List.mem_of_getElem? found) same

theorem Held.step {e : Event} (held : Held bytes s) (settled : Settled s e)
    (stepped : step bytes s e = some t) : Held bytes t := by
  cases e with
  | read ino fh offset size sent =>
    simp only [FuseRead.step] at stepped
    split at stepped
    · cases stepped
    · split at stepped
      · rename_i node found
        split at stepped
        · obtain rfl := Option.some.inj stepped
          refine ⟨held.correct, held.answers, ?_⟩
          intro waiting is
          obtain rfl := Option.some.inj is
          exact (settled node found).send
        · obtain rfl := Option.some.inj stepped
          exact held
      · obtain rfl := Option.some.inj stepped
        exact held
  | receive sent =>
    simp only [FuseRead.step] at stepped
    split at stepped
    · rename_i waiting reply channel waits shape
      obtain rfl := Option.some.inj stepped
      exact held.receive waits shape sent
    · cases stepped
  | timeout =>
    simp only [FuseRead.step] at stepped
    split at stepped
    · obtain rfl := Option.some.inj stepped
      exact ⟨held.correct, held.answers, nofun⟩
    · cases stepped
  | answer index msgFlags failed =>
    simp only [FuseRead.step] at stepped
    split at stepped
    · rename_i request found
      obtain rfl := Option.some.inj stepped
      exact held.answer found msgFlags fun success => if_pos success
    · cases stepped
  | other =>
    obtain rfl := Option.some.inj stepped
    refine ⟨held.correct, ?_, ?_⟩
    · intro msgFlags streamId data answers listed
      rcases List.mem_append.mp listed with old | new
      · exact held.answers msgFlags streamId data answers old
      · cases List.mem_singleton.mp new
    · intro waiting waits
      have alone := held.alone waiting waits
      refine ⟨alone.1, ?_⟩
      intro reply listed
      rcases List.mem_append.mp listed with old | new
      · exact alone.2 reply old
      · obtain rfl := List.mem_singleton.mp new
        trivial

end Runs

/-- In every run in which each read of a file begins when no answer for another range of the file is
on its way, every read that succeeds returns the bytes it asked for. -/
theorem reads_correct (bytes : ContentsRequest → Bytes) (s : State)
    (reached : (fuse bytes).Reaches Settled s) : Correct bytes s := by
  have held : Held bytes s := by
    apply reached.invariant (Held bytes)
    · exact fun s started => Held.start started
    · exact fun s e t held settled stepped => held.step settled stepped
  exact held.correct

instance (s : State) (e : Event) : Decidable (Settled s e) :=
  match e with
  | .read ino fh offset size _ =>
    inferInstanceAs (Decidable
      (∀ node ∈ readable s.files ino fh, Alone s (node.request offset size)))
  | .receive _ => isTrue trivial
  | .timeout => isTrue trivial
  | .answer _ _ _ => isTrue trivial
  | .other => isTrue trivial

/-- One file in the tree. -/
def oneEntry : List Entry := [⟨⟨1, 7, 0⟩, true, [5], false⟩]

/-- The bytes of a file whose bytes are their own offsets, one at a time. -/
def offsets (request : ContentsRequest) : Bytes := [UInt8.ofNat request.nPositionLow.toInt.toNat]

/-- Two reads, the second after a failure and a repeated request. -/
def inTurn : List Event :=
  [.read 1 5 0 1 true, .answer 0 1 [], .receive true, .read 1 5 4 1 true, .answer 0 0 [],
    .receive true, .answer 0 1 [], .receive true]

theorem inTurn_correct :
    (((fuse offsets).play Settled { files := oneEntry } inTurn).returned.map Returned.data) =
        [[0], [4]] ∧
      Correct offsets ((fuse offsets).play Settled { files := oneEntry } inTurn) := by
  refine ⟨by decide +kernel, ?_⟩
  exact reads_correct offsets _
    ⟨{ files := oneEntry }, ⟨oneEntry, by decide, rfl⟩, Machine.runs_play _ _ _ _⟩

/-- A read times out, and the next one of the file takes its reply. -/
def late : List Event :=
  [.read 1 5 0 1 true, .timeout, .read 1 5 4 1 true, .answer 0 1 [], .receive true]

/-- The read at offset 4 returns the byte at offset 0. -/
theorem late_reply_taken : ∃ s, (fuse offsets).Reaches Machine.free s ∧
    (∃ read ∈ s.returned, read.offset = 4 ∧ read.data = [0]) ∧ ¬ Correct offsets s := by
  have reached : (fuse offsets).Reaches Machine.free
      ((fuse offsets).play Machine.free { files := oneEntry } late) :=
    ⟨{ files := oneEntry }, ⟨oneEntry, by decide, rfl⟩, Machine.runs_play _ _ _ _⟩
  have wrong : ∃ read ∈ ((fuse offsets).play Machine.free { files := oneEntry } late).returned,
      read.offset = 4 ∧ read.data = [0] := by decide +kernel
  refine ⟨_, reached, wrong, ?_⟩
  intro correct
  have right : ∀ read ∈ ((fuse offsets).play Machine.free { files := oneEntry } late).returned,
      read.data = offsets (read.node.request read.offset read.size) := correct
  revert right
  decide +kernel

end ChainRemote.Clipboard.FuseRead
