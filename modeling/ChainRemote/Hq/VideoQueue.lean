import ChainRemote.Lib.Machine
import ChainRemote.Lib.TokenChannel

/-!
# The frames of a display on their way to the decoder

The loop of `src/client/io_loop.rs` hands the frames of a display to a thread that decodes them. Key
frames go through a channel. The others go into a queue of limited size, with a token in the channel
for each; a frame that finds the queue full takes the place of the oldest one, and with its token,
and the peer is asked to start over with a key frame. When the loop passes such a request on, the
thread is told to discard what it finds in the queue up to the next key frame.

The loop and the thread run side by side. Frames are numbered as they arrive; what became of them is
history. A frame that is decoded follows the one before it, unless that was overwritten. This needs
that no frame is overwritten while a key frame waits in the channel: the frames behind the key frame
then take the tokens in front of it.
-/

namespace ChainRemote.Hq.VideoQueue

open Lib

/-- `VIDEO_QUEUE_SIZE`. -/
def videoQueueSize : Nat := 120

/-- Where the thread is. -/
inductive Phase
  | waiting
  /-- It took a token. -/
  | popping
  /-- It took a frame from the queue and is to look whether to discard it. -/
  | checking (frame : Nat)
deriving DecidableEq

/-- A frame that the thread is done with. -/
structure Seen where
  frame : Nat
  /-- Whether it came from the queue. -/
  queued : Bool
  decoded : Bool
deriving DecidableEq

/-- `VideoThread`, its thread and the history. -/
structure State where
  /-- The number of the next frame. -/
  next : Nat
  videoQueue : List Nat
  channel : List (Parcel Nat)
  /-- A frame was put into the queue and its token is to follow. -/
  sending : Bool
  phase : Phase
  discardQueue : Bool
  /-- Newest first. -/
  seen : List Seen
  /-- Frames in whose place came others; each time `refresh_video` was called. -/
  overwritten : List Nat

/-- What the loop does, or the thread. -/
inductive Event
  /-- A key frame arrives. -/
  | key
  /-- Another frame arrives: `force_push`. -/
  | push
  /-- `MediaData::VideoQueue` is sent. -/
  | token
  /-- Something else is sent. -/
  | control
  /-- A message to refresh the video goes to the peer. -/
  | refresh
  /-- The thread takes from the channel; a key frame is decoded. -/
  | recv
  /-- It takes from the queue. -/
  | pop
  /-- It looks whether to discard the frame, or decodes it. -/
  | check
deriving DecidableEq

/-- The step of an event; `none` where it cannot happen. -/
def step (s : State) : Event → Option State
  | .key =>
    if s.sending then none
    else some { s with channel := s.channel ++ [.value s.next], next := s.next + 1 }
  | .push =>
    if s.sending then none
    else if s.videoQueue.length < videoQueueSize then
      some { s with videoQueue := s.videoQueue ++ [s.next], next := s.next + 1, sending := true }
    else
      some { s with
        videoQueue := s.videoQueue.tail ++ [s.next]
        next := s.next + 1
        overwritten := s.videoQueue.head?.toList ++ s.overwritten }
  | .token =>
    if s.sending then some { s with channel := s.channel ++ [.token], sending := false } else none
  | .control => if s.sending then none else some { s with channel := s.channel ++ [.other] }
  | .refresh => if s.sending then none else some { s with discardQueue := true }
  | .recv =>
    match s.phase, s.channel with
    | .waiting, .value frame :: channel =>
      some { s with
        channel, discardQueue := false, seen := ⟨frame, false, true⟩ :: s.seen }
    | .waiting, .token :: channel => some { s with channel, phase := .popping }
    | .waiting, .other :: channel => some { s with channel }
    | _, _ => none
  | .pop =>
    match s.phase, s.videoQueue with
    | .popping, frame :: videoQueue => some { s with videoQueue, phase := .checking frame }
    | .popping, [] => some { s with phase := .waiting }
    | _, _ => none
  | .check =>
    match s.phase with
    | .checking frame =>
      some { s with phase := .waiting, seen := ⟨frame, true, !s.discardQueue⟩ :: s.seen }
    | _ => none

/-- `new_video_thread`. -/
def start : State where
  next := 0
  videoQueue := []
  channel := []
  sending := false
  phase := .waiting
  discardQueue := false
  seen := []
  overwritten := []

/-- The loop and the thread. -/
def video : Machine State Event where
  start s := s = start
  step := step

/-- No frame is overwritten while a key frame waits. -/
def Orderly (s : State) : Event → Prop
  | .push => s.videoQueue.length < videoQueueSize ∨ ∀ frame, Parcel.value frame ∉ s.channel
  | _ => True

namespace State

/-- The channel with the token that the thread holds and the one that is to follow. -/
def items (s : State) : List (Parcel Nat) :=
  (if s.phase = .popping then [.token] else []) ++ s.channel ++ if s.sending then [.token] else []

/-- The frame that the thread took from the queue. -/
def held (s : State) : List Nat :=
  match s.phase with
  | .checking frame => [frame]
  | _ => []

/-- All frames that were not overwritten, in the order in which the thread is done with them. -/
def order (s : State) : List Nat :=
  (s.seen.map Seen.frame).reverse ++ s.held ++ upcoming s.items s.videoQueue

end State

/-- A frame from the queue that is decoded comes right after the one before it, which was decoded,
unless that was overwritten. -/
def Follows (overwritten : List Nat) : List Seen → Prop
  | [] => True
  | last :: earlier =>
    (last.queued = true → last.decoded = true →
      last.frame = 0 ∨ last.frame - 1 ∈ overwritten ∨
        ∃ before ∈ earlier.head?, last.frame = before.frame + 1 ∧ before.decoded = true) ∧
      Follows overwritten earlier

/-- What orderly runs keep. -/
structure Sound (s : State) : Prop where
  /-- There is a token for each frame in the queue. -/
  matched : tokens s.items = s.videoQueue.length
  room : s.videoQueue.length ≤ videoQueueSize
  /-- The thread is done with the frames in the order in which they arrive. -/
  ordered : s.order.Pairwise (· < ·)
  complete : ∀ frame, frame < s.next ↔ frame ∈ s.order ∨ frame ∈ s.overwritten
  /-- After a frame that was discarded, frames are discarded. -/
  discards : ∀ last ∈ s.seen.head?, last.decoded = false → s.discardQueue = true
  follows : Follows s.overwritten s.seen

theorem Follows.mono {overwritten more : List Nat} {seen : List Seen}
    (follows : Follows overwritten seen) (kept : ∀ frame ∈ overwritten, frame ∈ more) :
    Follows more seen := by
  induction seen with
  | nil => trivial
  | cons last earlier ih =>
    refine ⟨fun queued decoded => ?_, ih follows.2⟩
    exact (follows.1 queued decoded).imp_right (Or.imp_left (kept _))

/-- The frame that arrives next is newer than all others. -/
theorem Sound.newest {s : State} (sound : Sound s) : ∀ frame ∈ s.order, frame < s.next :=
  fun frame inside => (sound.complete frame).mpr (.inl inside)

/-- What the thread is done with is older than the frame that it holds. -/
theorem Sound.older {s : State} (sound : Sound s) {frame : Nat} (held : s.held = [frame]) :
    ∀ seen ∈ s.seen, seen.frame < frame := by
  intro seen inside
  have ordered := sound.ordered
  unfold State.order at ordered
  rw [held, List.append_assoc] at ordered
  refine (List.pairwise_append.mp ordered).2.2 seen.frame ?_ frame List.mem_cons_self
  exact List.mem_reverse.mpr (List.mem_map_of_mem inside)

/-- A step within the order. -/
theorem Sound.keep {s t : State} (sound : Sound s) (order : t.order = s.order)
    (next : t.next = s.next) (overwritten : t.overwritten = s.overwritten)
    (matched : tokens t.items = t.videoQueue.length) (room : t.videoQueue.length ≤ videoQueueSize)
    (discards : ∀ last ∈ t.seen.head?, last.decoded = false → t.discardQueue = true)
    (follows : Follows s.overwritten t.seen) : Sound t := by
  refine ⟨matched, room, ?_, ?_, discards, ?_⟩
  · rw [order]
    exact sound.ordered
  · rw [order, next, overwritten]
    exact sound.complete
  · rw [overwritten]
    exact follows

/-- A frame arrives and comes last. -/
theorem Sound.arrive {s t : State} (sound : Sound s) (order : t.order = s.order ++ [s.next])
    (next : t.next = s.next + 1) (overwritten : t.overwritten = s.overwritten)
    (matched : tokens t.items = t.videoQueue.length) (room : t.videoQueue.length ≤ videoQueueSize)
    (discardQueue : t.discardQueue = s.discardQueue) (seen : t.seen = s.seen) : Sound t := by
  refine ⟨matched, room, ?_, ?_, ?_, ?_⟩
  · rw [order]
    refine List.pairwise_append.mpr ⟨sound.ordered, List.pairwise_singleton _ _, ?_⟩
    intro frame inside other last
    rw [List.mem_singleton.mp last]
    exact sound.newest frame inside
  · intro frame
    have known := sound.complete frame
    rw [order, next, overwritten, List.mem_append, List.mem_singleton]
    constructor
    · intro below
      rcases Nat.lt_succ_iff_lt_or_eq.mp below with old | new
      · exact (known.mp old).imp_left .inl
      · exact .inl (.inr new)
    · rintro ((old | rfl) | lost)
      · exact Nat.lt_succ_of_lt (known.mpr (.inl old))
      · exact Nat.lt_succ_self _
      · exact Nat.lt_succ_of_lt (known.mpr (.inr lost))
  · rw [seen, discardQueue]
    exact sound.discards
  · rw [seen, overwritten]
    exact sound.follows

/-- A frame arrives and takes the place of the oldest in the queue. -/
theorem Sound.overwrite {s : State} (sound : Sound s) (idle : s.sending = false)
    (full : ¬s.videoQueue.length < videoQueueSize)
    (orderly : ∀ frame, Parcel.value frame ∉ s.channel) :
    Sound { s with
      videoQueue := s.videoQueue.tail ++ [s.next]
      next := s.next + 1
      overwritten := s.videoQueue.head?.toList ++ s.overwritten } := by
  obtain ⟨oldest, rest, queue⟩ : ∃ oldest rest, s.videoQueue = oldest :: rest := by
    cases queue : s.videoQueue with
    | nil =>
      rw [queue] at full
      exact absurd (Nat.zero_lt_succ 119) full
    | cons oldest rest => exact ⟨oldest, rest, rfl⟩
  have none : ∀ frame, Parcel.value frame ∉ s.items := by
    intro frame inside
    unfold State.items at inside
    rw [idle] at inside
    rcases List.mem_append.mp inside with front | last
    · rcases List.mem_append.mp front with token | waiting
      · split_ifs at token
        · cases List.mem_singleton.mp token
        · cases token
      · exact orderly frame waiting
    · cases last
  have length : (s.videoQueue.tail ++ [s.next]).length = s.videoQueue.length := by
    rw [queue]
    exact List.length_append
  have before : s.order = (s.seen.map Seen.frame).reverse ++ s.held ++ oldest :: rest := by
    unfold State.order
    rw [upcoming_of_tokens none (Nat.le_of_eq sound.matched), queue]
  have after : State.order { s with
      videoQueue := s.videoQueue.tail ++ [s.next]
      next := s.next + 1
      overwritten := s.videoQueue.head?.toList ++ s.overwritten } =
      (s.seen.map Seen.frame).reverse ++ s.held ++ (rest ++ [s.next]) := by
    show (s.seen.map Seen.frame).reverse ++ s.held ++
      upcoming s.items (s.videoQueue.tail ++ [s.next]) = _
    rw [upcoming_of_tokens none (Nat.le_of_eq (sound.matched.trans length.symm)), queue]
    rfl
  have lost : s.videoQueue.head?.toList ++ s.overwritten = oldest :: s.overwritten := by
    rw [queue]
    rfl
  have ordered := sound.ordered
  have known := sound.complete
  have newest := sound.newest
  rw [before] at ordered known newest
  refine ⟨sound.matched.trans length.symm, length ▸ sound.room, ?_, ?_, sound.discards, ?_⟩
  · rw [after, ← List.append_assoc]
    refine List.pairwise_append.mpr ⟨?_, List.pairwise_singleton _ _, ?_⟩
    · exact ordered.sublist ((List.Sublist.refl _).append (List.sublist_cons_self _ _))
    · intro frame inside other last
      rw [List.mem_singleton.mp last]
      refine newest frame ?_
      rcases List.mem_append.mp inside with front | behind
      · exact List.mem_append_left _ front
      · exact List.mem_append_right _ (List.mem_cons_of_mem _ behind)
  · intro frame
    have known := known frame
    rw [after]
    show frame < s.next + 1 ↔ _ ∨ frame ∈ s.videoQueue.head?.toList ++ s.overwritten
    rw [lost]
    simp only [List.mem_append, List.mem_cons, List.not_mem_nil, or_false] at known ⊢
    rw [Nat.lt_succ_iff_lt_or_eq, known]
    tauto
  · show Follows (s.videoQueue.head?.toList ++ s.overwritten) s.seen
    rw [lost]
    exact sound.follows.mono fun frame inside => List.mem_cons_of_mem _ inside

/-- What the thread is done with came in order. -/
theorem Sound.seen_ordered {s : State} (sound : Sound s) :
    s.seen.Pairwise fun later earlier => earlier.frame < later.frame := by
  have ordered := sound.ordered
  unfold State.order at ordered
  have done := (List.pairwise_append.mp (List.pairwise_append.mp ordered).1).1
  exact List.pairwise_map.mp (List.pairwise_reverse.mp done)

/-- The frame before the one that the thread holds is the last it was done with, if it was not
overwritten. -/
theorem Sound.before {s : State} (sound : Sound s) {frame : Nat} (held : s.held = [frame])
    (kept : frame - 1 ∉ s.overwritten) (positive : frame ≠ 0) :
    ∃ before ∈ s.seen.head?, frame = before.frame + 1 := by
  have inside : frame ∈ s.order := by
    unfold State.order
    rw [held]
    exact List.mem_append_left _ (List.mem_append_right _ List.mem_cons_self)
  have earlier : frame - 1 < s.next := Nat.lt_of_le_of_lt (Nat.sub_le _ _) (sound.newest _ inside)
  have known := ((sound.complete _).mp earlier).resolve_right kept
  have ordered := sound.ordered
  unfold State.order at known ordered
  rw [held, List.append_assoc] at known ordered
  have done : ∃ seen ∈ s.seen, seen.frame = frame - 1 := by
    rcases List.mem_append.mp known with done | ahead
    · exact List.mem_map.mp (List.mem_reverse.mp done)
    · exfalso
      have behind := List.pairwise_cons.mp (List.pairwise_append.mp ordered).2.1
      rcases List.mem_cons.mp ahead with same | later
      · omega
      · have := behind.1 _ later
        omega
  obtain ⟨seen, member, same⟩ := done
  have older := sound.older held
  have sorted := sound.seen_ordered
  cases list : s.seen with
  | nil =>
    rw [list] at member
    cases member
  | cons before rest =>
    rw [list] at member sorted older
    refine ⟨before, rfl, ?_⟩
    have below := older before List.mem_cons_self
    rcases List.mem_cons.mp member with rfl | old
    · omega
    · have := (List.pairwise_cons.mp sorted).1 seen old
      omega

/-- The thread looks whether to discard the frame that it holds. -/
theorem Sound.check {s : State} (sound : Sound s) {frame : Nat} (holds : s.phase = .checking frame) :
    Sound { s with phase := .waiting, seen := ⟨frame, true, !s.discardQueue⟩ :: s.seen } := by
  have held : s.held = [frame] := by
    unfold State.held
    rw [holds]
  have items : State.items
      { s with phase := .waiting, seen := ⟨frame, true, !s.discardQueue⟩ :: s.seen } = s.items := by
    unfold State.items
    rw [holds]
    rfl
  have order : s.order =
      (s.seen.map Seen.frame).reverse ++ frame :: upcoming s.items s.videoQueue := by
    unfold State.order
    rw [held, List.append_assoc]
    rfl
  refine sound.keep ?_ rfl rfl ?_ sound.room ?_ ⟨?_, sound.follows⟩
  · rw [order]
    unfold State.order
    rw [items]
    simp [State.held]
  · rw [items]
    exact sound.matched
  · rintro last inside discarded
    cases inside
    exact Bool.not_eq_false' .. ▸ discarded
  · intro _ decoded
    have goes : s.discardQueue = false := Bool.not_eq_true' .. ▸ decoded
    by_cases first : frame = 0
    · exact .inl first
    by_cases lost : frame - 1 ∈ s.overwritten
    · exact .inr (.inl lost)
    obtain ⟨before, last, next⟩ := sound.before held lost first
    refine .inr (.inr ⟨before, last, next, ?_⟩)
    cases done : before.decoded with
    | true => rfl
    | false =>
      have discards := sound.discards before last done
      rw [goes] at discards
      cases discards

/-- The thread takes from the channel. -/
theorem Sound.recv {s t : State} (sound : Sound s) (next : step s .recv = some t) : Sound t := by
  have matched := sound.matched
  unfold State.items at matched
  cases waits : s.phase with
  | waiting =>
    cases channel : s.channel with
    | nil =>
      simp only [step, waits, channel] at next
      cases next
    | cons item rest =>
      rw [waits, channel] at matched
      cases item with
      | value frame =>
        simp only [step, waits, channel] at next
        cases next
        refine sound.keep ?_ rfl rfl ?_ sound.room nofun ⟨nofun, sound.follows⟩
        · simp [State.order, State.held, State.items, waits, channel, upcoming]
        · simpa [State.items, waits, tokens] using matched
      | token =>
        simp only [step, waits, channel] at next
        cases next
        refine sound.keep ?_ rfl rfl ?_ sound.room sound.discards sound.follows
        · simp [State.order, State.held, State.items, waits, channel]
        · simpa [State.items, tokens] using matched
      | other =>
        simp only [step, waits, channel] at next
        cases next
        refine sound.keep ?_ rfl rfl ?_ sound.room sound.discards sound.follows
        · simp [State.order, State.held, State.items, waits, channel, upcoming]
        · simpa [State.items, waits, tokens] using matched
  | popping =>
    simp only [step, waits] at next
    cases next
  | checking frame =>
    simp only [step, waits] at next
    cases next

/-- The thread takes from the queue, in which there is a frame for its token. -/
theorem Sound.pop {s t : State} (sound : Sound s) (next : step s .pop = some t) : Sound t := by
  have matched := sound.matched
  have room := sound.room
  unfold State.items at matched
  cases waits : s.phase with
  | popping =>
    rw [waits] at matched
    cases queue : s.videoQueue with
    | nil =>
      rw [queue] at matched
      cases matched
    | cons frame rest =>
      simp only [step, waits, queue] at next
      cases next
      rw [queue] at matched room
      refine sound.keep ?_ rfl rfl ?_ (Nat.le_of_succ_le room) sound.discards sound.follows
      · simp [State.order, State.held, State.items, waits, queue, upcoming]
      · simpa [State.items, tokens] using matched
  | waiting =>
    simp only [step, waits] at next
    cases next
  | checking frame =>
    simp only [step, waits] at next
    cases next

/-- What the loop sends or puts into the queue comes last. -/
theorem order_add {s : State} (sound : Sound s) (more : List (Parcel Nat)) (added : List Nat) :
    (s.seen.map Seen.frame).reverse ++ s.held ++
        upcoming (s.items ++ more) (s.videoQueue ++ added) =
      s.order ++ upcoming more added := by
  rw [upcoming_append sound.matched]
  exact (List.append_assoc _ _ _).symm

/-- Every step of an orderly run leaves the frames in order. -/
theorem Sound.step {s t : State} {e : Event} (sound : Sound s) (orderly : Orderly s e)
    (next : VideoQueue.step s e = some t) : Sound t := by
  have matched := sound.matched
  cases e with
  | key =>
    simp only [VideoQueue.step] at next
    split_ifs at next with sends
    cases next
    have idle : s.sending = false := Bool.eq_false_iff.mpr sends
    have items : State.items { s with
        channel := s.channel ++ [.value s.next], next := s.next + 1 } =
        s.items ++ [.value s.next] := by
      simp [State.items, idle]
    refine sound.arrive ?_ rfl rfl ?_ sound.room rfl rfl
    · have added := order_add sound [.value s.next] []
      rw [List.append_nil, ← items] at added
      exact added
    · rw [items, tokens_append]
      exact matched
  | push =>
    simp only [VideoQueue.step] at next
    split_ifs at next with sends fits
    · cases next
      have idle : s.sending = false := Bool.eq_false_iff.mpr sends
      have items : State.items { s with
          videoQueue := s.videoQueue ++ [s.next], next := s.next + 1, sending := true } =
          s.items ++ [.token] := by
        simp [State.items, idle]
      refine sound.arrive ?_ rfl rfl ?_ ?_ rfl rfl
      · have added := order_add sound [.token] [s.next]
        rw [← items] at added
        exact added
      · rw [items, tokens_append, matched]
        show s.videoQueue.length + 1 = (s.videoQueue ++ [s.next]).length
        rw [List.length_append]
        rfl
      · rw [List.length_append]
        exact fits
    · cases next
      exact sound.overwrite (Bool.eq_false_iff.mpr sends) fits (orderly.resolve_left fits)
  | token =>
    simp only [VideoQueue.step] at next
    split_ifs at next with sends
    cases next
    have items : State.items { s with channel := s.channel ++ [.token], sending := false } =
        s.items := by
      simp [State.items, sends]
    refine sound.keep ?_ rfl rfl ?_ sound.room sound.discards sound.follows
    · unfold State.order
      rw [items]
      rfl
    · rw [items]
      exact matched
  | control =>
    simp only [VideoQueue.step] at next
    split_ifs at next with sends
    cases next
    have idle : s.sending = false := Bool.eq_false_iff.mpr sends
    have items : State.items { s with channel := s.channel ++ [.other] } = s.items ++ [.other] := by
      simp [State.items, idle]
    refine sound.keep ?_ rfl rfl ?_ sound.room sound.discards sound.follows
    · have added := order_add sound [.other] []
      rw [List.append_nil, ← items] at added
      exact added.trans (List.append_nil _)
    · rw [items, tokens_append]
      exact matched
  | refresh =>
    simp only [VideoQueue.step] at next
    split_ifs at next with sends
    cases next
    exact sound.keep rfl rfl rfl matched sound.room (fun _ _ _ => rfl) sound.follows
  | recv => exact sound.recv next
  | pop => exact sound.pop next
  | check =>
    cases waits : s.phase with
    | checking frame =>
      simp only [VideoQueue.step, waits] at next
      cases next
      exact sound.check waits
    | waiting =>
      simp only [VideoQueue.step, waits] at next
      cases next
    | popping =>
      simp only [VideoQueue.step, waits] at next
      cases next

theorem Sound.initial : Sound start :=
  ⟨rfl, Nat.zero_le _, List.Pairwise.nil, fun _ => ⟨nofun, nofun⟩, nofun, trivial⟩

/-- As long as no frame is overwritten while a key frame waits, the thread is done with the frames in
the order in which they arrive, finds one for each token, and decodes a frame from the queue right
after the one before it, unless that was overwritten. -/
theorem frames_in_order : video.Always Orderly fun _ _ s =>
    s.seen.Pairwise (fun later earlier => earlier.frame < later.frame) ∧
    tokens s.items = s.videoQueue.length ∧ s.videoQueue.length ≤ videoQueueSize ∧
    Follows s.overwritten s.seen ∧
    ∀ frame < s.next, frame ∈ s.order ∨ frame ∈ s.overwritten := by
  refine Machine.Always.of_invariant Sound (fun _ begins => begins ▸ Sound.initial)
    (fun _ _ _ before orderly next => before.step orderly next) ?_
  intro _ _ t before orderly next
  have after : Sound t := before.step orderly next
  exact ⟨after.seen_ordered, after.matched, after.room, after.follows,
    fun frame => (after.complete frame).mp⟩

/-- A full queue, with a key frame that came after its oldest frame. -/
def keyWaits : State :=
  { start with
    next := 121
    videoQueue := 0 :: List.range' 2 119
    channel := .token :: .value 1 :: List.replicate 119 .token }

-- The frame after the key frame takes the token in front of it.
example : ([.push, .recv, .pop, .check, .recv].foldlM step keyWaits).map
    (fun s => s.seen.map Seen.frame) = some [1, 2] := by
  decide +kernel

end ChainRemote.Hq.VideoQueue
