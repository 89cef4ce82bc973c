import ChainRemote.Server.SnapshotService
import Mathlib.Data.List.Nodup

/-!
# The frames of a video service

The thread of a video service makes an encoder, and with it one frame after the other, which it
sends to the subscribers. An encoder's later frames mean nothing without its earlier ones. So
`handle_one_frame` gives up its encoder where a snapshot finds new subscribers beside old ones, and
goes on with it where there are no old ones left.

The service is that of `SnapshotService`, with connections that come and go at any of its locks.
`gaps` is history: when an encoder in use took in new subscribers, whom, and beside which old ones.
-/

namespace ChainRemote.Server.VideoFrames

open Lib SnapshotService

/-- Which frame of which encoder. -/
structure Frame where
  encoder : Nat
  index : Nat
deriving DecidableEq

/-- New subscribers of an encoder in use. -/
structure Gap where
  /-- The first frame that is made for them. -/
  frame : Frame
  tookIn : List Int
  /-- The old subscribers. -/
  beside : List Int
deriving DecidableEq

/-- Where the thread of the service is. -/
inductive Phase
  /-- In `ServiceTmpl::run`, between two calls of `run`. -/
  | off
  /-- In the loop of `run`. -/
  | running
  /-- In the callback of the snapshot in `handle_one_frame`. -/
  | calling
  /-- In that of `try_broadcast_display_changed`. -/
  | announcing
  /-- A callback returned; its guard is to be dropped, and the encoder given up or not. -/
  | returned (switch : Bool)
  /-- The snapshot is behind, the encoder works. -/
  | encoding
  /-- A frame is to be sent. -/
  | sending
deriving DecidableEq

/-- The service and its thread. -/
structure State where
  service : SnapshotService.State Frame
  phase : Phase
  /-- How many encoders there were; the last one is in use. -/
  encoder : Nat
  /-- How many frames it made. -/
  made : Nat
  gaps : List Gap

/-- What a connection does, or the thread with one lock. -/
inductive Event
  | onSubscribe (id : Int)
  | onUnsubscribe (id : Int)
  /-- `run` is called and sets up its encoder. -/
  | begin
  /-- `run` returns, from a check of its loop or from an encoder that failed. -/
  | leave
  /-- `try_broadcast_display_changed` with a change, after which `run` returns. -/
  | announce
  /-- `handle_one_frame` calls `snapshot`. -/
  | capture
  /-- A callback returns, that of `handle_one_frame` after it asked for old subscribers. -/
  | look
  /-- The guard is dropped. -/
  | drop
  /-- `encode_to_message` makes a frame, or none. -/
  | encode (ok : Bool)
  /-- `send_video_frame`. -/
  | send
deriving DecidableEq

namespace State

/-- The step of the service, and where the thread is then. -/
def lock (s : State) (e : SnapshotService.Event Frame) (phase : Phase) : Option State :=
  (SnapshotService.step s.service e).map fun service => { s with service, phase }

/-- The frame that was made last. -/
def frame (s : State) : Frame := ⟨s.encoder, s.made - 1⟩

/-- What a drop of the guard takes in. -/
def gap (s : State) : Gap where
  frame := ⟨s.encoder, s.made⟩
  tookIn := s.service.newSubscribes
  beside := s.service.subscribes

/-- How many frames of the encoder were sent. -/
def sent (s : State) : Nat :=
  match s.phase with
  | .sending => s.made - 1
  | _ => s.made

end State

/-- The step of an event; `none` where it cannot happen. -/
def step (s : State) (e : Event) : Option State :=
  match e, s.phase with
  | .onSubscribe id, phase => s.lock (.onSubscribe id) phase
  | .onUnsubscribe id, phase => s.lock (.onUnsubscribe id) phase
  | .begin, .off =>
    if s.service.subscribes.length > 0 ∨ s.service.newSubscribes.length > 0 then
      some { s with phase := .running, encoder := s.encoder + 1, made := 0 }
    else none
  | .leave, .running => some { s with phase := .off }
  | .leave, .encoding => some { s with phase := .off }
  | .announce, .running =>
    if s.service.newSubscribes.length > 0 then s.lock .start .announcing
    else some { s with phase := .off }
  | .capture, .running =>
    if s.service.newSubscribes.length > 0 then s.lock .start .calling
    else some { s with phase := .encoding }
  | .look, .announcing => s.lock (.finish 0 true) (.returned true)
  | .look, .calling =>
    if s.service.subscribes.length > 0 then s.lock (.finish 0 false) (.returned true)
    else s.lock (.finish 0 true) (.returned false)
  | .drop, .returned true => s.lock (.drop 0) .off
  | .drop, .returned false =>
    (s.lock (.drop 0) .encoding).map fun t => { t with gaps := s.gap :: s.gaps }
  | .encode true, .encoding => some { s with phase := .sending, made := s.made + 1 }
  | .encode false, .encoding => some { s with phase := .running }
  | .send, .sending => s.lock (.send s.frame .everyone) .running
  | _, _ => none

/-- A video service before its first subscriber. -/
def start : State where
  service := SnapshotService.new true
  phase := .off
  encoder := 0
  made := 0
  gaps := []

/-- The service and its connections. -/
def videoService : Machine State Event where
  start s := s = start
  step := step

/-- The connection received the frame. -/
def Received (s : State) (id : Int) (frame : Frame) : Prop :=
  ⟨id, none, frame⟩ ∈ s.service.received

/-- Between two frames of the encoder, the connection came to it when nobody else was there. -/
def Joined (s : State) (id : Int) (encoder before after : Nat) : Prop :=
  ∃ gap ∈ s.gaps, gap.frame.encoder = encoder ∧ before < gap.frame.index ∧
    gap.frame.index ≤ after ∧ id ∈ gap.tookIn ∧ gap.beside = []

/-- The order in which frames are made. -/
def Frame.Before (f g : Frame) : Prop :=
  f.encoder < g.encoder ∨ f.encoder = g.encoder ∧ f.index < g.index

/-- What every run keeps. -/
structure Sound (s : State) : Prop where
  need : s.service.needSnapshot = true
  apart : s.service.subscribes.Nodup
  /-- A thread that found no old subscribers has none until it takes in the new ones. -/
  alone : s.phase = .returned false → s.service.subscribes = []
  /-- A frame that is to be sent was made. -/
  made : s.phase = .sending → 0 < s.made
  /-- What was received lies before what is still to be sent. -/
  past : ∀ delivery ∈ s.service.received, delivery.message.Before ⟨s.encoder, s.sent⟩
  /-- Whoever subscribes has the frames of the encoder, except those before it came. -/
  caughtUp : s.phase ≠ .off → ∀ id ∈ s.service.subscribes, ∀ j < s.sent,
    Received s id ⟨s.encoder, j⟩ ∨ Joined s id s.encoder j s.sent
  /-- So has whoever received one, those in front of it. -/
  closed : ∀ delivery ∈ s.service.received, ∀ j < delivery.message.index,
    Received s delivery.id ⟨delivery.message.encoder, j⟩ ∨
      Joined s delivery.id delivery.message.encoder j delivery.message.index
  /-- Frames come in the order in which they are made; the list has the last first. -/
  ordered : s.service.received.Pairwise fun later earlier =>
    later.id = earlier.id → earlier.message.Before later.message

theorem Frame.Before.trans {f g h : Frame} (first : f.Before g) (second : g.Before h) :
    f.Before h := by
  unfold Frame.Before at *
  omega

/-- Who came before a frame came before the later ones. -/
theorem Joined.mono {s t : State} {id : Int} {encoder before after later : Nat}
    (joined : Joined s id encoder before after) (kept : ∀ known ∈ s.gaps, known ∈ t.gaps)
    (bound : after ≤ later) : Joined t id encoder before later := by
  obtain ⟨gap, known, own, behind, inside, came⟩ := joined
  exact ⟨gap, kept _ known, own, behind, Nat.le_trans inside bound, came⟩

/-- Neither a send nor the drop of a guard. -/
def Quiet : SnapshotService.Event Frame → Prop
  | .send .. | .swapSend .. | .drop _ => False
  | _ => True

/-- What a quiet lock does. -/
theorem lock_quiet {s t : State} {e : SnapshotService.Event Frame} {phase : Phase}
    (need : s.service.needSnapshot = true) (locked : s.lock e phase = some t) (quiet : Quiet e) :
    t = { s with service := t.service, phase } ∧ t.service.needSnapshot = true ∧
      t.service.received = s.service.received ∧
      t.service.subscribes.Sublist s.service.subscribes := by
  obtain ⟨service, stepped, rfl⟩ := Option.map_eq_some_iff.mp locked
  obtain ⟨after, applied, rfl⟩ := Option.map_eq_some_iff.mp stepped
  refine ⟨rfl, ?_⟩
  cases e with
  | onSubscribe id =>
    cases applied
    show (s.service.onSubscribe id).needSnapshot = true ∧
      (s.service.onSubscribe id).received = s.service.received ∧
      (s.service.onSubscribe id).subscribes.Sublist s.service.subscribes
    unfold SnapshotService.State.onSubscribe
    rw [if_pos need]
    split_ifs
    all_goals exact ⟨need, rfl, List.Sublist.refl _⟩
  | onUnsubscribe id =>
    cases applied
    show (s.service.onUnsubscribe id).needSnapshot = true ∧
      (s.service.onUnsubscribe id).received = s.service.received ∧
      (s.service.onUnsubscribe id).subscribes.Sublist s.service.subscribes
    unfold SnapshotService.State.onUnsubscribe
    split_ifs
    · exact ⟨need, rfl, List.filter_sublist⟩
    · exact ⟨need, rfl, List.Sublist.refl _⟩
  | send message audience => exact quiet.elim
  | start =>
    simp only [SnapshotService.State.apply] at applied
    split at applied <;> cases applied <;> exact ⟨need, rfl, List.Sublist.refl _⟩
  | swapSend i message => exact quiet.elim
  | finish i ok =>
    simp only [SnapshotService.State.apply] at applied
    split at applied
    · cases applied
    · split at applied
      · cases applied
        exact ⟨need, rfl, List.Sublist.refl _⟩
      · cases applied
  | drop i => exact quiet.elim

/-- The drop of a guard takes in the new subscribers. -/
theorem lock_drop {s t : State} {i : Nat} {phase : Phase} (locked : s.lock (.drop i) phase = some t) :
    t = { s with service := t.service, phase } ∧
      t.service.needSnapshot = s.service.needSnapshot ∧
      t.service.received = s.service.received ∧
      t.service.subscribes = s.service.newSubscribes ∪ s.service.subscribes := by
  obtain ⟨service, stepped, rfl⟩ := Option.map_eq_some_iff.mp locked
  obtain ⟨after, applied, rfl⟩ := Option.map_eq_some_iff.mp stepped
  simp only [SnapshotService.State.apply] at applied
  split at applied
  · cases applied
  · split at applied
    · cases applied
      exact ⟨rfl, rfl, rfl, rfl⟩
    · cases applied

/-- A send reaches all subscribers. -/
theorem lock_send {s t : State} {frame : Frame} {phase : Phase}
    (locked : s.lock (.send frame .everyone) phase = some t) :
    t = { s with service := t.service, phase } ∧
      t.service.needSnapshot = s.service.needSnapshot ∧
      t.service.received =
        s.service.subscribes.map (fun id => ⟨id, none, frame⟩) ++ s.service.received ∧
      t.service.subscribes = s.service.subscribes := by
  obtain ⟨service, stepped, rfl⟩ := Option.map_eq_some_iff.mp locked
  obtain ⟨after, applied, rfl⟩ := Option.map_eq_some_iff.mp stepped
  cases applied
  refine ⟨rfl, rfl, ?_, rfl⟩
  show (s.service.subscribes.filter fun _ => true).map _ ++ _ = _
  rw [List.filter_true]

/-- Steps that neither send nor take in subscribers leave the service sound. -/
theorem Sound.quietly {s t : State} (sound : Sound s)
    (need : t.service.needSnapshot = true) (received : t.service.received = s.service.received)
    (fewer : t.service.subscribes.Sublist s.service.subscribes)
    (encoder : t.encoder = s.encoder) (gaps : t.gaps = s.gaps) (sent : t.sent = s.sent)
    (on : t.phase ≠ .off → s.phase ≠ .off)
    (alone : t.phase = .returned false → t.service.subscribes = [])
    (made : t.phase = .sending → 0 < t.made) : Sound t := by
  have had : ∀ {id frame}, Received s id frame → Received t id frame := by
    intro id frame got
    unfold Received
    rw [received]
    exact got
  have joined : ∀ {id encoder before after}, Joined s id encoder before after →
      Joined t id encoder before after :=
    fun came => came.mono (fun known inside => gaps ▸ inside) (Nat.le_refl _)
  refine ⟨need, sound.apart.sublist fewer, alone, made, ?_, ?_, ?_, ?_⟩
  · rw [received, encoder, sent]
    exact sound.past
  · intro going id inside j earlier
    rw [encoder, sent] at *
    exact (sound.caughtUp (on going) id (fewer.subset inside) j earlier).imp had joined
  · rw [received]
    exact fun delivery inside j earlier => (sound.closed delivery inside j earlier).imp had joined
  · rw [received]
    exact sound.ordered

/-- A connection that comes or goes, at any phase. -/
theorem Sound.connection {s t : State} (sound : Sound s) {e : SnapshotService.Event Frame}
    (locked : s.lock e s.phase = some t) (quiet : Quiet e) : Sound t := by
  obtain ⟨same, need, received, fewer⟩ := lock_quiet sound.need locked quiet
  have phase : t.phase = s.phase := by rw [same]
  refine sound.quietly need received fewer ?_ ?_ ?_ ?_ ?_ ?_
  · rw [same]
  · rw [same]
  · rw [same]
    rfl
  · rw [phase]
    exact id
  · intro waits
    have none := sound.alone (phase ▸ waits)
    rw [none] at fewer
    exact List.sublist_nil.mp fewer
  · intro going
    rw [same]
    exact sound.made (phase ▸ going)

/-- A lock of the thread, between phases in which nothing is about to be sent. -/
theorem Sound.goOn {s t : State} (sound : Sound s) {e : SnapshotService.Event Frame}
    {phase : Phase} (locked : s.lock e phase = some t) (quiet : Quiet e) (on : s.phase ≠ .off)
    (before : s.phase ≠ .sending) (after : phase ≠ .sending)
    (alone : phase = .returned false → s.service.subscribes = []) : Sound t := by
  obtain ⟨same, need, received, fewer⟩ := lock_quiet sound.need locked quiet
  have now : t.phase = phase := by rw [same]
  have sent : t.sent = s.sent := by
    have behind : t.sent = t.made := by
      unfold State.sent
      rw [now]
      cases phase <;> first | rfl | exact absurd rfl after
    have ahead : s.sent = s.made := by
      unfold State.sent
      cases at' : s.phase <;> first | rfl | exact absurd at' before
    rw [behind, ahead, same]
  refine sound.quietly need received fewer ?_ ?_ sent (fun _ => on) ?_ ?_
  · rw [same]
  · rw [same]
  · intro waits
    have none := alone (now ▸ waits)
    rw [none] at fewer
    exact List.sublist_nil.mp fewer
  · intro going
    exact absurd (now ▸ going) after

/-- A phase of the thread without a lock. -/
theorem Sound.phase {s : State} (sound : Sound s) {phase : Phase} (on : s.phase ≠ .off)
    (before : s.phase ≠ .sending) (after : phase ≠ .sending) (leaves : phase ≠ .returned false) :
    Sound { s with phase } := by
  have sent : State.sent { s with phase } = s.sent := by
    have behind : State.sent { s with phase } = s.made := by
      unfold State.sent
      cases phase <;> first | rfl | exact absurd rfl after
    have ahead : s.sent = s.made := by
      unfold State.sent
      cases at' : s.phase <;> first | rfl | exact absurd at' before
    rw [behind, ahead]
  exact sound.quietly sound.need rfl (List.Sublist.refl _) rfl rfl sent (fun _ => on)
    (fun waits => absurd waits leaves) (fun going => absurd going after)

/-- A new encoder. -/
theorem Sound.begin {s : State} (sound : Sound s) :
    Sound { s with phase := .running, encoder := s.encoder + 1, made := 0 } := by
  refine ⟨sound.need, sound.apart, nofun, nofun, ?_, fun _ _ _ _ => nofun, sound.closed,
    sound.ordered⟩
  intro delivery inside
  have past := sound.past delivery inside
  unfold Frame.Before at *
  dsimp only at *
  omega

/-- The drop of the guard, after which the encoder is given up. -/
theorem Sound.switch {s t : State} (sound : Sound s) (at' : s.phase = .returned true)
    (locked : s.lock (.drop 0) .off = some t) : Sound t := by
  obtain ⟨same, need, received, all⟩ := lock_drop locked
  have sent : t.sent = s.sent := by
    rw [same]
    unfold State.sent
    rw [at']
  have had : ∀ {id frame}, Received s id frame → Received t id frame := by
    intro id frame got
    unfold Received
    rw [received]
    exact got
  have joined : ∀ {id encoder before after}, Joined s id encoder before after →
      Joined t id encoder before after :=
    fun came => came.mono (fun known inside => by rw [same]; exact inside) (Nat.le_refl _)
  refine ⟨need.trans sound.need, ?_, ?_, ?_, ?_, ?_, ?_, ?_⟩
  · rw [all]
    exact List.Nodup.union _ sound.apart
  · rw [same]
    nofun
  · rw [same]
    nofun
  · rw [received, sent, same]
    exact sound.past
  · rw [same]
    exact fun off => absurd rfl off
  · rw [received]
    exact fun delivery inside j earlier => (sound.closed delivery inside j earlier).imp had joined
  · rw [received]
    exact sound.ordered

/-- The drop of the guard where there were no subscribers: the encoder goes on, with a gap. -/
theorem Sound.takeIn {s t : State} (sound : Sound s) (at' : s.phase = .returned false)
    (locked : s.lock (.drop 0) .encoding = some t) :
    Sound { t with gaps := s.gap :: s.gaps } := by
  obtain ⟨same, need, received, all⟩ := lock_drop locked
  have sent : s.sent = s.made := by
    unfold State.sent
    rw [at']
  have sent' : State.sent { t with gaps := s.gap :: s.gaps } = s.made := by
    unfold State.sent
    rw [same]
  have encoder : t.encoder = s.encoder := by rw [same]
  have had : ∀ {id frame}, Received s id frame →
      Received { t with gaps := s.gap :: s.gaps } id frame := by
    intro id frame got
    show _ ∈ t.service.received
    rw [received]
    exact got
  have joined : ∀ {id encoder before after}, Joined s id encoder before after →
      Joined { t with gaps := s.gap :: s.gaps } id encoder before after :=
    fun came => came.mono (fun known inside => List.mem_cons_of_mem _ inside) (Nat.le_refl _)
  have none := sound.alone at'
  refine ⟨need.trans sound.need, ?_, ?_, ?_, ?_, ?_, ?_, ?_⟩
  · show t.service.subscribes.Nodup
    rw [all]
    exact List.Nodup.union _ sound.apart
  · rw [same]
    nofun
  · rw [same]
    nofun
  · intro delivery inside
    rw [sent']
    show delivery.message.Before ⟨t.encoder, s.made⟩
    rw [encoder, ← sent]
    exact sound.past delivery (received ▸ inside)
  · intro _ id inside j earlier
    rw [sent'] at earlier ⊢
    have came : id ∈ s.service.newSubscribes := by
      have either : id ∈ s.service.newSubscribes ∪ s.service.subscribes := all ▸ inside
      exact (List.mem_union_iff.mp either).resolve_right (by rw [none]; nofun)
    exact .inr ⟨s.gap, List.mem_cons_self, encoder.symm, earlier, Nat.le_refl _, came, none⟩
  · intro delivery inside j earlier
    exact (sound.closed delivery (received ▸ inside) j earlier).imp had joined
  · show t.service.received.Pairwise _
    rw [received]
    exact sound.ordered

/-- A frame is made. -/
theorem Sound.encode {s : State} (sound : Sound s) (at' : s.phase = .encoding) :
    Sound { s with phase := .sending, made := s.made + 1 } := by
  have sent : s.sent = s.made := by
    unfold State.sent
    rw [at']
  refine sound.quietly sound.need rfl (List.Sublist.refl _) rfl rfl ?_ ?_ nofun
    (fun _ => Nat.succ_pos _)
  · exact sent.symm
  · rw [at']
    nofun

/-- A frame is sent. -/
theorem Sound.send {s t : State} (sound : Sound s) (at' : s.phase = .sending)
    (locked : s.lock (.send s.frame .everyone) .running = some t) : Sound t := by
  obtain ⟨same, need, received, all⟩ := lock_send locked
  have positive := sound.made at'
  have sent : s.sent = s.made - 1 := by
    unfold State.sent
    rw [at']
  have sent' : t.sent = s.made := by
    rw [same]
    rfl
  have encoder : t.encoder = s.encoder := by rw [same]
  have had : ∀ {id frame}, Received s id frame → Received t id frame := by
    intro id frame got
    unfold Received
    rw [received]
    exact List.mem_append_right _ got
  have joined : ∀ {id encoder before after later}, after ≤ later →
      Joined s id encoder before after → Joined t id encoder before later :=
    fun bound came => came.mono (fun known inside => by rw [same]; exact inside) bound
  have now : ∀ id ∈ s.service.subscribes, Received t id s.frame := by
    intro id inside
    unfold Received
    rw [received]
    exact List.mem_append_left _ (List.mem_map.mpr ⟨id, inside, rfl⟩)
  have caughtUp : ∀ id ∈ s.service.subscribes, ∀ j < s.made - 1,
      Received s id ⟨s.encoder, j⟩ ∨ Joined s id s.encoder j (s.made - 1) := by
    intro id inside j earlier
    rw [← sent] at earlier ⊢
    exact sound.caughtUp (by rw [at']; nofun) id inside j earlier
  have past : ∀ delivery ∈ s.service.received, delivery.message.Before s.frame := by
    intro delivery inside
    have before := sound.past delivery inside
    rw [sent] at before
    exact before
  refine ⟨need.trans sound.need, ?_, ?_, ?_, ?_, ?_, ?_, ?_⟩
  · rw [all]
    exact sound.apart
  · rw [same]
    nofun
  · rw [same]
    nofun
  · intro delivery inside
    rw [sent', encoder]
    have last : s.frame.Before ⟨s.encoder, s.made⟩ :=
      .inr ⟨rfl, Nat.sub_lt positive Nat.zero_lt_one⟩
    rw [received] at inside
    rcases List.mem_append.mp inside with new | old
    · obtain ⟨id, -, rfl⟩ := List.mem_map.mp new
      exact last
    · exact (past delivery old).trans last
  · intro _ id inside j earlier
    rw [all] at inside
    rw [sent'] at earlier ⊢
    rw [encoder]
    by_cases last : j = s.made - 1
    · exact .inl (last ▸ now id inside)
    · exact (caughtUp id inside j (by omega)).imp had (joined (by omega))
  · intro delivery inside j earlier
    rw [received] at inside
    rcases List.mem_append.mp inside with new | old
    · obtain ⟨id, subscribed, rfl⟩ := List.mem_map.mp new
      exact (caughtUp id subscribed j earlier).imp had (joined (Nat.le_refl _))
    · exact (sound.closed delivery old j earlier).imp had (joined (Nat.le_refl _))
  · rw [received]
    refine List.pairwise_append.mpr ⟨?_, sound.ordered, ?_⟩
    · refine List.pairwise_map.mpr (sound.apart.imp ?_)
      exact fun apart same => absurd same apart
    · intro later new earlier old _
      obtain ⟨id, -, rfl⟩ := List.mem_map.mp new
      exact past earlier old

/-- Every step leaves the service sound. -/
theorem Sound.step {s t : State} {e : Event} (sound : Sound s)
    (next : VideoFrames.step s e = some t) : Sound t := by
  cases e with
  | onSubscribe id => exact sound.connection next trivial
  | onUnsubscribe id => exact sound.connection next trivial
  | begin =>
    cases at' : s.phase <;> simp only [VideoFrames.step, at'] at next <;> try cases next
    split_ifs at next
    cases next
    exact sound.begin
  | leave =>
    cases at' : s.phase <;> simp only [VideoFrames.step, at'] at next <;> cases next
    · exact sound.phase (by rw [at']; nofun) (by rw [at']; nofun) nofun nofun
    · exact sound.phase (by rw [at']; nofun) (by rw [at']; nofun) nofun nofun
  | announce =>
    cases at' : s.phase <;> simp only [VideoFrames.step, at'] at next <;> try cases next
    split_ifs at next
    · exact sound.goOn next trivial (by rw [at']; nofun) (by rw [at']; nofun) nofun nofun
    · cases next
      exact sound.phase (by rw [at']; nofun) (by rw [at']; nofun) nofun nofun
  | capture =>
    cases at' : s.phase <;> simp only [VideoFrames.step, at'] at next <;> try cases next
    split_ifs at next
    · exact sound.goOn next trivial (by rw [at']; nofun) (by rw [at']; nofun) nofun nofun
    · cases next
      exact sound.phase (by rw [at']; nofun) (by rw [at']; nofun) nofun nofun
  | look =>
    cases at' : s.phase <;> simp only [VideoFrames.step, at'] at next <;> try cases next
    · split_ifs at next with old
      · exact sound.goOn next trivial (by rw [at']; nofun) (by rw [at']; nofun) nofun nofun
      · exact sound.goOn next trivial (by rw [at']; nofun) (by rw [at']; nofun) nofun
          fun _ => List.length_eq_zero_iff.mp (Nat.eq_zero_of_not_pos old)
    · exact sound.goOn next trivial (by rw [at']; nofun) (by rw [at']; nofun) nofun nofun
  | drop =>
    cases at' : s.phase with
    | returned switch =>
      cases switch <;> simp only [VideoFrames.step, at'] at next
      · obtain ⟨service, locked, rfl⟩ := Option.map_eq_some_iff.mp next
        exact sound.takeIn at' locked
      · exact sound.switch at' next
    | _ =>
      simp only [VideoFrames.step, at'] at next
      cases next
  | encode ok =>
    cases ok <;> cases at' : s.phase <;> simp only [VideoFrames.step, at'] at next <;> cases next
    · exact sound.phase (by rw [at']; nofun) (by rw [at']; nofun) nofun nofun
    · exact sound.encode at'
  | send =>
    cases at' : s.phase with
    | sending =>
      simp only [VideoFrames.step, at'] at next
      exact sound.send at' next
    | _ =>
      simp only [VideoFrames.step, at'] at next
      cases next

theorem Sound.initial : Sound start :=
  ⟨rfl, List.nodup_nil, nofun, nofun, nofun, nofun, nofun, List.Pairwise.nil⟩

/-- Whoever receives a frame received all earlier ones of its encoder, but those from before it
came to that encoder when nobody else was there. Nobody receives a frame twice, or an earlier one
after a later one, and between two frames every subscriber is caught up. -/
theorem frames_follow : videoService.Always Machine.free fun _ _ s =>
    (∀ delivery ∈ s.service.received, ∀ j < delivery.message.index,
      Received s delivery.id ⟨delivery.message.encoder, j⟩ ∨
        Joined s delivery.id delivery.message.encoder j delivery.message.index) ∧
    (s.service.received.Pairwise fun later earlier =>
      later.id = earlier.id → earlier.message.Before later.message) ∧
    (s.phase ≠ .off → ∀ id ∈ s.service.subscribes, ∀ j < s.sent,
      Received s id ⟨s.encoder, j⟩ ∨ Joined s id s.encoder j s.sent) := by
  refine Machine.Always.of_invariant Sound (fun _ begins => begins ▸ Sound.initial)
    (fun _ _ _ before _ next => before.step next) ?_
  intro _ _ t before _ next
  have after : Sound t := before.step next
  exact ⟨after.closed, after.ordered, after.caughtUp⟩

end ChainRemote.Server.VideoFrames
