import ChainRemote.Lib.Machine
import Mathlib.Data.List.Basic
import Mathlib.Logic.Function.Basic

/-!
# Services with a snapshot

`ServiceTmpl` of `src/server/service.rs` keeps new subscribers apart until a snapshot brought them
up to date: `snapshot` hands its callback a guard whose sends go to the new subscribers only, and
the drop of the guard moves them all to the others. Every lock is one step, so connections come and
go between any two sends, and any number of snapshots may be in progress.

The drop moves whoever is new, whether the callback succeeded or not; the video and the display
service fail theirs on purpose to restart with the new subscribers among the old. `clock`,
`joinedAt`, `received` and `finished` are history.
-/

namespace ChainRemote.Server.SnapshotService

open Lib

variable {α : Type}

/-- A call of `snapshot` with its guard. -/
structure Snapshot (α : Type) where
  startedAt : Nat
  /-- What the guard sent. -/
  sent : List α := []
  /-- Whether the callback succeeded, once it returned. -/
  result : Option Bool := none
deriving DecidableEq

/-- A snapshot whose guard was dropped. -/
structure Finished (α : Type) extends Snapshot α where
  droppedAt : Nat
deriving DecidableEq

/-- A message that a subscriber received; `snapshot` is the start of the snapshot that sent it. -/
structure Delivery (α : Type) where
  id : Int
  snapshot : Option Nat
  message : α
deriving DecidableEq

/-- `ServiceInner`, the snapshots in progress and the history. -/
structure State (α : Type) where
  needSnapshot : Bool
  subscribes : List Int
  newSubscribes : List Int
  snapshots : List (Snapshot α)
  clock : Nat
  /-- When a connection last became a subscriber. -/
  joinedAt : Int → Nat
  received : List (Delivery α)
  finished : List (Finished α)

/-- Whom a message is for. -/
inductive Audience
  /-- `send`, `send_shared` and the video frames. -/
  | everyone
  /-- `send_to`. -/
  | only (id : Int)
  /-- `send_to_others` and `send_without`. -/
  | without (id : Int)
deriving DecidableEq

/-- The subscribers among which a message is delivered. -/
def Audience.includes (id : Int) : Audience → Bool
  | .everyone => true
  | .only other => id == other
  | .without other => id != other

namespace State

/-- `on_subscribe`. -/
def onSubscribe (s : State α) (id : Int) : State α :=
  if id ∈ s.subscribes then s
  else if s.needSnapshot then
    { s with
      newSubscribes := s.newSubscribes.insert id
      joinedAt :=
        if id ∈ s.newSubscribes then s.joinedAt else Function.update s.joinedAt id s.clock }
  else
    { s with
      subscribes := id :: s.subscribes
      joinedAt := Function.update s.joinedAt id s.clock }

/-- `on_unsubscribe`. -/
def onUnsubscribe (s : State α) (id : Int) : State α :=
  if id ∈ s.subscribes then { s with subscribes := s.subscribes.filter fun other => other != id }
  else { s with newSubscribes := s.newSubscribes.filter fun other => other != id }

/-- A send to subscribers. -/
def send (s : State α) (message : α) (audience : Audience) : State α :=
  { s with
    received := ((s.subscribes.filter fun id => audience.includes id).map fun id =>
      { id, snapshot := none, message }) ++ s.received }

/-- `send_new_subscribes`, for the snapshot that started then. -/
def sendNewSubscribes (s : State α) (startedAt : Nat) (message : α) : State α :=
  { s with
    received := (s.newSubscribes.map fun id =>
      { id, snapshot := some startedAt, message }) ++ s.received }

/-- `swap_new_subscribes`. -/
def swapNewSubscribes (s : State α) : State α :=
  { s with subscribes := s.newSubscribes ∪ s.subscribes, newSubscribes := [] }

end State

/-- A lock that is taken, or the end of a callback. -/
inductive Event (α : Type)
  | onSubscribe (id : Int)
  | onUnsubscribe (id : Int)
  | send (message : α) (audience : Audience)
  /-- `snapshot` finds new subscribers and calls its callback. -/
  | start
  /-- The callback sends with its guard. -/
  | swapSend (i : Nat) (message : α)
  /-- The callback returns. -/
  | finish (i : Nat) (ok : Bool)
  /-- The guard is dropped. -/
  | drop (i : Nat)
deriving DecidableEq

/-- The effect of an event; `none` where it cannot happen. -/
def State.apply (s : State α) : Event α → Option (State α)
  | .onSubscribe id => some (s.onSubscribe id)
  | .onUnsubscribe id => some (s.onUnsubscribe id)
  | .send message audience => some (s.send message audience)
  | .start =>
    if 0 < s.newSubscribes.length then
      some { s with snapshots := { startedAt := s.clock } :: s.snapshots }
    else some s
  | .swapSend i message =>
    match s.snapshots[i]? with
    | none => none
    | some snapshot =>
      if snapshot.result.isNone then
        some { s.sendNewSubscribes snapshot.startedAt message with
          snapshots :=
            { snapshot with sent := message :: snapshot.sent } :: s.snapshots.eraseIdx i }
      else none
  | .finish i ok =>
    match s.snapshots[i]? with
    | none => none
    | some snapshot =>
      if snapshot.result.isNone then
        some { s with
          snapshots := { snapshot with result := some ok } :: s.snapshots.eraseIdx i }
      else none
  | .drop i =>
    match s.snapshots[i]? with
    | none => none
    | some snapshot =>
      if snapshot.result.isSome then
        some { s.swapNewSubscribes with
          snapshots := s.snapshots.eraseIdx i
          finished := { snapshot with droppedAt := s.clock } :: s.finished }
      else none

/-- One step of the service, with the clock. -/
def step (s : State α) (e : Event α) : Option (State α) :=
  (s.apply e).map fun t => { t with clock := s.clock + 1 }

/-- `ServiceTmpl::new`. -/
def new (needSnapshot : Bool) : State α where
  needSnapshot := needSnapshot
  subscribes := []
  newSubscribes := []
  snapshots := []
  clock := 0
  joinedAt := fun _ => 0
  received := []
  finished := []

/-- A service that needs snapshots. -/
def service (α : Type) : Machine (State α) (Event α) where
  start s := s = new true
  step := step

/-- No subscriber is both new and not. -/
def Exclusive (s : State α) : Prop := ∀ id ∈ s.subscribes, id ∉ s.newSubscribes

/-- The subscriber has all that the guard of a snapshot sent, if it subscribed before. -/
def Served (s : State α) (snapshot : Snapshot α) (id : Int) : Prop :=
  s.joinedAt id < snapshot.startedAt →
    ∀ message ∈ snapshot.sent, ⟨id, some snapshot.startedAt, message⟩ ∈ s.received

/-- The guard of some snapshot was dropped after the subscriber subscribed and had served it. -/
def Informed (s : State α) (id : Int) : Prop :=
  ∃ snapshot ∈ s.finished, s.joinedAt id < snapshot.droppedAt ∧ Served s snapshot.toSnapshot id

/-- What every run keeps. -/
structure Sound (s : State α) : Prop where
  need : s.needSnapshot = true
  exclusive : Exclusive s
  /-- New subscribers subscribed before. -/
  past : ∀ id ∈ s.newSubscribes, s.joinedAt id < s.clock
  started : ∀ snapshot ∈ s.snapshots, snapshot.startedAt < s.clock
  served : ∀ snapshot ∈ s.snapshots, ∀ id ∈ s.newSubscribes, Served s snapshot id
  informed : ∀ id ∈ s.subscribes, Informed s id

/-- What a subscriber has it keeps while it stays. -/
theorem Served.mono {s t : State α} {snapshot : Snapshot α} {id : Int}
    (served : Served s snapshot id) (same : t.joinedAt id = s.joinedAt id)
    (kept : ∀ delivery ∈ s.received, delivery ∈ t.received) : Served t snapshot id := by
  intro before message sent
  rw [same] at before
  exact kept _ (served before message sent)

/-- So does what informed it. -/
theorem Informed.mono {s t : State α} {id : Int} (informed : Informed s id)
    (same : t.joinedAt id = s.joinedAt id) (kept : ∀ delivery ∈ s.received, delivery ∈ t.received)
    (finished : ∀ snapshot ∈ s.finished, snapshot ∈ t.finished) : Informed t id := by
  obtain ⟨snapshot, done, after, served⟩ := informed
  refine ⟨snapshot, finished snapshot done, ?_, served.mono same kept⟩
  rw [same]
  exact after

/-- A subscription leaves the service sound. -/
theorem Sound.onSubscribe {s : State α} (sound : Sound s) (id : Int) :
    Sound { s.onSubscribe id with clock := s.clock + 1 } := by
  have later : ∀ {n}, n < s.clock → n < s.clock + 1 := fun before => by omega
  unfold State.onSubscribe
  by_cases known : id ∈ s.subscribes
  · simp only [if_pos known]
    exact { sound with
      past := fun id inside => later (sound.past id inside)
      started := fun snapshot going => later (sound.started snapshot going) }
  · rw [if_neg known, if_pos sound.need]
    by_cases waits : id ∈ s.newSubscribes
    · have same : s.newSubscribes.insert id = s.newSubscribes := List.insert_of_mem waits
      simp only [if_pos waits, same]
      exact { sound with
        past := fun id inside => later (sound.past id inside)
        started := fun snapshot going => later (sound.started snapshot going) }
    · simp only [if_neg waits, List.insert_of_not_mem waits]
      have others : ∀ {other}, other ≠ id →
          Function.update s.joinedAt id s.clock other = s.joinedAt other :=
        fun differs => Function.update_of_ne differs _ _
      refine ⟨sound.need, ?_, ?_, ?_, ?_, ?_⟩
      · intro other inside new
        rcases List.mem_cons.mp new with rfl | old
        · exact known inside
        · exact sound.exclusive other inside old
      · intro other new
        show Function.update s.joinedAt id s.clock other < s.clock + 1
        rcases List.mem_cons.mp new with rfl | old
        · rw [Function.update_self]
          omega
        · have differs : other ≠ id := fun same => waits (same ▸ old)
          rw [others differs]
          exact later (sound.past other old)
      · exact fun snapshot going => later (sound.started snapshot going)
      · intro snapshot going other new
        rcases List.mem_cons.mp new with rfl | old
        · -- The snapshots in progress started before it subscribed.
          intro before
          have started := sound.started snapshot going
          have joined : Function.update s.joinedAt other s.clock other = s.clock :=
            Function.update_self other s.clock s.joinedAt
          have before' : Function.update s.joinedAt other s.clock other < snapshot.startedAt :=
            before
          omega
        · have differs : other ≠ id := fun same => waits (same ▸ old)
          exact (sound.served snapshot going other old).mono (others differs) fun _ had => had
      · intro other inside
        have differs : other ≠ id := fun same => known (same ▸ inside)
        exact (sound.informed other inside).mono (others differs) (fun _ had => had)
          fun _ done => done

/-- So does the end of a subscription. -/
theorem Sound.onUnsubscribe {s : State α} (sound : Sound s) (id : Int) :
    Sound { s.onUnsubscribe id with clock := s.clock + 1 } := by
  have later : ∀ {n}, n < s.clock → n < s.clock + 1 := fun before => by omega
  have started : ∀ snapshot ∈ s.snapshots, snapshot.startedAt < s.clock + 1 :=
    fun snapshot going => later (sound.started snapshot going)
  unfold State.onUnsubscribe
  by_cases known : id ∈ s.subscribes
  · simp only [if_pos known]
    refine { sound with exclusive := ?_, past := ?_, started := started, informed := ?_ }
    · exact fun other inside => sound.exclusive other (List.mem_of_mem_filter inside)
    · exact fun other new => later (sound.past other new)
    · exact fun other inside => sound.informed other (List.mem_of_mem_filter inside)
  · simp only [if_neg known]
    refine { sound with exclusive := ?_, past := ?_, started := started, served := ?_ }
    · exact fun other inside new => sound.exclusive other inside (List.mem_of_mem_filter new)
    · exact fun other new => later (sound.past other (List.mem_of_mem_filter new))
    · exact fun snapshot going other new =>
        sound.served snapshot going other (List.mem_of_mem_filter new)

/-- A send to subscribers adds deliveries only. -/
theorem Sound.send {s : State α} (sound : Sound s) (message : α) (audience : Audience) :
    Sound { s.send message audience with clock := s.clock + 1 } := by
  have later : ∀ {n}, n < s.clock → n < s.clock + 1 := fun before => by omega
  have kept : ∀ delivery ∈ s.received, delivery ∈ (s.send message audience).received :=
    fun delivery had => List.mem_append_right _ had
  refine ⟨sound.need, sound.exclusive, fun id new => later (sound.past id new),
    fun snapshot going => later (sound.started snapshot going), ?_, ?_⟩
  · exact fun snapshot going id new => (sound.served snapshot going id new).mono rfl kept
  · exact fun id inside => (sound.informed id inside).mono rfl kept fun _ done => done

/-- A send of a snapshot reaches all that are new. -/
theorem Sound.swapSend {s : State α} (sound : Sound s) {i : Nat} {snapshot : Snapshot α}
    (chosen : s.snapshots[i]? = some snapshot) (message : α) :
    Sound { s.sendNewSubscribes snapshot.startedAt message with
      snapshots := { snapshot with sent := message :: snapshot.sent } :: s.snapshots.eraseIdx i
      clock := s.clock + 1 } := by
  have later : ∀ {n}, n < s.clock → n < s.clock + 1 := fun before => by omega
  have going := List.mem_of_getElem? chosen
  have kept : ∀ delivery ∈ s.received,
      delivery ∈ (s.sendNewSubscribes snapshot.startedAt message).received :=
    fun delivery had => List.mem_append_right _ had
  refine ⟨sound.need, sound.exclusive, fun id new => later (sound.past id new), ?_, ?_, ?_⟩
  · intro other inside
    rcases List.mem_cons.mp inside with rfl | old
    · exact later (sound.started snapshot going)
    · exact later (sound.started other (List.mem_of_mem_eraseIdx old))
  · intro other inside id new
    rcases List.mem_cons.mp inside with rfl | old
    · intro before next sent
      rcases List.mem_cons.mp sent with rfl | earlier
      · exact List.mem_append_left _ (List.mem_map.mpr ⟨id, new, rfl⟩)
      · exact kept _ (sound.served snapshot going id new before next earlier)
    · exact (sound.served other (List.mem_of_mem_eraseIdx old) id new).mono rfl kept
  · exact fun id inside => (sound.informed id inside).mono rfl kept fun _ done => done

/-- A callback that returns has sent what it sent. -/
theorem Sound.finish {s : State α} (sound : Sound s) {i : Nat} {snapshot : Snapshot α}
    (chosen : s.snapshots[i]? = some snapshot) (ok : Bool) :
    Sound { s with
      snapshots := { snapshot with result := some ok } :: s.snapshots.eraseIdx i
      clock := s.clock + 1 } := by
  have later : ∀ {n}, n < s.clock → n < s.clock + 1 := fun before => by omega
  have going := List.mem_of_getElem? chosen
  refine ⟨sound.need, sound.exclusive, fun id new => later (sound.past id new), ?_, ?_,
    sound.informed⟩
  · intro other inside
    rcases List.mem_cons.mp inside with rfl | old
    · exact later (sound.started snapshot going)
    · exact later (sound.started other (List.mem_of_mem_eraseIdx old))
  · intro other inside id new
    rcases List.mem_cons.mp inside with rfl | old
    · exact sound.served snapshot going id new
    · exact sound.served other (List.mem_of_mem_eraseIdx old) id new

/-- The drop of a guard informs all that are new. -/
theorem Sound.drop {s : State α} (sound : Sound s) {i : Nat} {snapshot : Snapshot α}
    (chosen : s.snapshots[i]? = some snapshot) :
    Sound { s.swapNewSubscribes with
      snapshots := s.snapshots.eraseIdx i
      finished := { snapshot with droppedAt := s.clock } :: s.finished
      clock := s.clock + 1 } := by
  have later : ∀ {n}, n < s.clock → n < s.clock + 1 := fun before => by omega
  have going := List.mem_of_getElem? chosen
  refine ⟨sound.need, fun _ _ => List.not_mem_nil, fun _ => nofun, ?_, fun _ _ _ => nofun, ?_⟩
  · exact fun other inside => later (sound.started other (List.mem_of_mem_eraseIdx inside))
  · intro id inside
    rcases List.mem_union_iff.mp inside with new | old
    · exact ⟨{ snapshot with droppedAt := s.clock }, List.mem_cons_self, sound.past id new,
        sound.served snapshot going id new⟩
    · exact (sound.informed id old).mono rfl (fun _ had => had)
        fun _ done => List.mem_cons_of_mem _ done

/-- Every step leaves the service sound. -/
theorem Sound.step {s t : State α} {e : Event α} (sound : Sound s)
    (next : SnapshotService.step s e = some t) : Sound t := by
  obtain ⟨after, applied, rfl⟩ := Option.map_eq_some_iff.mp next
  have later : ∀ {n}, n < s.clock → n < s.clock + 1 := fun before => by omega
  cases e with
  | onSubscribe id =>
    cases applied
    exact sound.onSubscribe id
  | onUnsubscribe id =>
    cases applied
    exact sound.onUnsubscribe id
  | send message audience =>
    cases applied
    exact sound.send message audience
  | start =>
    simp only [State.apply] at applied
    split at applied
    · cases applied
      refine ⟨sound.need, sound.exclusive, fun id new => later (sound.past id new), ?_, ?_,
        sound.informed⟩
      · intro other inside
        rcases List.mem_cons.mp inside with rfl | old
        · exact Nat.lt_succ_self _
        · exact later (sound.started other old)
      · intro other inside id new
        rcases List.mem_cons.mp inside with rfl | old
        · exact fun _ _ => nofun
        · exact sound.served other old id new
    · cases applied
      exact { sound with
        past := fun id new => later (sound.past id new)
        started := fun snapshot going => later (sound.started snapshot going) }
  | swapSend i message =>
    simp only [State.apply] at applied
    split at applied
    · cases applied
    · rename_i snapshot chosen
      split at applied
      · cases applied
        exact sound.swapSend chosen message
      · cases applied
  | finish i ok =>
    simp only [State.apply] at applied
    split at applied
    · cases applied
    · rename_i snapshot chosen
      split at applied
      · cases applied
        exact sound.finish chosen ok
      · cases applied
  | drop i =>
    simp only [State.apply] at applied
    split at applied
    · cases applied
    · rename_i snapshot chosen
      split at applied
      · cases applied
        exact sound.drop chosen
      · cases applied

/-- In every run no subscriber is both new and not, and whoever receives a message that is sent to
the subscribers was moved by the drop of a guard after it subscribed, with all that the guard sent
if it subscribed before the snapshot began. -/
theorem snapshot_before_messages :
    (service α).Always Machine.free fun s e t =>
      Exclusive t ∧ ∀ message audience id, e = .send message audience → id ∈ s.subscribes →
        audience.includes id = true → Informed s id := by
  refine Machine.Always.of_invariant Sound ?_ ?_ ?_
  · rintro s rfl
    exact ⟨rfl, nofun, nofun, nofun, nofun, nofun⟩
  · exact fun s e t sound _ next => sound.step next
  · intro s e t sound _ next
    exact ⟨(sound.step next).exclusive, fun _ _ id _ inside _ => sound.informed id inside⟩

/-- A callback fails before it sends. -/
def failing : List (Event String) :=
  [.onSubscribe 1, .start, .finish 0 false, .drop 0, .send "frame" .everyone]

/-- A connection subscribes between the send of a snapshot and its drop. -/
def latecomer : List (Event String) :=
  [.onSubscribe 1, .start, .swapSend 0 "cursor", .onSubscribe 2, .finish 0 true, .drop 0,
    .send "frame" .everyone]

/-- The service after these events. -/
def after (events : List (Event String)) : State String :=
  (service String).play Machine.free (new true) events

theorem after_reached (events : List (Event String)) :
    (service String).Reaches Machine.free (after events) :=
  ⟨new true, rfl, Machine.runs_play _ _ _ events⟩

/-- A subscriber may receive a message after no snapshot succeeded, and after one that succeeded
sent it nothing. -/
theorem snapshot_failed_or_missed :
    (∃ s, (service String).Reaches Machine.free s ∧ ⟨1, none, "frame"⟩ ∈ s.received ∧
      ∀ snapshot ∈ s.finished, snapshot.result = some false) ∧
    ∃ s, (service String).Reaches Machine.free s ∧ ⟨2, none, "frame"⟩ ∈ s.received ∧
      ∀ snapshot ∈ s.finished, snapshot.sent = ["cursor"] ∧
        ⟨2, some snapshot.startedAt, "cursor"⟩ ∉ s.received := by
  refine ⟨⟨after failing, after_reached failing, ?_⟩,
    after latecomer, after_reached latecomer, ?_⟩
  · decide +kernel
  · decide +kernel

end ChainRemote.Server.SnapshotService
