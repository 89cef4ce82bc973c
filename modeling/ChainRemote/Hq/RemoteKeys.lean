import ChainRemote.Lib.Rows
import ChainRemote.Hq.KeyboardGrab

/-!
# The keys that are held on the other side

A press that was sent to a session has to be followed by a release to the same session.
`TO_RELEASE` remembers the keys without their session, and the releases go to whatever session is
current by then. Where the current session and the owner do not change while keys are held or on
their way (`orderly`), every run is at rest, in a key event, or in the releases of one leave, and
each of these says which keys the current session holds.
-/

namespace ChainRemote.Hq.KeyboardGrab

open Lib

variable {host : Host} {s t : State} {v : Keys} {x : SessionId} {input : Input}

/-- The last event of the key that was sent to the session is a press. -/
def pressed (sent : List Sent) (x : SessionId) (k : Key) : Bool :=
  ((sent.find? fun e => decide (e.session = x ∧ e.key = k)).map Sent.press).getD false

/-- Every release was sent to a session that held the key. -/
def Answered : List Sent → Prop
  | [] => True
  | e :: earlier => (e.press = false → pressed earlier e.session e.key = true) ∧ Answered earlier

/-- There is a code for the key at the peer of the session. -/
def Sends (host : Host) (x : SessionId) (k : Key) : Prop :=
  (mapKeyboardMode host (host.peerPlatform x) k).isSome = true

/-- A thread that has keys to release. -/
def Task.busy : Task → Bool
  | .released keys => !keys.isEmpty
  | .disable keys => !keys.isEmpty
  | .deliver _ _ _ => true
  | _ => false

/-- No release is on its way. -/
def State.still (s : State) : Bool := !s.tasks.any Task.busy

/-- A leave of the owner is put off. -/
def State.recent (s : State) : Bool :=
  (s.lastGrab.filter fun t => s.elapsedMs t < grabDebounceMs).isSome

/-- The keys can be taken: no key event is on its way, and they are not taken from a release. -/
def State.settled (s : State) : Bool :=
  s.listener.isNone && (s.still || s.toRelease.isEmpty)

/-- The step of a thread that does not go between a key and its session. -/
def State.admits (s : State) : Task → Bool
  | .enter x =>
    decide (s.current = some x) || (s.listener.isNone && s.still && s.toRelease.isEmpty)
  | .change .run x =>
    decide (s.owner = some x) || (s.listener.isNone && (!s.still || s.toRelease.isEmpty))
  | .change .wait x => decide (s.owner ≠ some x) || s.recent || s.settled
  | .deferred x _ snapshot => !decide (s.owner = some x ∧ s.lastGrab = snapshot) || s.settled
  | _ => true

/-- The steps that keep the keys with their session. A key is grabbed for a current session that
owns the grab, with nothing else on its way, and it is released only if it is held. -/
def orderly (s : State) (e : Event) : Bool :=
  match e.act with
  | .key input =>
    s.listener.isNone && s.still && s.current.isSome && decide (s.owner = s.current) &&
      (input.press || decide (input.key ∈ s.toRelease))
  | .run i _ => s.tasks[i]?.all { s with now := s.now + e.ticks + 1 }.admits
  | _ => true

/-- What the keys depend on. -/
structure Keys where
  listener : Option (Input × Stage)
  /-- The threads that have keys to release. -/
  busy : List Task
  current : Option SessionId
  owner : Option SessionId
  toRelease : List Key
  modifiers : Key → Bool
  sent : List Sent

def State.keys (s : State) : Keys where
  listener := s.listener
  busy := s.tasks.filter Task.busy
  current := s.current
  owner := s.owner
  toRelease := s.toRelease
  modifiers := s.modifiers
  sent := s.sent

/-- The current session holds exactly these keys, as far as there are codes for them, and no other
session holds a key. -/
def Holding (host : Host) (v : Keys) (held : List Key) : Prop :=
  ∀ x k, pressed v.sent x k = true ↔ v.current = some x ∧ k ∈ held ∧ Sends host x k

/-- What a stage has read belongs to the session. -/
def Stage.Reads (host : Host) (x : SessionId) (key : Key) : Stage → Prop
  | .start => True
  | .platform => True
  | .modifiers peer => peer = host.peerPlatform x
  | .hold peer => peer = host.peerPlatform x
  | .send _ => Sends host x key

/-- The change of `TO_RELEASE` is behind the stage. -/
def Stage.held (input : Input) (held : List Key) : Stage → List Key
  | .send _ => holdKey input held
  | _ => held

/-- The change of `MODIFIERS_STATE` is behind the stage. -/
def Stage.marked : Stage → Bool
  | .hold _ => true
  | .send _ => true
  | _ => false

/-- The listener is in a key event of the session that owns the grab. -/
structure Listening (host : Host) (v : Keys) (x : SessionId) (input : Input) (stage : Stage) :
    Prop where
  listener : v.listener = some (input, stage)
  busy : v.busy = []
  current : v.current = some x
  owner : v.owner = some x
  reads : stage.Reads host x input.key
  held : ∃ held : List Key, held.Nodup ∧ Holding host v held ∧
    (input.press = false → input.key ∈ held) ∧ v.toRelease = stage.held input held

/-- Events of one key that end with a release. -/
def Alternates : Input → List Input → Prop
  | input, [] => input.press = false
  | input, next :: todo =>
    next.key = input.key ∧ next.press = !input.press ∧ Alternates next todo

/-- A thread releases a key of the session, with more keys to come. -/
structure Delivering (host : Host) (v : Keys) (x : SessionId) (input : Input) (todo : List Input)
    (stage : Stage) (keys : List Key) : Prop where
  alternates : Alternates input todo
  nodup : (input.key :: keys).Nodup
  holding : Holding host v (if input.press then keys else input.key :: keys)
  reads : stage.Reads host x input.key
  /-- The press of Alt is not taken for a long one. -/
  fresh : (if input.press then stage = .start else stage.marked = true) →
    input.key.tracked = true → v.modifiers input.key = false
  toRelease : ∀ k ∈ v.toRelease, k = input.key
  taken : input.press = false → ∀ code, stage = .send code → v.toRelease = []

/-- What the one thread that has keys to release does. -/
def Releasing (host : Host) (v : Keys) (x : SessionId) : Task → Prop
  | .released keys => keys.Nodup ∧ Holding host v keys ∧ v.toRelease = []
  | .disable keys => keys.Nodup ∧ Holding host v keys ∧ v.toRelease = []
  | .deliver (input :: todo) stage keys => Delivering host v x input todo stage keys
  | _ => False

/-- Where the keys are. -/
inductive Phase (host : Host) (v : Keys) : Prop
  /-- No key is on its way; those that are held belong to the owner. -/
  | rest (idle : v.listener = none) (quiet : v.busy = []) (nodup : v.toRelease.Nodup)
      (holding : Holding host v v.toRelease)
      (owned : v.toRelease ≠ [] → ∃ x, v.current = some x ∧ v.owner = some x)
  | listening (x : SessionId) (input : Input) (stage : Stage)
      (work : Listening host v x input stage)
  | releasing (x : SessionId) (task : Task) (idle : v.listener = none) (busy : v.busy = [task])
      (current : v.current = some x) (work : Releasing host v x task)

/-- What the orderly runs keep. -/
structure Tidy (host : Host) (s : State) : Prop where
  phase : Phase host s.keys
  answered : Answered s.sent

theorem pressed_cons (e : Sent) (sent : List Sent) (x : SessionId) (k : Key) :
    pressed (e :: sent) x k =
      if e.session = x ∧ e.key = k then e.press else pressed sent x k := by
  unfold pressed
  rw [List.find?_cons]
  by_cases same : e.session = x ∧ e.key = k
  · simp [same]
  · simp only [decide_eq_false same, if_neg same]

theorem mem_holdKey (input : Input) (held : List Key) (k : Key) :
    k ∈ holdKey input held ↔ if k = input.key then input.press = true else k ∈ held := by
  unfold holdKey
  by_cases press : input.press = true
  · by_cases inside : input.key ∈ held
    · by_cases same : k = input.key
      · simp [press, inside, same]
      · simp [press, inside, same]
    · by_cases same : k = input.key
      · simp [press, inside, same]
      · simp [press, inside, same]
  · by_cases same : k = input.key
    · simp [press, same]
    · simp [press, same]

theorem nodup_holdKey (input : Input) {held : List Key} (nodup : held.Nodup) :
    (holdKey input held).Nodup := by
  unfold holdKey
  split
  · split
    · exact nodup
    · rename_i absent
      exact List.nodup_cons.mpr ⟨absent, nodup⟩
  · exact nodup.filter _

/-- Only which keys are listed matters. -/
theorem Holding.congr {held other : List Key} (holding : Holding host v held)
    (same : ∀ k, k ∈ other ↔ k ∈ held) : Holding host v other := by
  intro x k
  rw [holding x k, same k]

/-- Nothing is held, whatever session is current. -/
theorem Holding.nothing {w : Keys} (holding : Holding host v []) (sent : w.sent = v.sent) :
    Holding host w [] := by
  intro x k
  rw [sent, holding x k]
  simp

/-- An event is sent to the current session. -/
theorem Holding.sent {held : List Key} (holding : Holding host v held)
    (current : v.current = some x) (sends : Sends host x input.key) (code : Nat) :
    Holding host { v with sent := ⟨x, input.key, code, input.press⟩ :: v.sent }
      (holdKey input held) := by
  intro y k
  dsimp only
  rw [pressed_cons, mem_holdKey]
  by_cases same : x = y ∧ input.key = k
  · obtain ⟨rfl, rfl⟩ := same
    simp [current, sends]
  · rw [if_neg same, holding y k]
    by_cases here : v.current = some y
    · obtain rfl : x = y := Option.some.inj (current.symm.trans here)
      have other : k ≠ input.key := fun equal => same ⟨rfl, equal.symm⟩
      rw [if_neg other]
    · simp [here]

/-- There is no code for the key, so nothing is sent. -/
theorem Holding.unsent {held : List Key} (holding : Holding host v held)
    (current : v.current = some x) (unsent : ¬ Sends host x input.key) :
    Holding host v (holdKey input held) := by
  intro y k
  rw [holding y k, mem_holdKey]
  by_cases here : v.current = some y
  · obtain rfl : x = y := Option.some.inj (current.symm.trans here)
    by_cases same : k = input.key
    · subst same
      simp [unsent]
    · rw [if_neg same]
  · simp [here]

/-- A release is answered where its key is held. -/
theorem Holding.answered {held : List Key} (holding : Holding host v held)
    (current : v.current = some x) (sends : Sends host x input.key)
    (inside : input.press = false → input.key ∈ held) (before : Answered v.sent) (code : Nat) :
    Answered (⟨x, input.key, code, input.press⟩ :: v.sent) :=
  ⟨fun release => (holding x input.key).mpr ⟨current, inside release, sends⟩, before⟩

theorem sends_of_code {key : Key} {code : Nat}
    (mapped : mapKeyboardMode host (host.peerPlatform x) key = some code) : Sends host x key := by
  unfold Sends
  rw [mapped]
  rfl

theorem not_sends {key : Key} (mapped : mapKeyboardMode host (host.peerPlatform x) key = none) :
    ¬ Sends host x key := by
  unfold Sends
  rw [mapped]
  exact Bool.false_ne_true

/-- The listener goes on with its key event. -/
theorem Tidy.listen {stage : Stage} (work : Listening host s.keys x input stage)
    (answered : Answered s.sent) :
    Tidy host { (s.process host input stage).1 with
      listener := (s.process host input stage).2.map fun stage => (input, stage) } := by
  obtain ⟨listener, busy, current, owner, reads, held, nodup, holding, inside, toRelease⟩ := work
  -- where the event is through, the keys are at rest again
  have kept : ∀ sent held', held'.Nodup →
      Holding host { s.keys with sent := sent } held' → Answered sent →
      Tidy host { s with listener := none, toRelease := held', sent := sent } := by
    intro sent held' nodup holding answered
    exact ⟨.rest rfl busy nodup holding fun _ => ⟨x, current, owner⟩, answered⟩
  cases stage with
  | start =>
    simp only [State.process]
    split
    · have same : s.toRelease = held := toRelease
      subst same
      exact kept s.sent s.toRelease nodup holding answered
    · exact ⟨.listening x input .platform
        ⟨rfl, busy, current, owner, trivial, held, nodup, holding, inside, toRelease⟩, answered⟩
  | platform =>
    have current' : s.current = some x := current
    refine ⟨.listening x input _
      ⟨rfl, busy, current, owner, ?_, held, nodup, holding, inside, toRelease⟩, answered⟩
    simp [Stage.Reads, current']
  | modifiers platform =>
    exact ⟨.listening x input _
      ⟨rfl, busy, current, owner, reads, held, nodup, holding, inside, toRelease⟩, answered⟩
  | hold platform =>
    obtain rfl : platform = host.peerPlatform x := reads
    obtain rfl : s.toRelease = held := toRelease
    simp only [State.process]
    cases mapped : mapKeyboardMode host (host.peerPlatform x) input.key with
    | none =>
      exact kept s.sent _ (nodup_holdKey input nodup)
        (holding.unsent current (not_sends mapped)) answered
    | some code =>
      exact ⟨.listening x input (.send code)
        ⟨rfl, busy, current, owner, sends_of_code mapped, s.toRelease, nodup, holding, inside, rfl⟩,
        answered⟩
  | send code =>
    have current' : s.current = some x := current
    have after : s.toRelease = holdKey input held := toRelease
    simp only [State.process, current']
    have next := kept (⟨x, input.key, code, input.press⟩ :: s.sent) (holdKey input held)
      (nodup_holdKey input nodup) (holding.sent current reads code)
      (holding.answered current reads inside answered code)
    rw [← after] at next
    simpa [current'] using next

/-- A thread goes on with the keys to come. -/
theorem phase_deliver {keys : List Key} (idle : s.listener = none)
    (quiet : s.tasks.filter Task.busy = []) (current : s.current = some x)
    (toRelease : s.toRelease = []) (nodup : keys.Nodup) (holding : Holding host s.keys keys) :
    Phase host (s.deliver keys).keys := by
  cases keys with
  | nil =>
    refine .rest idle quiet ?_ ?_ ?_
    · show s.toRelease.Nodup
      rw [toRelease]
      exact List.nodup_nil
    · show Holding host s.keys s.toRelease
      rw [toRelease]
      exact holding
    · exact fun held => absurd toRelease held
  | cons key keys =>
    have first : ∃ todo, releases key = ⟨key, false⟩ :: todo ∧ Alternates ⟨key, false⟩ todo := by
      unfold releases
      split
      · exact ⟨_, rfl, rfl, rfl, rfl, rfl, rfl⟩
      · exact ⟨_, rfl, rfl⟩
    obtain ⟨todo, same, alternates⟩ := first
    have busy : (s.deliver (key :: keys)).keys.busy =
        [.deliver (⟨key, false⟩ :: todo) .start keys] := by
      show List.filter Task.busy (.deliver (releases key) .start keys :: s.tasks) = _
      rw [List.filter_cons_of_pos rfl, quiet, same]
    refine .releasing x _ idle busy current
      ⟨alternates, nodup, holding, trivial, fun marked => ?_, ?_, fun _ code sending => ?_⟩
    · cases marked
    · intro k inside
      have empty : k ∈ s.toRelease := inside
      rw [toRelease] at empty
      cases empty
    · cases sending

end ChainRemote.Hq.KeyboardGrab
