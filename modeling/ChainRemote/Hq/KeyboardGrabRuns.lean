import ChainRemote.Lib.Rows
import ChainRemote.Hq.KeyboardGrab

/-!
# Who owns the keyboard

Over every run of the windows, the deferred releases and the listener: a leave of a window that is
not the owner changes nothing, and once all threads are through, the keyboard is grabbed exactly
where a window owns it. While the owner changes, a thread that still has to call `rdev` stands for
the call that is missing; a leave that was put off is known from the thread that sleeps for it.
-/

namespace ChainRemote.Hq.KeyboardGrab

open Lib

variable {host : Host} {s t : State} {rest : List Task}

/-- The last request of a window that was handled. -/
def State.lastRequest (s : State) (session : SessionId) : Option GrabState :=
  (s.processed.find? fun request => request.1 == session).map Prod.snd

/-- A thread that is in the middle of a call of `rdev`, with the lock. -/
def Task.calls : Task → Bool
  | .enable _ => true
  | .disable _ => true
  | _ => false

/-- A thread that may change who has the keyboard. -/
def Task.weighs : Task → Bool
  | .applyRun _ _ => true
  | .enable _ => true
  | .released _ => true
  | .disable _ => true
  | .deferred _ _ _ => true
  | _ => false

/-- What every run keeps. -/
structure Sound (s : State) : Prop where
  hooked : s.hooked = s.owner.isSome
  lastGrab : s.lastGrab.isSome = s.owner.isSome
  opLock : s.tasks.countP Task.calls = if s.opLock then 1 else 0
  /-- Where a window owns the grab, it is on, or the call that turns it on comes. -/
  owned : ∀ x, s.owner = some x →
    (s.grabbed = true ∧ ∀ keys, .disable keys ∉ s.tasks) ∨
      (∃ first, .applyRun x first ∈ s.tasks) ∨ ∃ first, .enable first ∈ s.tasks
  /-- Where no window owns it, it is off, or the call that turns it off comes. -/
  free : s.owner = none →
    (s.grabbed = false ∧ ∀ first, .enable first ∉ s.tasks) ∨
      (∃ keys, .released keys ∈ s.tasks) ∨ ∃ keys, .disable keys ∈ s.tasks
  pending : s.deferredPending = true →
    ∃ x wakeAt, s.owner = some x ∧ .deferred x wakeAt s.lastGrab ∈ s.tasks
  /-- The owner has not left, or a thread sleeps for its leave. -/
  left : ∀ x, s.owner = some x →
    s.lastRequest x = some .run ∨ ∃ wakeAt, .deferred x wakeAt s.lastGrab ∈ s.tasks

/-- Soundness only reads the threads that weigh. -/
theorem Sound.ofWeighs (sound : Sound s) (tasks : List Task)
    (same : tasks.filter Task.weighs = s.tasks.filter Task.weighs) : Sound { s with tasks } := by
  have mem : ∀ task : Task, task.weighs = true → (task ∈ tasks ↔ task ∈ s.tasks) := by
    intro task weighs
    have left : task ∈ tasks.filter Task.weighs ↔ task ∈ tasks := by simp [weighs]
    have right : task ∈ s.tasks.filter Task.weighs ↔ task ∈ s.tasks := by simp [weighs]
    rw [← left, ← right, same]
  have count : tasks.countP Task.calls = s.tasks.countP Task.calls := by
    have part : ∀ list : List Task,
        list.countP Task.calls = (list.filter Task.weighs).countP Task.calls := by
      intro list
      rw [List.countP_filter]
      apply List.countP_congr
      intro task _
      cases task <;> simp [Task.calls, Task.weighs]
    rw [part tasks, part s.tasks, same]
  refine ⟨sound.hooked, sound.lastGrab, ?_, ?_, ?_, ?_, ?_⟩
  · rw [count]
    exact sound.opLock
  · intro x owner
    simp only [mem (.disable _) rfl, mem (.applyRun _ _) rfl, mem (.enable _) rfl]
    exact sound.owned x owner
  · intro owner
    simp only [mem (.disable _) rfl, mem (.released _) rfl, mem (.enable _) rfl]
    exact sound.free owner
  · intro pending
    simp only [mem (.deferred _ _ _) rfl]
    exact sound.pending pending
  · intro x owner
    simp only [mem (.deferred _ _ _) rfl]
    exact sound.left x owner

/-- Soundness does not depend on the order of the threads. -/
theorem Sound.perm (sound : Sound s) {tasks : List Task} (same : tasks.Perm s.tasks) :
    Sound { s with tasks } := by
  have mem : ∀ task : Task, task ∈ tasks ↔ task ∈ s.tasks := fun task => same.mem_iff
  refine ⟨sound.hooked, sound.lastGrab, ?_, ?_, ?_, ?_, ?_⟩
  · rw [same.countP_eq]
    exact sound.opLock
  · simp only [mem]
    exact sound.owned
  · simp only [mem]
    exact sound.free
  · simp only [mem]
    exact sound.pending
  · simp only [mem]
    exact sound.left

/-- A thread that does not weigh may go. -/
theorem Sound.drop {task : Task} (sound : Sound { s with tasks := task :: rest })
    (light : task.weighs = false) : Sound { s with tasks := rest } := by
  have same := sound.ofWeighs rest (by simp [light])
  exact same

/-- One that does not weigh may come. -/
theorem Sound.push (sound : Sound s) (task : Task) (light : task.weighs = false) :
    Sound { s with tasks := task :: s.tasks } :=
  sound.ofWeighs _ (by simp [light])

theorem Sound.deliver (sound : Sound s) (keys : List Key) : Sound (s.deliver keys) := by
  cases keys with
  | nil => exact sound
  | cons key keys => exact sound.push _ rfl

/-- The last request after one more. -/
theorem lastRequest_cons (s : State) (x y : SessionId) (state : GrabState) :
    { s with processed := (x, state) :: s.processed }.lastRequest y =
      if x = y then some state else s.lastRequest y := by
  unfold State.lastRequest
  rw [List.find?_cons]
  by_cases same : x = y
  · simp [same]
  · have differ : (x == y) = false := beq_false_of_ne same
    simp [differ, same]

/-- Where the grab is given up, only the lock has to be right before. -/
theorem sound_release {order : List Key}
    (opLock : s.tasks.countP Task.calls = if s.opLock then 1 else 0)
    (next : s.release order = some t) : Sound t := by
  unfold State.release at next
  split at next
  · cases next
    refine ⟨rfl, rfl, ?_, nofun, fun _ => ?_, nofun, nofun⟩
    · rw [List.countP_cons_of_neg (by simp [Task.calls])]
      exact opLock
    · exact .inr (.inl ⟨order, List.mem_cons_self⟩)
  · cases next

/-- A window enters. -/
theorem Sound.changeRun (sound : Sound s) (x : SessionId) :
    Sound ({ s with processed := (x, .run) :: s.processed }.changeRun x) := by
  have asked : ∀ y, some x = some y →
      { s with processed := (x, .run) :: s.processed }.lastRequest y = some .run := by
    intro y same
    rw [lastRequest_cons, if_pos (Option.some.inj same)]
  unfold State.changeRun
  by_cases own : s.owner = some x
  · rw [if_pos own]
    have some' : s.owner.isSome = true := by rw [own]; rfl
    refine ⟨sound.hooked, some'.symm, sound.opLock, sound.owned, sound.free, nofun, ?_⟩
    intro y owner
    exact .inl (asked y (own.symm.trans owner))
  · rw [if_neg own]
    refine ⟨rfl, rfl, ?_, ?_, nofun, nofun, ?_⟩
    · rw [List.countP_cons_of_neg (by simp [Task.calls])]
      exact sound.opLock
    · intro y owner
      obtain rfl := Option.some.inj owner
      exact .inr (.inl ⟨_, List.mem_cons_self⟩)
    · exact fun y owner => .inl (asked y owner)

/-- The leave of another window is only noted. -/
theorem Sound.noted (sound : Sound s) {x : SessionId} (state : GrabState)
    (other : s.owner ≠ some x) : Sound { s with processed := (x, state) :: s.processed } := by
  refine ⟨sound.hooked, sound.lastGrab, sound.opLock, sound.owned, sound.free, sound.pending, ?_⟩
  intro y owner
  rw [lastRequest_cons, if_neg]
  · exact sound.left y owner
  · intro same
    exact other (same ▸ owner)

/-- A window leaves. -/
theorem Sound.changeWait (sound : Sound s) {x : SessionId} {order : List Key}
    (next : { s with processed := (x, .wait) :: s.processed }.changeWait x order = some t) :
    Sound t := by
  unfold State.changeWait at next
  by_cases own : s.owner = some x
  · rw [if_neg (not_not_intro own)] at next
    split at next
    · rename_i since recent
      split at next
      · -- a thread sleeps for an earlier leave
        rename_i pending
        cases next
        obtain ⟨y, wakeAt, owner, asleep⟩ := sound.pending pending
        refine ⟨sound.hooked, sound.lastGrab, sound.opLock, sound.owned, sound.free,
          sound.pending, ?_⟩
        intro z current
        obtain rfl := Option.some.inj (owner.symm.trans current)
        exact .inr ⟨wakeAt, asleep⟩
      · cases next
        refine ⟨sound.hooked, sound.lastGrab, ?_, ?_, ?_, ?_, ?_⟩
        · rw [List.countP_cons_of_neg (by simp [Task.calls])]
          exact sound.opLock
        · simpa using sound.owned
        · simpa using sound.free
        · exact fun _ => ⟨x, _, own, List.mem_cons_self⟩
        · intro y owner
          obtain rfl := Option.some.inj (own.symm.trans owner)
          exact .inr ⟨_, List.mem_cons_self⟩
    · apply sound_release _ next
      exact sound.opLock
  · rw [if_pos own] at next
    cases next
    exact sound.noted .wait own

/-- The thread of a `Run` takes the lock to call `rdev`, if its window is still the owner. -/
theorem Sound.applyRun {x : SessionId} {first : Bool} {order : List Key}
    (sound : Sound { s with tasks := .applyRun x first :: rest })
    (next : { s with tasks := rest }.runTask host order (.applyRun x first) = some t) :
    Sound t := by
  simp only [State.runTask] at next
  have count := sound.opLock
  rw [List.countP_cons_of_neg (by simp [Task.calls])] at count
  split at next
  · cases next
  · rename_i unlocked
    dsimp only at count
    rw [if_neg unlocked] at count
    split at next
    · rename_i other
      cases next
      refine ⟨sound.hooked, sound.lastGrab, ?_, ?_, ?_, ?_, ?_⟩
      · dsimp only
        rw [if_neg unlocked]
        exact count
      · intro y owner
        have different : y ≠ x := fun same => other (same ▸ owner)
        simpa [different] using sound.owned y owner
      · simpa using sound.free
      · simpa using sound.pending
      · simpa [State.lastRequest] using sound.left
    · rename_i own
      cases next
      have owner : s.owner = some x := not_not.mp own
      refine ⟨sound.hooked, sound.lastGrab, ?_, ?_, ?_, ?_, ?_⟩
      · rw [List.countP_cons_of_pos (by simp [Task.calls]), count]
        rfl
      · exact fun _ _ => .inr (.inr ⟨first, List.mem_cons_self⟩)
      · intro free
        cases owner.symm.trans free
      · simpa using sound.pending
      · simpa [State.lastRequest] using sound.left

/-- It calls `rdev` and gives the lock back. -/
theorem Sound.enable {first : Bool} (sound : Sound { s with tasks := .enable first :: rest }) :
    Sound { s with tasks := rest, grabbed := true, opLock := false } := by
  -- the thread has the lock, so no other one is in the middle of a call
  have count := sound.opLock
  rw [List.countP_cons_of_pos (by simp [Task.calls])] at count
  have none' : rest.countP Task.calls = 0 := by
    split at count <;> omega
  have alone : ∀ task ∈ rest, task.calls = false := by
    simpa [List.countP_eq_zero] using none'
  refine ⟨sound.hooked, sound.lastGrab, none', ?_, ?_, ?_, ?_⟩
  · intro _ _
    refine .inl ⟨rfl, fun keys inside => ?_⟩
    cases alone _ inside
  · intro owner
    rcases sound.free owner with ⟨-, without⟩ | ⟨keys, waits⟩ | ⟨keys, calls⟩
    · exact absurd List.mem_cons_self (without first)
    · exact .inr (.inl ⟨keys, by simpa using waits⟩)
    · exact .inr (.inr ⟨keys, by simpa using calls⟩)
  · simpa using sound.pending
  · simpa [State.lastRequest] using sound.left

/-- The thread of a leave takes the lock to call `rdev`, if no window is the owner by then. -/
theorem Sound.released {keys order : List Key}
    (sound : Sound { s with tasks := .released keys :: rest })
    (next : { s with tasks := rest }.runTask host order (.released keys) = some t) : Sound t := by
  simp only [State.runTask] at next
  have count := sound.opLock
  rw [List.countP_cons_of_neg (by simp [Task.calls])] at count
  split at next
  · cases next
  · rename_i unlocked
    dsimp only at count
    rw [if_neg unlocked] at count
    split at next
    · rename_i unowned
      cases next
      have owner : s.owner = none := by simp_all
      refine ⟨sound.hooked, sound.lastGrab, ?_, ?_, ?_, ?_, ?_⟩
      · rw [List.countP_cons_of_pos (by simp [Task.calls]), count]
        rfl
      · intro x owned
        cases owner.symm.trans owned
      · exact fun _ => .inr (.inr ⟨keys, List.mem_cons_self⟩)
      · simpa using sound.pending
      · simpa [State.lastRequest] using sound.left
    · rename_i owned
      cases next
      have owner : s.owner ≠ none := by
        intro none'
        have times := sound.lastGrab
        simp_all
      apply Sound.deliver
      refine ⟨sound.hooked, sound.lastGrab, ?_, ?_, ?_, ?_, ?_⟩
      · dsimp only
        rw [if_neg unlocked]
        exact count
      · simpa using sound.owned
      · exact fun free => absurd free owner
      · simpa using sound.pending
      · simpa [State.lastRequest] using sound.left

/-- It calls `rdev` and gives the lock back. -/
theorem Sound.disable {keys : List Key}
    (sound : Sound { s with tasks := .disable keys :: rest }) :
    Sound { s with tasks := rest, grabbed := false, opLock := false } := by
  have count := sound.opLock
  rw [List.countP_cons_of_pos (by simp [Task.calls])] at count
  have none' : rest.countP Task.calls = 0 := by
    split at count <;> omega
  have alone : ∀ task ∈ rest, task.calls = false := by
    simpa [List.countP_eq_zero] using none'
  refine ⟨sound.hooked, sound.lastGrab, none', ?_, ?_, ?_, ?_⟩
  · intro x owner
    rcases sound.owned x owner with ⟨-, without⟩ | ⟨first, waits⟩ | ⟨first, calls⟩
    · exact absurd List.mem_cons_self (without keys)
    · exact .inr (.inl ⟨first, by simpa using waits⟩)
    · exact .inr (.inr ⟨first, by simpa using calls⟩)
  · intro _
    refine .inl ⟨rfl, fun first inside => ?_⟩
    cases alone _ inside
  · simpa using sound.pending
  · simpa [State.lastRequest] using sound.left

/-- The thread that slept gives the grab up, unless a window has entered since. -/
theorem Sound.deferred {x : SessionId} {wakeAt : Nat} {snapshot : Option Nat} {order : List Key}
    (sound : Sound { s with tasks := .deferred x wakeAt snapshot :: rest })
    (next : { s with tasks := rest }.runTask host order (.deferred x wakeAt snapshot) = some t) :
    Sound t := by
  simp only [State.runTask] at next
  have count := sound.opLock
  rw [List.countP_cons_of_neg (by simp [Task.calls])] at count
  split at next
  · cases next
  · split at next
    · exact sound_release count next
    · rename_i refreshed
      cases next
      have other : ∀ y wakeAt', s.owner = some y →
          .deferred y wakeAt' s.lastGrab ∈ (.deferred x wakeAt snapshot :: rest : List Task) →
          .deferred y wakeAt' s.lastGrab ∈ rest := by
        intro y wakeAt' owner inside
        rcases List.mem_cons.mp inside with same | later
        · injection same with session _ time
          exact absurd ⟨session ▸ owner, time⟩ refreshed
        · exact later
      refine ⟨sound.hooked, sound.lastGrab, count, ?_, ?_, ?_, ?_⟩
      · simpa using sound.owned
      · simpa using sound.free
      · intro pending
        obtain ⟨y, wakeAt', owner, asleep⟩ := sound.pending pending
        exact ⟨y, wakeAt', owner, other y wakeAt' owner asleep⟩
      · intro y owner
        rcases sound.left y owner with asked | ⟨wakeAt', asleep⟩
        · exact .inl asked
        · exact .inr ⟨wakeAt', other y wakeAt' owner asleep⟩

/-- `process_event` changes only what it works on. -/
theorem process_frame (host : Host) (s : State) (input : Input) (stage : Stage) :
    ∃ toRelease modifiers sent,
      (s.process host input stage).1 = { s with toRelease, modifiers, sent } := by
  cases stage with
  | start =>
    simp only [State.process]
    split
    · exact ⟨_, _, _, rfl⟩
    · exact ⟨_, _, _, rfl⟩
  | platform => exact ⟨_, _, _, rfl⟩
  | modifiers platform => exact ⟨_, _, _, rfl⟩
  | hold platform => exact ⟨_, _, _, rfl⟩
  | send code =>
    simp only [State.process]
    split
    · exact ⟨_, _, _, rfl⟩
    · exact ⟨_, _, _, rfl⟩

theorem Sound.process (sound : Sound s) (host : Host) (input : Input) (stage : Stage) :
    Sound (s.process host input stage).1 := by
  obtain ⟨toRelease, modifiers, sent, same⟩ := process_frame host s input stage
  rw [same]
  exact { sound with }

theorem Sound.runDeliver (sound : Sound s) (host : Host) (todo : List Input) (stage : Stage)
    (keys : List Key) : Sound (s.runDeliver host todo stage keys) := by
  unfold State.runDeliver
  cases todo with
  | nil => exact sound.deliver keys
  | cons input todo =>
    have after := sound.process host input stage
    dsimp only
    split
    · rename_i t next done
      rw [done] at after
      exact after.push _ rfl
    · rename_i t done
      rw [done] at after
      cases todo with
      | nil => exact after.deliver keys
      | cons next todo => exact after.push _ rfl

/-- A thread that goes on leaves the keyboard sound. -/
theorem Sound.runTask {task : Task} {order : List Key}
    (sound : Sound { s with tasks := task :: rest })
    (next : { s with tasks := rest }.runTask host order task = some t) : Sound t := by
  cases task with
  | enter session =>
    cases next
    have rest' := (sound.drop rfl).push (.call .run session) rfl
    exact { rest' with }
  | call state session =>
    have rest' := sound.drop rfl
    simp only [State.runTask] at next
    split at next
    · cases next
      exact rest'.push _ rfl
    · cases next
      exact rest'
  | change state session =>
    have rest' := sound.drop rfl
    cases state with
    | run =>
      cases next
      exact rest'.changeRun session
    | wait => exact rest'.changeWait next
  | applyRun session first => exact sound.applyRun next
  | enable first =>
    cases next
    exact sound.enable
  | released keys => exact sound.released next
  | disable keys =>
    cases next
    exact sound.disable.deliver keys
  | deliver todo stage keys =>
    cases next
    exact (sound.drop rfl).runDeliver host todo stage keys
  | deferred session wakeAt snapshot => exact sound.deferred next

/-- Every step leaves the keyboard sound. -/
theorem Sound.step {e : Event} (sound : Sound s) (next : step host s e = some t) : Sound t := by
  obtain ⟨ticks, act⟩ := e
  have later : Sound { s with now := s.now + ticks + 1 } := { sound with }
  simp only [KeyboardGrab.step] at next
  cases act with
  | enter session =>
    cases next
    exact later.push _ rfl
  | leave session =>
    cases next
    exact later.push _ rfl
  | setRdev enabled =>
    cases next
    exact { later with }
  | key input =>
    simp only [State.act] at next
    split at next
    · cases next
      exact { later with }
    · cases next
  | listen =>
    obtain ⟨work, -, rfl⟩ := Option.map_eq_some_iff.mp next
    have after := later.process host work.1 work.2
    exact { after with }
  | run i order =>
    obtain ⟨task, chosen, next⟩ := Option.bind_eq_some_iff.mp next
    exact (later.perm (cons_eraseIdx_perm chosen)).runTask next

theorem sound_initial (now : Nat) (rdevEnabled : Bool) : Sound (initial now rdevEnabled) :=
  ⟨rfl, rfl, rfl, nofun, fun _ => .inl ⟨rfl, fun _ => List.not_mem_nil⟩, nofun, nofun⟩

theorem sound_of_reaches {guard : State → Event → Prop} (reached : (grab host).Reaches guard s) :
    Sound s := by
  apply reached.invariant Sound
  · rintro s ⟨now, rdevEnabled, rfl⟩
    exact sound_initial now rdevEnabled
  · exact fun s e t sound _ next => sound.step next

/-- In every run a leave of a window that is not the owner is only noted, and once no thread is
left the keyboard is grabbed exactly where a window owns it, which has not left since it entered. -/
theorem grab_owned (host : Host) (s : State) (reached : (grab host).Reaches Machine.free s) :
    (∀ i ticks order x, s.tasks[i]? = some (.change .wait x) → s.owner ≠ some x →
      step host s ⟨ticks, .run i order⟩ =
        some { s with
          now := s.now + ticks + 1
          tasks := s.tasks.eraseIdx i
          processed := (x, .wait) :: s.processed }) ∧
    (s.tasks = [] →
      (s.grabbed = true ↔ s.hooked = true) ∧ (s.hooked = true ↔ ∃ x, s.owner = some x) ∧
      ∀ x, s.owner = some x → s.lastRequest x = some .run) := by
  have sound := sound_of_reaches reached
  constructor
  · intro i ticks order x chosen other
    simp [step, State.act, chosen, State.runTask, State.change, State.changeWait, other]
  · intro ended
    have hooked : s.hooked = true ↔ ∃ x, s.owner = some x := by
      rw [sound.hooked]
      exact Option.isSome_iff_exists
    refine ⟨?_, hooked, ?_⟩
    · cases owner : s.owner with
      | none =>
        have off : s.grabbed = false := by
          rcases sound.free owner with ⟨off, -⟩ | ⟨keys, inside⟩ | ⟨keys, inside⟩
          · exact off
          · simp [ended] at inside
          · simp [ended] at inside
        rw [off, hooked, owner]
        simp
      | some x =>
        have on : s.grabbed = true := by
          rcases sound.owned x owner with ⟨on, -⟩ | ⟨first, inside⟩ | ⟨first, inside⟩
          · exact on
          · simp [ended] at inside
          · simp [ended] at inside
        rw [on, hooked, owner]
        simp
    · intro x owner
      rcases sound.left x owner with asked | ⟨wakeAt, asleep⟩
      · exact asked
      · simp [ended] at asleep

/-- A keyboard whose codes are the ones that are sent. -/
def plainHost : Host where
  positionCode _ := 38
  linuxCodeToWinScancode := some
  linuxCodeToMacosCode := some
  linuxCodeToMacosIsoCode := some
  linuxCodeToAndroidKeyCode := some
  isoLayout := false
  peerPlatform _ := "Linux"

/-- A thread is started and goes on for some steps, while no other one is there. -/
def through (act : Act) (steps : Nat) : List Event :=
  ⟨0, act⟩ :: List.replicate steps ⟨0, .run 0 []⟩

/-- The pointer goes from the first window to the second one, and the leave of the first is read
last. -/
def handedOver : List Event :=
  through (.enter 1) 5 ++ through (.enter 2) 5 ++ through (.leave 1) 2

theorem grab_owned_second :
    ((grab plainHost).play Machine.free (initial 0 true) handedOver).grabbed = true ∧
      ((grab plainHost).play Machine.free (initial 0 true) handedOver).lastRequest 2 =
        some .run := by
  have owned := grab_owned plainHost
    ((grab plainHost).play Machine.free (initial 0 true) handedOver)
    ⟨_, ⟨0, true, rfl⟩, Machine.runs_play _ _ _ _⟩
  have owner : ((grab plainHost).play Machine.free (initial 0 true) handedOver).owner = some 2 := by
    decide
  obtain ⟨on, hooked, asked⟩ := owned.2 (by decide)
  exact ⟨on.mpr (hooked.mpr ⟨2, owner⟩), asked 2 owner⟩

end ChainRemote.Hq.KeyboardGrab
