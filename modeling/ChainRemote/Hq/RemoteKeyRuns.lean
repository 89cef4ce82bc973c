import ChainRemote.Hq.KeyboardGrabRuns
import ChainRemote.Hq.RemoteKeys

/-!
# No key stays pressed where the operator has left

In every orderly run, once all threads are through, every key that was pressed at a session that
does not own the grab was released there, and no session gets a release without the press. Without
the order it is not so: where the grab goes from one window to the other, the leave of the first is
ignored, and the keys that it held are released at the second, if at all.
-/

namespace ChainRemote.Hq.KeyboardGrab

open Lib

variable {host : Host} {s t : State} {v w : Keys} {x : SessionId} {rest : List Task}

/-- Every key whose press was sent to the session was released there later. The newest event is the
first. -/
def Released (sent : List Sent) (x : SessionId) : Prop :=
  ∀ newer e older, sent = newer ++ e :: older → e.session = x → e.press = true →
    ∃ r ∈ newer, r.session = x ∧ r.key = e.key ∧ r.press = false

/-- No key stays pressed at a session that was left. -/
def Settled (s : State) : Prop :=
  (s.tasks = [] → ∀ x, s.owner ≠ some x → Released s.sent x) ∧ Answered s.sent

/-- A key is pressed until it is released. -/
theorem pressed_append {k : Key} {older : List Sent} (newer : List Sent)
    (before : pressed older x k = true)
    (without : ∀ r ∈ newer, ¬ (r.session = x ∧ r.key = k ∧ r.press = false)) :
    pressed (newer ++ older) x k = true := by
  induction newer with
  | nil => exact before
  | cons e newer ih =>
    rw [List.cons_append, pressed_cons]
    by_cases same : e.session = x ∧ e.key = k
    · rw [if_pos same]
      by_cases press : e.press = true
      · exact press
      · have release := without e List.mem_cons_self
        simp [same, press] at release
    · rw [if_neg same]
      exact ih fun r inside => without r (List.mem_cons_of_mem e inside)

theorem released_of_pressed {sent : List Sent} (none' : ∀ k, pressed sent x k ≠ true) :
    Released sent x := by
  intro newer e older split session press
  by_contra without
  apply none' e.key
  rw [split]
  have before : pressed (e :: older) x e.key = true := by
    rw [pressed_cons, if_pos ⟨session, rfl⟩, press]
  apply pressed_append newer before
  intro r inside release
  exact without ⟨r, inside, release⟩

theorem still_iff : s.still = true ↔ s.keys.busy = [] := by
  simp [State.still, State.keys, List.filter_eq_nil_iff]

/-- Only what the keys depend on matters. -/
theorem Tidy.same (tidy : Tidy host s) (keys : t.keys = s.keys) : Tidy host t := by
  have sent : t.sent = s.sent := congrArg Keys.sent keys
  refine ⟨?_, ?_⟩
  · rw [keys]
    exact tidy.phase
  · rw [sent]
    exact tidy.answered

theorem Tidy.perm (tidy : Tidy host s) {tasks : List Task} (same : tasks.Perm s.tasks) :
    Tidy host { s with tasks } := by
  have busy : (tasks.filter Task.busy).Perm s.keys.busy := same.filter _
  have equal : tasks.filter Task.busy = s.keys.busy := by
    cases tidy.phase with
    | rest idle quiet nodup holding owned =>
      rw [quiet] at busy ⊢
      exact List.perm_nil.mp busy
    | listening x input stage work =>
      rw [work.busy] at busy ⊢
      exact List.perm_nil.mp busy
    | releasing x task idle one current work =>
      rw [one] at busy ⊢
      exact List.perm_singleton.mp busy
  apply tidy.same
  show { s.keys with busy := tasks.filter Task.busy } = s.keys
  rw [equal]

/-- A thread without keys to release may go. -/
theorem Tidy.drop {task : Task} (tidy : Tidy host { s with tasks := task :: rest })
    (light : task.busy = false) : Tidy host { s with tasks := rest } := by
  apply tidy.same
  simp [State.keys, light]

/-- One may come. -/
theorem Tidy.push (tidy : Tidy host s) (task : Task) (light : task.busy = false) :
    Tidy host { s with tasks := task :: s.tasks } := by
  apply tidy.same
  simp [State.keys, light]

/-- Where no key is on its way, the keys are at rest. -/
theorem Tidy.atRest (tidy : Tidy host s) (idle : s.listener.isNone = true)
    (still : s.still = true) :
    s.toRelease.Nodup ∧ Holding host s.keys s.toRelease ∧
      (s.toRelease ≠ [] → ∃ x, s.current = some x ∧ s.owner = some x) := by
  cases tidy.phase with
  | rest _ _ nodup holding owned => exact ⟨nodup, holding, owned⟩
  | listening x input stage work =>
    have listener : s.listener = some (input, stage) := work.listener
    rw [listener] at idle
    cases idle
  | releasing x task _ busy current work =>
    rw [still_iff, busy] at still
    cases still

/-- A release does not depend on the owner. -/
theorem Releasing.same {task : Task} (work : Releasing host v x task) (sent : w.sent = v.sent)
    (current : w.current = v.current) (toRelease : w.toRelease = v.toRelease)
    (modifiers : w.modifiers = v.modifiers) : Releasing host w x task := by
  have holds : ∀ held, Holding host v held → Holding host w held := by
    intro held holding y k
    rw [sent, current]
    exact holding y k
  cases task with
  | released keys => exact ⟨work.1, holds _ work.2.1, toRelease.trans work.2.2⟩
  | disable keys => exact ⟨work.1, holds _ work.2.1, toRelease.trans work.2.2⟩
  | deliver todo stage keys =>
    cases todo with
    | nil => exact work
    | cons input todo =>
      refine ⟨work.alternates, work.nodup, holds _ work.holding, work.reads, ?_, ?_, ?_⟩
      · rw [modifiers]
        exact work.fresh
      · rw [toRelease]
        exact work.toRelease
      · rw [toRelease]
        exact work.taken
  | enter _ => exact work
  | call _ _ => exact work
  | change _ _ => exact work
  | applyRun _ _ => exact work
  | enable _ => exact work
  | deferred _ _ _ => exact work

/-- The keys are taken where none of them is on its way. -/
theorem Tidy.release {order : List Key} (tidy : Tidy host s) (settled : s.settled = true)
    (next : s.release order = some t) : Tidy host t := by
  unfold State.release at next
  split at next
  · rename_i taken
    have perm : order.Perm s.toRelease := List.isPerm_iff.mp taken
    cases next
    refine ⟨?_, tidy.answered⟩
    obtain ⟨idle, free⟩ : s.listener.isNone = true ∧
        (s.still = true ∨ s.toRelease = []) := by simpa [State.settled] using settled
    have listener : s.listener = none := Option.isNone_iff_eq_none.mp idle
    by_cases empty : s.toRelease = []
    · -- no key is taken
      obtain rfl : order = [] := by
        rw [empty] at perm
        exact List.perm_nil.mp perm
      cases tidy.phase with
      | rest _ quiet nodup holding owned =>
        have nothing : Holding host s.keys [] := by
          have held : Holding host s.keys s.toRelease := holding
          rwa [empty] at held
        exact .rest listener quiet List.nodup_nil nothing nofun
      | listening x input stage work => cases work.listener.symm.trans listener
      | releasing x task _ busy current work =>
        exact .releasing x task listener busy current (work.same rfl rfl empty.symm rfl)
    · -- the keys of the owner are taken
      have still : s.still = true := free.resolve_right empty
      obtain ⟨nodup, holding, owned⟩ := tidy.atRest idle still
      obtain ⟨x, current, -⟩ := owned empty
      cases order with
      | nil => exact absurd (List.nil_perm.mp perm) empty
      | cons key keys =>
        have busy : (Task.released (key :: keys) :: s.tasks).filter Task.busy =
            [.released (key :: keys)] := by
          rw [List.filter_cons_of_pos rfl]
          have quiet : s.tasks.filter Task.busy = [] := still_iff.mp still
          rw [quiet]
        refine .releasing x (.released (key :: keys)) listener busy current ?_
        exact ⟨perm.nodup_iff.mpr nodup, holding.congr fun k => perm.mem_iff, rfl⟩
  · cases next

/-- An enter comes to its region under the lock. -/
theorem Tidy.changeRun (tidy : Tidy host s)
    (admitted : s.owner = some x ∨
      s.listener.isNone = true ∧ (s.still = false ∨ s.toRelease = [])) :
    Tidy host ({ s with processed := (x, .run) :: s.processed }.changeRun x) := by
  unfold State.changeRun
  by_cases own : s.owner = some x
  · rw [if_pos own]
    exact tidy.same rfl
  · rw [if_neg own]
    obtain ⟨idle, free⟩ := admitted.resolve_left own
    have listener : s.listener = none := Option.isNone_iff_eq_none.mp idle
    refine ⟨?_, tidy.answered⟩
    cases tidy.phase with
    | rest _ quiet nodup holding owned =>
      have still : s.still = true := still_iff.mpr quiet
      have empty : s.toRelease = [] := by simpa [still] using free
      exact .rest listener quiet nodup holding fun held => absurd empty held
    | listening y input stage work => cases work.listener.symm.trans listener
    | releasing y task _ busy current work =>
      exact .releasing y task listener busy current (work.same rfl rfl rfl rfl)

/-- A leave comes to its region under the lock. -/
theorem Tidy.changeWait {order : List Key} (tidy : Tidy host s)
    (admitted : s.owner ≠ some x ∨ s.recent = true ∨ s.settled = true)
    (next : { s with processed := (x, .wait) :: s.processed }.changeWait x order = some t) :
    Tidy host t := by
  have noted : Tidy host { s with processed := (x, .wait) :: s.processed } := tidy.same rfl
  unfold State.changeWait at next
  by_cases own : s.owner = some x
  · rw [if_neg (not_not_intro own)] at next
    split at next
    · split at next
      · cases next
        exact noted
      · cases next
        apply tidy.same
        simp [State.keys, Task.busy]
    · rename_i past
      have late : s.recent = false := by
        have past' : (s.lastGrab.filter fun t => s.elapsedMs t < grabDebounceMs) = none := past
        simp [State.recent, past']
      have settled : s.settled = true := by simpa [own, late] using admitted
      exact noted.release settled next
  · rw [if_pos own] at next
    cases next
    exact noted

/-- A window becomes the current one. -/
theorem Tidy.enter (tidy : Tidy host s)
    (admitted : s.current = some x ∨
      s.listener.isNone = true ∧ s.still = true ∧ s.toRelease = []) :
    Tidy host { s with current := some x } := by
  by_cases same : s.current = some x
  · apply tidy.same
    simp [State.keys, same]
  · obtain ⟨idle, still, empty⟩ := admitted.resolve_left same
    obtain ⟨nodup, holding, -⟩ := tidy.atRest idle still
    refine ⟨.rest (Option.isNone_iff_eq_none.mp idle) (still_iff.mp still) nodup ?_
      fun held => absurd empty held, tidy.answered⟩
    show Holding host _ s.toRelease
    rw [empty] at holding ⊢
    exact holding.nothing rfl

/-- Where a thread goes on after one of its events is through. -/
def State.resume (s : State) (keys : List Key) : List Input → State
  | [] => s.deliver keys
  | next :: todo => { s with tasks := .deliver (next :: todo) .start keys :: s.tasks }

theorem runDeliver_some {input : Input} {todo : List Input} {stage after : Stage}
    {keys : List Key} (goesOn : s.process host input stage = (t, some after)) :
    s.runDeliver host (input :: todo) stage keys =
      { t with tasks := .deliver (input :: todo) after keys :: t.tasks } := by
  simp [State.runDeliver, goesOn]

theorem runDeliver_none {input : Input} {todo : List Input} {stage : Stage}
    {keys : List Key} (ended : s.process host input stage = (t, none)) :
    s.runDeliver host (input :: todo) stage keys = t.resume keys todo := by
  cases todo with
  | nil => simp [State.runDeliver, ended, State.resume]
  | cons next todo => simp [State.runDeliver, ended, State.resume]

/-- An event of a release is through, and the key is held or not by what the event was. -/
theorem phase_resume {input : Input} {todo : List Input} {keys : List Key}
    (idle : s.listener = none) (quiet : s.tasks.filter Task.busy = [])
    (current : s.current = some x) (alternates : Alternates input todo)
    (nodup : (input.key :: keys).Nodup)
    (holding : Holding host s.keys
      (holdKey input (if input.press then keys else input.key :: keys)))
    (fresh : input.press = false → input.key.tracked = true → s.modifiers input.key = false)
    (only : ∀ k ∈ s.toRelease, k = input.key) (taken : input.press = false → s.toRelease = []) :
    Phase host (s.resume keys todo).keys := by
  have absent : input.key ∉ keys := (List.nodup_cons.mp nodup).1
  -- what is held after a press and after a release
  have held : Holding host s.keys (if input.press then input.key :: keys else keys) := by
    apply holding.congr
    intro k
    rw [mem_holdKey]
    by_cases same : k = input.key
    · cases press : input.press <;> simp [same, absent]
    · cases press : input.press <;> simp [same]
  cases todo with
  | nil =>
    have release : input.press = false := alternates
    rw [release] at held
    exact phase_deliver idle quiet current (taken release) (List.nodup_cons.mp nodup).2 held
  | cons next todo =>
    obtain ⟨key, press, later⟩ := alternates
    have busy : (s.resume keys (next :: todo)).keys.busy =
        [.deliver (next :: todo) .start keys] := by
      show List.filter Task.busy (.deliver (next :: todo) .start keys :: s.tasks) = _
      rw [List.filter_cons_of_pos rfl, quiet]
    refine .releasing x _ idle busy current ⟨later, ?_, ?_, trivial, ?_, ?_, ?_⟩
    · rw [key]
      exact nodup
    · rw [key, press]
      cases was : input.press with
      | true =>
        rw [was] at held
        exact held
      | false =>
        rw [was] at held
        exact held
    · intro started tracked
      rw [key] at tracked ⊢
      cases was : input.press with
      | true => simp [press, was, Stage.marked] at started
      | false => exact fresh was tracked
    · rw [key]
      exact only
    · intro _ code sending
      cases sending

/-- A thread goes on with the release of a key. -/
theorem Tidy.runDeliver {input : Input} {todo : List Input} {stage : Stage} {keys : List Key}
    (idle : s.listener = none) (quiet : s.tasks.filter Task.busy = [])
    (current : s.current = some x) (work : Delivering host s.keys x input todo stage keys)
    (answered : Answered s.sent) :
    Tidy host (s.runDeliver host (input :: todo) stage keys) := by
  obtain ⟨alternates, nodup, holding, reads, fresh, only, taken⟩ := work
  have busy : ∀ after, (Task.deliver (input :: todo) after keys :: s.tasks).filter Task.busy =
      [.deliver (input :: todo) after keys] := by
    intro after
    rw [List.filter_cons_of_pos rfl, quiet]
  cases stage with
  | start =>
    have goesOn : s.process host input .start = (s, some .platform) := by
      have short : ¬ (input.press && input.key.tracked && s.modifiers input.key) = true := by
        intro long
        obtain ⟨⟨press, tracked⟩, on⟩ : (input.press = true ∧ input.key.tracked = true) ∧
            s.modifiers input.key = true := by simpa using long
        have off : s.modifiers input.key = false := fresh (by rw [press]; rfl) tracked
        exact Bool.false_ne_true (off.symm.trans on)
      simp only [State.process, if_neg short]
    rw [runDeliver_some goesOn]
    refine ⟨.releasing x _ idle (busy _) current
      ⟨alternates, nodup, holding, trivial, ?_, only, fun _ _ reached =>
        Stage.noConfusion reached⟩, answered⟩
    intro marked
    split at marked <;> cases marked
  | platform =>
    rw [runDeliver_some rfl]
    refine ⟨.releasing x _ idle (busy _) current
      ⟨alternates, nodup, holding, ?_, ?_, only, fun _ _ reached =>
        Stage.noConfusion reached⟩, answered⟩
    · simp [Stage.Reads, current]
    · intro marked
      split at marked <;> cases marked
  | modifiers platform =>
    rw [runDeliver_some rfl]
    refine ⟨.releasing x _ idle (busy _) current
      ⟨alternates, nodup, holding, reads, ?_, only, fun _ _ reached =>
        Stage.noConfusion reached⟩, answered⟩
    intro marked tracked
    split at marked
    · cases marked
    · rename_i release
      show (if input.key.tracked then Function.update s.modifiers input.key input.press
        else s.modifiers) input.key = false
      rw [if_pos tracked, Function.update_self]
      exact Bool.eq_false_iff.mpr release
  | hold platform =>
    obtain rfl : platform = host.peerPlatform x := reads
    have only' : ∀ k ∈ holdKey input s.toRelease, k = input.key := by
      intro k inside
      by_contra other
      rw [mem_holdKey, if_neg other] at inside
      exact other (only k inside)
    have taken' : input.press = false → holdKey input s.toRelease = [] := by
      intro release
      apply List.eq_nil_iff_forall_not_mem.mpr
      intro k inside
      have same := only' k inside
      rw [mem_holdKey, if_pos same, release] at inside
      cases inside
    have off : input.press = false → input.key.tracked = true →
        s.modifiers input.key = false := by
      intro release
      exact fresh (by rw [release]; rfl)
    cases mapped : mapKeyboardMode host (host.peerPlatform x) input.key with
    | none =>
      have ended : s.process host input (.hold (host.peerPlatform x)) =
          ({ s with toRelease := holdKey input s.toRelease }, none) := by
        simp only [State.process, mapped, Option.map_none]
      rw [runDeliver_none ended]
      refine ⟨phase_resume idle quiet current alternates nodup ?_ off only' taken', ?_⟩
      · exact holding.unsent current (not_sends mapped)
      · cases todo with
        | nil => cases keys <;> exact answered
        | cons next todo => exact answered
    | some code =>
      have goesOn : s.process host input (.hold (host.peerPlatform x)) =
          ({ s with toRelease := holdKey input s.toRelease }, some (.send code)) := by
        simp only [State.process, mapped, Option.map_some]
      rw [runDeliver_some goesOn]
      refine ⟨.releasing x _ idle (busy _) current
        ⟨alternates, nodup, holding, sends_of_code mapped, ?_, only', fun release _ _ =>
          taken' release⟩, answered⟩
      intro marked
      split at marked
      · cases marked
      · rename_i release
        exact off (Bool.eq_false_iff.mpr release)
  | send code =>
    have ended : s.process host input (.send code) =
        ({ s with sent := ⟨x, input.key, code, input.press⟩ :: s.sent }, none) := by
      simp only [State.process, current]
    rw [runDeliver_none ended]
    have inside : input.press = false →
        input.key ∈ (if input.press then keys else input.key :: keys) := by
      intro release
      rw [release]
      exact List.mem_cons_self
    have answered' := holding.answered current reads inside answered code
    refine ⟨phase_resume idle quiet current alternates nodup ?_ ?_ only ?_, ?_⟩
    · exact holding.sent current reads code
    · intro release
      exact fresh (by rw [release]; rfl)
    · exact fun release => taken release code rfl
    · cases todo with
      | nil => cases keys <;> exact answered'
      | cons next todo => exact answered'

/-- A thread with keys to release is the only one. -/
theorem Tidy.alone {task : Task} (tidy : Tidy host { s with tasks := task :: rest })
    (heavy : task.busy = true) :
    ∃ x, s.listener = none ∧ rest.filter Task.busy = [] ∧ s.current = some x ∧
      Releasing host s.keys x task := by
  have busy : (task :: rest).filter Task.busy = task :: rest.filter Task.busy :=
    List.filter_cons_of_pos heavy
  cases tidy.phase with
  | rest _ quiet _ _ _ => cases busy.symm.trans quiet
  | listening _ _ _ work => cases busy.symm.trans work.busy
  | releasing x task' idle one current work =>
    have equal : task :: rest.filter Task.busy = [task'] := busy.symm.trans one
    injection equal with same others
    subst same
    exact ⟨x, idle, others, current, work.same rfl rfl rfl rfl⟩

/-- The keys that were taken are released one by one. -/
theorem Tidy.deliver {task : Task} {keys : List Key}
    (tidy : Tidy host { s with tasks := task :: rest })
    (kind : task = .released keys ∨ task = .disable keys) :
    Tidy host ({ s with tasks := rest }.deliver keys) := by
  cases keys with
  | nil =>
    have light : task.busy = false := by rcases kind with rfl | rfl <;> rfl
    exact tidy.drop light
  | cons key keys =>
    have heavy : task.busy = true := by rcases kind with rfl | rfl <;> rfl
    obtain ⟨x, idle, quiet, current, work⟩ := tidy.alone heavy
    have work' : (key :: keys).Nodup ∧ Holding host s.keys (key :: keys) ∧ s.toRelease = [] := by
      rcases kind with rfl | rfl <;> exact work
    refine ⟨?_, tidy.answered⟩
    exact phase_deliver (s := { s with tasks := rest }) idle quiet current work'.2.2 work'.1
      work'.2.1

/-- The thread of a leave takes the lock. -/
theorem Tidy.disable {keys : List Key}
    (tidy : Tidy host { s with tasks := .released keys :: rest }) :
    Tidy host { s with tasks := .disable keys :: rest } := by
  cases keys with
  | nil => exact (tidy.drop rfl).push (.disable []) rfl
  | cons key keys =>
    obtain ⟨x, idle, quiet, current, work⟩ := tidy.alone rfl
    have busy : (Task.disable (key :: keys) :: rest).filter Task.busy =
        [.disable (key :: keys)] := by
      rw [List.filter_cons_of_pos rfl, quiet]
    exact ⟨.releasing x _ idle busy current work, tidy.answered⟩

/-- The guard only asks whether a thread has keys to release. -/
theorem admits_tasks (tasks : List Task) (task : Task)
    (same : { s with tasks }.still = s.still) : { s with tasks }.admits task = s.admits task := by
  cases task with
  | change state session =>
    cases state with
    | run => simp only [State.admits, same]
    | wait =>
      have recent : { s with tasks }.recent = s.recent := rfl
      simp only [State.admits, State.settled, same, recent]
  | _ => simp only [State.admits, State.settled, same]

/-- A thread that the guard admits leaves the keys with their session. -/
theorem Tidy.runTask {task : Task} {order : List Key}
    (tidy : Tidy host { s with tasks := task :: rest })
    (admitted : { s with tasks := task :: rest }.admits task = true)
    (next : { s with tasks := rest }.runTask host order task = some t) : Tidy host t := by
  have admits : task.busy = false → { s with tasks := rest }.admits task = true := by
    intro light
    rw [← admits_tasks (task :: rest) task]
    · exact admitted
    · simp [State.still, light]
  cases task with
  | enter session =>
    cases next
    have open' := admits rfl
    have entered := (tidy.drop rfl).enter (x := session)
      (by simpa [State.admits, and_assoc] using open')
    exact entered.push (.call .run session) rfl
  | call state session =>
    simp only [State.runTask] at next
    split at next
    · cases next
      exact (tidy.drop rfl).push _ rfl
    · cases next
      exact tidy.drop rfl
  | change state session =>
    have open' := admits rfl
    cases state with
    | run =>
      cases next
      exact (tidy.drop rfl).changeRun (by simpa [State.admits] using open')
    | wait =>
      exact (tidy.drop rfl).changeWait (by simpa [State.admits, or_assoc] using open') next
  | applyRun session first =>
    simp only [State.runTask] at next
    split at next
    · cases next
    · split at next
      · cases next
        exact tidy.drop rfl
      · cases next
        exact ((tidy.drop rfl).push (.enable first) rfl).same rfl
  | enable first =>
    cases next
    exact (tidy.drop rfl).same rfl
  | released keys =>
    simp only [State.runTask] at next
    split at next
    · cases next
    · split at next
      · cases next
        exact tidy.disable.same rfl
      · cases next
        exact tidy.deliver (.inl rfl)
  | disable keys =>
    cases next
    have delivered := tidy.deliver (.inr rfl)
    apply delivered.same
    cases keys <;> rfl
  | deliver todo stage keys =>
    cases next
    obtain ⟨x, idle, quiet, current, work⟩ := tidy.alone rfl
    cases todo with
    | nil => cases work
    | cons input todo =>
      exact Tidy.runDeliver (s := { s with tasks := rest }) idle quiet current
        ⟨work.alternates, work.nodup, work.holding, work.reads, work.fresh, work.toRelease,
          work.taken⟩ tidy.answered
  | deferred session wakeAt snapshot =>
    have open' := admits rfl
    simp only [State.runTask] at next
    split at next
    · cases next
    · split at next
      · rename_i unchanged
        have settled : { s with tasks := rest }.settled = true := by
          simpa [State.admits, unchanged] using open'
        exact (tidy.drop rfl).release settled next
      · cases next
        exact tidy.drop rfl

/-- Every orderly step leaves the keys with their session. -/
theorem Tidy.step {e : Event} (tidy : Tidy host s) (admitted : orderly s e = true)
    (next : step host s e = some t) : Tidy host t := by
  obtain ⟨ticks, act⟩ := e
  have later : Tidy host { s with now := s.now + ticks + 1 } := tidy.same rfl
  simp only [KeyboardGrab.step] at next
  cases act with
  | enter session =>
    cases next
    exact later.push _ rfl
  | leave session =>
    cases next
    exact later.push _ rfl
  | setRdev enabled =>
    cases next
    exact later.same rfl
  | key input =>
    simp only [State.act] at next
    split at next
    · cases next
      obtain ⟨⟨⟨⟨idle, still⟩, -⟩, -⟩, -⟩ := by
        simpa only [orderly, Bool.and_eq_true] using admitted
      have known : s.current.isSome = true ∧ s.owner = s.current ∧
          (input.press = true ∨ input.key ∈ s.toRelease) := by
        simp only [orderly, Bool.and_eq_true, Bool.or_eq_true, decide_eq_true_eq] at admitted
        exact ⟨admitted.1.1.2, admitted.1.2, admitted.2⟩
      obtain ⟨some', owned, held⟩ := known
      obtain ⟨x, current⟩ := Option.isSome_iff_exists.mp some'
      obtain ⟨nodup, holding, -⟩ := tidy.atRest idle still
      refine ⟨.listening x input .start ⟨rfl, still_iff.mp still, current, owned.trans current,
        trivial, s.toRelease, nodup, holding, fun release => ?_, rfl⟩, tidy.answered⟩
      exact held.resolve_left (Bool.eq_false_iff.mp release)
    · cases next
  | listen =>
    obtain ⟨⟨input, stage⟩, working, rfl⟩ := Option.map_eq_some_iff.mp next
    have listener : s.listener = some (input, stage) := working
    cases later.phase with
    | rest idle _ _ _ _ => cases listener.symm.trans idle
    | listening x input' stage' work =>
      obtain ⟨rfl, rfl⟩ := Prod.mk.inj (Option.some.inj (listener.symm.trans work.listener))
      exact Tidy.listen work later.answered
    | releasing _ _ idle _ _ _ => cases listener.symm.trans idle
  | run i order =>
    obtain ⟨task, chosen, next⟩ := Option.bind_eq_some_iff.mp next
    have found : s.tasks[i]? = some task := chosen
    have perm := cons_eraseIdx_perm chosen
    refine (later.perm perm).runTask ?_ next
    rw [admits_tasks _ task]
    · simpa [orderly, found] using admitted
    · simp [State.still, List.any_eq, perm.mem_iff]

theorem tidy_initial (host : Host) (now : Nat) (rdevEnabled : Bool) :
    Tidy host (initial now rdevEnabled) :=
  ⟨.rest rfl rfl List.nodup_nil (fun _ _ => by simp [pressed, initial, State.keys])
    fun held => absurd rfl held, trivial⟩

/-- In every orderly run, no key stays pressed at a session that was left. -/
theorem remote_keys_released (host : Host) (s : State)
    (reached : (grab host).Reaches (fun s e => orderly s e = true) s) : Settled s := by
  have tidy : Tidy host s := by
    apply reached.invariant (Tidy host)
    · rintro s ⟨now, rdevEnabled, rfl⟩
      exact tidy_initial host now rdevEnabled
    · exact fun s e t tidy admitted next => tidy.step admitted next
  refine ⟨fun ended x left => released_of_pressed fun k held => ?_, tidy.answered⟩
  cases tidy.phase with
  | rest _ _ _ holding owned =>
    obtain ⟨current, inside, -⟩ := (holding x k).mp held
    obtain ⟨y, current', owner⟩ := owned (List.ne_nil_of_mem inside)
    obtain rfl : x = y := Option.some.inj (current.symm.trans current')
    exact left owner
  | listening y input stage work =>
    obtain ⟨keys, -, holding, -⟩ := work.held
    obtain ⟨current, -⟩ := (holding x k).mp held
    obtain rfl : x = y := Option.some.inj (current.symm.trans work.current)
    exact left work.owner
  | releasing y task _ busy _ _ =>
    have none' : s.keys.busy = [] := by
      show s.tasks.filter Task.busy = []
      rw [ended]
      rfl
    cases busy.symm.trans none'

/-- The listener is through with a key event after these steps. -/
def typed (input : Input) : List Event := ⟨0, .key input⟩ :: List.replicate 5 ⟨0, .listen⟩

/-- The operator presses a key, waits and leaves the window. -/
def pressAndLeave : List Event :=
  through (.enter 1) 5 ++ typed ⟨.other 65, true⟩ ++
    [⟨500 * nanos, .leave 1⟩, ⟨0, .run 0 []⟩, ⟨0, .run 0 [.other 65]⟩] ++
    List.replicate 7 ⟨0, .run 0 []⟩

theorem remote_keys_released_left :
    Released ((grab plainHost).play (fun s e => orderly s e = true) (initial 0 true)
      pressAndLeave).sent 1 := by
  apply (remote_keys_released plainHost
    ((grab plainHost).play (fun s e => orderly s e = true) (initial 0 true) pressAndLeave)
    ⟨_, ⟨0, true, rfl⟩, Machine.runs_play _ _ _ _⟩).1
  · decide
  · decide

/-- The operator presses a key and goes to the window of another session. -/
def pressAndCross : List Event :=
  through (.enter 1) 5 ++ typed ⟨.other 65, true⟩ ++ through (.enter 2) 5 ++ through (.leave 1) 2

/-- The leave of the first window is ignored, and its key stays pressed. -/
theorem remote_key_stuck :
    ¬ ∀ (host : Host) (s : State), (grab host).Reaches Machine.free s → Settled s := by
  intro settled
  have released := (settled plainHost
    ((grab plainHost).play Machine.free (initial 0 true) pressAndCross)
    ⟨_, ⟨0, true, rfl⟩, Machine.runs_play _ _ _ _⟩).1 (by decide) 1 (by decide)
  have sent : ((grab plainHost).play Machine.free (initial 0 true) pressAndCross).sent =
      [⟨1, .other 65, 38, true⟩] := by
    decide
  obtain ⟨r, inside, -⟩ := released [] ⟨1, .other 65, 38, true⟩ [] sent rfl rfl
  cases inside

end ChainRemote.Hq.KeyboardGrab
