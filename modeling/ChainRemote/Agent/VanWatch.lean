import ChainRemote.Agent.PushChecks
import ChainRemote.Lib.Machine

/-!
# The watchdog of the payment daemon

`chainremote_van.rs` watches the port of a payment daemon. Every tick reads the port, and where the
daemon is bad on two ticks in a row `recover` kills what is left of it and launches it again. The
flags of the module are reset on different paths; `set_kind` resets some of them when the panel
changes what is watched. What a probe, a process list, the file system or a launch gives is part of
the tick.

The log of changes and ticks is history: no step reads it.
-/

namespace ChainRemote.Agent.VanWatch

open Lib

/-- `Daemon`. -/
structure Daemon where
  kind : String
  process : String
  port : Nat
  fallbacks : List String
deriving DecidableEq, Repr

/-- `DAEMONS`. -/
def daemons : List Daemon :=
  [{ kind := "ksnet"
     process := "KSCAT.exe"
     port := 27015
     fallbacks :=
       ["C:\\KSCAT\\KSCAT.exe", "C:\\Program Files\\KSCAT\\KSCAT.exe",
        "C:\\Program Files (x86)\\KSCAT\\KSCAT.exe", "C:\\KSNET\\KSCAT.exe",
        "D:\\KSCAT\\KSCAT.exe"] }]

/-- `START_GRACE`, in milliseconds. -/
def startGrace : Nat := 60 * 1000

/-- `MAX_FAILURES`. -/
def maxFailures : Nat := 3

/-- `BAD_STREAK_NEEDED`. -/
def badStreakNeeded : Nat := 2

/-- `PortState`. -/
structure PortState where
  listening : Bool
  established : Nat
deriving DecidableEq, Repr

/-- What one tick is told, and when. -/
structure Observation where
  /-- `Instant::now()` in `in_quiet_period`. -/
  now : Nat
  /-- `probe_port`. -/
  probe : Option PortState
  /-- `find_pid` in `tick`. -/
  listed : Option Nat := none
  /-- `find_pid` in `recover`. -/
  found : Option Nat := none
  /-- The cached path exists, as `cache_path_if_missing` sees it. -/
  cachedExists : Bool := false
  /-- The lines that `wmic` prints. -/
  wmic : Option (List String) := none
  /-- The cached path exists, as `daemon_path` sees it. -/
  pathExists : Bool := false
  /-- The fallbacks that exist. -/
  installed : List String := []
  /-- `launch_in_user_session`. -/
  launched : Bool := false
  /-- `Instant::now()` in `set_quiet`. -/
  launchedAt : Nat := now
deriving DecidableEq, Repr

/-- The statics of the module, and the cached path. -/
structure Flags where
  /-- `KIND`. -/
  kind : String := ""
  /-- `RESTARTED_PENDING`. -/
  restartedPending : Bool := false
  /-- `LAST_OK`. -/
  lastOk : Bool := false
  /-- `EVER_OK`. -/
  everOk : Bool := false
  /-- `WAITING_LOGGED`. -/
  waitingLogged : Bool := false
  /-- `GAVE_UP`. -/
  gaveUp : Bool := false
  /-- `NOT_INSTALLED`. -/
  notInstalled : Bool := false
  /-- `FAILURES`. -/
  failures : Nat := 0
  /-- `BAD_STREAK`. -/
  badStreak : Nat := 0
  /-- `QUIET_UNTIL`. -/
  quietUntil : Option Nat := none
  /-- The option `chainremote-van-path`. -/
  path : String := ""
deriving DecidableEq, Repr

/-- `set_kind`. -/
def setKind (kind : String) (f : Flags) : Flags :=
  let kind := String.ofList (rustTrim kind)
  if f.kind ≠ kind then
    { f with
      kind := kind
      gaveUp := false
      everOk := false
      waitingLogged := false
      notInstalled := false
      failures := 0 }
  else f

/-- `current_ok`. -/
def currentOk (f : Flags) : Option Bool :=
  if f.kind = "" then none
  else if f.lastOk then some true
  else if !f.everOk && !f.notInstalled then none
  else some false

/-- `current_daemon`. -/
def currentDaemon (f : Flags) : Option Daemon :=
  if f.kind = "" then none else daemons.find? fun d => d.kind == f.kind

/-- A line of `wmic` is the path of the daemon. -/
def namesDaemon (d : Daemon) (line : List Char) : Bool :=
  (d.process.toList.map Char.toLower).isSuffixOf (line.map Char.toLower)

/-- `cache_path_if_missing`. -/
def cachePathIfMissing (d : Daemon) (obs : Observation) (cached : String) : String :=
  if cached ≠ "" ∧ obs.cachedExists then cached
  else
    match obs.wmic with
    | none => cached
    | some lines =>
      match (lines.map rustTrim).find? (namesDaemon d) with
      | none => cached
      | some line => String.ofList line

/-- `daemon_path`: the path, and the cached one after it. -/
def daemonPath (d : Daemon) (obs : Observation) (cached : String) : Option String × String :=
  if cached ≠ "" ∧ obs.pathExists then (some cached, cached)
  else
    match d.fallbacks.find? fun path => path ∈ obs.installed with
    | none => (none, cached)
    | some path => (some path, path)

/-- `note_failure`. -/
def noteFailure (f : Flags) : Flags :=
  { f with
    failures := f.failures + 1
    gaveUp := f.gaveUp || decide (maxFailures ≤ f.failures + 1) }

/-- What `recover` did: the path it had, the process it killed, and the result of a launch. -/
structure Recovery where
  path : Option String := none
  killed : Option Nat := none
  launched : Option Bool := none
deriving DecidableEq, Repr

/-- The flags after `recover` looked for the path. -/
def Flags.located (f : Flags) (d : Daemon) (obs : Observation) : Flags :=
  if obs.found.isSome then { f with path := cachePathIfMissing d obs f.path } else f

/-- `recover`. -/
def recover (d : Daemon) (obs : Observation) (f : Flags) : Flags × Recovery :=
  let f := f.located d obs
  let located := daemonPath d obs f.path
  let f := { f with path := located.2 }
  match located.1 with
  | none =>
    if obs.found = none then ({ f with notInstalled := true, gaveUp := true }, {})
    else (noteFailure f, {})
  | some path =>
    let done := { path := some path, killed := obs.found, launched := some obs.launched }
    if obs.launched then
      ({ f with restartedPending := true, quietUntil := some (obs.launchedAt + startGrace) }, done)
    else (noteFailure f, done)

/-- `in_quiet_period`. -/
def inQuietPeriod (f : Flags) (now : Nat) : Bool := f.quietUntil.any fun time => decide (now < time)

/-- Where a tick came to an end. -/
inductive Verdict
  /-- The port could not be read. -/
  | unknown
  | healthy
  /-- Connections are established. -/
  | busy
  | gaveUp
  | quiet
  /-- The process is there, and the port was never open. -/
  | waiting
  /-- The daemon is definitely bad. -/
  | bad
deriving DecidableEq, Repr

/-- A tick as the log keeps it. -/
structure Tick where
  kind : String
  probe : Option PortState
  verdict : Verdict
  recovery : Recovery := {}
deriving DecidableEq, Repr

/-- `tick`: the flags after it, and what the log keeps. -/
def tick (d : Daemon) (obs : Observation) (f : Flags) : Flags × Tick :=
  let ended := fun verdict => { kind := d.kind, probe := obs.probe, verdict : Tick }
  match obs.probe with
  | none => ({ f with badStreak := 0 }, ended .unknown)
  | some state =>
    if state.listening then
      ({ f with
          lastOk := true
          failures := 0
          badStreak := 0
          gaveUp := false
          notInstalled := false
          everOk := true
          path := cachePathIfMissing d obs f.path }, ended .healthy)
    else
      let f := { f with lastOk := false }
      if 0 < state.established then ({ f with badStreak := 0 }, ended .busy)
      else if f.gaveUp then (f, ended .gaveUp)
      else if inQuietPeriod f obs.now then (f, ended .quiet)
      else if obs.listed.isSome && !f.everOk then ({ f with waitingLogged := true }, ended .waiting)
      else if f.badStreak + 1 < badStreakNeeded then
        ({ f with badStreak := f.badStreak + 1 }, ended .bad)
      else
        let done := recover d obs { f with badStreak := 0 }
        (done.1, { ended .bad with recovery := done.2 })

/-- `clear_restarted`. -/
def clearRestarted (f : Flags) : Flags := { f with restartedPending := false }

/-- An entry of the log. -/
inductive Entry
  /-- `set_kind` changed the kind. -/
  | changed
  | ticked (tick : Tick)
deriving DecidableEq, Repr

/-- The flags, the clock, and the log, the latest entry first. -/
structure State where
  flags : Flags
  now : Nat := 0
  log : List Entry := []
deriving DecidableEq, Repr

/-- What happens to the watchdog. -/
inductive Event
  | setKind (kind : String)
  | tick (obs : Observation)
  | clearRestarted
deriving DecidableEq, Repr

/-- The state after a call of `set_kind`. -/
def State.kindSet (s : State) (kind : String) : State :=
  { s with
    flags := setKind kind s.flags
    log := if (setKind kind s.flags).kind = s.flags.kind then s.log else .changed :: s.log }

/-- The state after a tick. -/
def State.ticked (s : State) (d : Daemon) (obs : Observation) : State where
  flags := (tick d obs s.flags).1
  now := obs.launchedAt
  log := .ticked (tick d obs s.flags).2 :: s.log

/-- The watchdog, from a start with a cached kind and a cached path. -/
def van : Machine State Event where
  start s := s.flags = { kind := s.flags.kind, path := s.flags.path } ∧ s.log = []
  step s
    | .setKind kind => some (s.kindSet kind)
    | .tick obs =>
      if s.now ≤ obs.now ∧ obs.now ≤ obs.launchedAt then
        (currentDaemon s.flags).map fun d => s.ticked d obs
      else none
    | .clearRestarted => some { s with flags := clearRestarted s.flags }

/-- What `recover` can do. -/
inductive RecoverCase (obs : Observation) (f : Flags) : Flags × Recovery → Prop
  /-- There is no process and no path. -/
  | missing (path : String) (absent : obs.found = none) :
    RecoverCase obs f ({ f with path := path, notInstalled := true, gaveUp := true }, {})
  /-- There is a process without a path: it stays. -/
  | unplaced (path : String) : RecoverCase obs f (noteFailure { f with path := path }, {})
  | launched (path exe : String) (ok : obs.launched = true) :
    RecoverCase obs f
      ({ f with
          path := path
          restartedPending := true
          quietUntil := some (obs.launchedAt + startGrace) },
        { path := some exe, killed := obs.found, launched := some true })
  | failed (path exe : String) :
    RecoverCase obs f (noteFailure { f with path := path },
      { path := some exe, killed := obs.found, launched := some false })

theorem recoverCase (d : Daemon) (obs : Observation) (f : Flags) :
    RecoverCase obs f (recover d obs f) := by
  have located : ∃ path, f.located d obs = { f with path := path } := by
    unfold Flags.located
    split
    · exact ⟨_, rfl⟩
    · exact ⟨f.path, rfl⟩
  obtain ⟨path, same⟩ := located
  unfold recover
  rw [same]
  dsimp only
  split
  · split
    · rename_i absent
      exact .missing _ absent
    · exact .unplaced _
  · cases ok : obs.launched
    · exact .failed _ _
    · exact .launched _ _ ok

/-- What a tick can do. -/
inductive TickCase (d : Daemon) (obs : Observation) (f : Flags) : Flags × Tick → Prop
  | unknown (unread : obs.probe = none) :
    TickCase d obs f ({ f with badStreak := 0 },
      { kind := d.kind, probe := none, verdict := .unknown })
  | healthy (path : String) (established : Nat) (opened : obs.probe = some ⟨true, established⟩) :
    TickCase d obs f
      ({ f with
          lastOk := true
          failures := 0
          badStreak := 0
          gaveUp := false
          notInstalled := false
          everOk := true
          path := path },
        { kind := d.kind, probe := some ⟨true, established⟩, verdict := .healthy })
  | busy (established : Nat) (closed : obs.probe = some ⟨false, established⟩) :
    TickCase d obs f ({ f with lastOk := false, badStreak := 0 },
      { kind := d.kind, probe := some ⟨false, established⟩, verdict := .busy })
  /-- The watchdog gave up, or waits for a daemon that it launched. -/
  | resting (verdict : Verdict) (closed : obs.probe = some ⟨false, 0⟩)
    (rests : f.gaveUp = true ∨ inQuietPeriod f obs.now = true) :
    TickCase d obs f ({ f with lastOk := false },
      { kind := d.kind, probe := some ⟨false, 0⟩, verdict := verdict })
  | waiting (closed : obs.probe = some ⟨false, 0⟩) (never : f.everOk = false) :
    TickCase d obs f ({ f with lastOk := false, waitingLogged := true },
      { kind := d.kind, probe := some ⟨false, 0⟩, verdict := .waiting })
  | counted (closed : obs.probe = some ⟨false, 0⟩) (trying : f.gaveUp = false)
    (awake : inQuietPeriod f obs.now = false) (first : f.badStreak + 1 < badStreakNeeded) :
    TickCase d obs f ({ f with lastOk := false, badStreak := f.badStreak + 1 },
      { kind := d.kind, probe := some ⟨false, 0⟩, verdict := .bad })
  | recovered (closed : obs.probe = some ⟨false, 0⟩) (trying : f.gaveUp = false)
    (awake : inQuietPeriod f obs.now = false) (gone : f.everOk = true ∨ obs.listed = none)
    (again : badStreakNeeded ≤ f.badStreak + 1) (after : Flags) (done : Recovery)
    (recovers : RecoverCase obs { f with lastOk := false, badStreak := 0 } (after, done)) :
    TickCase d obs f (after,
      { kind := d.kind, probe := some ⟨false, 0⟩, verdict := .bad, recovery := done })

theorem tickCase (d : Daemon) (obs : Observation) (f : Flags) :
    TickCase d obs f (tick d obs f) := by
  unfold tick
  cases probe : obs.probe with
  | none => exact .unknown probe
  | some state =>
    obtain ⟨listening, established⟩ := state
    cases listening with
    | true => exact .healthy _ _ probe
    | false =>
      simp only [Bool.false_eq_true, if_false]
      by_cases busy : 0 < established
      · rw [if_pos busy]
        exact .busy _ probe
      · obtain rfl : established = 0 := by omega
        rw [if_neg busy]
        split
        · rename_i gaveUp
          exact .resting _ probe (.inl gaveUp)
        rename_i trying
        split
        · rename_i quiet
          exact .resting _ probe (.inr quiet)
        rename_i awake
        split
        · rename_i waits
          exact .waiting probe (by simpa using (Bool.and_eq_true_iff.mp waits).2)
        rename_i gone
        split
        · rename_i first
          exact .counted probe (by simpa using trying) (Bool.not_eq_true _ ▸ awake) first
        · rename_i again
          refine .recovered probe (by simpa using trying) (Bool.not_eq_true _ ▸ awake) ?_ (by omega)
            _ _ (recoverCase d obs _)
          cases listed : obs.listed <;> simp_all

/-- The daemon of a tick is that of the present kind. -/
theorem kind_of_currentDaemon {f : Flags} {d : Daemon} (current : currentDaemon f = some d) :
    d.kind = f.kind ∧ f.kind ≠ "" := by
  unfold currentDaemon at current
  split at current
  · cases current
  · rename_i watched
    have same := List.find?_some current
    exact ⟨by simpa using same, watched⟩

/-- What one step of the watchdog is. -/
theorem step_cases {s t : State} {event : Event} (next : van.step s event = some t) :
    (∃ kind, event = .setKind kind ∧ t = s.kindSet kind) ∨
    (∃ obs d, event = .tick obs ∧ currentDaemon s.flags = some d ∧ s.now ≤ obs.now ∧
      obs.now ≤ obs.launchedAt ∧ t = s.ticked d obs) ∨
    (event = .clearRestarted ∧ t = { s with flags := clearRestarted s.flags }) := by
  cases event with
  | setKind kind =>
    obtain rfl := Option.some.inj next
    exact .inl ⟨kind, rfl, rfl⟩
  | tick obs =>
    simp only [van] at next
    split at next
    · rename_i later
      obtain ⟨d, current, rfl⟩ := Option.map_eq_some_iff.mp next
      exact .inr (.inl ⟨obs, d, rfl, current, later.1, later.2, rfl⟩)
    · cases next
  | clearRestarted =>
    obtain rfl := Option.some.inj next
    exact .inr (.inr ⟨rfl, rfl⟩)

/-- A call of `set_kind` that changes nothing leaves the state, and any other resets some flags. -/
theorem kindSet_cases (s : State) (kind : String) :
    s.kindSet kind = s ∨
      ∃ changed, changed ≠ s.flags.kind ∧
        s.kindSet kind =
          { s with
            flags := { s.flags with
              kind := changed
              gaveUp := false
              everOk := false
              waitingLogged := false
              notInstalled := false
              failures := 0 }
            log := .changed :: s.log } := by
  unfold State.kindSet setKind
  by_cases same : s.flags.kind = String.ofList (rustTrim kind)
  · simp [same]
  · refine .inr ⟨String.ofList (rustTrim kind), fun equal => same equal.symm, ?_⟩
    simp [same, Ne.symm same]

end ChainRemote.Agent.VanWatch
