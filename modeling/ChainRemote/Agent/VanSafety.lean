import ChainRemote.Agent.VanWatch

/-!
# What the watchdog does to the daemon

A span is the part of the log after the last tick that saw the port open and after the last change
of the kind. A launch that fails is counted, and the third one ends the attempts of a span; a launch
that succeeds is not counted, also where the port stays closed. A process is killed for a good
reason where the port was open before; the process list is read twice, and the second list may name
a process that the first did not.
-/

namespace ChainRemote.Agent.VanWatch

open Lib

/-- The tick saw the port open. -/
def Tick.opened (tick : Tick) : Bool := tick.probe.any PortState.listening

/-- `recover` killed or launched the daemon in the tick. -/
def Tick.acts (tick : Tick) : Bool :=
  tick.recovery.killed.isSome || tick.recovery.launched.isSome

/-- The entry does not start a new span. -/
def Entry.continues : Entry → Bool
  | .changed => false
  | .ticked tick => !tick.opened

/-- The entry is a tick in which `recover` killed or launched the daemon. -/
def Entry.acts : Entry → Bool
  | .changed => false
  | .ticked tick => tick.acts

/-- The entry is a tick with a launch that succeeded. -/
def Entry.launches : Entry → Bool
  | .changed => false
  | .ticked tick => tick.recovery.launched == some true

/-- The entries of the present span. -/
def State.span (s : State) : List Entry := s.log.takeWhile Entry.continues

/-- `recover` acted at most three times in the present span. -/
def Bounded (s : State) : Prop := s.span.countP Entry.acts ≤ maxFailures

/-- The tick enters `recover`. -/
def recovers (f : Flags) (obs : Observation) : Bool :=
  obs.probe == some ⟨false, 0⟩ && !f.gaveUp && !inQuietPeriod f obs.now &&
    !(obs.listed.isSome && !f.everOk) && decide (badStreakNeeded ≤ f.badStreak + 1)

/-- After a launch that succeeded, the watchdog does not recover again before it saw the port open
or the kind was changed. -/
def Helped (s : State) : Event → Prop
  | .tick obs => s.span.any Entry.launches = true → recovers s.flags obs = false
  | _ => True

instance (s : State) : (event : Event) → Decidable (Helped s event)
  | .tick _ => inferInstanceAs (Decidable (_ → _))
  | .setKind _ | .clearRestarted => isTrue trivial

/-- The attempts of the present span are counted, but for a launch that succeeded. -/
structure Counted (s : State) : Prop where
  all : s.span.any Entry.launches = false →
    s.span.countP Entry.acts ≤ s.flags.failures ∧ s.flags.failures ≤ maxFailures ∧
      (s.flags.gaveUp = false → s.flags.failures < maxFailures)
  bound : s.span.countP Entry.acts ≤ maxFailures

variable {s t : State}

/-- A new span has no attempts. -/
theorem Counted.of_empty (empty : s.span = []) (none : s.flags.failures = 0) : Counted s := by
  constructor
  · intro _
    simp [empty, none, maxFailures]
  · simp [empty]

/-- A tick that did not find the daemon up goes on with the span. -/
theorem span_ticked (flags : Flags) (now : Nat) {tick : Tick} (closed : tick.opened = false) :
    State.span { flags := flags, now := now, log := .ticked tick :: s.log } =
      .ticked tick :: s.span := by
  simp [State.span, Entry.continues, closed]

/-- A tick that did not act and left the failures and the end of the attempts. -/
theorem Counted.quietly (counted : Counted s) {flags : Flags} {now : Nat} {tick : Tick}
    (closed : tick.opened = false) (idle : tick.recovery = {})
    (failures : flags.failures = s.flags.failures) (gaveUp : flags.gaveUp = s.flags.gaveUp) :
    Counted { flags := flags, now := now, log := .ticked tick :: s.log } := by
  have span := span_ticked (s := s) flags now closed
  have acts : Entry.acts (.ticked tick) = false := by simp [Entry.acts, Tick.acts, idle]
  have launches : Entry.launches (.ticked tick) = false := by simp [Entry.launches, idle]
  constructor
  · intro noLaunch
    simp only [span, List.any_cons, launches, Bool.false_or] at noLaunch
    simp only [span, List.countP_cons, acts, failures, gaveUp]
    simpa using counted.all noLaunch
  · simp only [span, List.countP_cons, acts]
    simpa using counted.bound

/-- An attempt in a span without a launch that succeeded. -/
theorem Counted.attempt (counted : Counted s) {flags : Flags} {now : Nat} {tick : Tick}
    (noLaunch : s.span.any Entry.launches = false) (trying : s.flags.gaveUp = false)
    (closed : tick.opened = false)
    (noted : tick.recovery.launched = some true ∨
      (flags.failures = s.flags.failures + 1 ∧
        (flags.gaveUp = false → flags.failures < maxFailures)) ∨
      (tick.recovery = {} ∧ flags.failures = s.flags.failures)) :
    Counted { flags := flags, now := now, log := .ticked tick :: s.log } := by
  have span := span_ticked (s := s) flags now closed
  obtain ⟨below, _, more⟩ := counted.all noLaunch
  have room := more trying
  have atMostOne : (Entry.ticked tick :: s.span).countP Entry.acts ≤
      s.span.countP Entry.acts + 1 := by
    rw [List.countP_cons]
    split <;> omega
  constructor
  · intro stillNone
    rw [span] at stillNone ⊢
    show _ ≤ flags.failures ∧ flags.failures ≤ maxFailures ∧
      (flags.gaveUp = false → flags.failures < maxFailures)
    simp only [List.any_cons, Bool.or_eq_false_iff] at stillNone
    obtain launched | ⟨failures, rest⟩ | ⟨idle, failures⟩ := noted
    · simp [Entry.launches, launched] at stillNone
    · exact ⟨by omega, by omega, rest⟩
    · have acts : Entry.acts (.ticked tick) = false := by simp [Entry.acts, Tick.acts, idle]
      rw [List.countP_cons, acts]
      exact ⟨by simpa [failures] using below, by omega, fun _ => by omega⟩
  · rw [span]
    omega

/-- The checks of a tick that ends in `recover`. -/
theorem recovers_of_case {f : Flags} {obs : Observation} (closed : obs.probe = some ⟨false, 0⟩)
    (trying : f.gaveUp = false) (awake : inQuietPeriod f obs.now = false)
    (gone : f.everOk = true ∨ obs.listed = none) (again : badStreakNeeded ≤ f.badStreak + 1) :
    recovers f obs = true := by
  obtain ever | none := gone <;> simp [recovers, *]

/-- A tick of a helped run keeps the count. -/
theorem Counted.tick (counted : Counted s) {d : Daemon} {obs : Observation}
    (helped : Helped s (.tick obs)) : Counted (s.ticked d obs) := by
  unfold State.ticked
  generalize outcome : VanWatch.tick d obs s.flags = result
  have ticks : TickCase d obs s.flags result := outcome ▸ tickCase d obs s.flags
  cases ticks with
  | unknown unread => exact counted.quietly rfl rfl rfl rfl
  | healthy path established opened =>
    exact Counted.of_empty (by simp [State.span, Entry.continues, Tick.opened]) rfl
  | busy established closed => exact counted.quietly rfl rfl rfl rfl
  | resting verdict closed rests => exact counted.quietly rfl rfl rfl rfl
  | waiting closed never => exact counted.quietly rfl rfl rfl rfl
  | counted closed trying awake first => exact counted.quietly rfl rfl rfl rfl
  | recovered closed trying awake gone again after done recovers =>
    have noLaunch : s.span.any Entry.launches = false := by
      cases launched : s.span.any Entry.launches with
      | false => rfl
      | true =>
        have never := helped launched
        rw [recovers_of_case closed trying awake gone again] at never
        cases never
    have noted : ∀ f : Flags, (noteFailure f).gaveUp = false →
        (noteFailure f).failures < maxFailures := by
      intro f stays
      simp only [noteFailure, Bool.or_eq_false_iff, decide_eq_false_iff_not] at stays ⊢
      omega
    apply counted.attempt noLaunch trying rfl
    cases recovers with
    | missing path absent => exact .inr (.inr ⟨rfl, rfl⟩)
    | unplaced path => exact .inr (.inl ⟨rfl, noted _⟩)
    | launched path exe ok => exact .inl rfl
    | failed path exe => exact .inr (.inl ⟨rfl, noted _⟩)

/-- Every step of a helped run keeps the count. -/
theorem Counted.step (counted : Counted s) {event : Event} (helped : Helped s event)
    (next : van.step s event = some t) : Counted t := by
  obtain ⟨kind, rfl, rfl⟩ | ⟨obs, d, rfl, _, _, _, rfl⟩ | ⟨rfl, rfl⟩ := step_cases next
  · obtain same | ⟨changed, _, same⟩ := kindSet_cases s kind
    · rw [same]
      exact counted
    · rw [same]
      exact Counted.of_empty rfl rfl
  · exact counted.tick helped
  · exact ⟨counted.all, counted.bound⟩

/-- In every run in which the watchdog does not recover again after a launch that succeeded, before
the port was open or the kind changed, it acts at most three times in each span. -/
theorem attempts_bounded (s : State) (reached : van.Reaches Helped s) : Bounded s := by
  have counted : Counted s := by
    apply reached.invariant Counted
    · intro start started
      have empty : start.span = [] := by simp [State.span, started.2]
      exact Counted.of_empty empty (by rw [started.1])
    · intro before event after kept admitted next
      exact kept.step admitted next
  exact counted.bound

/-- The daemon of the tests is installed in the first place of the list. -/
def seen (now : Nat) (launched : Bool) : Observation where
  now := now
  probe := some ⟨false, 0⟩
  installed := ["C:\\KSCAT\\KSCAT.exe"]
  launched := launched

/-- The watchdog starts with the cached kind. -/
def armed : State := { flags := { kind := "ksnet" } }

/-- Three launches fail, and later ticks do nothing. -/
theorem failures_bounded :
    let s := van.play Helped armed
      [.tick (seen 0 false), .tick (seen 1 false), .tick (seen 2 false), .tick (seen 3 false),
       .tick (seen 4 false), .tick (seen 5 false), .tick (seen 6 false), .tick (seen 7 false)]
    van.Reaches Helped s ∧ s.span.countP Entry.acts = 3 ∧ s.flags.gaveUp = true ∧ Bounded s :=
  let reached := ⟨armed, ⟨rfl, rfl⟩, van.runs_play Helped armed _⟩
  ⟨reached, by decide +kernel, by decide +kernel, attempts_bounded _ reached⟩

/-- Four launches succeed and the port stays closed. -/
def hammered : State :=
  van.play Machine.free armed
    [.tick (seen 0 true), .tick (seen 1 true), .tick (seen 60001 true), .tick (seen 60002 true),
     .tick (seen 120002 true), .tick (seen 120003 true), .tick (seen 180003 true),
     .tick (seen 180004 true)]

/-- The daemon is launched a fourth time in one span. -/
theorem launches_unbounded : van.Reaches Machine.free hammered ∧ ¬ Bounded hammered :=
  ⟨⟨armed, ⟨rfl, rfl⟩, van.runs_play Machine.free armed _⟩, by unfold Bounded; decide +kernel⟩

/-- The entry is no change of the kind. -/
def Entry.keeps : Entry → Bool
  | .changed => false
  | .ticked _ => true

/-- The tick of an entry. -/
def Entry.tick? : Entry → Option Tick
  | .changed => none
  | .ticked tick => some tick

/-- The ticks since the last change of the kind, and that change. -/
def sinceChange (log : List Entry) : List Entry := log.takeWhile Entry.keeps

theorem sinceChange_ticked (tick : Tick) (log : List Entry) :
    sinceChange (.ticked tick :: log) = .ticked tick :: sinceChange log := rfl

/-- The ticks since the last change are those of the present kind. -/
def OfKind (s : State) : Prop := ∀ tick, .ticked tick ∈ sinceChange s.log → tick.kind = s.flags.kind

/-- A tick of the present kind. -/
theorem OfKind.ticked {s : State} (ofKind : OfKind s) {flags : Flags} {now : Nat} {tick : Tick}
    (sameKind : flags.kind = s.flags.kind) (kind : tick.kind = s.flags.kind) :
    OfKind { flags := flags, now := now, log := .ticked tick :: s.log } := by
  intro other inside
  rw [sinceChange_ticked, List.mem_cons] at inside
  obtain new | old := inside
  · obtain rfl := Entry.ticked.inj new
    exact kind.trans sameKind.symm
  · exact (ofKind other old).trans sameKind.symm

/-- A kill of a daemon that had been working: its path is known, its port was open on a tick since
the last change of the kind, no connection is established, and this tick and the one before it
judged it as definitely bad. -/
structure Legit (tick : Tick) (earlier : List Entry) : Prop where
  path : tick.recovery.path.isSome = true
  opened : ∃ before, .ticked before ∈ sinceChange earlier ∧ before.kind = tick.kind ∧
    before.opened = true
  unused : tick.probe = some ⟨false, 0⟩
  bad : tick.verdict = .bad
  again : ∃ before, earlier.findSome? Entry.tick? = some before ∧ before.verdict = .bad ∧
    before.kind = tick.kind

/-- Every kill in the log is legitimate. -/
def KillsLegit (s : State) : Prop :=
  ∀ tick earlier, .ticked tick :: earlier <:+ s.log → tick.recovery.killed.isSome = true →
    Legit tick earlier

/-- While the port was not open since the last change of the kind, the process list of `recover`
names a process only where that of the tick did. -/
def Steady (s : State) : Event → Prop
  | .tick obs => s.flags.everOk = false → obs.listed = none → obs.found = none
  | _ => True

instance (s : State) : (event : Event) → Decidable (Steady s event)
  | .tick _ => inferInstanceAs (Decidable (_ → _ → _))
  | .setKind _ | .clearRestarted => isTrue trivial

/-- What the flags say about the log. -/
structure Watched (s : State) : Prop where
  kinds : OfKind s
  ever : s.flags.everOk = true →
    ∃ before, .ticked before ∈ sinceChange s.log ∧ before.opened = true
  streak : s.flags.badStreak ≤ 1
  /-- Nothing keeps a tick from being judged once a bad one was counted. -/
  awake : s.flags.badStreak = 1 →
    s.flags.gaveUp = false ∧ ∀ time ∈ s.flags.quietUntil, time ≤ s.now
  last : s.flags.everOk = true → s.flags.badStreak = 1 →
    ∃ before rest, s.log = .ticked before :: rest ∧ before.verdict = .bad
  legit : KillsLegit s

/-- A tick whose flags fit the log. -/
theorem Watched.ticked (watched : Watched s) {flags : Flags} {now : Nat} {tick : Tick}
    (sameKind : flags.kind = s.flags.kind) (kind : tick.kind = s.flags.kind)
    (ever : flags.everOk = true → s.flags.everOk = true ∨ tick.opened = true)
    (streak : flags.badStreak ≤ 1)
    (awake : flags.badStreak = 1 →
      flags.gaveUp = false ∧ ∀ time ∈ flags.quietUntil, time ≤ now)
    (last : flags.everOk = true → flags.badStreak = 1 → tick.verdict = .bad)
    (kill : tick.recovery.killed.isSome = true → Legit tick s.log) :
    Watched { flags := flags, now := now, log := .ticked tick :: s.log } where
  kinds := watched.kinds.ticked sameKind kind
  ever now := by
    rw [sinceChange_ticked]
    obtain before | opened := ever now
    · obtain ⟨old, inside, opened⟩ := watched.ever before
      exact ⟨old, List.mem_cons_of_mem _ inside, opened⟩
    · exact ⟨tick, List.mem_cons_self, opened⟩
  streak := streak
  awake := awake
  last isOk counted := ⟨tick, s.log, rfl, last isOk counted⟩
  legit other earlier suffix killed := by
    obtain same | older := List.suffix_cons_iff.mp suffix
    · obtain ⟨head, rfl⟩ := List.cons.inj same
      obtain rfl := Entry.ticked.inj head
      exact kill killed
    · exact watched.legit other earlier older killed

/-- The kill of a tick whose flag says that the port was open. -/
theorem Watched.kill (watched : Watched s) {kind : String} {done : Recovery}
    (sameKind : kind = s.flags.kind) (isOk : s.flags.everOk = true)
    (counted : s.flags.badStreak = 1) (path : done.path.isSome = true) :
    Legit { kind := kind, probe := some ⟨false, 0⟩, verdict := .bad, recovery := done } s.log where
  path := path
  opened := by
    obtain ⟨before, inside, opened⟩ := watched.ever isOk
    exact ⟨before, inside, (watched.kinds before inside).trans sameKind.symm, opened⟩
  unused := rfl
  bad := rfl
  again := by
    obtain ⟨before, rest, log, bad⟩ := watched.last isOk counted
    have inside : .ticked before ∈ sinceChange s.log := by
      rw [log, sinceChange_ticked]
      exact List.mem_cons_self
    exact ⟨before, by rw [log]; rfl, bad, (watched.kinds before inside).trans sameKind.symm⟩

/-- A tick that is not quiet is past the quiet time. -/
theorem past_of_awake {f : Flags} {now : Nat} (awake : inQuietPeriod f now = false) :
    ∀ time ∈ f.quietUntil, time ≤ now := by
  intro time quiet
  have quiet' : f.quietUntil = some time := quiet
  simpa [inQuietPeriod, quiet'] using awake

/-- A tick of a steady run keeps what the flags say. -/
theorem Watched.tick (watched : Watched s) {d : Daemon} {obs : Observation}
    (steady : Steady s (.tick obs)) (sameKind : d.kind = s.flags.kind) (later : s.now ≤ obs.now)
    (ends : obs.now ≤ obs.launchedAt) : Watched (s.ticked d obs) := by
  unfold State.ticked
  generalize outcome : VanWatch.tick d obs s.flags = result
  have ticks : TickCase d obs s.flags result := outcome ▸ tickCase d obs s.flags
  have waits : s.flags.badStreak = 1 →
      s.flags.gaveUp = false ∧ ∀ time ∈ s.flags.quietUntil, time ≤ obs.launchedAt := by
    intro counted
    obtain ⟨trying, past⟩ := watched.awake counted
    exact ⟨trying, fun time quiet => by have := past time quiet; omega⟩
  cases ticks with
  | unknown unread => exact watched.ticked rfl sameKind .inl (Nat.zero_le _) nofun nofun nofun
  | healthy path established opened =>
    exact watched.ticked rfl sameKind (fun _ => .inr rfl) (Nat.zero_le _) nofun nofun nofun
  | busy established closed =>
    exact watched.ticked rfl sameKind .inl (Nat.zero_le _) nofun nofun nofun
  | resting verdict closed rests =>
    refine watched.ticked rfl sameKind .inl watched.streak waits ?_ nofun
    intro _ counted
    -- A counted bad tick leaves nothing to rest for.
    obtain ⟨trying, past⟩ := watched.awake counted
    obtain gaveUp | quiet := rests
    · exact absurd (gaveUp.symm.trans trying) (by decide)
    · obtain ⟨time, isQuiet, waiting⟩ := (Option.any_eq_true _ _).mp quiet
      have over' := past time isQuiet
      have still : obs.now < time := by simpa using waiting
      omega
  | waiting closed never =>
    refine watched.ticked rfl sameKind .inl watched.streak waits ?_ nofun
    intro isOk _
    exact absurd (never.symm.trans isOk) (by decide)
  | counted closed trying awake first =>
    refine watched.ticked rfl sameKind .inl ?_ ?_ (fun _ _ => rfl) nofun
    · show s.flags.badStreak + 1 ≤ 1
      unfold badStreakNeeded at first
      omega
    · intro _
      refine ⟨trying, fun time quiet => ?_⟩
      have := past_of_awake awake time quiet
      omega
  | recovered closed trying awake gone again after done recovers =>
    have counted : s.flags.badStreak = 1 := by
      have := watched.streak
      unfold badStreakNeeded at again
      omega
    have isOk : obs.found.isSome = true → s.flags.everOk = true := by
      intro found
      obtain ever | listed := gone
      · exact ever
      · cases ever : s.flags.everOk with
        | true => rfl
        | false => simp [steady ever listed] at found
    cases recovers with
    | missing path absent =>
      exact watched.ticked rfl sameKind .inl (Nat.zero_le _) nofun nofun nofun
    | unplaced path => exact watched.ticked rfl sameKind .inl (Nat.zero_le _) nofun nofun nofun
    | launched path exe ok =>
      refine watched.ticked rfl sameKind .inl (Nat.zero_le _) nofun nofun ?_
      exact fun killed => watched.kill sameKind (isOk killed) counted rfl
    | failed path exe =>
      refine watched.ticked rfl sameKind .inl (Nat.zero_le _) nofun nofun ?_
      exact fun killed => watched.kill sameKind (isOk killed) counted rfl

/-- Every step of a steady run keeps what the flags say. -/
theorem Watched.step (watched : Watched s) {event : Event} (steady : Steady s event)
    (next : van.step s event = some t) : Watched t := by
  obtain ⟨kind, rfl, rfl⟩ | ⟨obs, d, rfl, current, later, ends, rfl⟩ | ⟨rfl, rfl⟩ := step_cases next
  · obtain same | ⟨changed, _, same⟩ := kindSet_cases s kind
    · rw [same]
      exact watched
    · rw [same]
      refine ⟨nofun, nofun, watched.streak, ?_, nofun, ?_⟩
      · exact fun counted => ⟨rfl, (watched.awake counted).2⟩
      · intro tick earlier suffix killed
        obtain head | older := List.suffix_cons_iff.mp suffix
        · cases (List.cons.inj head).1
        · exact watched.legit tick earlier older killed
  · exact watched.tick steady (kind_of_currentDaemon current).1 later ends
  · exact ⟨watched.kinds, watched.ever, watched.streak, watched.awake, watched.last, watched.legit⟩

/-- In every steady run only a daemon that had been working is killed. -/
theorem kills_legit (s : State) (reached : van.Reaches Steady s) : KillsLegit s := by
  have watched : Watched s := by
    apply reached.invariant Watched
    · intro start started
      have flags := started.1
      have log := started.2
      refine ⟨?_, ?_, ?_, ?_, ?_, ?_⟩
      · simp [OfKind, log, sinceChange]
      · rw [flags]
        exact nofun
      · rw [flags]
        exact Nat.zero_le _
      · rw [flags]
        exact nofun
      · rw [flags]
        exact nofun
      · intro tick earlier suffix
        simp [log] at suffix
    · intro before event after kept admitted next
      exact kept.step admitted next
  exact watched.legit

/-- A daemon that stopped after it had worked is killed, with a reason. -/
theorem stopped_killed :
    let open_ : Observation := { now := 0, probe := some ⟨true, 0⟩ }
    let stopped : Nat → Observation := fun now =>
      { seen now true with listed := some 4, found := some 4, launchedAt := now }
    let s := van.play Steady armed [.tick open_, .tick (stopped 1), .tick (stopped 2)]
    van.Reaches Steady s ∧ (s.log.head?.bind Entry.tick?).bind (·.recovery.killed) = some 4 ∧
      KillsLegit s :=
  let reached := ⟨armed, ⟨rfl, rfl⟩, van.runs_play Steady armed _⟩
  ⟨reached, by decide +kernel, kills_legit _ reached⟩

/-- The process starts between the two lists of a tick. -/
def startedBetween : State :=
  van.play Machine.free armed [.tick (seen 0 true), .tick { seen 1 true with found := some 4 }]

/-- A daemon is killed whose port was never open. -/
theorem kill_of_starting :
    van.Reaches Machine.free startedBetween ∧ ¬ KillsLegit startedBetween := by
  refine ⟨⟨armed, ⟨rfl, rfl⟩, van.runs_play Machine.free armed _⟩, ?_⟩
  intro legit
  let first : Tick := { kind := "ksnet", probe := some ⟨false, 0⟩, verdict := .bad }
  let done : Recovery :=
    { path := some "C:\\KSCAT\\KSCAT.exe", killed := some 4, launched := some true }
  have log : startedBetween.log = [.ticked { first with recovery := done }, .ticked first] := by
    decide +kernel
  have suffix : [.ticked { first with recovery := done }, .ticked first] <:+ startedBetween.log :=
    ⟨[], log.symm⟩
  obtain ⟨before, inside, _, opened⟩ := (legit _ _ suffix rfl).opened
  obtain rfl := Entry.ticked.inj (List.mem_singleton.mp inside)
  cases opened

end ChainRemote.Agent.VanWatch
