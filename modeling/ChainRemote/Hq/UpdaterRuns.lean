import ChainRemote.Hq.Updater

/-!
# The pace of the updater

A scheduled cycle notes when it ended: a full check for the next day, a failure or a deferral for
the next quarter of an hour. A deferral leaves the time of the last full check alone, so it is only
held back while that check is younger than a day; otherwise the next tick starts a cycle again.
-/

namespace ChainRemote.Hq.Updater

open Lib

variable {program : Program}

/-- A cycle never starts after one that was applied. A scheduled one starts less than
`DEFERRED_RETRY_INTERVAL` after another only where a full check became due and no scheduled cycle
has run since, and never so after one that was deferred or failed. -/
def Paced (s : State) (e : Event) (_ : State) : Prop :=
  e = .startCycle → s.applied = false ∧ (s.phase = .due .scheduled → ∀ cycle ∈ s.scheduled,
    (s.now < cycle.startedAt + deferredRetryInterval →
      ∃ full ∈ s.lastFullCheck, full + fullCheckInterval ≤ s.now ∧
        ∀ other ∈ s.scheduled, other.startedAt < full + fullCheckInterval) ∧
    (cycle.result ≠ some .alreadyLatest →
      cycle.startedAt + deferredRetryInterval ≤ s.now))

/-- A scheduled cycle is only deferred while the last full check stays younger than a day for
`DEFERRED_RETRY_INTERVAL` from its start. -/
def DefersEarly (program : Program) (s : State) (e : Event) : Prop :=
  ∀ attempt startedAt, e = .finish attempt → s.phase = .cycle .scheduled startedAt →
    (checkAndApplyOnce program attempt s.pending).1 = some .deferred →
      ∃ full ∈ s.lastFullCheck,
        startedAt + deferredRetryInterval ≤ full + fullCheckInterval

/-- What every run keeps. -/
structure Sound (s : State) : Prop where
  applied : s.applied = true → s.phase = .exited
  fullPast : ∀ full ∈ s.lastFullCheck, full ≤ s.now
  retryPast : ∀ retry ∈ s.lastDeferredRetry, retry ≤ s.now
  past : ∀ cycle ∈ s.scheduled, cycle.startedAt ≤ s.now
  running : ∀ channel startedAt, s.phase = .cycle channel startedAt → startedAt ≤ s.now
  /-- The next full check is not due within `DEFERRED_RETRY_INTERVAL` of any cycle. -/
  full : ∀ cycle ∈ s.scheduled, ∃ full ∈ s.lastFullCheck,
    cycle.startedAt + deferredRetryInterval ≤ full + fullCheckInterval
  /-- The time to retry was noted after every cycle. -/
  retry : s.phase ≠ .failed →
    ∀ cycle ∈ s.scheduled, ∀ retry ∈ s.lastDeferredRetry, cycle.startedAt ≤ retry
  /-- Where a cycle is due, the others are long past. -/
  waited : s.phase = .retry true ∨ s.phase = .due .scheduled →
    ∀ cycle ∈ s.scheduled, cycle.startedAt + deferredRetryInterval ≤ s.now

/-- A full check that is noted now is later than what was noted. -/
theorem Sound.fullNow {s : State} (sound : Sound s) {cycle : Cycle} (old : cycle ∈ s.scheduled) :
    cycle.startedAt + deferredRetryInterval ≤ s.now + fullCheckInterval := by
  obtain ⟨full, noted, spaced⟩ := sound.full cycle old
  have before := sound.fullPast full noted
  omega

/-- A cycle that started is younger than a day after a quarter of an hour. -/
theorem fresh_le {startedAt now : Nat} (before : startedAt ≤ now) :
    startedAt + deferredRetryInterval ≤ now + fullCheckInterval := by
  have shorter : deferredRetryInterval ≤ fullCheckInterval := by decide
  omega

/-- Where a full check is due, every cycle is long past. -/
theorem Sound.fullDue {s : State} (sound : Sound s)
    (due : s.lastFullCheck.all (elapsed s.now fullCheckInterval) = true) {cycle : Cycle}
    (old : cycle ∈ s.scheduled) : cycle.startedAt + deferredRetryInterval ≤ s.now := by
  obtain ⟨full, noted, spaced⟩ := sound.full cycle old
  have before := sound.fullPast full noted
  have day : fullCheckInterval ≤ s.now - full := by
    have known : s.lastFullCheck = some full := noted
    simpa [known, elapsed] using due
  have positive : 0 < fullCheckInterval := by decide
  omega

/-- Where a retry is due, so it is too. -/
theorem Sound.retryDue {s : State} (sound : Sound s) (going : s.phase ≠ .failed)
    (due : s.lastDeferredRetry.any (elapsed s.now deferredRetryInterval) = true) {cycle : Cycle}
    (old : cycle ∈ s.scheduled) : cycle.startedAt + deferredRetryInterval ≤ s.now := by
  cases noted : s.lastDeferredRetry with
  | none => simp [noted] at due
  | some retry =>
    have after := sound.retry going cycle old retry noted
    have before := sound.retryPast retry noted
    have quarter : deferredRetryInterval ≤ s.now - retry := by
      simpa [noted, elapsed] using due
    have positive : 0 < deferredRetryInterval := by decide
    omega

/-- A step that only goes on in the loop keeps the times. -/
theorem Sound.goOn {s : State} (sound : Sound s) (phase : Phase) (live : s.phase ≠ .exited)
    (going : s.phase ≠ .failed)
    (running : ∀ channel startedAt, phase = .cycle channel startedAt → startedAt ≤ s.now)
    (waited : phase = .retry true ∨ phase = .due .scheduled →
      ∀ cycle ∈ s.scheduled, cycle.startedAt + deferredRetryInterval ≤ s.now) :
    Sound { s with phase } := by
  refine { sound with applied := ?_, running := running, retry := ?_, waited := waited }
  · intro applied
    exact absurd (sound.applied applied) live
  · exact fun _ => sound.retry going

/-- An update that was applied ends the process. -/
theorem Sound.exit {s : State} (sound : Sound s) (going : s.phase ≠ .failed) :
    Sound { s with phase := .exited, applied := true } :=
  { sound with
    applied := fun _ => rfl
    running := nofun
    retry := fun _ => sound.retry going
    waited := nofun }

/-- A cycle only ends in a process that goes on. -/
theorem Sound.live {s : State} (sound : Sound s) {channel : Channel} {startedAt : Nat}
    (phase : s.phase = .cycle channel startedAt) : s.applied ≠ true := by
  intro applied
  rw [sound.applied applied] at phase
  cases phase

/-- The cycle that ended started in the past, as the others did. -/
theorem Sound.endedPast {s : State} (sound : Sound s) {startedAt : Nat}
    (began : startedAt ≤ s.now) (result : Option CycleResult) :
    ∀ cycle ∈ (⟨startedAt, result⟩ : Cycle) :: s.scheduled, cycle.startedAt ≤ s.now := by
  intro cycle inside
  rcases List.mem_cons.mp inside with rfl | old
  · exact began
  · exact sound.past cycle old

/-- A full check that is noted now is late enough for every cycle. -/
theorem Sound.endedFull {s : State} (sound : Sound s) {startedAt : Nat}
    (began : startedAt ≤ s.now) (result : Option CycleResult) :
    ∀ cycle ∈ (⟨startedAt, result⟩ : Cycle) :: s.scheduled, ∃ full ∈ some s.now,
      cycle.startedAt + deferredRetryInterval ≤ full + fullCheckInterval := by
  intro cycle inside
  refine ⟨s.now, rfl, ?_⟩
  rcases List.mem_cons.mp inside with rfl | old
  · exact fresh_le began
  · exact sound.fullNow old

/-- A time that is noted now is not ahead of the clock. -/
theorem noted_le {now : Nat} : ∀ time ∈ some now, time ≤ now := by
  rintro time ⟨⟩
  exact Nat.le_refl _

/-- The end of a manual cycle leaves the updater sound. -/
theorem Sound.afterManual {s : State} (sound : Sound s) {startedAt : Nat}
    (phase : s.phase = .cycle .manual startedAt) (result : Option CycleResult) :
    Sound (s.after startedAt .manual result) := by
  have live := sound.live phase
  have going : s.phase ≠ .failed := by
    rw [phase]
    exact nofun
  cases result with
  | none => exact sound.goOn .push (by rw [phase]; nofun) going nofun nofun
  | some result =>
    cases result with
    | applied => exact sound.exit going
    | alreadyLatest =>
      exact { sound with
        applied := fun applied => absurd applied live
        fullPast := noted_le
        running := nofun
        full := fun cycle old => ⟨s.now, rfl, sound.fullNow old⟩
        retry := fun _ => sound.retry going
        waited := nofun }
    | deferred =>
      refine { sound with
        applied := fun applied => absurd applied live
        retryPast := noted_le
        running := nofun
        retry := ?_
        waited := nofun }
      rintro - cycle old time ⟨⟩
      exact sound.past cycle old

/-- The end of a scheduled cycle leaves the updater sound, if a deferral is early enough. -/
theorem Sound.afterScheduled {s : State} (sound : Sound s) {startedAt : Nat}
    (phase : s.phase = .cycle .scheduled startedAt) (result : Option CycleResult)
    (early : result = some .deferred → ∃ full ∈ s.lastFullCheck,
      startedAt + deferredRetryInterval ≤ full + fullCheckInterval) :
    Sound (s.after startedAt .scheduled result) := by
  have began : startedAt ≤ s.now := sound.running .scheduled startedAt phase
  have live := sound.live phase
  cases result with
  | none =>
    exact {
      applied := fun applied => absurd applied live
      fullPast := noted_le
      retryPast := sound.retryPast
      past := sound.endedPast began none
      running := nofun
      full := sound.endedFull began none
      retry := fun other => absurd rfl other
      waited := nofun }
  | some result =>
    cases result with
    | applied =>
      refine sound.exit ?_
      rw [phase]
      exact nofun
    | alreadyLatest =>
      exact {
        applied := fun applied => absurd applied live
        fullPast := noted_le
        retryPast := nofun
        past := sound.endedPast began _
        running := nofun
        full := sound.endedFull began _
        retry := fun _ _ _ => nofun
        waited := nofun }
    | deferred =>
      refine {
        applied := fun applied => absurd applied live
        fullPast := sound.fullPast
        retryPast := noted_le
        past := sound.endedPast began _
        running := nofun
        full := ?_
        retry := ?_
        waited := nofun }
      · intro cycle inside
        rcases List.mem_cons.mp inside with rfl | old
        · exact early rfl
        · exact sound.full cycle old
      · rintro - cycle inside time ⟨⟩
        exact sound.endedPast began _ cycle inside

/-- The end of a cycle leaves the updater sound, if a deferral is early enough. -/
theorem Sound.after {s : State} (sound : Sound s) {channel : Channel} {startedAt : Nat}
    (phase : s.phase = .cycle channel startedAt) (result : Option CycleResult)
    (early : channel = .scheduled → result = some .deferred → ∃ full ∈ s.lastFullCheck,
      startedAt + deferredRetryInterval ≤ full + fullCheckInterval) :
    Sound (s.after startedAt channel result) := by
  have going : s.phase ≠ .failed := by
    rw [phase]
    exact nofun
  cases channel with
  | push =>
    cases result with
    | none => exact sound.goOn .full (by rw [phase]; nofun) going nofun nofun
    | some result =>
      cases result with
      | applied => exact sound.exit going
      | alreadyLatest => exact sound.goOn .full (by rw [phase]; nofun) going nofun nofun
      | deferred => exact sound.goOn .full (by rw [phase]; nofun) going nofun nofun
  | manual => exact sound.afterManual phase result
  | scheduled => exact sound.afterScheduled phase result (early rfl)

/-- Every step leaves the updater sound, if deferrals are early enough. -/
theorem Sound.step {s t : State} {e : Event} (sound : Sound s) (early : DefersEarly program s e)
    (next : Updater.step program s e = some t) : Sound t := by
  -- Outside the listed phases an event cannot happen.
  cases e with
  | pass milliseconds =>
    cases next
    have later : ∀ {n}, n ≤ s.now → n ≤ s.now + milliseconds := fun before => by omega
    exact { sound with
      fullPast := fun full noted => later (sound.fullPast full noted)
      retryPast := fun retry noted => later (sound.retryPast retry noted)
      past := fun cycle old => later (sound.past cycle old)
      running := fun channel startedAt phase => later (sound.running channel startedAt phase)
      waited := fun due cycle old => later (sound.waited due cycle old) }
  | wake =>
    simp only [Updater.step] at next
    split at next
    · rename_i wakeAt phase
      split at next
      · cases next
        exact sound.goOn .top (by rw [phase]; nofun) (by rw [phase]; nofun) nofun nofun
      · cases next
    · cases next
  | look flag =>
    simp only [Updater.step] at next
    split at next
    · rename_i phase
      cases next
      refine sound.goOn _ (by rw [phase]; nofun) (by rw [phase]; nofun) ?_ ?_
      · cases flag <;> nofun
      · cases flag <;> nofun
    · cases next
  | startCycle =>
    simp only [Updater.step] at next
    split at next
    · rename_i channel phase
      cases next
      refine sound.goOn _ (by rw [phase]; nofun) (by rw [phase]; nofun) ?_ nofun
      rintro _ startedAt ⟨⟩
      exact Nat.le_refl _
    · cases next
  | finish attempt =>
    simp only [Updater.step] at next
    split at next
    · rename_i channel startedAt phase
      cases next
      have stored : Sound { s with pending := (checkAndApplyOnce program attempt s.pending).2 } :=
        { sound with }
      refine stored.after phase _ ?_
      rintro rfl deferred
      exact early attempt startedAt rfl phase deferred
    · cases next
  | judgePush =>
    simp only [Updater.step] at next
    split at next
    · rename_i phase
      split at next
      · cases next
        have went := sound.goOn .fetching (by rw [phase]; nofun) (by rw [phase]; nofun) nofun nofun
        exact { went with }
      · cases next
        exact sound.goOn .full (by rw [phase]; nofun) (by rw [phase]; nofun) nofun nofun
    · cases next
  | fetched signal =>
    simp only [Updater.step] at next
    split at next
    · rename_i phase
      split at next
      · cases next
        exact sound.goOn .full (by rw [phase]; nofun) (by rw [phase]; nofun) nofun nofun
      · split at next
        · cases next
          have went := sound.goOn (.due .push) (by rw [phase]; nofun) (by rw [phase]; nofun)
            nofun (by rintro (other | other) <;> cases other)
          exact { went with }
        · cases next
          exact sound.goOn .full (by rw [phase]; nofun) (by rw [phase]; nofun) nofun nofun
    · cases next
  | judgeFull =>
    simp only [Updater.step] at next
    split at next
    · rename_i phase
      cases next
      refine sound.goOn _ (by rw [phase]; nofun) (by rw [phase]; nofun) nofun ?_
      rintro (due | other) cycle old
      · exact sound.fullDue (Phase.retry.inj due) old
      · cases other
    · cases next
  | judgeRetry =>
    simp only [Updater.step] at next
    split at next
    · rename_i needFull phase
      have going : s.phase ≠ .failed := by
        rw [phase]
        nofun
      split at next
      · rename_i due
        cases next
        refine sound.goOn _ (by rw [phase]; nofun) going nofun ?_
        intro _ cycle old
        cases needFull with
        | true => exact sound.waited (.inl phase) cycle old
        | false => exact sound.retryDue going due old
      · cases next
        exact sound.goOn _ (by rw [phase]; nofun) going nofun nofun
    · cases next
  | noteFailure =>
    simp only [Updater.step] at next
    split at next
    · rename_i phase
      cases next
      refine { sound with
        applied := ?_, retryPast := ?_, running := nofun, retry := ?_, waited := nofun }
      · intro applied
        rw [sound.applied applied] at phase
        cases phase
      · rintro retry ⟨⟩
        exact Nat.le_refl _
      · rintro - cycle old retry ⟨⟩
        exact sound.past cycle old
    · cases next

/-- In every run whose scheduled deferrals are early enough the cycles keep their pace. -/
theorem updater_paced (program : Program) :
    (updater program).Always (DefersEarly program) Paced := by
  refine Machine.Always.of_invariant Sound ?_ ?_ ?_
  · rintro s ⟨now, pending, rfl⟩
    exact ⟨nofun, nofun, nofun, nofun, nofun, nofun, fun _ => nofun, fun _ => nofun⟩
  · exact fun s e t sound early next => sound.step early next
  · rintro s e t sound - next rfl
    simp only [updater, step] at next
    split at next
    · rename_i channel phase
      refine ⟨?_, ?_⟩
      · cases applied : s.applied with
        | false => rfl
        | true =>
          rw [sound.applied applied] at phase
          cases phase
      · intro due cycle old
        have long := sound.waited (.inr due) cycle old
        refine ⟨fun early => ?_, fun _ => long⟩
        omega
    · cases next

/-- The program before its first update, with one installer. -/
def sampleProgram : Program where
  current := "1.4.0"
  digest _ := "95c9310f499f90175b59f91acce15476d0db415d2020e8eaac0ec5247fe3a8a2"

/-- A newer release while a remote session is active. -/
def deferredAttempt : Attempt where
  latest := some
    { version := "1.4.1", url := "https://example.com/setup.exe"
      sha256 := "95c9310f499f90175b59f91acce15476d0db415d2020e8eaac0ec5247fe3a8a2" }
  download := some [77, 90]
  alive := true
  spawned := true

/-- The first cycle after the start is deferred, and the loop comes around. -/
def firstDeferral : List Event :=
  [.pass firstCheckDelay, .wake, .look false, .judgePush, .fetched none, .judgeFull, .judgeRetry,
    .startCycle, .finish deferredAttempt, .pass tickInterval, .wake, .look false, .judgePush,
    .judgeFull, .judgeRetry]

/-- The updater then starts a scheduled cycle two seconds after one that was deferred, before any
full check. -/
theorem updater_hammers :
    ∃ s t, (updater sampleProgram).Reaches Machine.free s ∧
      step sampleProgram s .startCycle = some t ∧ ¬ Paced s .startCycle t ∧
      s.phase = .due .scheduled ∧ s.lastFullCheck = none ∧
      s.scheduled = [{ startedAt := firstCheckDelay, result := some .deferred }] ∧
      s.now = firstCheckDelay + tickInterval := by
  have reached : (updater sampleProgram).Reaches Machine.free
      ((updater sampleProgram).play Machine.free (boot 0 none) firstDeferral) :=
    ⟨boot 0 none, ⟨0, none, rfl⟩, Machine.runs_play _ _ _ _⟩
  have there : (updater sampleProgram).play Machine.free (boot 0 none) firstDeferral =
      { boot 0 (some [77, 90]) with
        phase := .due .scheduled
        now := firstCheckDelay + tickInterval
        lastDeferredRetry := some firstCheckDelay
        lastPushPoll := some firstCheckDelay
        scheduled := [{ startedAt := firstCheckDelay, result := some .deferred }] } := by
    decide +kernel
  rw [there] at reached
  refine ⟨_, _, reached, rfl, ?_, rfl, rfl, rfl, rfl⟩
  intro paced
  have early := ((paced rfl).2 rfl _ List.mem_cons_self).2 nofun
  exact absurd early (by decide)

end ChainRemote.Hq.Updater
