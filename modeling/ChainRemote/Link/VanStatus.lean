import ChainRemote.Agent.VanSafety
import ChainRemote.Panel.Heartbeat

/-!
# The status of the payment daemon on both sides

The agent reports `current_ok` with its heartbeats, and the panel keeps the report in the columns of
the customer row. A report may arrive after the panel changed what is watched, and the row takes it
only while something is watched. On the agent the last result of a probe outlives a change of the
kind, so the status is about the watched daemon where the kind is not changed after a probe that saw
an open port.
-/

namespace ChainRemote.Link.VanStatus

open Lib Panel Agent.VanWatch

/-- The tick of an entry whose probe told something. -/
def conclusive? : Entry → Option Tick
  | .changed => none
  | .ticked tick => if tick.probe.isSome then some tick else none

/-- The last conclusive probe since the last change of the kind. -/
def lastConclusive (s : State) : Option Tick := (sinceChange s.log).findSome? conclusive?

/-- A reported status is that of the last conclusive probe of the present kind, made since the last
change of the kind. -/
def Honest (s : State) : Prop :=
  ∀ ok, currentOk s.flags = some ok →
    ∃ tick, lastConclusive s = some tick ∧ tick.kind = s.flags.kind ∧ tick.opened = ok

/-- The kind is changed to another daemon only while the last conclusive probe saw a closed port. -/
def Cleared (s : State) : Event → Prop
  | .setKind kind =>
    (setKind kind s.flags).kind ≠ s.flags.kind → (setKind kind s.flags).kind ≠ "" →
      s.flags.lastOk = false
  | _ => True

instance (s : State) : (event : Event) → Decidable (Cleared s event)
  | .setKind _ => inferInstanceAs (Decidable (_ → _ → _))
  | .tick _ | .clearRestarted => isTrue trivial

/-- What the flags say about the last conclusive probe. -/
structure Told (s : State) : Prop where
  kinds : OfKind s
  probed : ∀ tick, lastConclusive s = some tick → s.flags.lastOk = tick.opened
  unprobed : lastConclusive s = none →
    (s.flags.lastOk = true → s.flags.kind = "") ∧ s.flags.everOk = false ∧
      s.flags.notInstalled = false

variable {s t : State}

/-- The flags give the status that the log has. -/
theorem Told.honest (told : Told s) : Honest s := by
  intro ok reported
  cases last : lastConclusive s with
  | none =>
    obtain ⟨stale, never, installed⟩ := told.unprobed last
    by_cases off : s.flags.kind = ""
    · simp [currentOk, off] at reported
    · have closed : s.flags.lastOk = false := by
        cases lastOk : s.flags.lastOk with
        | false => rfl
        | true => exact absurd (stale lastOk) off
      simp [currentOk, off, closed, never, installed] at reported
  | some tick =>
    have inside : .ticked tick ∈ sinceChange s.log := by
      obtain ⟨entry, old, isTick⟩ := List.exists_of_findSome?_eq_some last
      cases entry with
      | changed => cases isTick
      | ticked other =>
        simp only [conclusive?] at isTick
        split at isTick
        · obtain rfl := Option.some.inj isTick
          exact old
        · cases isTick
    refine ⟨tick, rfl, told.kinds tick inside, ?_⟩
    rw [← told.probed tick last]
    unfold currentOk at reported
    split at reported
    · cases reported
    · split at reported
      · rename_i lastOk
        exact lastOk.trans (Option.some.inj reported)
      · rename_i lastOk
        split at reported
        · cases reported
        · exact (by simpa using lastOk : s.flags.lastOk = false).trans (Option.some.inj reported)

/-- A conclusive tick sets the status. -/
theorem Told.conclusive (told : Told s) {flags : Flags} {now : Nat} {tick : Tick}
    (sameKind : flags.kind = s.flags.kind) (kind : tick.kind = s.flags.kind)
    (read : tick.probe.isSome = true) (status : flags.lastOk = tick.opened) :
    Told { flags := flags, now := now, log := .ticked tick :: s.log } := by
  have last : lastConclusive { flags := flags, now := now, log := .ticked tick :: s.log } =
      some tick := by
    simp [lastConclusive, sinceChange_ticked, conclusive?, read]
  refine ⟨told.kinds.ticked sameKind kind, ?_, ?_⟩
  · intro other same
    obtain rfl := Option.some.inj (last.symm.trans same)
    exact status
  · intro none
    cases last.symm.trans none

/-- A tick keeps what the flags say. -/
theorem Told.tick (told : Told s) {d : Daemon} {obs : Observation}
    (sameKind : d.kind = s.flags.kind) : Told (s.ticked d obs) := by
  unfold State.ticked
  generalize outcome : Agent.VanWatch.tick d obs s.flags = result
  have ticks : TickCase d obs s.flags result := outcome ▸ tickCase d obs s.flags
  cases ticks with
  | unknown unread =>
    exact ⟨told.kinds.ticked rfl sameKind, told.probed, told.unprobed⟩
  | healthy path established opened => exact told.conclusive rfl sameKind rfl rfl
  | busy established closed => exact told.conclusive rfl sameKind rfl rfl
  | resting verdict closed rests => exact told.conclusive rfl sameKind rfl rfl
  | waiting closed never => exact told.conclusive rfl sameKind rfl rfl
  | counted closed trying awake first => exact told.conclusive rfl sameKind rfl rfl
  | recovered closed trying awake gone again after done recovers =>
    cases recovers <;> exact told.conclusive rfl sameKind rfl rfl

/-- After a change of the kind the flags say nothing about a probe. -/
theorem Told.changed {flags : Flags} (now : Nat) (log : List Entry)
    (stale : flags.lastOk = true → flags.kind = "") (never : flags.everOk = false)
    (installed : flags.notInstalled = false) :
    Told { flags := flags, now := now, log := .changed :: log } := by
  have nothing : sinceChange (.changed :: log) = [] := rfl
  refine ⟨?_, ?_, fun _ => ⟨stale, never, installed⟩⟩
  · intro tick inside
    rw [nothing] at inside
    cases inside
  · intro tick last
    rw [lastConclusive, nothing] at last
    cases last

/-- Every step of a cleared run keeps what the flags say. -/
theorem Told.step (told : Told s) {event : Event} (cleared : Cleared s event)
    (next : van.step s event = some t) : Told t := by
  obtain ⟨kind, rfl, rfl⟩ | ⟨obs, d, rfl, current, _, _, rfl⟩ | ⟨rfl, rfl⟩ := step_cases next
  · obtain same | ⟨changed, other, same⟩ := kindSet_cases s kind
    · rw [same]
      exact told
    · have flags : (s.kindSet kind).flags = setKind kind s.flags := by rw [State.kindSet]
      have newKind : (setKind kind s.flags).kind = changed := by rw [← flags, same]
      rw [same]
      refine Told.changed s.now s.log (fun stale => ?_) rfl rfl
      by_cases off : changed = ""
      · exact off
      · have differs : (setKind kind s.flags).kind ≠ s.flags.kind := by
          rw [newKind]
          exact other
        have named : (setKind kind s.flags).kind ≠ "" := by
          rw [newKind]
          exact off
        have closed : s.flags.lastOk = false := cleared differs named
        exact absurd (closed.symm.trans stale) (by decide)
  · exact told.tick (kind_of_currentDaemon current).1
  · exact ⟨told.kinds, told.probed, told.unprobed⟩

/-- In every cleared run of the watchdog the status is honest. -/
theorem honest_of_reaches (reached : van.Reaches Cleared s) : Honest s := by
  have told : Told s := by
    apply reached.invariant Told
    · intro start started
      have flags := started.1
      have log := started.2
      refine ⟨?_, ?_, ?_⟩
      · simp [OfKind, log, sinceChange]
      · simp [lastConclusive, log, sinceChange]
      · intro _
        rw [flags]
        refine ⟨?_, rfl, rfl⟩
        intro quiet
        cases quiet
    · intro before event after kept admitted next
      exact kept.step admitted next
  exact told.honest

/-- What `setVanWatch` sets. -/
def watchSet (kind : String) (row : Customer) : Customer :=
  { row with
    vanWatch := if jsTrim kind = "" then none else some (jsTrim kind)
    vanOk := none
    vanGaveUp := false
    vanMissing := false
    vanRestartCount := 0
    vanLastRestartAt := none
    vanRecoveredCount := 0
    vanUnrecoveredCount := 0 }

/-- `setVanWatch`: whether a row was selected, and the rows. -/
def setVanWatch (remoteId kind : String) (tenantId : Nat) (rows : List Customer) :
    Bool × List Customer :=
  let here := fun row : Customer => row.remoteId == some remoteId && row.tenantId == tenantId
  (rows.any here, updateWhere here (watchSet kind) rows)

/-- What the panel does with the columns. -/
inductive Op
  | recordHeartbeat (now : Nat) (remoteId token : String) (beat : Beat)
  | setVanWatch (remoteId kind : String) (tenantId : Nat)

/-- The columns of a row are the defaults. -/
structure Unwatched (row : Customer) : Prop where
  watch : row.vanWatch = none
  ok : row.vanOk = none
  gaveUp : row.vanGaveUp = false
  missing : row.vanMissing = false
  recovered : row.vanRecoveredCount = 0
  unrecovered : row.vanUnrecoveredCount = 0

/-- The table of customers, from rows that were never watched. -/
def customers (hash : String → String) : Machine (List Customer) Op where
  start rows := ∀ row ∈ rows, Unwatched row
  step rows
    | .recordHeartbeat now remoteId token beat =>
      some (recordHeartbeat hash now remoteId token beat rows).2
    | .setVanWatch remoteId kind tenantId => some (setVanWatch remoteId kind tenantId rows).2

/-- A row that is not watched has no status, and no more launches were judged than there were. -/
structure Recorded (row : Customer) : Prop where
  unwatched : row.vanWatch = none →
    row.vanOk = none ∧ row.vanGaveUp = false ∧ row.vanMissing = false
  judged : row.vanRecoveredCount + row.vanUnrecoveredCount ≤ row.vanRestartCount

/-- The status columns after a heartbeat are those of `vanSet`. -/
theorem beatSet_van (now : Nat) (beat : Beat) (row : Customer) :
    (beatSet now beat row).vanWatch = row.vanWatch ∧
      (beatSet now beat row).vanOk = (vanSet now beat.extras row).vanOk ∧
      (beatSet now beat row).vanGaveUp = (vanSet now beat.extras row).vanGaveUp ∧
      (beatSet now beat row).vanMissing = (vanSet now beat.extras row).vanMissing ∧
      (beatSet now beat row).vanRestartCount = (vanSet now beat.extras row).vanRestartCount ∧
      (beatSet now beat row).vanRecoveredCount = (vanSet now beat.extras row).vanRecoveredCount ∧
      (beatSet now beat row).vanUnrecoveredCount =
        (vanSet now beat.extras row).vanUnrecoveredCount := by
  simp only [beatSet, schedSet, networkSet, vanSet, firewallSet, cleanupSet, diskSet, platformSet,
    and_self]

/-- A report leaves a row that is not watched without a status, and counts one judgement at most
for each launch. -/
theorem recorded_vanSet {now : Nat} {extras : HeartbeatExtras} {row : Customer}
    (recorded : Recorded row) : Recorded (vanSet now extras row) := by
  constructor
  · intro watch
    have off : row.vanWatch = none := watch
    obtain ⟨ok, gaveUp, missing⟩ := recorded.unwatched off
    simp only [vanSet, off, Option.isSome_none, Bool.false_eq_true, if_false, Bool.false_and]
    refine ⟨?_, ?_, ?_⟩
    · split <;> first | rfl | exact ok
    · split
      · rfl
      · split
        · rfl
        · exact gaveUp
    · split
      · rfl
      · exact missing
  · have judged := recorded.judged
    simp only [vanSet]
    by_cases counted : (extras.vanRestarted && row.vanWatch.isSome) = true
    · rw [if_pos counted]
      by_cases good : extras.vanOk = some (some true)
      · have notBad : extras.vanOk ≠ some (some false) := by simp [good]
        rw [if_pos ⟨counted, good⟩, if_neg fun both => notBad both.2]
        omega
      · rw [if_neg fun both => good both.2]
        split <;> omega
    · rw [if_neg counted, if_neg fun both => counted both.1, if_neg fun both => counted both.1]
      exact judged

theorem recorded_beatSet {now : Nat} {beat : Beat} {row : Customer} (recorded : Recorded row) :
    Recorded (beatSet now beat row) := by
  obtain ⟨watch, ok, gaveUp, missing, restarts, recovered, unrecovered⟩ := beatSet_van now beat row
  have kept : Recorded (vanSet now beat.extras row) := recorded_vanSet recorded
  constructor
  · intro off
    rw [ok, gaveUp, missing]
    exact kept.unwatched (watch.symm.trans off)
  · rw [restarts, recovered, unrecovered]
    exact kept.judged

theorem recorded_watchSet {kind : String} {row : Customer} : Recorded (watchSet kind row) := by
  constructor
  · intro _
    simp only [watchSet, and_self]
  · simp only [watchSet, Nat.add_zero, Nat.le_refl]

/-- Every run of the panel keeps the columns in order. -/
theorem recorded_of_reaches {hash : String → String} {rows : List Customer}
    (reached : (customers hash).Reaches Machine.free rows) : ∀ row ∈ rows, Recorded row := by
  apply reached.invariant fun rows => ∀ row ∈ rows, Recorded row
  · intro start started row inside
    have defaults := started row inside
    refine ⟨fun _ => ⟨defaults.ok, defaults.gaveUp, defaults.missing⟩, ?_⟩
    rw [defaults.recovered, defaults.unrecovered]
    exact Nat.zero_le _
  · intro before op after kept _ next row inside
    cases op with
    | recordHeartbeat now remoteId token beat =>
      obtain rfl := Option.some.inj next
      obtain ⟨old, stood, rfl⟩ := List.mem_map.mp inside
      split
      · exact recorded_beatSet (kept old stood)
      · exact kept old stood
    | setVanWatch remoteId kind tenantId =>
      obtain rfl := Option.some.inj next
      obtain ⟨old, _, _, rfl⟩ | ⟨stood, _⟩ := mem_updateWhere.mp inside
      · exact recorded_watchSet
      · exact kept row stood

/-- In every cleared run of the agent its status is about the watched daemon, and in every run of
the panel the columns of every row are in order. -/
theorem van_status_told (hash : String → String) (s : State) (rows : List Customer)
    (agent : van.Reaches Cleared s) (panel : (customers hash).Reaches Machine.free rows) :
    Honest s ∧ ∀ row ∈ rows, Recorded row :=
  ⟨honest_of_reaches agent, recorded_of_reaches panel⟩

/-- A tick that saw the port open. -/
def healthy : Observation := { now := 0, probe := some ⟨true, 0⟩ }

/-- A watched row takes the report of a launch that helped. -/
theorem reported_told :
    let s := van.play Cleared armed [.tick healthy]
    let rows := (customers id).play Machine.free
      [{ id := 0, tenantId := 1, name := "cafe", remoteId := some "100",
         heartbeatToken := some "t" }]
      [.setVanWatch "100" "ksnet" 1, .recordHeartbeat 5 "100" "t"
        { extras := { vanOk := some (some true), vanRestarted := true } }]
    currentOk s.flags = some true ∧ rows.map Customer.vanOk = [some true] ∧
      rows.map Customer.vanRecoveredCount = [1] ∧ Honest s ∧ ∀ row ∈ rows, Recorded row := by
  refine ⟨by decide +kernel, by decide +kernel, by decide +kernel, ?_⟩
  apply van_status_told id
  · exact ⟨armed, ⟨rfl, rfl⟩, van.runs_play Cleared armed _⟩
  · refine ⟨_, ?_, (customers id).runs_play Machine.free _ _⟩
    intro row inside
    obtain rfl := List.mem_singleton.mp inside
    exact ⟨rfl, rfl, rfl, rfl, rfl, rfl⟩

/-- The panel switches the watch off and on again. -/
def offAndOn : State :=
  van.play Machine.free armed [.tick healthy, .setKind "", .setKind "ksnet"]

/-- The agent reports a working daemon that it has not probed since. -/
theorem status_stale : van.Reaches Machine.free offAndOn ∧ ¬ Honest offAndOn := by
  refine ⟨⟨armed, ⟨rfl, rfl⟩, van.runs_play Machine.free armed _⟩, ?_⟩
  intro honest
  obtain ⟨tick, last, _⟩ := honest true (by decide +kernel)
  have none : lastConclusive offAndOn = none := by decide +kernel
  cases last.symm.trans none

end ChainRemote.Link.VanStatus
