import Mathlib.Logic.Function.Basic
import ChainRemote.Lib.Machine

/-!
# Launches of the portable program

Each launch first removes the folders that earlier ones have left, and then unpacks the program into
a folder of its own. The only sign of life of a folder is the time of its last change, which a
change inside a file or in a folder below does not touch. So a session of more than an hour can lose
its folder to another launch, and is safe as long as something is created or removed in it every
hour.
-/

namespace ChainRemote.Installer.PortableLaunches

open Lib

/-- `ORPHAN_AGE_SECS`. -/
def orphanAgeSecs : Nat := 60 * 60

/-- Where a process is in `main`. -/
inductive Phase
  /-- `cleanup_orphans`: when it began, and the folder it looks at with its time. -/
  | cleaning (now : Nat) (entry : Option (Nat × Nat))
  /-- From `extract` to the end of the inner program. -/
  | running
  /-- The process is gone. -/
  | gone
deriving DecidableEq, Repr

/-- The clock in nanoseconds, the processes, and the time of the folder of each process, as long as
it is there. The name of a folder has the time and the number of its process in it. -/
structure State where
  clock : Nat
  process : Nat → Option Phase
  folder : Nat → Option Nat

/-- What can happen. Removing a folder may fail and leave it with some time. -/
inductive Event
  | tick (elapsed : Nat)
  | launch (pid : Nat)
  /-- The next entry of the directory, with its metadata. -/
  | look (pid folder : Nat)
  /-- The entry is removed if it is old. -/
  | clean (pid : Nat) (left : Option Nat)
  | extract (pid : Nat)
  /-- An entry is created or removed directly inside a folder. -/
  | touch (folder : Nat)
  /-- The process ends, and removes its folder. -/
  | exit (pid : Nat) (left : Option Nat)
  | crash (pid : Nat)
deriving DecidableEq, Repr

/-- The age of a folder in seconds; a time in the future counts as now. -/
def age (now mtime : Nat) : Nat := (now - mtime) / 1000000000

namespace State

variable (s : State)

/-- A process has not ended. -/
def Running (pid : Nat) : Prop := ∃ phase, s.process pid = some phase ∧ phase ≠ .gone

/-- `remove_dir_all` of a folder. -/
def removeDirAll (folder : Nat) (left : Option Nat) : State :=
  match s.folder folder with
  | none => s
  | some _ => { s with folder := Function.update s.folder folder left }

/-- A process goes on to another phase. -/
def enter (pid : Nat) (phase : Phase) : State :=
  { s with process := Function.update s.process pid (some phase) }

end State

/-- The state after an event; none where it cannot happen. -/
def step (s : State) : Event → Option State
  | .tick elapsed => some { s with clock := s.clock + elapsed }
  | .launch pid =>
    match s.process pid with
    | none => some (s.enter pid (.cleaning s.clock none))
    | some _ => none
  | .look pid folder =>
    match s.process pid, s.folder folder with
    | some (.cleaning now none), some mtime =>
      some (s.enter pid (.cleaning now (some (folder, mtime))))
    | _, _ => none
  | .clean pid left =>
    match s.process pid with
    | some (.cleaning now (some (folder, mtime))) =>
      let s := s.enter pid (.cleaning now none)
      some (if age now mtime ≥ orphanAgeSecs then s.removeDirAll folder left else s)
    | _ => none
  | .extract pid =>
    match s.process pid with
    | some (.cleaning _ none) =>
      some { s.enter pid .running with folder := Function.update s.folder pid (some s.clock) }
    | _ => none
  | .touch folder =>
    match s.folder folder with
    | some _ => some { s with folder := Function.update s.folder folder (some s.clock) }
    | none => none
  | .exit pid left =>
    match s.process pid with
    | some .running => some ((s.enter pid .gone).removeDirAll pid left)
    | _ => none
  | .crash pid =>
    match s.process pid with
    | some .running => some (s.enter pid .gone)
    | some (.cleaning _ _) => some (s.enter pid .gone)
    | _ => none

/-- Launches of the portable program, from no process on. -/
def launches : Machine State Event where
  start s := ∀ pid, s.process pid = none ∧ s.folder pid = none
  step := step

/-- A folder that is looked at while its process runs was changed less than an hour before the
cleaning began. -/
def Fresh (s : State) : Event → Prop
  | .look pid folder => ∀ now mtime, s.process pid = some (.cleaning now none) →
      s.folder folder = some mtime → s.Running folder → age now mtime < orphanAgeSecs
  | _ => True

/-- A folder that is removed for its age belongs to a process that has ended. -/
def Spares (s : State) (e : Event) (_ : State) : Prop :=
  match e with
  | .clean pid _ => ∀ now folder mtime,
      s.process pid = some (.cleaning now (some (folder, mtime))) →
      age now mtime ≥ orphanAgeSecs → ¬ s.Running folder
  | _ => True

/-- Folders belong to processes that were launched, and an old folder that is looked at to one that
has ended. -/
structure Safe (s : State) : Prop where
  launched : ∀ folder mtime, s.folder folder = some mtime → s.process folder ≠ none
  known : ∀ pid now folder mtime, s.process pid = some (.cleaning now (some (folder, mtime))) →
    s.process folder ≠ none
  spared : ∀ pid now folder mtime, s.process pid = some (.cleaning now (some (folder, mtime))) →
    age now mtime ≥ orphanAgeSecs → ¬ s.Running folder

/-- What an event does to a process. -/
inductive Moves (s : State) (e : Event) (pid : Nat) : Option Phase → Option Phase → Prop
  | stays (phase : Option Phase) : Moves s e pid phase phase
  | launched : Moves s e pid none (some (.cleaning s.clock none))
  | looks (now folder mtime : Nat) (event : e = .look pid folder)
      (there : s.folder folder = some mtime) :
      Moves s e pid (some (.cleaning now none)) (some (.cleaning now (some (folder, mtime))))
  | cleans (now : Nat) (entry : Nat × Nat) :
      Moves s e pid (some (.cleaning now (some entry))) (some (.cleaning now none))
  | extracts (now : Nat) : Moves s e pid (some (.cleaning now none)) (some .running)
  | ends (phase : Phase) (runs : phase ≠ .gone) : Moves s e pid (some phase) (some .gone)

section Steps

variable {s t : State} {e : Event}

theorem process_enter (s : State) (pid other : Nat) (phase : Phase) :
    (s.enter pid phase).process other =
      if other = pid then some phase else s.process other := by
  unfold State.enter
  exact Function.update_apply _ _ _ _

theorem process_removeDirAll (s : State) (folder : Nat) (left : Option Nat) :
    (s.removeDirAll folder left).process = s.process := by
  unfold State.removeDirAll
  split
  · rfl
  · rfl

/-- A process that is moved alone. -/
theorem moves_enter {pid : Nat} {phase : Phase}
    (moves : Moves s e pid (s.process pid) (some phase)) (other : Nat) :
    Moves s e other (s.process other) ((s.enter pid phase).process other) := by
  rw [process_enter]
  by_cases own : other = pid
  · rw [if_pos own, own]
    exact moves
  · rw [if_neg own]
    exact .stays _

theorem step_moves (next : step s e = some t) (pid : Nat) :
    Moves s e pid (s.process pid) (t.process pid) := by
  cases e with
  | tick elapsed =>
    obtain rfl := Option.some.inj next
    exact .stays _
  | launch launched =>
    rw [step] at next
    split at next
    · rename_i unknown
      obtain rfl := Option.some.inj next
      exact moves_enter (by rw [unknown]; exact .launched) pid
    · cases next
  | look looking folder =>
    rw [step] at next
    split at next
    · rename_i now mtime cleaning there
      obtain rfl := Option.some.inj next
      exact moves_enter (by rw [cleaning]; exact .looks now folder mtime rfl there) pid
    · cases next
  | clean cleaning left =>
    rw [step] at next
    split at next
    · rename_i now folder mtime entry
      have moves := @moves_enter s (.clean cleaning left) cleaning (.cleaning now none)
        (by rw [entry]; exact .cleans now (folder, mtime)) pid
      obtain rfl := Option.some.inj next
      split
      · rwa [process_removeDirAll]
      · exact moves
    · cases next
  | extract extracting =>
    rw [step] at next
    split at next
    · rename_i now cleaned
      obtain rfl := Option.some.inj next
      exact moves_enter (by rw [cleaned]; exact .extracts now) pid
    · cases next
  | touch folder =>
    rw [step] at next
    split at next
    · obtain rfl := Option.some.inj next
      exact .stays _
    · cases next
  | exit exiting left =>
    rw [step] at next
    split at next
    · rename_i running
      obtain rfl := Option.some.inj next
      rw [process_removeDirAll]
      exact moves_enter (by rw [running]; exact .ends _ (by decide)) pid
    · cases next
  | crash crashing =>
    rw [step] at next
    split at next
    · rename_i running
      obtain rfl := Option.some.inj next
      exact moves_enter (by rw [running]; exact .ends _ (by decide)) pid
    · rename_i now entry cleaning
      obtain rfl := Option.some.inj next
      exact moves_enter (by rw [cleaning]; exact .ends _ (by simp)) pid
    · cases next

theorem folder_removeDirAll {folder other mtime : Nat} {left : Option Nat}
    (there : (s.removeDirAll folder left).folder other = some mtime) : s.folder other ≠ none := by
  unfold State.removeDirAll at there
  split at there
  · rw [there]
    exact Option.some_ne_none _
  · rename_i known
    dsimp only at there
    rw [Function.update_apply] at there
    split at there
    · rename_i own
      rw [own, known]
      exact Option.some_ne_none _
    · rw [there]
      exact Option.some_ne_none _

/-- A folder was there before, or belongs to a process that is there. -/
theorem step_folder (next : step s e = some t) {folder mtime : Nat}
    (there : t.folder folder = some mtime) :
    s.folder folder ≠ none ∨ t.process folder ≠ none := by
  have kept : s.folder folder = some mtime → s.folder folder ≠ none := fun same => by simp [same]
  cases e with
  | tick elapsed =>
    obtain rfl := Option.some.inj next
    exact .inl (kept there)
  | launch launched =>
    rw [step] at next
    split at next
    · obtain rfl := Option.some.inj next
      exact .inl (kept there)
    · cases next
  | look looking other =>
    rw [step] at next
    split at next
    · obtain rfl := Option.some.inj next
      exact .inl (kept there)
    · cases next
  | clean cleaning left =>
    rw [step] at next
    split at next
    · obtain rfl := Option.some.inj next
      split at there
      · exact .inl (folder_removeDirAll (s := s.enter cleaning _) there)
      · exact .inl (kept there)
    · cases next
  | extract extracting =>
    rw [step] at next
    split at next
    · obtain rfl := Option.some.inj next
      dsimp only at there ⊢
      rw [Function.update_apply] at there
      split at there
      · rename_i own
        right
        rw [own, process_enter, if_pos rfl]
        exact Option.some_ne_none _
      · exact .inl (kept there)
    · cases next
  | touch other =>
    rw [step] at next
    split at next
    · rename_i known
      obtain rfl := Option.some.inj next
      dsimp only at there
      rw [Function.update_apply] at there
      split at there
      · rename_i own
        left
        rw [own, known]
        exact Option.some_ne_none _
      · exact .inl (kept there)
    · cases next
  | exit exiting left =>
    rw [step] at next
    split at next
    · obtain rfl := Option.some.inj next
      exact .inl (folder_removeDirAll (s := s.enter exiting .gone) there)
    · cases next
  | crash crashing =>
    rw [step] at next
    split at next
    · obtain rfl := Option.some.inj next
      exact .inl (kept there)
    · obtain rfl := Option.some.inj next
      exact .inl (kept there)
    · cases next

/-- A process that was launched stays known. -/
theorem process_known (next : step s e = some t) {pid : Nat} (known : s.process pid ≠ none) :
    t.process pid ≠ none := by
  have moves := step_moves next pid
  generalize s.process pid = before at moves known
  generalize t.process pid = after at moves
  cases moves with
  | stays => exact known
  | launched => exact absurd rfl known
  | looks now folder mtime event there => exact Option.some_ne_none _
  | cleans now entry => exact Option.some_ne_none _
  | extracts now => exact Option.some_ne_none _
  | ends phase runs => exact Option.some_ne_none _

/-- A process that runs ran before, or is launched. -/
theorem running_before (next : step s e = some t) {pid : Nat} (runs : t.Running pid) :
    s.Running pid ∨ s.process pid = none := by
  obtain ⟨phase, now, alive⟩ := runs
  have moves := step_moves next pid
  rw [now] at moves
  unfold State.Running
  generalize s.process pid = before at moves
  cases moves with
  | stays => exact .inl ⟨phase, rfl, alive⟩
  | launched => exact .inr rfl
  | looks now folder mtime event there => exact .inl ⟨_, rfl, by simp⟩
  | cleans now entry => exact .inl ⟨_, rfl, by simp⟩
  | extracts now => exact .inl ⟨_, rfl, by simp⟩
  | ends phase runs => exact absurd rfl alive

theorem Safe.step (safe : Safe s) (fresh : Fresh s e) (next : step s e = some t) : Safe t where
  launched := by
    intro folder mtime there
    rcases step_folder next there with before | known
    · obtain ⟨earlier, was⟩ := Option.ne_none_iff_exists'.mp before
      exact process_known next (safe.launched folder earlier was)
    · exact known
  known := by
    intro pid now folder mtime entry
    have moves := step_moves next pid
    rw [entry] at moves
    generalize before : s.process pid = phase at moves
    cases moves with
    | stays => exact process_known next (safe.known pid now folder mtime before)
    | looks now folder mtime event there =>
      exact process_known next (safe.launched folder mtime there)
  spared := by
    intro pid now folder mtime entry old runs
    have moves := step_moves next pid
    rw [entry] at moves
    generalize before : s.process pid = phase at moves
    cases moves with
    | stays =>
      rcases running_before next runs with ran | unknown
      · exact safe.spared pid now folder mtime before old ran
      · exact safe.known pid now folder mtime before unknown
    | looks now folder mtime event there =>
      subst event
      rcases running_before next runs with ran | unknown
      · exact absurd (fresh now mtime before there ran) (Nat.not_lt.mpr old)
      · exact safe.launched folder mtime there unknown

end Steps

/-- Where each folder of a running process that is looked at was changed within the last hour, only
folders of processes that have ended are removed for their age. -/
theorem cleanup_spares {s t : State} {e : Event} (reached : launches.Reaches Fresh s)
    (fresh : Fresh s e) (next : launches.step s e = some t) : Spares s e t := by
  have spared : launches.Always Fresh Spares := by
    refine Machine.Always.of_invariant Safe ?_ ?_ ?_
    · intro s empty
      refine ⟨?_, ?_, ?_⟩
      · intro folder mtime there
        rw [(empty folder).2] at there
        cases there
      · intro pid now folder mtime entry
        rw [(empty pid).1] at entry
        cases entry
      · intro pid now folder mtime entry
        rw [(empty pid).1] at entry
        cases entry
    · intro s e t safe fresh next
      exact safe.step fresh next
    · intro s e t safe _ _
      cases e with
      | clean pid left =>
        intro now folder mtime entry old
        exact safe.spared pid now folder mtime entry old
      | _ => trivial
  exact spared s e t reached fresh next

/-- No process. -/
def nothing : State where
  clock := 0
  process _ := none
  folder _ := none

/-- The folder of a program that has crashed is removed an hour later. -/
theorem crashed_folder_removed :
    ∃ s t, launches.Reaches Fresh s ∧ launches.step s (.clean 2 none) = some t ∧
      s.folder 1 = some 0 ∧ t.folder 1 = none ∧ Spares s (.clean 2 none) t := by
  have launched : launches.Runs Fresh nothing _ := .step (.launch 1) .refl trivial rfl
  have extracted : launches.Runs Fresh nothing _ := .step (.extract 1) launched trivial rfl
  have crashed : launches.Runs Fresh nothing _ := .step (.crash 1) extracted trivial rfl
  have waited : launches.Runs Fresh nothing _ := .step (.tick 3600000000000) crashed trivial rfl
  have again : launches.Runs Fresh nothing _ := .step (.launch 2) waited trivial rfl
  have run : launches.Runs Fresh nothing _ := .step (.look 2 1) again (by
    rintro now mtime - - ⟨phase, known, alive⟩
    exact absurd (Option.some.inj known).symm alive) rfl
  have reached := show launches.Reaches Fresh _ from ⟨nothing, fun _ => ⟨rfl, rfl⟩, run⟩
  exact ⟨_, _, reached, rfl, rfl, rfl, cleanup_spares reached trivial rfl⟩

/-- A program that has run for an hour, and another launch that looks at its folder. -/
def anHourLater : List Event :=
  [.launch 1, .extract 1, .tick 3600000000000, .launch 2, .look 2 1]

/-- Its folder is removed while it runs. -/
theorem running_folder_removed :
    ∃ s t, launches.Reaches Machine.free s ∧ launches.step s (.clean 2 none) = some t ∧
      s.folder 1 = some 0 ∧ s.Running 1 ∧ t.folder 1 = none ∧ ¬ Spares s (.clean 2 none) t := by
  have run := Machine.runs_play launches Machine.free nothing anHourLater
  refine ⟨_, _, ⟨nothing, fun _ => ⟨rfl, rfl⟩, run⟩, rfl, rfl, ⟨.running, rfl, by decide⟩, rfl, ?_⟩
  intro spares
  exact spares 3600000000000 1 0 rfl (by decide) ⟨.running, rfl, by decide⟩

end ChainRemote.Installer.PortableLaunches
