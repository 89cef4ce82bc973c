import ChainRemote.Lib.Checks
import ChainRemote.Lib.Machine
import Mathlib.Tactic.ByContra

/-!
# Virtual displays

The driver of the virtual displays is shared with other programs, and its displays are alike. The
process counts the displays it plugged in, up to four, and starts to count again when it restarts;
how many displays it plugs out is decided from this count and from the number of all displays.

`own` is history: the displays that the process plugged in and has not plugged out.
-/

namespace ChainRemote.Server.VirtualDisplays

open Lib

/-- `VIRTUAL_DISPLAY_MAX_COUNT`. -/
def virtualDisplayMaxCount : Nat := 4

/-- `IDD_PLUG_OUT_ALL_INDEX`. -/
def iddPlugOutAllIndex : Int := -1

/-- The time between two calls of `plug_in_headless`, in nanoseconds. -/
def headlessInterval : Nat := 3000000000

/-- The displays of a machine and what the process knows of them. -/
structure State where
  physical : Nat
  /-- The displays of the Amyuni driver. -/
  amyuni : Nat
  /-- `VIRTUAL_DISPLAY_COUNT`. -/
  count : Nat := 0
  /-- `LAST_PLUG_IN_HEADLESS_TIME`. -/
  lastPlugInHeadless : Option Nat := none
  own : Nat := 0
deriving DecidableEq, Repr

namespace State

variable (s : State)

/-- `get_device_names(None).len()`. -/
def all : Nat := s.physical + s.amyuni

/-- `plug_monitor_` to plug in; `command` is whether the driver carries it out. -/
def plugIn (command : Bool) : State :=
  if command then
    { s with
      amyuni := s.amyuni + 1
      count := if s.count < virtualDisplayMaxCount then s.count + 1 else s.count
      own := s.own + 1 }
  else s

/-- `plug_monitor_` to plug out; without a display of the driver the command fails. -/
def plugOut (command : Bool) : State :=
  if command ∧ 0 < s.amyuni then
    { s with
      amyuni := s.amyuni - 1
      count := if s.count > 0 then s.count - 1 else s.count
      own := s.own - 1 }
  else s

/-- `plug_in_monitor_`: of its attempts only the last can change something, and `command` is its
outcome. -/
def plugInMonitor_ (command : Except String Unit) : Except String Unit × State :=
  (command, s.plugIn command.isOk)

/-- `plug_in_headless`; `installed` is the outcome of `check_install_driver`. -/
def plugInHeadless (now : Nat) (installed : Bool) (command : Except String Unit) :
    Except String Unit × State :=
  if s.lastPlugInHeadless.any fun tm => now - tm < headlessInterval then
    (.error "Plugging in too frequently.", s)
  else
    let s := { s with lastPlugInHeadless := some now }
    if installed then s.plugInMonitor_ command
    else (.error "Failed to install driver.", s)

/-- `plug_in_monitor`. -/
def plugInMonitor (installed : Bool) (command : Except String Unit) :
    Except String Unit × State :=
  if !installed then (.error "Failed to install driver.", s)
  else if s.amyuni = virtualDisplayMaxCount then
    (.error "There are already 4 monitors plugged in.", s)
  else s.plugInMonitor_ command

/-- The first decision of `plug_out_monitor`: `plug_in_count`. -/
def plugInCount (plugOutAll forceOne : Bool) : Except String Nat :=
  if !plugOutAll ∧ s.count = 0 ∧ s.amyuni > 0 then
    if forceOne then .ok 1
    else .error "The virtual display is managed by other processes."
  else .ok s.count

/-- The second decision of `plug_out_monitor`: how many displays would be plugged out. -/
def plugOutCount (forceAll : Bool) (plugInCount : Nat) : Except String Nat :=
  match s.all with
  | 0 => .ok 0
  | 1 =>
    if plugInCount = 0 then .error "No virtual displays to plug out."
    else if forceAll then .ok 1
    else .error "This only virtual display cannot be plugged out."
  | allCount =>
    .ok (if allCount = plugInCount then if forceAll then allCount else allCount - 1
      else plugInCount)

/-- `to_plug_out_count`. -/
def toPlugOutCount (index : Int) (forceAll forceOne : Bool) : Except String Nat := do
  let plugOutAll : Bool := index = iddPlugOutAllIndex
  let plugInCount ← s.plugInCount plugOutAll forceOne
  let toPlugOutCount ← s.plugOutCount forceAll plugInCount
  return if toPlugOutCount ≠ 0 ∧ !plugOutAll then 1 else toPlugOutCount

/-- The loop of `plug_out_monitor`. -/
def plugOutTimes (commands : Nat → Bool) : Nat → State
  | 0 => s
  | times + 1 => (plugOutTimes commands times).plugOut (commands times)

/-- `plug_out_monitor`. -/
def plugOutMonitor (index : Int) (forceAll forceOne : Bool) (commands : Nat → Bool) :
    Except String Unit × State :=
  match s.toPlugOutCount index forceAll forceOne with
  | .error e => (.error e, s)
  | .ok times => (.ok (), s.plugOutTimes commands times)

/-- `plug_out_monitor_indices`; the indices themselves are not used. -/
def plugOutMonitorIndices (s : State) (forceAll forceOne : Bool) (commands : Nat → Nat → Bool) :
    List UInt32 → Except String Unit × State
  | [] => (.ok (), s)
  | _ :: indices =>
    match s.plugOutMonitor 0 forceAll forceOne (commands indices.length) with
    | (.error e, s) => (.error e, s)
    | (.ok _, s) => plugOutMonitorIndices s forceAll forceOne commands indices

end State

/-- A call that plugs displays out. -/
inductive PlugOut
  | monitor (index : Int) (forceAll forceOne : Bool)
  | indices (indices : List UInt32) (forceAll forceOne : Bool)
deriving DecidableEq, Repr

def PlugOut.forceAll : PlugOut → Bool
  | .monitor _ forceAll _ => forceAll
  | .indices _ forceAll _ => forceAll

def PlugOut.forceOne : PlugOut → Bool
  | .monitor _ _ forceOne => forceOne
  | .indices _ _ forceOne => forceOne

/-- The state after a call, with the outcomes of its commands. -/
def State.plugOutBy (s : State) (commands : Nat → Nat → Bool) : PlugOut → State
  | .monitor index forceAll forceOne => (s.plugOutMonitor index forceAll forceOne (commands 0)).2
  | .indices indices forceAll forceOne =>
    (s.plugOutMonitorIndices forceAll forceOne commands indices).2

/-- What happens to the displays. -/
inductive Event
  | plugInMonitor (installed : Bool) (command : Except String Unit)
  | plugInHeadless (now : Nat) (installed : Bool) (command : Except String Unit)
  | plugOut (call : PlugOut) (commands : Nat → Nat → Bool)
  /-- The process ends and starts again. -/
  | restart
  /-- Other programs leave so many displays of the driver. -/
  | others (amyuni : Nat)

/-- The displays and the process. -/
def displays : Machine State Event where
  start s := s.count = 0 ∧ s.lastPlugInHeadless = none ∧ s.own = 0
  step s
    | .plugInMonitor installed command => some (s.plugInMonitor installed command).2
    | .plugInHeadless now installed command => some (s.plugInHeadless now installed command).2
    | .plugOut call commands => some (s.plugOutBy commands call)
    | .restart => some { s with count := 0, lastPlugInHeadless := none, own := 0 }
    | .others amyuni => some { s with amyuni }

/-- A call without `force_all` that starts with a display leaves one. -/
def LeavesOne (s : State) (call : PlugOut) (t : State) : Prop :=
  call.forceAll = false → 0 < s.all → 0 < t.all

/-- A call without force plugs out no more displays than the process plugged in and has not plugged
out. -/
def SparesOthers (s : State) (call : PlugOut) (t : State) : Prop :=
  call.forceAll = false → call.forceOne = false → s.amyuni - t.amyuni ≤ s.own

/-- Without a physical display the process counts no more displays than there are, where it plugs
all of several out without `force_all`. -/
def Countable (s : State) : PlugOut → Prop
  | .monitor index forceAll _ => index = iddPlugOutAllIndex → forceAll = false →
      s.physical = 0 → 2 ≤ s.amyuni → s.count ≤ s.amyuni
  | .indices _ _ _ => True

/-! ## What a call plugs out -/

/-- Some displays of the driver are plugged out. -/
def State.without (s : State) (removed : Nat) : State :=
  { s with amyuni := s.amyuni - removed, count := s.count - removed, own := s.own - removed }

section Calls

variable {s : State} {commands : Nat → Bool}

theorem plugOutTimes_without (times : Nat) :
    ∃ removed, removed ≤ times ∧ removed ≤ s.amyuni ∧
      s.plugOutTimes commands times = s.without removed := by
  induction times with
  | zero => exact ⟨0, Nat.le_refl _, Nat.zero_le _, rfl⟩
  | succ times ih =>
    obtain ⟨removed, few, there, is⟩ := ih
    rw [State.plugOutTimes, is]
    unfold State.plugOut
    by_cases carried : commands times = true ∧ 0 < (s.without removed).amyuni
    · have more : 0 < s.amyuni - removed := carried.2
      rw [if_pos carried]
      refine ⟨removed + 1, by omega, by omega, ?_⟩
      unfold State.without
      dsimp only
      rw [Nat.sub_sub, Nat.sub_sub, Nat.sub_sub]
      by_cases counted : s.count - removed > 0
      · rw [if_pos counted]
      · have none : s.count - removed = 0 := Nat.eq_zero_of_not_pos counted
        have still : s.count - (removed + 1) = 0 := by omega
        rw [if_neg counted, none, still]
    · rw [if_neg carried]
      exact ⟨removed, by omega, there, rfl⟩

/-- Where the driver carries all commands out, as many displays go as there are. -/
theorem plugOutTimes_all (times : Nat) :
    (s.plugOutTimes (fun _ => true) times).amyuni = s.amyuni - times ∧
      (s.plugOutTimes (fun _ => true) times).physical = s.physical := by
  induction times with
  | zero => exact ⟨rfl, rfl⟩
  | succ times ih =>
    rw [State.plugOutTimes]
    unfold State.plugOut
    by_cases there : 0 < (s.plugOutTimes (fun _ => true) times).amyuni
    · rw [if_pos ⟨rfl, there⟩]
      exact ⟨by rw [ih.1, Nat.sub_sub], ih.2⟩
    · rw [if_neg fun carried => there carried.2]
      exact ⟨by omega, ih.2⟩

/-- The count that is decided from is that of the process, or one where `force_one` is set. -/
theorem plugInCount_ok {plugOutAll forceOne : Bool} {count : Nat}
    (ok : s.plugInCount plugOutAll forceOne = .ok count) :
    count = s.count ∨ count = 1 ∧ forceOne = true ∧ plugOutAll = false := by
  unfold State.plugInCount at ok
  by_cases foreign : (!plugOutAll) = true ∧ s.count = 0 ∧ s.amyuni > 0
  · rw [if_pos foreign] at ok
    cases forceOne with
    | false => cases ok
    | true => exact .inr ⟨(Except.ok.inj ok).symm, rfl, by simpa using foreign.1⟩
  · rw [if_neg foreign] at ok
    exact .inl (Except.ok.inj ok).symm

/-- No more would be plugged out than are decided from. -/
theorem plugOutCount_le {forceAll : Bool} {count times : Nat}
    (ok : s.plugOutCount forceAll count = .ok times) : times ≤ count := by
  unfold State.plugOutCount at ok
  split at ok
  · rw [← Except.ok.inj ok]
    exact Nat.zero_le _
  · by_cases none : count = 0
    · rw [if_pos none] at ok
      cases ok
    · rw [if_neg none] at ok
      cases forceAll with
      | false => cases ok
      | true =>
        rw [← Except.ok.inj ok]
        exact Nat.pos_of_ne_zero none
  · rw [← Except.ok.inj ok]
    split
    · rename_i same
      rw [← same]
      split
      · exact Nat.le_refl _
      · exact Nat.sub_le _ _
    · exact Nat.le_refl _

/-- Without `force_all`, something is plugged out only of two displays or more. -/
theorem plugOutCount_unforced {count times : Nat} (ok : s.plugOutCount false count = .ok times)
    (there : 0 < s.all) :
    2 ≤ s.all ∧ times = if s.all = count then s.all - 1 else count := by
  unfold State.plugOutCount at ok
  split at ok
  · omega
  · split at ok
    · cases ok
    · cases ok
  · rename_i notNone notOne
    have other : s.all ≠ 0 ∧ s.all ≠ 1 := ⟨notNone, notOne⟩
    exact ⟨by omega, (Except.ok.inj ok).symm⟩

theorem toPlugOutCount_ok {index : Int} {forceAll forceOne : Bool} {times : Nat}
    (ok : s.toPlugOutCount index forceAll forceOne = .ok times) :
    ∃ count most, s.plugInCount (index = iddPlugOutAllIndex) forceOne = .ok count ∧
      s.plugOutCount forceAll count = .ok most ∧
      times = if most ≠ 0 ∧ index ≠ iddPlugOutAllIndex then 1 else most := by
  unfold State.toPlugOutCount at ok
  obtain ⟨count, counted, rest⟩ := returns_bind_iff.mp ok
  obtain ⟨most, decided, is⟩ := returns_bind_iff.mp rest
  refine ⟨count, most, counted, decided, ?_⟩
  rw [← Except.ok.inj is]
  simp

/-- All that are counted are plugged out where there are fewer. -/
theorem toPlugOutCount_drifted {forceOne : Bool} (several : 2 ≤ s.all) (drifted : s.all < s.count) :
    s.toPlugOutCount iddPlugOutAllIndex false forceOne = .ok s.count := by
  have counts : s.plugInCount true forceOne = .ok s.count :=
    if_neg fun foreign => absurd foreign.1 (by decide)
  have counted : s.plugOutCount false s.count = .ok s.count := by
    unfold State.plugOutCount
    split
    · omega
    · omega
    · rw [if_neg (Nat.ne_of_lt drifted)]
  simp [State.toPlugOutCount, counts, counted, bind, Except.bind, pure, Except.pure]

theorem all_without {removed : Nat} (there : removed ≤ s.amyuni) :
    (s.without removed).all = s.all - removed := by
  unfold State.without State.all
  dsimp only
  omega

theorem without_without (first second : Nat) :
    (s.without first).without second = s.without (first + second) := by
  unfold State.without
  dsimp only
  rw [Nat.sub_sub, Nat.sub_sub, Nat.sub_sub]

/-- A call plugs some displays out: without `force_one` no more than are counted, and without
`force_all` not the last one. -/
structure Removes (s : State) (call : PlugOut) (t : State) (removed : Nat) : Prop where
  is : t = s.without removed
  there : removed ≤ s.amyuni
  counted : call.forceOne = false → removed ≤ s.count
  leaves : call.forceAll = false → 0 < s.all → Countable s call → removed < s.all

theorem Removes.none (call : PlugOut) : Removes s call s 0 :=
  ⟨rfl, Nat.zero_le _, fun _ => Nat.zero_le _, fun _ some _ => some⟩

theorem plugOutMonitor_removes (index : Int) (forceAll forceOne : Bool) :
    ∃ removed, Removes s (.monitor index forceAll forceOne)
      (s.plugOutMonitor index forceAll forceOne commands).2 removed := by
  unfold State.plugOutMonitor
  cases decided : s.toPlugOutCount index forceAll forceOne with
  | error e => exact ⟨0, .none _⟩
  | ok times =>
    obtain ⟨removed, few, there, is⟩ := @plugOutTimes_without s commands times
    obtain ⟨count, most, counts, counted, same⟩ := toPlugOutCount_ok decided
    have atMost := plugOutCount_le counted
    have limited : times ≤ most := by
      rw [same]
      split
      · omega
      · exact Nat.le_refl _
    refine ⟨removed, is, there, ?_, ?_⟩
    · intro unforced
      rcases plugInCount_ok counts with own | ⟨-, forced, -⟩
      · omega
      · exact absurd (forced.symm.trans unforced) (by decide)
    · intro unforced some countable
      rw [show forceAll = false from unforced] at counted
      obtain ⟨several, is⟩ := plugOutCount_unforced counted some
      by_cases every : index = iddPlugOutAllIndex
      · rcases plugInCount_ok counts with own | ⟨-, -, not⟩
        · have bound := countable every unforced
          have split : s.all = s.physical + s.amyuni := rfl
          by_cases exact_ : s.all = count
          · rw [if_pos exact_] at is
            omega
          · rw [if_neg exact_] at is
            omega
        · exact absurd every (of_decide_eq_false not)
      · have single : times ≤ 1 := by
          rw [same]
          split
          · exact Nat.le_refl _
          · omega
        omega

theorem plugOutMonitorIndices_removes (forceAll forceOne : Bool) (commands : Nat → Nat → Bool)
    (indices : List UInt32) :
    ∃ removed, Removes s (.indices indices forceAll forceOne)
      (s.plugOutMonitorIndices forceAll forceOne commands indices).2 removed := by
  induction indices generalizing s with
  | nil => exact ⟨0, .none _⟩
  | cons index indices ih =>
    rw [State.plugOutMonitorIndices]
    obtain ⟨first, one⟩ := @plugOutMonitor_removes s (commands indices.length) 0
      forceAll forceOne
    cases called : s.plugOutMonitor 0 forceAll forceOne (commands indices.length) with
    | mk result next =>
      rw [called] at one
      cases result with
      | error e => exact ⟨first, one.is, one.there, one.counted,
          fun unforced some _ => one.leaves unforced some nofun⟩
      | ok done =>
        obtain ⟨second, rest⟩ := ih (s := next)
        obtain rfl : next = s.without first := one.is
        have there := one.there
        have more : second ≤ s.amyuni - first := rest.there
        refine ⟨first + second, ?_, by omega, ?_, ?_⟩
        · rw [← without_without]
          exact rest.is
        · intro unforced
          have counted := one.counted unforced
          have others : second ≤ s.count - first := rest.counted unforced
          omega
        · intro unforced some _
          have left := one.leaves unforced some nofun
          have later := rest.leaves unforced
          rw [all_without there] at later
          have last := later (by omega) trivial
          omega

theorem plugOutBy_removes (commands : Nat → Nat → Bool) (call : PlugOut) :
    ∃ removed, Removes s call (s.plugOutBy commands call) removed := by
  cases call with
  | monitor index forceAll forceOne => exact plugOutMonitor_removes index forceAll forceOne
  | indices indices forceAll forceOne =>
    exact plugOutMonitorIndices_removes forceAll forceOne commands indices

end Calls

/-- The process counts no more displays than it plugged in and has not plugged out. -/
theorem count_le_own {s : State} (reached : displays.Reaches Machine.free s) :
    s.count ≤ s.own := by
  refine reached.invariant (fun s => s.count ≤ s.own) ?_ ?_
  · intro s started
    rw [started.1]
    exact Nat.zero_le _
  · intro s e t below _ next
    have plugged : ∀ (s : State) (command : Bool), s.count ≤ s.own →
        (s.plugIn command).count ≤ (s.plugIn command).own := by
      intro s command below
      unfold State.plugIn
      cases command with
      | false => exact below
      | true =>
        rw [if_pos rfl]
        dsimp only
        split
        · omega
        · omega
    cases e with
    | plugInMonitor installed command =>
      obtain rfl := Option.some.inj next
      unfold State.plugInMonitor
      split
      · exact below
      · split
        · exact below
        · exact plugged s _ below
    | plugInHeadless now installed command =>
      obtain rfl := Option.some.inj next
      unfold State.plugInHeadless
      dsimp only
      split
      · exact below
      · split
        · exact plugged _ _ below
        · exact below
    | plugOut call commands =>
      obtain rfl := Option.some.inj next
      obtain ⟨removed, removes⟩ := plugOutBy_removes (s := s) commands call
      rw [removes.is]
      exact Nat.sub_le_sub_right below removed
    | restart =>
      obtain rfl := Option.some.inj next
      exact Nat.le_refl _
    | others amyuni =>
      obtain rfl := Option.some.inj next
      exact below

/-- In every state that is reached, a call leaves a display and spares those of others whatever
becomes of its commands, if and only if the displays it plugs out are not fewer than counted. -/
theorem plug_out_iff {s : State} (reached : displays.Reaches Machine.free s) (call : PlugOut) :
    (∀ commands t, displays.step s (.plugOut call commands) = some t →
      LeavesOne s call t ∧ SparesOthers s call t) ↔ Countable s call := by
  constructor
  · intro keeps
    cases call with
    | indices indices forceAll forceOne => trivial
    | monitor index forceAll forceOne =>
      intro every unforced blind several
      subst every unforced
      by_contra drifted
      have several : 2 ≤ s.all := Nat.le_add_left_of_le several
      have fewer : s.all < s.count := by
        unfold State.all
        omega
      have decided := @toPlugOutCount_drifted s forceOne several fewer
      have leaves := (keeps (fun _ _ => true) _ rfl).1 rfl (by omega)
      unfold State.plugOutBy State.plugOutMonitor at leaves
      dsimp only at leaves
      rw [decided] at leaves
      obtain ⟨amyuni, physical⟩ := plugOutTimes_all (s := s) s.count
      unfold State.all at leaves
      dsimp only at leaves
      omega
  · intro countable commands t next
    obtain rfl := Option.some.inj next
    obtain ⟨removed, removes⟩ := plugOutBy_removes (s := s) commands call
    have own := count_le_own reached
    have there := removes.there
    rw [removes.is]
    refine ⟨?_, ?_⟩
    · intro unforced some
      rw [all_without there]
      exact Nat.sub_pos_of_lt (removes.leaves unforced some countable)
    · intro _ unforced
      have counted := removes.counted unforced
      show s.amyuni - (s.amyuni - removed) ≤ s.own
      omega

/-- A machine with one physical display. -/
def oneScreen : State where
  physical := 1
  amyuni := 0

/-- Two displays that were plugged in are plugged out. -/
theorem two_plugged_out :
    ∃ s, displays.Reaches Machine.free s ∧ s.amyuni = 2 ∧
      ∀ commands t,
        displays.step s (.plugOut (.monitor iddPlugOutAllIndex false false) commands) = some t →
        0 < t.all ∧ s.amyuni - t.amyuni ≤ 2 := by
  have run := Machine.runs_play displays Machine.free oneScreen
    [.plugInMonitor true (.ok ()), .plugInMonitor true (.ok ())]
  have reached : displays.Reaches Machine.free _ := ⟨oneScreen, ⟨rfl, rfl, rfl⟩, run⟩
  refine ⟨_, reached, rfl, ?_⟩
  intro commands t next
  have keeps := (plug_out_iff reached (.monitor iddPlugOutAllIndex false false)).mpr
    (fun _ _ none => absurd none (by decide)) commands t next
  exact ⟨keeps.1 rfl (by decide), keeps.2 rfl rfl⟩

/-- A machine without a display. -/
def noScreen : State where
  physical := 0
  amyuni := 0

/-- Three displays are plugged in and another program takes one of them away; then all that are
counted are plugged out, and no display is left. -/
theorem last_displays_removed :
    ∃ s t, displays.Reaches Machine.free s ∧ s.all = 2 ∧
      displays.step s (.plugOut (.monitor iddPlugOutAllIndex false false) fun _ _ => true) =
        some t ∧ t.all = 0 ∧ ¬ LeavesOne s (.monitor iddPlugOutAllIndex false false) t := by
  have run := Machine.runs_play displays Machine.free noScreen
    [.plugInHeadless 0 true (.ok ()), .plugInMonitor true (.ok ()), .plugInMonitor true (.ok ()),
      .others 2]
  refine ⟨_, _, ⟨noScreen, ⟨rfl, rfl, rfl⟩, run⟩, rfl, rfl, rfl, ?_⟩
  intro leaves
  exact absurd (leaves rfl (by decide)) (by decide)

end ChainRemote.Server.VirtualDisplays
