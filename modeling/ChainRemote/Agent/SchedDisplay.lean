import ChainRemote.Agent.SchedWindow

/-!
# What the screens say about the window

`status` and `is_active_now` answer the tray and the panel, `is_open` the login. They repeat the
end and the day after the approval, and only `is_open` knows the idle rule, so a window that the
idle rule has closed is shown as open until it ends. Exactly which windows are shown right is a
matter of the few moments at which a window can open: its start, and a difference that overflows.
-/

namespace ChainRemote.Agent

variable {w : SchedWindow} {t : Int}

/-- `is_active_now`: whether the screens say that a login passes, and the file afterwards. -/
def isActiveNow (t : Int) (file : Option SchedWindow) : Bool × Option SchedWindow :=
  (((status t file).map fun w => decide (w.start ≤ t)).getD false, status t file)

/-- The window is not over, by the rules that both functions repeat. -/
def Live (w : SchedWindow) (t : Int) : Prop :=
  t < w.endAt ∧ wrap64 (t - w.grantedAt) < maxWindowSecs

instance : Decidable (Live w t) := inferInstanceAs (Decidable (_ ∧ _))

/-- The idle rule has closed the window. -/
def Idle (w : SchedWindow) (t : Int) : Prop :=
  w.inSession = false ∧ ∃ last ∈ w.lastSessionEnd, idleCloseSecs ≤ wrap64 (t - last)

/-- When a window that is closed could open: at its start, or where the time since the approval or
since the last session overflows. -/
def turns (w : SchedWindow) (t : Int) : List Int :=
  let first := max t w.start
  let granted := max first (w.grantedAt + 2 ^ 63)
  [first, granted] ++ w.lastSessionEnd.toList.flatMap fun last =>
    [max first (last + 2 ^ 63), max granted (last + 2 ^ 63)]

/-- The window opens at one of those times. -/
def Opens (w : SchedWindow) (t : Int) : Prop :=
  ∃ later ∈ turns w t, later < 2 ^ 63 ∧ Live w later ∧ ¬ Idle w later

/-- The screens say of the window what the login decides, now and from now on. -/
def Agrees (w : SchedWindow) (t : Int) : Prop :=
  (isActiveNow t (some w)).1 = (isOpen t (some w)).1 ∧
    (status t (some w) = none ↔
      ∀ later, t ≤ later → later < 2 ^ 63 → (isOpen later (some w)).1 = false)

theorem isOpen_live_iff (w : SchedWindow) (t : Int) :
    (isOpen t (some w)).1 = true ↔ w.start ≤ t ∧ Live w t ∧ ¬ Idle w t := by
  have rule : (w.inSession = false → ∀ last, w.lastSessionEnd = some last →
      wrap64 (t - last) < idleCloseSecs) ↔ ¬ Idle w t := by
    constructor
    · rintro quick ⟨apart, last, known, idle⟩
      exact absurd (quick apart last known) (Int.not_lt.mpr idle)
    · intro active apart last known
      by_contra idle
      exact active ⟨apart, last, known, Int.not_lt.mp idle⟩
  rw [isOpen_iff, rule]
  unfold Live
  simp only [and_assoc]

theorem status_none_iff (w : SchedWindow) (t : Int) : status t (some w) = none ↔ ¬ Live w t := by
  unfold status Live
  by_cases ended : w.endAt ≤ t
  · have closed : ¬ t < w.endAt := Int.not_lt.mpr ended
    simp [ended, closed]
  · by_cases old : maxWindowSecs ≤ wrap64 (t - w.grantedAt)
    · simp [ended, old]
    · simp [ended, old, Int.not_le.mp ended, Int.not_le.mp old]

theorem isActiveNow_iff (w : SchedWindow) (t : Int) :
    (isActiveNow t (some w)).1 = true ↔ w.start ≤ t ∧ Live w t := by
  unfold isActiveNow
  by_cases live : Live w t
  · have shown : status t (some w) = some w := by
      obtain ⟨before, young⟩ := live
      simp only [status]
      rw [if_neg (Int.not_le.mpr before), if_neg (Int.not_le.mpr young)]
    simp [shown, live]
  · have gone := (status_none_iff w t).mpr live
    simp [gone, live]

/-- A clock reading is within some time after a stored one, or the difference overflows. -/
theorem wrap64_sub_lt_iff {t since limit : Int} (clock : 0 ≤ t ∧ t < 2 ^ 63)
    (stored : -2 ^ 63 ≤ since ∧ since < 2 ^ 63) (positive : 0 < limit) (small : limit < 2 ^ 62) :
    wrap64 (t - since) < limit ↔ t < since + limit ∨ since + 2 ^ 63 ≤ t := by
  unfold wrap64
  rw [Int.bmod_def]
  omega

/-- A window that is open at some time opens at one of its turns. -/
theorem opens_iff (clock : 0 ≤ t ∧ t < 2 ^ 63)
    (granted : -2 ^ 63 ≤ w.grantedAt ∧ w.grantedAt < 2 ^ 63)
    (ended : ∀ last ∈ w.lastSessionEnd, -2 ^ 63 ≤ last ∧ last < 2 ^ 63) :
    (∃ later, t ≤ later ∧ later < 2 ^ 63 ∧ (isOpen later (some w)).1 = true) ↔ Opens w t := by
  constructor
  · rintro ⟨later, after, bounded, passes⟩
    obtain ⟨started, ⟨before, young⟩, active⟩ := (isOpen_live_iff w later).mp passes
    -- the turn that comes first is no later, and what holds later holds there
    have first : ∀ turn ∈ turns w t, turn ≤ later → t ≤ turn →
        (turn < w.grantedAt + maxWindowSecs ∨ w.grantedAt + 2 ^ 63 ≤ turn) →
        (w.inSession = false → ∀ last ∈ w.lastSessionEnd,
          turn < last + idleCloseSecs ∨ last + 2 ^ 63 ≤ turn) → Opens w t := by
      intro turn listed early onward fresh used
      have reading : 0 ≤ turn ∧ turn < 2 ^ 63 := by omega
      refine ⟨turn, listed, reading.2, ⟨by omega, ?_⟩, ?_⟩
      · exact (wrap64_sub_lt_iff reading granted (by decide) (by decide)).mpr fresh
      · rintro ⟨apart, last, known, idle⟩
        have soon := (wrap64_sub_lt_iff reading (ended last known) (by decide) (by decide)).mpr
          (used apart last known)
        omega
    have reading : 0 ≤ later ∧ later < 2 ^ 63 := by omega
    have fresh := (wrap64_sub_lt_iff reading granted (by decide) (by decide)).mp young
    have used : w.inSession = false → ∀ last ∈ w.lastSessionEnd,
        later < last + idleCloseSecs ∨ last + 2 ^ 63 ≤ later := by
      intro apart last known
      apply (wrap64_sub_lt_iff reading (ended last known) (by decide) (by decide)).mp
      by_contra idle
      exact active ⟨apart, last, known, Int.not_lt.mp idle⟩
    by_cases late : ∃ last ∈ w.lastSessionEnd, last + 2 ^ 63 ≤ later
    · obtain ⟨last, known, wrap⟩ := late
      have only : ∀ other ∈ w.lastSessionEnd, other = last := fun other also =>
        Option.mem_unique also known
      by_cases wrapped : w.grantedAt + 2 ^ 63 ≤ later
      · apply first (max (max (max t w.start) (w.grantedAt + 2 ^ 63)) (last + 2 ^ 63))
        · simp [turns, Option.mem_def.mp known]
        · omega
        · omega
        · omega
        · intro _ other also
          rw [only other also]
          omega
      · apply first (max (max t w.start) (last + 2 ^ 63))
        · simp [turns, Option.mem_def.mp known]
        · omega
        · omega
        · omega
        · intro _ other also
          rw [only other also]
          omega
    · have never : w.inSession = false → ∀ last ∈ w.lastSessionEnd,
          later < last + idleCloseSecs := by
        intro apart last known
        rcases used apart last known with soon | wrap
        · exact soon
        · exact absurd ⟨last, known, wrap⟩ late
      by_cases wrapped : w.grantedAt + 2 ^ 63 ≤ later
      · apply first (max (max t w.start) (w.grantedAt + 2 ^ 63))
        · simp [turns]
        · omega
        · omega
        · omega
        · intro apart last known
          have soon := never apart last known
          omega
      · apply first (max t w.start)
        · simp [turns]
        · omega
        · omega
        · omega
        · intro apart last known
          have soon := never apart last known
          omega
  · rintro ⟨later, listed, bounded, live, active⟩
    have after : max t w.start ≤ later := by
      simp only [turns, List.mem_append, List.mem_cons, List.not_mem_nil, or_false,
        List.mem_flatMap] at listed
      rcases listed with (same | same) | ⟨last, -, same | same⟩
      · omega
      · omega
      · omega
      · omega
    refine ⟨later, by omega, bounded, (isOpen_live_iff w later).mpr ⟨by omega, live, active⟩⟩

/-- The screens agree with the login exactly where a window that has started and is not over is not
idle either, and where a window is not over exactly if it can still open. -/
theorem display_agrees_iff (w : SchedWindow) (t : Int) (clock : 0 ≤ t ∧ t < 2 ^ 63)
    (granted : -2 ^ 63 ≤ w.grantedAt ∧ w.grantedAt < 2 ^ 63)
    (ended : ∀ last ∈ w.lastSessionEnd, -2 ^ 63 ≤ last ∧ last < 2 ^ 63) :
    Agrees w t ↔ (w.start ≤ t → Live w t → ¬ Idle w t) ∧ (Live w t ↔ Opens w t) := by
  have now : (isActiveNow t (some w)).1 = (isOpen t (some w)).1 ↔
      (w.start ≤ t → Live w t → ¬ Idle w t) := by
    rw [Bool.eq_iff_iff, isActiveNow_iff, isOpen_live_iff]
    constructor
    · intro same started live
      exact (same.mp ⟨started, live⟩).2.2
    · intro active
      exact ⟨fun ⟨started, live⟩ => ⟨started, live, active started live⟩,
        fun ⟨started, live, _⟩ => ⟨started, live⟩⟩
  have onward : (∀ later, t ≤ later → later < 2 ^ 63 → (isOpen later (some w)).1 = false) ↔
      ¬ Opens w t := by
    rw [← opens_iff clock granted ended]
    constructor
    · rintro never ⟨later, after, bounded, passes⟩
      exact Bool.false_ne_true ((never later after bounded).symm.trans passes)
    · intro never later after bounded
      by_contra passes
      exact never ⟨later, after, bounded, Bool.not_eq_false _ ▸ passes⟩
  unfold Agrees
  rw [now, onward, status_none_iff, not_iff_not]

/-- A window of an hour without a session. -/
def quietHour : SchedWindow := ⟨1000, 4600, 1000, "", none, false⟩

theorem display_agrees_quiet : Agrees quietHour 2000 := by
  have open' : Live quietHour 2000 ∧ ¬ Idle quietHour 2000 :=
    ⟨by decide, fun idle => by obtain ⟨-, last, known, -⟩ := idle; cases known⟩
  apply (display_agrees_iff quietHour 2000 (by decide) (by decide) nofun).mpr
  refine ⟨fun _ _ => open'.2, iff_of_true open'.1 ⟨2000, ?_, by decide, open'⟩⟩
  decide

/-- The session of an hour's window ended a quarter of an hour ago: the screens still say that a
login passes. -/
theorem display_disagrees : ¬ Agrees ⟨1000, 4600, 1000, "", some 1100, false⟩ 2500 := by
  intro agrees
  have same := agrees.1
  revert same
  decide

end ChainRemote.Agent
