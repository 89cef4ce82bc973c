import Mathlib.Tactic.ByContra
import Mathlib.Algebra.GroupWithZero.Nat
import Mathlib.Data.List.Induction
import ChainRemote.Lib.Window

/-!
# The network delay of a viewer

The delay of the network is the average of the last three samples less an estimate of the round
trip. The estimate is the least sample there ever was, and from 60 samples on the middle between it
and the least of the last 60. It is never above one of the last 60 samples, so never above the
average.

Samples are below 2²⁴: their sums stay in 32 bits, and half of one is exact as a single float.
-/

namespace ChainRemote.Server.NetworkDelay

open Lib

/-- `RttCalculator`. -/
structure RttCalculator where
  minRtt : Option Nat := none
  windowMinRtt : Option Nat := none
  smoothedRtt : Option Nat := none
  samples : List Nat := []
deriving DecidableEq, Repr

/-- `WINDOW_SAMPLES`. -/
def windowSamples : Nat := 60

/-- `MIN_SAMPLES`. -/
def minSamples : Nat := 10

namespace RttCalculator

variable (calculator : RttCalculator)

/-- `update`; with `ALPHA` at one half, the weighted average is the middle. -/
def update (delay : Nat) : RttCalculator :=
  let minRtt :=
    match calculator.minRtt with
    | some minRtt => if delay < minRtt then some delay else some minRtt
    | none => some delay
  let samples := slide windowSamples calculator.samples delay
  let windowMinRtt := samples.min?
  let smoothedRtt :=
    if samples.length ≥ windowSamples then
      match minRtt, windowMinRtt with
      | some min, some windowMin => some ((min + windowMin) / 2)
      | _, _ => calculator.smoothedRtt
    else calculator.smoothedRtt
  { minRtt, windowMinRtt, smoothedRtt, samples }

/-- `get_rtt`. -/
def getRtt : Option Nat :=
  match calculator.smoothedRtt with
  | some rtt => some rtt
  | none => if calculator.samples.length ≥ minSamples then calculator.minRtt else none

end RttCalculator

/-- `HISTORY_DELAY_LEN`. -/
def historyDelayLen : Nat := 2

/-- `DELAY_THRESHOLD_150MS`. -/
def delayThreshold150ms : Nat := 150

/-- `UserDelay`, as far as the delay of the network uses it. -/
structure UserDelay where
  delayHistory : List Nat := []
  rttCalculator : RttCalculator := {}
deriving DecidableEq, Repr

namespace UserDelay

variable (user : UserDelay)

/-- `add_delay`. -/
def addDelay (delay : Nat) : UserDelay where
  rttCalculator := user.rttCalculator.update delay
  delayHistory :=
    (if user.delayHistory.length > historyDelayLen then user.delayHistory.tail
      else user.delayHistory) ++ [delay]

/-- `avg_delay`. -/
def avgDelay : Nat :=
  let len := user.delayHistory.length
  if len > 0 then
    let avgDelay := user.delayHistory.sum % 4294967296 / len
    match user.rttCalculator.getRtt with
    | some rtt => if avgDelay > rtt then avgDelay - rtt else avgDelay
    | none => avgDelay
  else delayThreshold150ms

end UserDelay

/-- A viewer after some samples. -/
def after (delays : List Nat) : UserDelay := delays.foldl UserDelay.addDelay {}

/-- The truncated average of the last samples, at most three. -/
def average (delays : List Nat) : Nat := (delays.rtake 3).sum / (delays.rtake 3).length

/-- The middle between the least of all samples and the least of the last ones. -/
def middle (delays : List Nat) : Option Nat := do
  let min ← delays.min?
  let windowMin ← (delays.rtake windowSamples).min?
  return (min + windowMin) / 2

/-- The windows hold the last samples, and the minima are those of all and of the last ones. -/
structure Tracks (delays : List Nat) (user : UserDelay) : Prop where
  history : user.delayHistory = delays.rtake 3
  samples : user.rttCalculator.samples = delays.rtake windowSamples
  minRtt : user.rttCalculator.minRtt = delays.min?
  smoothedRtt : user.rttCalculator.smoothedRtt =
    if delays.length ≥ windowSamples then middle delays else none

section Samples

variable {delays : List Nat} {delay : Nat} {user : UserDelay}

theorem min?_concat :
    (delays ++ [delay]).min? = some ((delays.min?.map (min delay)).getD delay) := by
  rw [List.min?_eq_some_iff]
  cases least : delays.min? with
  | none =>
    rw [List.min?_eq_none_iff] at least
    subst least
    simp
  | some known =>
    obtain ⟨inside, below⟩ := List.min?_eq_some_iff.mp least
    rw [Option.map_some, Option.getD_some]
    constructor
    · rcases Nat.le_total delay known with early | late
      · rw [Nat.min_eq_left early]
        exact List.mem_append_right _ (List.mem_singleton_self _)
      · rw [Nat.min_eq_right late]
        exact List.mem_append_left _ inside
    · intro other member
      rcases List.mem_append.mp member with old | new
      · exact Nat.le_trans (Nat.min_le_right _ _) (below other old)
      · rw [List.mem_singleton.mp new]
        exact Nat.min_le_left _ _

theorem updated_minRtt (least : user.rttCalculator.minRtt = delays.min?) :
    (user.rttCalculator.update delay).minRtt = (delays ++ [delay]).min? := by
  rw [min?_concat, ← least]
  unfold RttCalculator.update
  dsimp only
  cases user.rttCalculator.minRtt with
  | none => rfl
  | some known =>
    dsimp only
    by_cases below : delay < known
    · rw [if_pos below, Option.map_some, Option.getD_some, Nat.min_eq_left (Nat.le_of_lt below)]
    · have least : min delay known = known := Nat.min_eq_right (Nat.le_of_not_lt below)
      rw [if_neg below, Option.map_some, Option.getD_some, least]

/-- One more sample is tracked. -/
theorem Tracks.addDelay (tracks : Tracks delays user) (delay : Nat) :
    Tracks (delays ++ [delay]) (user.addDelay delay) where
  history := by
    rw [← slide_rtake (by decide), ← tracks.history]
    rfl
  samples := by
    rw [← slide_rtake (by decide), ← tracks.samples]
    rfl
  minRtt := updated_minRtt tracks.minRtt
  smoothedRtt := by
    have least : (user.rttCalculator.update delay).minRtt = (delays ++ [delay]).min? :=
      updated_minRtt tracks.minRtt
    have window : slide windowSamples user.rttCalculator.samples delay =
        (delays ++ [delay]).rtake windowSamples := by
      rw [tracks.samples, slide_rtake (by decide)]
    have size := length_rtake windowSamples (delays ++ [delay])
    have length : (delays ++ [delay]).length = delays.length + 1 := by
      rw [List.length_append, List.length_singleton]
    have shape : (user.addDelay delay).rttCalculator.smoothedRtt =
        if (slide windowSamples user.rttCalculator.samples delay).length ≥ windowSamples then
          match (user.rttCalculator.update delay).minRtt,
            (slide windowSamples user.rttCalculator.samples delay).min? with
          | some min, some windowMin => some ((min + windowMin) / 2)
          | _, _ => user.rttCalculator.smoothedRtt
        else user.rttCalculator.smoothedRtt := rfl
    rw [shape, least, window]
    by_cases full : (delays ++ [delay]).length ≥ windowSamples
    · rw [if_pos (by omega), if_pos full, middle, min?_concat]
      cases windowMin : ((delays ++ [delay]).rtake windowSamples).min? with
      | none =>
        rw [List.min?_eq_none_iff] at windowMin
        rw [windowMin] at size
        have sixty : windowSamples = 60 := rfl
        rw [List.length_nil] at size
        omega
      | some least => rfl
    · rw [if_neg (by omega), if_neg full, tracks.smoothedRtt, if_neg (by omega)]

theorem after_tracks (delays : List Nat) : Tracks delays (after delays) := by
  induction delays using List.reverseRecOn with
  | nil => exact ⟨rfl, rfl, rfl, rfl⟩
  | append_singleton delays delay ih =>
    have step : after (delays ++ [delay]) = (after delays).addDelay delay := List.foldl_append
    rw [step]
    exact ih.addDelay delay

/-- The estimate is there from ten samples on, and is never above one of the last 60. -/
theorem getRtt_le {rtt : Nat} (available : (after delays).rttCalculator.getRtt = some rtt) :
    minSamples ≤ delays.length ∧ ∀ recent ∈ delays.rtake windowSamples, rtt ≤ recent := by
  have tracks := after_tracks delays
  have samples : windowSamples = 60 := rfl
  have enough : minSamples = 10 := rfl
  unfold RttCalculator.getRtt at available
  rw [tracks.smoothedRtt] at available
  by_cases full : delays.length ≥ windowSamples
  · rw [if_pos full] at available
    cases least : delays.min? with
    | none =>
      rw [List.min?_eq_none_iff] at least
      rw [least, List.length_nil] at full
      omega
    | some min =>
      cases windowLeast : (delays.rtake windowSamples).min? with
      | none =>
        have size := length_rtake windowSamples delays
        rw [List.min?_eq_none_iff] at windowLeast
        rw [windowLeast, List.length_nil] at size
        omega
      | some windowMin =>
        have value : middle delays = some ((min + windowMin) / 2) := by
          rw [middle, least, windowLeast]
          rfl
        rw [value] at available
        obtain rfl := Option.some.inj available
        obtain ⟨-, belowAll⟩ := List.min?_eq_some_iff.mp least
        obtain ⟨inside, below⟩ := List.min?_eq_some_iff.mp windowLeast
        have order := belowAll windowMin (rtake_subset _ _ inside)
        refine ⟨by omega, ?_⟩
        intro recent member
        have bound := below recent member
        omega
  · rw [if_neg full] at available
    dsimp only at available
    split at available
    · rename_i ten
      rw [tracks.minRtt] at available
      rw [tracks.samples, length_rtake] at ten
      refine ⟨by omega, ?_⟩
      intro recent member
      exact (List.min?_eq_some_iff.mp available).2 recent (rtake_subset _ _ member)
    · cases available

/-- Whether there is an estimate is a matter of the number of samples. -/
theorem getRtt_some (enough : minSamples ≤ delays.length) :
    ∃ rtt, (after delays).rttCalculator.getRtt = some rtt := by
  have tracks := after_tracks delays
  have ten : minSamples = 10 := rfl
  have sixty : windowSamples = 60 := rfl
  unfold RttCalculator.getRtt
  cases smoothed : (after delays).rttCalculator.smoothedRtt with
  | some rtt => exact ⟨rtt, rfl⟩
  | none =>
    have size : (after delays).rttCalculator.samples.length ≥ minSamples := by
      rw [tracks.samples, length_rtake]
      omega
    dsimp only
    rw [if_pos size, tracks.minRtt]
    cases least : delays.min? with
    | some min => exact ⟨min, rfl⟩
    | none =>
      rw [List.min?_eq_none_iff] at least
      rw [least, List.length_nil] at enough
      omega

theorem sum_small {values : List Nat} (small : ∀ value ∈ values, value < 16777216) :
    values.sum ≤ 16777216 * values.length := by
  induction values with
  | nil => exact Nat.le_refl _
  | cons value values ih =>
    have first := small value List.mem_cons_self
    have rest := ih fun other inside => small other (List.mem_cons_of_mem _ inside)
    rw [List.sum_cons, List.length_cons]
    omega

/-- The sum of three samples stays in 32 bits, so the average is what is computed. -/
theorem avgDelay_eq (small : ∀ delay ∈ delays, delay < 16777216) (nonempty : delays ≠ []) :
    (after delays).avgDelay =
      match (after delays).rttCalculator.getRtt with
      | some rtt => if average delays > rtt then average delays - rtt else average delays
      | none => average delays := by
  have tracks := after_tracks delays
  have size := length_rtake 3 delays
  have positive : 0 < delays.length := List.length_pos_iff.mpr nonempty
  have bound : (delays.rtake 3).sum ≤ 16777216 * (delays.rtake 3).length :=
    sum_small fun delay inside => small delay (rtake_subset _ _ inside)
  have whole : (delays.rtake 3).sum % 4294967296 = (delays.rtake 3).sum :=
    Nat.mod_eq_of_lt (by omega)
  unfold UserDelay.avgDelay
  dsimp only
  rw [tracks.history, if_pos (by omega), whole]
  rfl

/-- A higher last sample makes the average no lower. -/
theorem average_mono (earlier : List Nat) {x y : Nat} (raised : x ≤ y) :
    average (earlier ++ [x]) ≤ average (earlier ++ [y]) := by
  unfold average
  rw [List.rtake_concat_succ, List.rtake_concat_succ, List.sum_append, List.sum_append,
    List.length_append, List.length_append, List.sum_singleton, List.sum_singleton]
  exact Nat.div_le_div_right (Nat.add_le_add_left raised _)

/-- Another last sample is as small. -/
theorem small_concat {earlier : List Nat} {x y : Nat}
    (small : ∀ delay ∈ earlier ++ [x], delay < 16777216) (bound : y < 16777216) :
    ∀ delay ∈ earlier ++ [y], delay < 16777216 := by
  intro delay inside
  cases List.mem_append.mp inside with
  | inl old => exact small delay (List.mem_append_left _ old)
  | inr new =>
    rw [List.mem_singleton.mp new]
    exact bound

/-- Without an estimate a higher last sample makes the delay no lower. -/
theorem avgDelay_mono {earlier : List Nat} {x y : Nat}
    (small : ∀ delay ∈ earlier ++ [x], delay < 16777216) (order : x ≤ y) (bound : y < 16777216)
    (unavailable : (after (earlier ++ [x])).rttCalculator.getRtt = none) :
    (after (earlier ++ [x])).avgDelay ≤ (after (earlier ++ [y])).avgDelay := by
  have size : (earlier ++ [y]).length = (earlier ++ [x]).length := by
    rw [List.length_append, List.length_append]
    rfl
  have short : ¬ minSamples ≤ (earlier ++ [x]).length := by
    intro enough
    obtain ⟨rtt, there⟩ := getRtt_some enough
    cases unavailable.symm.trans there
  have still : (after (earlier ++ [y])).rttCalculator.getRtt = none := by
    cases known : (after (earlier ++ [y])).rttCalculator.getRtt with
    | none => rfl
    | some rtt =>
      have enough := (getRtt_le known).1
      rw [size] at enough
      exact absurd enough short
  have before := avgDelay_eq small (by simp)
  have raised := avgDelay_eq (small_concat small bound) (by simp)
  rw [unavailable] at before
  rw [still] at raised
  rw [before, raised]
  exact average_mono earlier order

/-- Where the estimate is below the average, raising the last sample lowers the delay at most by
what it raises the estimate. -/
theorem avgDelay_raised {earlier : List Nat} {x y rtt : Nat}
    (small : ∀ delay ∈ earlier ++ [x], delay < 16777216) (order : x ≤ y) (bound : y < 16777216)
    (available : (after (earlier ++ [x])).rttCalculator.getRtt = some rtt)
    (above : rtt < average (earlier ++ [x])) :
    ∃ raised, (after (earlier ++ [y])).rttCalculator.getRtt = some raised ∧
      (after (earlier ++ [x])).avgDelay + rtt ≤ (after (earlier ++ [y])).avgDelay + raised := by
  have enough : minSamples ≤ (earlier ++ [y]).length := by
    have known := (getRtt_le available).1
    rw [List.length_append] at known
    rwa [List.length_append]
  obtain ⟨raised, known⟩ := getRtt_some enough
  have delay := avgDelay_eq small (by simp)
  have later := avgDelay_eq (small_concat small bound) (by simp)
  rw [available] at delay
  rw [known] at later
  dsimp only at delay later
  rw [if_pos above] at delay
  have grows := average_mono earlier order
  refine ⟨raised, known, ?_⟩
  rw [delay, later, Nat.sub_add_cancel (Nat.le_of_lt above)]
  by_cases higher : average (earlier ++ [y]) > raised
  · rw [if_pos higher, Nat.sub_add_cancel (Nat.le_of_lt higher)]
    exact grows
  · rw [if_neg higher]
    exact Nat.le_add_right_of_le grows

end Samples

/-- The estimate is below the last 60 samples, and is what the average of the last three is lowered
by where it is below that. Raising the last sample lowers the delay at most by what it raises the
estimate. -/
theorem delay_estimate (delays : List Nat) (small : ∀ delay ∈ delays, delay < 16777216) :
    match (after delays).rttCalculator.getRtt with
    | none => ∀ earlier x y, delays = earlier ++ [x] → x ≤ y → y < 16777216 →
        (after delays).avgDelay ≤ (after (earlier ++ [y])).avgDelay
    | some rtt =>
      (∀ recent ∈ delays.rtake 60, rtt ≤ recent) ∧
      (rtt < (delays.rtake 3).sum / 3 →
        (after delays).avgDelay = (delays.rtake 3).sum / 3 - rtt) ∧
      (rtt < (delays.rtake 3).sum / 3 →
        ∀ earlier x y, delays = earlier ++ [x] → x ≤ y → y < 16777216 →
          ∃ raised, (after (earlier ++ [y])).rttCalculator.getRtt = some raised ∧
            (after delays).avgDelay + rtt ≤ (after (earlier ++ [y])).avgDelay + raised) := by
  cases available : (after delays).rttCalculator.getRtt with
  | none =>
    intro earlier x y is order below
    subst is
    exact avgDelay_mono small order below available
  | some rtt =>
    obtain ⟨enough, below60⟩ := getRtt_le available
    have ten : minSamples = 10 := rfl
    have three : (delays.rtake 3).length = 3 := by
      rw [length_rtake]
      omega
    have mean : average delays = (delays.rtake 3).sum / 3 := by rw [average, three]
    have nonempty : delays ≠ [] := by
      rintro rfl
      cases enough
    rw [← mean]
    refine ⟨below60, ?_, ?_⟩
    · intro above
      have delay := avgDelay_eq small nonempty
      rw [available] at delay
      rw [delay]
      exact if_pos above
    · intro above earlier x y is order bound
      subst is
      exact avgDelay_raised small order bound available above

/-- Twelve samples of a link that has become slower. -/
theorem slower_estimate :
    (after [40, 41, 40, 42, 40, 40, 43, 40, 40, 70, 80, 90]).rttCalculator.getRtt = some 40 ∧
      (after [40, 41, 40, 42, 40, 40, 43, 40, 40, 70, 80, 90]).avgDelay = 40 := by
  have estimate := delay_estimate [40, 41, 40, 42, 40, 40, 43, 40, 40, 70, 80, 90] (by decide)
  have available : (after [40, 41, 40, 42, 40, 40, 43, 40, 40, 70, 80, 90]).rttCalculator.getRtt =
      some 40 := by decide +kernel
  rw [available] at estimate
  exact ⟨available, estimate.2.1 (by decide)⟩

/-- A link with a constant delay has that delay, and not none; and raising the last of ten samples
from 50 to 98 raises the estimate to 98 and lowers the delay from 33 to 1. -/
theorem constant_delay_kept :
    (after (List.replicate 12 40)).rttCalculator.getRtt = some 40 ∧
      (after (List.replicate 12 40)).avgDelay = 40 ∧
      (after (List.replicate 9 100 ++ [50])).avgDelay = 33 ∧
      (after (List.replicate 9 100 ++ [98])).avgDelay = 1 := by
  decide +kernel

end ChainRemote.Server.NetworkDelay
