import Mathlib.Algebra.Order.Floor.Div
import ChainRemote.Lib.Machine
import ChainRemote.Server.NetworkDelay

/-!
# The frame rate of a viewer

`video_qos.rs` keeps for each viewer a frame rate that follows the delay of its network, and sends
at the lowest of them. The ratios of the bitrate are in hundredths and instants in nanoseconds. A
viewer's id leads to its data; the order in which a hash map goes through them is any, and can
change at any time.
-/

namespace ChainRemote.Server.FrameRate

open Lib
open NetworkDelay (RttCalculator after after_tracks delayThreshold150ms windowSamples)

/-! ## Samples of any size -/

/-- A number as a single float: the nearest with 24 bits, and of two the one that is even. -/
def single (n : Nat) : Nat :=
  let unit := 2 ^ (n.log2 - 23)
  let rest := n % unit
  if 2 * rest > unit ∨ (2 * rest = unit ∧ n / unit % 2 = 1) then n / unit * unit + unit
  else n / unit * unit

/-- The weighted average in `RttCalculator::update`, in single floats and cut to 32 bits. -/
def weighted (min windowMin : Nat) : Nat :=
  Nat.min (single (single min + single windowMin) / 2) 4294967295

/-- `RttCalculator::update` with some way to average. -/
def updateWith (average : Nat → Nat → Nat) (calculator : RttCalculator) (delay : Nat) :
    RttCalculator :=
  let updated := calculator.update delay
  { updated with
    smoothedRtt :=
      if updated.samples.length ≥ windowSamples then
        match updated.minRtt, updated.windowMinRtt with
        | some min, some windowMin => some (average min windowMin)
        | _, _ => calculator.smoothedRtt
      else calculator.smoothedRtt }

/-- `add_delay`. -/
def addDelay (delays : NetworkDelay.UserDelay) (delay : Nat) : NetworkDelay.UserDelay :=
  { delays.addDelay delay with rttCalculator := updateWith weighted delays.rttCalculator delay }

theorem single_small {n : Nat} (small : n < 16777216) : single n = n := by
  have exponent : n.log2 - 23 = 0 := by
    by_cases none : n = 0
    · rw [none]
      decide
    · have short : n.log2 < 24 := (Nat.log2_lt none).mpr small
      omega
  unfold single
  rw [exponent, Nat.pow_zero]
  dsimp only
  rw [Nat.mod_one, Nat.div_one, Nat.mul_one]
  exact if_neg (by omega)

/-- Below 2²³ the average is the middle. -/
theorem weighted_small {min windowMin : Nat} (small : min < 8388608)
    (also : windowMin < 8388608) : weighted min windowMin = (min + windowMin) / 2 := by
  have first : single min = min := single_small (by omega)
  have second : single windowMin = windowMin := single_small (by omega)
  unfold weighted
  rw [first, second, single_small (by omega)]
  exact Nat.min_eq_left (by omega)

/-- Samples below 2²³ are added as with exact numbers. -/
theorem addDelay_after {delays : List Nat} {delay : Nat}
    (small : ∀ known ∈ delays ++ [delay], known < 8388608) :
    addDelay (after delays) delay = after (delays ++ [delay]) := by
  have step : after (delays ++ [delay]) = (after delays).addDelay delay := List.foldl_append
  have tracks := after_tracks (delays ++ [delay])
  rw [step] at tracks ⊢
  have same : updateWith weighted (after delays).rttCalculator delay =
      updateWith (fun min windowMin => (min + windowMin) / 2) (after delays).rttCalculator
        delay := by
    unfold updateWith
    dsimp only
    cases least : ((after delays).rttCalculator.update delay).minRtt with
    | none => rfl
    | some min =>
      cases windowLeast : ((after delays).rttCalculator.update delay).windowMinRtt with
      | none => rfl
      | some windowMin =>
        have below : min < 8388608 :=
          small min (List.min?_mem (tracks.minRtt.symm.trans least))
        have inside : windowMin ∈ (delays ++ [delay]).rtake windowSamples :=
          tracks.samples ▸ List.min?_mem windowLeast
        have also : windowMin < 8388608 := small windowMin (rtake_subset _ _ inside)
        dsimp only
        rw [weighted_small below also]
  unfold addDelay
  rw [same]
  rfl

/-! ## `VideoQoS` -/

/-- `FPS`. -/
def standardFps : Nat := 30

/-- `MIN_FPS`. -/
def minFps : Nat := 1

/-- `MAX_FPS`. -/
def maxFps : Nat := 120

/-- `INIT_FPS`. -/
def initFps : Nat := 15

/-- `clamp`. -/
def clamp (value low high : Nat) : Nat :=
  if value < low then low else if value > high then high else value

theorem clamp_eq {value low high : Nat} (range : low ≤ high) :
    clamp value low high = max low (min value high) := by
  unfold clamp
  split
  · omega
  · split <;> omega

theorem clamp_bounds {value low high : Nat} (range : low ≤ high) :
    low ≤ clamp value low high ∧ clamp value low high ≤ high := by
  rw [clamp_eq range]
  omega

/-- `Quality`. -/
inductive Quality
  | best
  | balanced
  | low
  | custom (ratio : Nat)
deriving DecidableEq, Repr

/-- `BR_BEST`. -/
def brBest : Nat := 150

/-- `BR_BALANCED`. -/
def brBalanced : Nat := 67

/-- `BR_SPEED`. -/
def brSpeed : Nat := 50

/-- `BR_MIN`. -/
def brMin : Nat := 20

/-- `BR_MAX`. -/
def brMax : Nat := 4000

/-- `Quality::ratio`. -/
def Quality.ratio : Quality → Nat
  | .best => brBest
  | .balanced => brBalanced
  | .low => brSpeed
  | .custom ratio => ratio

/-- The value of an option: one of the enumeration, or another one. -/
inductive ImageQuality
  | balanced
  | low
  | best
  | other (value : Int32)
deriving DecidableEq, Repr

/-- `convert_quality` in `user_image_quality`. -/
def convertQuality : ImageQuality → Quality
  | .balanced => .balanced
  | .low => .low
  | .best => .best
  | .other value => .custom (clamp ((value >>> 8 &&& 0xfff).toInt.toNat * 2) brMin brMax)

/-- `UserDelay`; its samples are in `network`. -/
structure UserDelay where
  responseDelayed : Bool := false
  network : NetworkDelay.UserDelay := {}
  fps : Option Nat := none
  quickIncreaseFpsCount : Nat := 0
  increaseFpsCount : Nat := 0
deriving DecidableEq, Repr

/-- `UserData`. -/
structure UserData where
  autoAdjustFps : Option Nat := none
  customFps : Option Nat := none
  quality : Option (Int × Quality) := none
  delay : UserDelay := {}
deriving DecidableEq, Repr

/-- `VideoQoS`, as far as the frame rate uses it. -/
structure VideoQoS where
  fps : Nat := standardFps
  users : List (Int × UserData) := []
  newUserInstant : Nat := 0
deriving DecidableEq, Repr

/-- `user_fps` in `highest_fps`. -/
def UserData.fps (user : UserData) : Nat :=
  let fps := user.customFps.getD standardFps
  match user.autoAdjustFps with
  | some autoAdjustFps => if fps = 0 ∨ autoAdjustFps < fps then autoAdjustFps else fps
  | none => fps

/-- The adjustment in `user_network_delay`: the frame rate and `quick_increase_fps_count`. -/
def adaptFps (lowFps normalFps fps oldAvgDelay avgDelay quick : Nat) : Nat × Nat :=
  let dividendMs := delayThreshold150ms * lowFps
  if avgDelay < 50 then
    let quick := quick + 1
    let step := if fps < normalFps then 1 else 0
    if quick ≥ 3 then (max lowFps (fps + 5), 0) else (max lowFps (fps + step), quick)
  else if avgDelay < 100 then
    let step := if avgDelay < oldAvgDelay then if fps < normalFps then 1 else 0 else 0
    (max lowFps (fps + step), quick)
  else if avgDelay < delayThreshold150ms then (max lowFps fps, quick)
  else
    let devideFps := (fps * delayThreshold150ms) ⌈/⌉ avgDelay
    if avgDelay < 200 then (max lowFps devideFps, quick)
    else if avgDelay < 300 then (min lowFps devideFps, quick)
    else if avgDelay < 600 then (dividendMs / avgDelay, quick)
    else (min (dividendMs / avgDelay) devideFps, quick)

/-- What `user_network_delay` makes of a viewer. -/
def UserData.networkDelay (user : UserData) (highestFps lowFps normalFps fps delay : Nat) :
    UserData :=
  let oldAvgDelay := user.delay.network.avgDelay
  let network := addDelay user.delay.network (max delay 10)
  let avgDelay := max network.avgDelay 10
  let (fps, quick) := adaptFps lowFps normalFps fps oldAvgDelay avgDelay
    user.delay.quickIncreaseFpsCount
  let increase := if avgDelay < delayThreshold150ms then user.delay.increaseFpsCount + 1 else 0
  let (increase, fps) := if increase ≥ 3 then (0, fps + 1) else (increase, fps)
  let quick := if avgDelay > 50 then 0 else quick
  { user with
    delay :=
      { user.delay with
        network
        fps := some (clamp fps minFps highestFps)
        quickIncreaseFpsCount := quick
        increaseFpsCount := increase } }

namespace VideoQoS

variable (s : VideoQoS)

/-- `users.get`. -/
def user (id : Int) : Option UserData := s.users.lookup id

/-- `users.get_mut`, and what is done with it. -/
def modify (id : Int) (change : UserData → UserData) : VideoQoS :=
  { s with users := s.users.map fun (other, user) =>
      if other == id then (other, change user) else (other, user) }

/-- `highest_fps`. -/
def highestFps : Nat :=
  let rates := (s.users.map fun user => user.2.fps).filter fun fps => fps ≥ minFps
  clamp (rates.min?.getD standardFps) minFps maxFps

/-- `latest_quality`: of several with one time the last. -/
def latestQuality : Quality :=
  let latest := (s.users.filterMap fun user => user.2.quality).foldl (fun latest quality =>
    match latest with
    | none => some quality
    | some known => if known.1 ≤ quality.1 then some quality else some known) none
  (latest.map Prod.snd).getD .balanced

/-- `min_fps` and `normal_fps` in `user_network_delay`. -/
def qualityFps : Nat × Nat :=
  let targetRatio := s.latestQuality.ratio
  if targetRatio ≥ brBest then (8, 16)
  else if targetRatio ≥ brBalanced then (10, 20)
  else (12, 24)

/-- `adjust_fps`. -/
def adjustFps (now : Nat) : VideoQoS :=
  let fps := (s.users.map fun user => user.2.delay.fps.getD initFps).min?.getD initFps
  let fps :=
    if s.users.any fun user => user.2.delay.responseDelayed then
      if fps > minFps + 1 then minFps + 1 else fps
    else fps
  let fps := if now - s.newUserInstant < 1000000000 then if fps > initFps then initFps else fps
    else fps
  { s with fps := clamp fps minFps s.highestFps }

/-- `on_connection_open`. -/
def onConnectionOpen (id : Int) (now : Nat) : VideoQoS :=
  { s with
    users := (s.users.filter fun user => user.1 ≠ id) ++ [(id, {})]
    newUserInstant := now }

/-- `on_connection_close`. -/
def onConnectionClose (id : Int) (now : Nat) : VideoQoS :=
  let users := s.users.filter fun user => user.1 ≠ id
  if users.isEmpty then { newUserInstant := now } else { s with users }

/-- `user_custom_fps`. -/
def userCustomFps (id : Int) (fps : Nat) : VideoQoS :=
  if fps < minFps ∨ fps > maxFps then s
  else s.modify id fun user => { user with customFps := some fps }

/-- `user_auto_adjust_fps`. -/
def userAutoAdjustFps (id : Int) (fps : Nat) : VideoQoS :=
  if fps < minFps ∨ fps > maxFps then s
  else s.modify id fun user => { user with autoAdjustFps := some fps }

/-- `user_image_quality`. -/
def userImageQuality (id time : Int) (imageQuality : ImageQuality) : VideoQoS :=
  s.modify id fun user => { user with quality := some (time, convertQuality imageQuality) }

/-- `user_network_delay`. -/
def userNetworkDelay (id : Int) (delay now : Nat) : VideoQoS :=
  let (lowFps, normalFps) := s.qualityFps
  (s.modify id fun user =>
    user.networkDelay s.highestFps lowFps normalFps s.fps delay).adjustFps now

/-- `user_delay_response_elapsed`. -/
def userDelayResponseElapsed (id : Int) (elapsed now : Nat) : VideoQoS :=
  let responseDelayed := elapsed > 2000
  let s' := s.modify id fun user =>
    { user with
      delay :=
        { user.delay with
          responseDelayed
          network :=
            if responseDelayed then addDelay user.delay.network (elapsed % 4294967296)
            else user.delay.network } }
  if (s.user id).isSome ∧ responseDelayed then s'.adjustFps now else s'

end VideoQoS

/-- The calls. -/
inductive Event
  | open (id : Int) (now : Nat)
  | close (id : Int) (now : Nat)
  | customFps (id : Int) (fps : Nat)
  | autoAdjustFps (id : Int) (fps : Nat)
  | imageQuality (id time : Int) (imageQuality : ImageQuality)
  | networkDelay (id : Int) (delay now : Nat)
  | responseElapsed (id : Int) (elapsed now : Nat)
  /-- `update_display_data`. -/
  | displayData (now : Nat)
  /-- The order of the hash map. -/
  | order (users : List (Int × UserData))

/-- `VIDEO_QOS` over the calls. -/
def videoQos : Machine VideoQoS Event where
  start s := ∃ now, s = { newUserInstant := now }
  step s
    | .open id now => some (s.onConnectionOpen id now)
    | .close id now => some (s.onConnectionClose id now)
    | .customFps id fps => some (s.userCustomFps id fps)
    | .autoAdjustFps id fps => some (s.userAutoAdjustFps id fps)
    | .imageQuality id time imageQuality => some (s.userImageQuality id time imageQuality)
    | .networkDelay id delay now => some (s.userNetworkDelay id delay now)
    | .responseElapsed id elapsed now => some (s.userDelayResponseElapsed id elapsed now)
    | .displayData now => some (s.adjustFps now)
    | .order users => if users.Perm s.users then some { s with users } else none

/-! ## The rate for one estimate -/

namespace UserData

variable (user : UserData)

/-- The delay that `user_network_delay` goes by. -/
def estimate (delay : Nat) : Nat := max (addDelay user.delay.network (max delay 10)).avgDelay 10

/-- The frame rate for an estimate, before it is kept within its bounds. -/
def aim (lowFps normalFps fps avgDelay : Nat) : Nat :=
  (adaptFps lowFps normalFps fps user.delay.network.avgDelay avgDelay
      user.delay.quickIncreaseFpsCount).1 +
    if avgDelay < delayThreshold150ms ∧ 2 ≤ user.delay.increaseFpsCount then 1 else 0

variable {user : UserData} {highestFps lowFps normalFps fps : Nat}

theorem networkDelay_fps (delay : Nat) :
    (user.networkDelay highestFps lowFps normalFps fps delay).delay.fps =
      some (clamp (user.aim lowFps normalFps fps (user.estimate delay)) minFps highestFps) := by
  unfold networkDelay aim estimate
  dsimp only
  generalize max (addDelay user.delay.network (max delay 10)).avgDelay 10 = avgDelay
  by_cases good : avgDelay < delayThreshold150ms
  · rw [if_pos good]
    by_cases streak : 2 ≤ user.delay.increaseFpsCount
    · rw [if_pos (show _ ≥ 3 by omega), if_pos ⟨good, streak⟩]
    · rw [if_neg (show ¬ _ ≥ 3 by omega), if_neg fun both => streak both.2]
      rfl
  · rw [if_neg good, if_neg (by decide), if_neg fun both => good both.1]
    rfl

section Aim

variable {oldAvgDelay quick first second avgDelay : Nat}

/-- By how much the rate grows on a good network. -/
def growth (normalFps fps oldAvgDelay avgDelay quick : Nat) : Nat :=
  if avgDelay < 50 then
    if quick + 1 ≥ 3 then 5 else if fps < normalFps then 1 else 0
  else if avgDelay < 100 ∧ avgDelay < oldAvgDelay ∧ fps < normalFps then 1
  else 0

theorem adaptFps_good (good : avgDelay < delayThreshold150ms) :
    (adaptFps lowFps normalFps fps oldAvgDelay avgDelay quick).1 =
      max lowFps (fps + growth normalFps fps oldAvgDelay avgDelay quick) := by
  unfold adaptFps growth
  dsimp only
  by_cases fast : avgDelay < 50
  · rw [if_pos fast, if_pos fast]
    split <;> rfl
  · rw [if_neg fast, if_neg fast]
    by_cases fair : avgDelay < 100
    · rw [if_pos fair]
      dsimp only
      congr 2
      split
      · split <;> split <;> omega
      · split <;> omega
    · rw [if_neg fair, if_pos good, if_neg fun all => fair all.1]
      rfl

/-- A higher delay lets the rate grow by no more. -/
theorem growth_anti (order : first ≤ second) :
    growth normalFps fps oldAvgDelay second quick ≤
      growth normalFps fps oldAvgDelay first quick := by
  unfold growth
  by_cases fast : second < 50
  · have also : first < 50 := Nat.lt_of_le_of_lt order fast
    rw [if_pos fast, if_pos also]
  · rw [if_neg fast]
    split
    · split <;> split <;> first | omega | split <;> omega
    · split <;> split <;> omega

/-- The rate that is left of the current one on a bad network, rounded up. -/
def reduced (fps avgDelay : Nat) : Nat := (fps * delayThreshold150ms) ⌈/⌉ avgDelay

theorem adaptFps_bad (bad : delayThreshold150ms ≤ avgDelay) :
    (adaptFps lowFps normalFps fps oldAvgDelay avgDelay quick).1 =
      if avgDelay < 200 then max lowFps (reduced fps avgDelay)
      else if avgDelay < 300 then min lowFps (reduced fps avgDelay)
      else if avgDelay < 600 then delayThreshold150ms * lowFps / avgDelay
      else min (delayThreshold150ms * lowFps / avgDelay) (reduced fps avgDelay) := by
  have threshold : delayThreshold150ms = 150 := rfl
  unfold adaptFps reduced
  dsimp only
  rw [if_neg (by omega), if_neg (by omega), if_neg (Nat.not_lt_of_le bad)]
  split
  · rfl
  · split
    · rfl
    · split <;> rfl

theorem reduced_le_iff (positive : 0 < avgDelay) (rate : Nat) :
    reduced fps avgDelay ≤ rate ↔ fps * delayThreshold150ms ≤ avgDelay * rate :=
  ceilDiv_le_iff_le_mul positive

/-- On a bad network less is left of the current rate. -/
theorem reduced_le (bad : delayThreshold150ms ≤ avgDelay) : reduced fps avgDelay ≤ fps := by
  have positive : 0 < avgDelay := Nat.lt_of_lt_of_le (by decide) bad
  rw [reduced_le_iff positive, Nat.mul_comm avgDelay]
  exact Nat.mul_le_mul_left fps bad

/-- Of a higher delay less is left. -/
theorem reduced_anti (positive : 0 < first) (order : first ≤ second) :
    reduced fps second ≤ reduced fps first := by
  rw [reduced_le_iff (Nat.lt_of_lt_of_le positive order)]
  have enough := (reduced_le_iff positive _).mp (Nat.le_refl (reduced fps first))
  exact Nat.le_trans enough (Nat.mul_le_mul_right _ order)

theorem reduced_pos (positive : 0 < avgDelay) (running : 1 ≤ fps) : 1 ≤ reduced fps avgDelay := by
  by_contra none
  have zero : reduced fps avgDelay ≤ 0 := by omega
  have threshold : delayThreshold150ms = 150 := rfl
  rw [reduced_le_iff positive, Nat.mul_zero, threshold] at zero
  omega

/-- On a bad network the rate is not above the current one and the low one. -/
theorem adaptFps_bad_le (bad : delayThreshold150ms ≤ avgDelay) :
    (adaptFps lowFps normalFps fps oldAvgDelay avgDelay quick).1 ≤ max lowFps fps := by
  have left := @reduced_le fps avgDelay bad
  have quotient : delayThreshold150ms * lowFps / avgDelay ≤ lowFps :=
    Nat.div_le_of_le_mul (Nat.mul_le_mul_right _ bad)
  rw [adaptFps_bad bad]
  split
  · omega
  · split
    · omega
    · split <;> omega

/-- The rate for a delay from 300 to 600, which the current one does not count for, is above what
is left of the current one for a delay from 200 to 300. -/
def Overtakes (highestFps lowFps fps first second : Nat) : Prop :=
  200 ≤ first ∧ first < 300 ∧ 300 ≤ second ∧ second < 600 ∧
    fps * delayThreshold150ms ≤
      first * (min highestFps (delayThreshold150ms * lowFps / second) - 1)

/-- On a bad network a higher delay has a higher rate in that case only. -/
theorem adaptFps_bad_iff (bad : delayThreshold150ms ≤ first) (order : first ≤ second)
    (running : 1 ≤ fps) (some : minFps ≤ highestFps) (low : 8 ≤ lowFps) :
    clamp (adaptFps lowFps normalFps fps oldAvgDelay second quick).1 minFps highestFps ≤
        clamp (adaptFps lowFps normalFps fps oldAvgDelay first quick).1 minFps highestFps ↔
      ¬ Overtakes highestFps lowFps fps first second := by
  have threshold : delayThreshold150ms = 150 := rfl
  have least : minFps = 1 := rfl
  have worse : delayThreshold150ms ≤ second := Nat.le_trans bad order
  have fewer := @reduced_anti fps first second (by omega) order
  have left := @reduced_pos fps second (by omega) running
  have quotients : delayThreshold150ms * lowFps / second ≤ delayThreshold150ms * lowFps / first :=
    Nat.div_le_div_left order (by omega)
  have quotient : delayThreshold150ms * lowFps / second ≤ lowFps :=
    Nat.div_le_of_le_mul (Nat.mul_le_mul_right _ worse)
  have several : second < 600 → 2 ≤ delayThreshold150ms * lowFps / second := by
    intro below
    rw [Nat.le_div_iff_mul_le (by omega), threshold]
    omega
  have behind := @reduced_le_iff fps first (by omega)
    (min highestFps (delayThreshold150ms * lowFps / second) - 1)
  unfold Overtakes
  rw [adaptFps_bad bad, adaptFps_bad worse, clamp_eq some, clamp_eq some, ← behind]
  generalize delayThreshold150ms * lowFps / second = later at *
  generalize delayThreshold150ms * lowFps / first = earlier at *
  generalize reduced fps first = more at *
  generalize reduced fps second = less at *
  split
  · split <;> omega
  · split
    · split
      · omega
      · split <;> omega
    · -- The rate for a delay from 300 to 600 is `later`, for one from 200 to 300 at most `more`.
      have cases : first < 200 ∨ (200 ≤ first ∧ first < 300) ∨ 300 ≤ first := by omega
      rcases cases with slow | between | slowest
      · rw [if_pos slow]
        split <;> omega
      · rw [if_neg (Nat.not_lt_of_le between.1), if_pos between.2]
        split <;> omega
      · rw [if_neg (show ¬ first < 200 by omega), if_neg (Nat.not_lt_of_le slowest)]
        split
        · rw [if_pos (by omega)]
          omega
        · split <;> omega

/-- As for a rate below the bounds, so for the rate that is kept within them. -/
theorem clamp_aim_iff (order : first ≤ second) (running : 1 ≤ fps) (some : minFps ≤ highestFps)
    (low : 8 ≤ lowFps) :
    clamp (user.aim lowFps normalFps fps second) minFps highestFps ≤
        clamp (user.aim lowFps normalFps fps first) minFps highestFps ↔
      ¬ Overtakes highestFps lowFps fps first second := by
  have threshold : delayThreshold150ms = 150 := rfl
  have raised : ∀ {less more : Nat}, less ≤ more →
      clamp less minFps highestFps ≤ clamp more minFps highestFps := by
    intro less more below
    rw [clamp_eq some, clamp_eq some]
    omega
  unfold aim
  by_cases bad : delayThreshold150ms ≤ first
  · have worse : delayThreshold150ms ≤ second := Nat.le_trans bad order
    rw [if_neg fun good => Nat.not_lt_of_le worse good.1,
      if_neg fun good => Nat.not_lt_of_le bad good.1]
    exact adaptFps_bad_iff bad order running some low
  · have good : first < delayThreshold150ms := Nat.lt_of_not_le bad
    refine iff_of_true (raised ?_) ?_
    · rw [adaptFps_good good]
      by_cases worse : delayThreshold150ms ≤ second
      · have most := @adaptFps_bad_le lowFps normalFps fps user.delay.network.avgDelay
          user.delay.quickIncreaseFpsCount second worse
        rw [if_neg fun good => Nat.not_lt_of_le worse good.1]
        omega
      · have also : second < delayThreshold150ms := Nat.lt_of_not_le worse
        have fewer := @growth_anti normalFps fps user.delay.network.avgDelay
          user.delay.quickIncreaseFpsCount first second order
        rw [adaptFps_good also]
        by_cases streak : 2 ≤ user.delay.increaseFpsCount
        · rw [if_pos ⟨also, streak⟩, if_pos ⟨good, streak⟩]
          omega
        · rw [if_neg fun both => streak both.2, if_neg fun both => streak both.2]
          omega
    · rintro ⟨slow, -⟩
      omega

theorem aim_bad_le (bad : delayThreshold150ms ≤ avgDelay) :
    user.aim lowFps normalFps fps avgDelay ≤ max lowFps fps := by
  unfold aim
  rw [if_neg fun good => Nat.not_lt_of_le bad good.1]
  exact adaptFps_bad_le bad

end Aim

end UserData

/-! ## Two delays in one state -/

namespace VideoQoS

variable {s : VideoQoS} {id : Int} {user : UserData}

theorem user_modify {change : UserData → UserData} (present : s.user id = some user) :
    (s.modify id change).user id = some (change user) := by
  unfold VideoQoS.user at present ⊢
  unfold modify
  dsimp only
  generalize s.users = users at present
  induction users with
  | nil => cases present
  | cons first users ih =>
    rw [List.lookup_cons] at present
    rw [List.map_cons, List.lookup_cons]
    by_cases own : first.1 = id
    · rw [own, beq_self_eq_true] at present
      dsimp only at present
      rw [own, beq_self_eq_true, if_pos rfl, beq_self_eq_true, Option.some.inj present]
    · have other : (id == first.1) = false := beq_false_of_ne (Ne.symm own)
      have same : (first.1 == id) = false := beq_false_of_ne own
      rw [other] at present
      rw [same, if_neg Bool.false_ne_true, other]
      exact ih present

/-- The highest rate is one of those that are allowed. -/
theorem highestFps_bounds (s : VideoQoS) : minFps ≤ s.highestFps ∧ s.highestFps ≤ maxFps :=
  clamp_bounds (by decide)

theorem adjustFps_bounds (now : Nat) :
    minFps ≤ (s.adjustFps now).fps ∧ (s.adjustFps now).fps ≤ s.highestFps :=
  clamp_bounds s.highestFps_bounds.1

theorem qualityFps_le (s : VideoQoS) : 8 ≤ s.qualityFps.1 := by
  unfold qualityFps
  dsimp only
  split
  · exact Nat.le_refl _
  · split <;> decide

/-- Calls keep the rate above none. -/
theorem step_running {e : Event} {t : VideoQoS} (running : minFps ≤ s.fps)
    (next : videoQos.step s e = some t) : minFps ≤ t.fps := by
  cases e with
  | «open» id now => exact Option.some.inj next ▸ running
  | close id now =>
    obtain rfl := Option.some.inj next
    unfold onConnectionClose
    dsimp only
    split
    · exact Nat.le_of_ble_eq_true rfl
    · exact running
  | customFps id fps =>
    obtain rfl := Option.some.inj next
    unfold userCustomFps
    split <;> exact running
  | autoAdjustFps id fps =>
    obtain rfl := Option.some.inj next
    unfold userAutoAdjustFps
    split <;> exact running
  | imageQuality id time imageQuality => exact Option.some.inj next ▸ running
  | networkDelay id delay now =>
    obtain rfl := Option.some.inj next
    exact (adjustFps_bounds now).1
  | responseElapsed id elapsed now =>
    obtain rfl := Option.some.inj next
    unfold userDelayResponseElapsed
    dsimp only
    split
    · exact (adjustFps_bounds now).1
    · exact running
  | displayData now =>
    obtain rfl := Option.some.inj next
    exact (adjustFps_bounds now).1
  | order users =>
    unfold videoQos at next
    dsimp only at next
    split at next
    · exact Option.some.inj next ▸ running
    · cases next

theorem reached_running (reached : videoQos.Reaches Machine.free s) : minFps ≤ s.fps := by
  refine reached.invariant (fun s => minFps ≤ s.fps) ?_ ?_
  · rintro s ⟨now, rfl⟩
    exact Nat.le_of_ble_eq_true rfl
  · intro s e t running _ next
    exact step_running running next

/-- The rate that is stored for a viewer. -/
def rate (s : VideoQoS) (id : Int) : Option Nat := (s.user id).bind fun user => user.delay.fps

theorem rate_networkDelay (present : s.user id = some user) (delay now : Nat) :
    (s.userNetworkDelay id delay now).rate id =
      some (clamp (user.aim s.qualityFps.1 s.qualityFps.2 s.fps (user.estimate delay)) minFps
        s.highestFps) := by
  have changed : (s.userNetworkDelay id delay now).user id =
      some (user.networkDelay s.highestFps s.qualityFps.1 s.qualityFps.2 s.fps delay) :=
    @user_modify s id user (UserData.networkDelay · s.highestFps s.qualityFps.1 s.qualityFps.2 s.fps
      delay) present
  unfold rate
  rw [changed]
  exact UserData.networkDelay_fps delay

/-- A delay and a worse one: the worse one gives no higher rate, both rates are within their bounds,
and on a bad network the rate is not above the current one and the low one. -/
def Slower (s : VideoQoS) (id : Int) (user : UserData) (delay worse now later : Nat) : Prop :=
  ∃ first second, (s.userNetworkDelay id delay now).rate id = some first ∧
    (s.userNetworkDelay id worse later).rate id = some second ∧ second ≤ first ∧
    (minFps ≤ first ∧ first ≤ s.highestFps) ∧ (minFps ≤ second ∧ second ≤ s.highestFps) ∧
    (delayThreshold150ms ≤ user.estimate worse → second ≤ max s.fps s.qualityFps.1)

/-- A worse network gives no higher rate, unless the rate for a delay from 300 to 600, which the
current one does not count for, overtakes what is left of that for a delay from 200 to 300. -/
theorem worse_network_iff (reached : videoQos.Reaches Machine.free s)
    (present : s.user id = some user) {delay worse now later : Nat}
    (order : user.estimate delay ≤ user.estimate worse) :
    s.Slower id user delay worse now later ↔
      ¬ UserData.Overtakes s.highestFps s.qualityFps.1 s.fps (user.estimate delay)
        (user.estimate worse) := by
  have running : minFps ≤ s.fps := reached_running reached
  have highest : minFps ≤ s.highestFps := s.highestFps_bounds.1
  have low : 8 ≤ s.qualityFps.1 := s.qualityFps_le
  have least : minFps = 1 := rfl
  rw [← UserData.clamp_aim_iff order running highest low]
  have first := rate_networkDelay present delay now
  have second := rate_networkDelay present worse later
  constructor
  · rintro ⟨rate, lower, known, also, slower, -⟩
    rw [first] at known
    rw [second] at also
    rwa [Option.some.inj known, Option.some.inj also]
  · intro slower
    refine ⟨_, _, first, second, slower, clamp_bounds highest, clamp_bounds highest, ?_⟩
    intro bad
    have most := @UserData.aim_bad_le user s.qualityFps.1 s.qualityFps.2 s.fps
      (user.estimate worse) bad
    rw [clamp_eq highest]
    omega

/-- A new viewer whose network gets slower. -/
theorem slower_network :
    ∃ s user, videoQos.Reaches Machine.free s ∧ s.user 1 = some user ∧
      user.estimate 100 = 100 ∧ user.estimate 200 = 200 ∧ s.Slower 1 user 100 200 0 0 := by
  have reached : videoQos.Reaches Machine.free _ :=
    ⟨{}, ⟨0, rfl⟩, .step (.open 1 0) .refl trivial rfl⟩
  have estimates : ({} : UserData).estimate 100 = 100 ∧ ({} : UserData).estimate 200 = 200 := by
    decide +kernel
  refine ⟨_, {}, reached, rfl, estimates.1, estimates.2, ?_⟩
  refine (worse_network_iff reached rfl ?_).mpr ?_
  · rw [estimates.1, estimates.2]
    decide
  · rw [estimates.1]
    rintro ⟨slow, -⟩
    cases Nat.not_le_of_lt (by decide) slow

/-- At one frame a second, an estimate of 240 leaves it there and one of 340 raises it to four. -/
theorem slower_network_faster :
    ∃ s user, videoQos.Reaches Machine.free s ∧ s.user 1 = some user ∧ s.fps = 1 ∧
      user.estimate 700 = 240 ∧ user.estimate 1000 = 340 ∧
      (s.userNetworkDelay 1 700 0).rate 1 = some 1 ∧
      (s.userNetworkDelay 1 1000 0).rate 1 = some 4 := by
  have run := Machine.runs_play videoQos Machine.free {}
    [.open 1 0, .networkDelay 1 3000 0, .networkDelay 1 10 0, .networkDelay 1 10 0]
  refine ⟨_, _, ⟨{}, ⟨0, rfl⟩, run⟩, rfl, ?_⟩
  decide +kernel

end VideoQoS

end ChainRemote.Server.FrameRate
