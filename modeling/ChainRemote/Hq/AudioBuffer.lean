import ChainRemote.Lib.Machine
import ChainRemote.Lib.RingBuffer
import Mathlib.Logic.Function.Basic
import Mathlib.Data.List.Count
import Mathlib.Tactic.Linarith

/-!
# The audio buffer of the viewer

`AudioBuffer` of `src/client.rs` holds up to three seconds of sound between the frames that arrive
and the device that plays them. When the device falls behind, the sound lags. So after each frame
`try_shrink` counts how much is buffered, in tenths of a second, and every twelve seconds drops some
of what was never needed in that time.

The device plays from a thread of its own, between a frame and the shrinking after it as well. The
time of the last check is shared by all buffers. What was received, played and measured is history.
-/

namespace ChainRemote.Hq.Audio

open Lib

variable {α : Type}

/-- `AUDIO_BUFFER_MS`. -/
def audioBufferMs : Nat := 3000

/-- `AudioBuffer`: the samples, how many of them a second has, and how often which level was met. -/
structure AudioBuffer (α : Type) where
  ring : RingBuffer α
  rate : Nat
  stats : Nat → Nat

namespace AudioBuffer

/-- `AudioBuffer::default`. -/
def default : AudioBuffer α where
  ring := .new (48000 * 2 * audioBufferMs / 1000)
  rate := 48000 * 2
  stats := fun _ => 0

/-- `resize`. -/
def resize (b : AudioBuffer α) (sampleRate channels : Nat) : AudioBuffer α :=
  let capacity := sampleRate * channels * audioBufferMs / 1000
  if capacity ≠ b.ring.capacity then
    { b with ring := .new capacity, rate := sampleRate * channels }
  else b

/-- `append_pcm2`: the samples afterwards, and how many there are. -/
def appendPcm2 (ring : RingBuffer α) (buffer : List α) : RingBuffer α × Nat :=
  let cap := ring.capacity
  if buffer.length > cap then (ring.pushOverwrite buffer, cap)
  else
    let having := ring.occupied + buffer.length
    let ring := (if having > cap then ring.skip (having - cap) else ring).pushOverwrite buffer
    (ring, ring.occupied)

/-- The loop over the levels: the counts, how many levels at the bottom were not met, and the level
that was met most often. -/
structure Scan where
  counts : Nat → Nat
  zero : Nat
  max : Nat

/-- One round of the loop. -/
def Scan.visit (s : Scan) (i : Nat) : Scan :=
  let zero := if s.counts i = 0 ∧ s.zero = i then s.zero + 1 else s.zero
  if s.counts i > s.counts s.max then
    { counts := Function.update s.counts s.max 0, zero, max := i }
  else { counts := Function.update s.counts i 0, zero, max := s.max }

/-- The loop. -/
def scan (counts : Nat → Nat) : Scan := (List.range 30).foldl Scan.visit ⟨counts, 0, 0⟩

/-- The level of so many samples. -/
def level (having rate : Nat) : Nat := min (having * 10 / rate) 29

/-- How many samples go for a level. -/
def skipOf (cap max : Nat) : Nat := (cap * max / (30 * 4) + 1) / 2 * 2

/-- `try_shrink` counts the level. -/
def counted (b : AudioBuffer α) (having : Nat) : Nat → Nat :=
  let i := level having b.rate
  Function.update b.stats i (b.stats i + 1)

/-- `try_shrink` after twelve seconds, with the counts of that time. -/
def shrink (b : AudioBuffer α) (stats : Nat → Nat) : AudioBuffer α × Nat :=
  let seen := scan stats
  let zero := seen.zero * 2 / 3
  let b := { b with stats := Function.update seen.counts seen.max 0 }
  if seen.max < 6 then (b, 0)
  else
    let max := if seen.max > zero * 4 then zero * 4 else seen.max
    let skip := skipOf b.ring.capacity max
    if b.ring.occupied > skip * 3 ∧ skip > 0 then ({ b with ring := b.ring.skip skip }, skip)
    else (b, 0)

/-- `try_shrink`: the buffer and the time of the last check afterwards, and how many samples were
dropped. -/
def tryShrink (b : AudioBuffer α) (having now tms : Nat) : AudioBuffer α × Nat × Nat :=
  let stats := b.counted having
  if tms = 0 then ({ b with stats }, now, 0)
  else if now < tms + 12000 then ({ b with stats }, tms, 0)
  else
    let (b, dropped) := b.shrink stats
    (b, now, dropped)

end AudioBuffer

/-- Samples that were dropped. -/
structure Drop where
  time : Nat
  skip : Nat
  /-- How many there were before. -/
  before : Nat
  rate : Nat
  /-- What was measured since the last check, each with the rate of the time. -/
  levels : List (Nat × Nat)

/-- The buffer, what it shares with others, and the history. -/
structure State (α : Type) where
  buffer : AudioBuffer α
  tms : Nat
  /-- How many samples there were after a frame, until `try_shrink` counts them. -/
  having : Option Nat
  channels : Nat
  /-- Since the buffer was made. -/
  received : List α
  played : List α
  levels : List (Nat × Nat)
  drops : List Drop

/-- What happens to the buffer. -/
inductive Event (α : Type)
  /-- `build_output_stream` for a device. -/
  | resize (sampleRate channels : Nat)
  /-- A frame arrives: `append_pcm2` of `append_pcm`. -/
  | append (pcm : List α)
  /-- `try_shrink` of `append_pcm`. -/
  | shrink (now : Nat)
  /-- The device plays so many samples. -/
  | play (n : Nat)
  /-- Another buffer was checked. -/
  | elsewhere (now : Nat)

/-- The step of an event; `none` where it cannot happen. -/
def step (s : State α) : Event α → Option (State α)
  | .resize sampleRate channels =>
    if s.having = none ∧ 0 < sampleRate * channels then
      let buffer := s.buffer.resize sampleRate channels
      if sampleRate * channels * audioBufferMs / 1000 ≠ s.buffer.ring.capacity then
        some { s with buffer, channels, received := [], played := [] }
      else some { s with buffer, channels }
    else none
  | .append pcm =>
    if s.having = none then
      let (ring, having) := AudioBuffer.appendPcm2 s.buffer.ring pcm
      some { s with
        buffer := { s.buffer with ring }, having := some having, received := s.received ++ pcm }
    else none
  | .shrink now => s.having.map fun having =>
    let (buffer, tms, skip) := s.buffer.tryShrink having now s.tms
    let levels := (having, s.buffer.rate) :: s.levels
    { s with
      buffer
      tms
      having := none
      levels := if s.tms ≠ 0 ∧ s.tms + 12000 ≤ now then [] else levels
      drops :=
        if 0 < skip then
          ⟨now, skip, s.buffer.ring.occupied, s.buffer.rate, levels⟩ :: s.drops
        else s.drops }
  | .play n =>
    let (elems, ring) := s.buffer.ring.pop n
    some { s with buffer := { s.buffer with ring }, played := s.played ++ elems }
  | .elsewhere now =>
    if s.tms = 0 ∨ s.tms + 12000 ≤ now then some { s with tms := now } else none

/-- A buffer as it is made. -/
def start (tms : Nat) : State α where
  buffer := .default
  tms := tms
  having := none
  channels := 2
  received := []
  played := []
  levels := []
  drops := []

/-- The audio buffer of a session, whenever others were checked. -/
def audio : Machine (State α) (Event α) where
  start s := ∃ tms, s = start tms
  step := step

/-- A drop leaves two thirds of the buffer, and takes at most two thirds of the least that was there
after a frame since the last check, up to a sample. -/
structure Drop.Fair (drop : Drop) : Prop where
  spares : drop.skip * 3 < drop.before
  measured : drop.levels ≠ []
  unneeded : ∀ had ∈ drop.levels, 3 * drop.skip * had.2 ≤ 2 * had.1 * drop.rate + 3 * had.2

/-- What every run keeps. -/
structure Sound (s : State α) : Prop where
  capacity : s.buffer.ring.capacity = 3 * s.buffer.rate
  rate : 0 < s.buffer.rate
  held : s.buffer.ring.contents <:+ s.received
  order : (s.played ++ s.buffer.ring.contents).Sublist s.received
  counts : ∀ i < 30, s.buffer.stats i = s.levels.countP fun had =>
    AudioBuffer.level had.1 had.2 = i
  rates : ∀ had ∈ s.levels, 0 < had.2
  fair : ∀ drop ∈ s.drops, drop.Fair
  past : ∀ drop ∈ s.drops, 0 < drop.time ∧ drop.time ≤ s.tms
  spaced : s.drops.Pairwise fun later earlier => earlier.time + 12000 ≤ later.time

namespace AudioBuffer

/-- Both branches of `append_pcm2` keep the newest samples, and it returns how many there are. -/
theorem appendPcm2_eq (ring : RingBuffer α) (buffer : List α) :
    appendPcm2 ring buffer = (ring.pushOverwrite buffer, (ring.pushOverwrite buffer).occupied) := by
  unfold appendPcm2
  dsimp only
  by_cases long : buffer.length > ring.capacity
  · rw [if_pos long, RingBuffer.occupied_pushOverwrite]
    congr 1
    omega
  · rw [if_neg long]
    have same : (if ring.occupied + buffer.length > ring.capacity then
          ring.skip (ring.occupied + buffer.length - ring.capacity) else ring).pushOverwrite buffer =
        ring.pushOverwrite buffer := by
      split_ifs with full
      · exact RingBuffer.skip_pushOverwrite (Nat.le_of_not_gt long)
      · rfl
    rw [same]

/-- The loop after the first levels. -/
structure Scan.After (counts : Nat → Nat) (k : Nat) (s : Scan) : Prop where
  zero : s.zero ≤ k
  unmet : ∀ j < s.zero, counts j = 0
  cleared : ∀ j < k, j ≠ s.max → s.counts j = 0
  ahead : ∀ j, k ≤ j → s.counts j = counts j
  max : s.max < k ∨ k = 0 ∧ s.max = 0

theorem Scan.After.visit {counts : Nat → Nat} {k : Nat} {s : Scan} (before : After counts k s) :
    After counts (k + 1) (s.visit k) := by
  have here := before.ahead k (Nat.le_refl k)
  have zero : (s.visit k).zero = if s.counts k = 0 ∧ s.zero = k then s.zero + 1 else s.zero := by
    unfold Scan.visit
    dsimp only
    split <;> rfl
  have unmet : (s.visit k).zero ≤ k + 1 ∧ ∀ j < (s.visit k).zero, counts j = 0 := by
    rw [zero]
    have bound := before.zero
    split_ifs with more
    · refine ⟨by omega, fun j below => ?_⟩
      by_cases same : j = k
      · rw [same, ← here]
        exact more.1
      · exact before.unmet j (by omega)
    · exact ⟨by omega, before.unmet⟩
  have behind := before.max
  by_cases more : s.counts k > s.counts s.max
  · have counts' : (s.visit k).counts = Function.update s.counts s.max 0 := by
      unfold Scan.visit
      rw [if_pos more]
    have max : (s.visit k).max = k := by
      unfold Scan.visit
      rw [if_pos more]
    refine ⟨unmet.1, unmet.2, ?_, ?_, ?_⟩
    · rw [counts', max]
      intro j below other
      by_cases same : j = s.max
      · rw [same, Function.update_self]
      · rw [Function.update_of_ne same]
        exact before.cleared j (by omega) same
    · rw [counts']
      intro j above
      rw [Function.update_of_ne (by omega)]
      exact before.ahead j (by omega)
    · rw [max]
      exact .inl (Nat.lt_succ_self k)
  · have counts' : (s.visit k).counts = Function.update s.counts k 0 := by
      unfold Scan.visit
      rw [if_neg more]
    have max : (s.visit k).max = s.max := by
      unfold Scan.visit
      rw [if_neg more]
    refine ⟨unmet.1, unmet.2, ?_, ?_, ?_⟩
    · rw [counts', max]
      intro j below other
      by_cases same : j = k
      · rw [same, Function.update_self]
      · rw [Function.update_of_ne same]
        exact before.cleared j (by omega) other
    · rw [counts']
      intro j above
      rw [Function.update_of_ne (by omega)]
      exact before.ahead j (by omega)
    · rw [max]
      omega

/-- The whole loop: no level below `zero` was met, and only the count of `max` is left. -/
theorem scan_spec (counts : Nat → Nat) : Scan.After counts 30 (scan counts) := by
  have first : ∀ k, Scan.After counts k ((List.range k).foldl Scan.visit ⟨counts, 0, 0⟩) := by
    intro k
    induction k with
    | zero => exact ⟨Nat.le_refl 0, nofun, nofun, fun _ _ => rfl, .inr ⟨rfl, rfl⟩⟩
    | succ k ih =>
      rw [List.range_succ, List.foldl_append]
      exact ih.visit
  exact first 30

/-- After a check no level was met. -/
theorem stats_shrink (b : AudioBuffer α) (stats : Nat → Nat) {i : Nat} (level : i < 30) :
    (b.shrink stats).1.stats i = 0 := by
  have cleared : Function.update (scan stats).counts (scan stats).max 0 i = 0 := by
    by_cases same : i = (scan stats).max
    · rw [same, Function.update_self]
    · rw [Function.update_of_ne same]
      exact (scan_spec stats).cleared i level same
  unfold shrink
  dsimp only
  split_ifs <;> exact cleared

/-- What a check does to the samples. -/
theorem ring_shrink (b : AudioBuffer α) (stats : Nat → Nat) :
    (b.shrink stats).1.ring = b.ring.skip (b.shrink stats).2 ∧
      (b.shrink stats).1.rate = b.rate := by
  unfold shrink
  dsimp only
  split_ifs <;> exact ⟨rfl, rfl⟩

/-- What goes for a level, by the levels that were not met. -/
theorem skipOf_le {max zero : Nat} (cap : Nat) (bound : max ≤ zero * 2 / 3 * 4) :
    45 * skipOf cap max ≤ cap * zero + 45 := by
  have third : 3 * (zero * 2 / 3) ≤ 2 * zero := by omega
  generalize zero * 2 / 3 = safe at bound third
  have rounded : skipOf cap max ≤ cap * max / 120 + 1 := by
    unfold skipOf
    omega
  have share : cap * max / 120 * 120 ≤ cap * max := Nat.div_mul_le_self _ _
  have low : cap * max ≤ cap * safe * 4 := by
    rw [Nat.mul_assoc]
    exact Nat.mul_le_mul_left cap bound
  have least : 3 * (cap * safe) ≤ 2 * (cap * zero) := by
    rw [Nat.mul_left_comm, Nat.mul_left_comm 2]
    exact Nat.mul_le_mul_left cap third
  omega

/-- How much a check drops. -/
theorem shrink_le (b : AudioBuffer α) (stats : Nat → Nat) (dropped : 0 < (b.shrink stats).2) :
    (b.shrink stats).2 * 3 < b.ring.occupied ∧
      45 * (b.shrink stats).2 ≤ b.ring.capacity * (scan stats).zero + 45 := by
  revert dropped
  unfold shrink
  dsimp only
  split_ifs with low high room room
  · exact fun none => absurd none (Nat.lt_irrefl 0)
  · exact fun _ => ⟨room.1, skipOf_le _ (Nat.le_refl _)⟩
  · exact fun none => absurd none (Nat.lt_irrefl 0)
  · exact fun _ => ⟨room.1, skipOf_le _ (Nat.le_of_not_gt high)⟩
  · exact fun none => absurd none (Nat.lt_irrefl 0)

/-- A level that was not met lies below everything that was measured. -/
theorem zero_le_level {stats : Nat → Nat} {levels : List (Nat × Nat)} {had : Nat × Nat}
    (counts : ∀ i < 30, stats i = levels.countP fun had => level had.1 had.2 = i)
    (measured : had ∈ levels) : (scan stats).zero ≤ level had.1 had.2 := by
  by_contra above
  have short : level had.1 had.2 < 30 := by
    unfold level
    omega
  have none := (scan_spec stats).unmet _ (Nat.lt_of_not_ge above)
  rw [counts _ short] at none
  exact List.countP_eq_zero.mp none had measured (decide_eq_true rfl)

/-- So does what is dropped for it, whatever the rate was then. -/
theorem unneeded {skip rate zero : Nat} {had : Nat × Nat} (positive : 0 < had.2)
    (dropped : 45 * skip ≤ 3 * rate * zero + 45) (met : zero ≤ level had.1 had.2) :
    3 * skip * had.2 ≤ 2 * had.1 * rate + 3 * had.2 := by
  have tenths : zero * had.2 ≤ had.1 * 10 := by
    refine (Nat.le_div_iff_mul_le positive).mp (Nat.le_trans met ?_)
    exact Nat.min_le_left _ _
  have scaled : 45 * skip * had.2 ≤ (3 * rate * zero + 45) * had.2 :=
    Nat.mul_le_mul_right had.2 dropped
  have both : rate * (zero * had.2) ≤ rate * (had.1 * 10) := Nat.mul_le_mul_left rate tenths
  linarith

/-- Within twelve seconds a level is only counted. -/
theorem tryShrink_waits (b : AudioBuffer α) (having : Nat) {now tms : Nat}
    (waits : ¬(tms ≠ 0 ∧ tms + 12000 ≤ now)) :
    ∃ time, b.tryShrink having now tms = ({ b with stats := b.counted having }, time, 0) ∧
      (tms ≠ 0 → time = tms) := by
  unfold tryShrink
  by_cases first : tms = 0
  · rw [if_pos first]
    exact ⟨now, rfl, fun later => absurd first later⟩
  · have early : now < tms + 12000 := by omega
    rw [if_neg first, if_pos early]
    exact ⟨tms, rfl, fun _ => rfl⟩

/-- After twelve seconds the levels are checked. -/
theorem tryShrink_checks (b : AudioBuffer α) (having : Nat) {now tms : Nat}
    (checks : tms ≠ 0 ∧ tms + 12000 ≤ now) :
    b.tryShrink having now tms =
      ((b.shrink (b.counted having)).1, now, (b.shrink (b.counted having)).2) := by
  unfold tryShrink
  rw [if_neg checks.1, if_neg (Nat.not_lt.mpr checks.2)]

end AudioBuffer

/-- The levels with the next one. -/
theorem counts_cons {b : AudioBuffer α} {levels : List (Nat × Nat)} (having : Nat)
    (counts : ∀ i < 30, b.stats i = levels.countP fun had =>
      AudioBuffer.level had.1 had.2 = i) :
    ∀ i < 30, b.counted having i =
      ((having, b.rate) :: levels).countP fun had => AudioBuffer.level had.1 had.2 = i := by
  intro i bound
  unfold AudioBuffer.counted
  rw [List.countP_cons]
  by_cases same : i = AudioBuffer.level having b.rate
  · subst same
    rw [Function.update_self, if_pos (decide_eq_true rfl), counts _ bound]
  · rw [Function.update_of_ne same, counts _ bound]
    simp [Ne.symm same]

namespace Sound

variable {s t : State α}

/-- A device with another rate gets a new buffer. -/
theorem resize (sound : Sound s) {sampleRate channels : Nat}
    (next : step s (.resize sampleRate channels) = some t) : Sound t := by
  simp only [step] at next
  split_ifs at next with can other
  · cases next
    have capacity : sampleRate * channels * audioBufferMs / 1000 = 3 * (sampleRate * channels) := by
      unfold audioBufferMs
      omega
    have made : s.buffer.resize sampleRate channels =
        { s.buffer with
          ring := .new (sampleRate * channels * audioBufferMs / 1000)
          rate := sampleRate * channels } := if_pos other
    rw [made]
    exact ⟨capacity, can.2, List.suffix_refl _, List.Sublist.refl _, sound.counts, sound.rates,
      sound.fair, sound.past, sound.spaced⟩
  · cases next
    have kept : s.buffer.resize sampleRate channels = s.buffer := if_neg other
    rw [kept]
    exact ⟨sound.capacity, sound.rate, sound.held, sound.order, sound.counts, sound.rates,
      sound.fair, sound.past, sound.spaced⟩

theorem append (sound : Sound s) {pcm : List α} (next : step s (.append pcm) = some t) :
    Sound t := by
  simp only [step, AudioBuffer.appendPcm2_eq] at next
  split_ifs at next with can
  cases next
  refine ⟨sound.capacity, sound.rate, RingBuffer.pushOverwrite_suffix sound.held pcm, ?_,
    sound.counts, sound.rates, sound.fair, sound.past, sound.spaced⟩
  have newest : (s.buffer.ring.pushOverwrite pcm).contents.Sublist
      (s.buffer.ring.contents ++ pcm) := List.drop_sublist _ _
  have before : (s.played ++ (s.buffer.ring.contents ++ pcm)).Sublist (s.received ++ pcm) := by
    rw [← List.append_assoc]
    exact sound.order.append (List.Sublist.refl pcm)
  exact ((List.Sublist.refl _).append newest).trans before

theorem play (sound : Sound s) {n : Nat} (next : step s (.play n) = some t) : Sound t := by
  simp only [step] at next
  cases next
  refine ⟨sound.capacity, sound.rate, RingBuffer.skip_suffix sound.held n, ?_, sound.counts,
    sound.rates, sound.fair, sound.past, sound.spaced⟩
  rw [List.append_assoc, RingBuffer.pop_append]
  exact sound.order

/-- The check of another buffer. -/
theorem elsewhere (sound : Sound s) {now : Nat} (next : step s (.elsewhere now) = some t) :
    Sound t := by
  simp only [step] at next
  split_ifs at next with checks
  cases next
  refine ⟨sound.capacity, sound.rate, sound.held, sound.order, sound.counts, sound.rates,
    sound.fair, ?_, sound.spaced⟩
  intro drop known
  have past := sound.past drop known
  exact ⟨past.1, by show drop.time ≤ now; omega⟩

/-- The check after a frame. -/
theorem shrink (sound : Sound s) {now : Nat} (next : step s (.shrink now) = some t) :
    Sound t := by
  simp only [step] at next
  obtain ⟨having, -, rfl⟩ := Option.map_eq_some_iff.mp next
  have counts := counts_cons having sound.counts
  have rates : ∀ had ∈ (having, s.buffer.rate) :: s.levels, 0 < had.2 := by
    intro had known
    rcases List.mem_cons.mp known with rfl | old
    · exact sound.rate
    · exact sound.rates had old
  by_cases checks : s.tms ≠ 0 ∧ s.tms + 12000 ≤ now
  · rw [AudioBuffer.tryShrink_checks s.buffer having checks]
    obtain ⟨ring, rate⟩ := AudioBuffer.ring_shrink s.buffer (s.buffer.counted having)
    have less := AudioBuffer.shrink_le s.buffer (s.buffer.counted having)
    have cleared : ∀ i < 30, (s.buffer.shrink (s.buffer.counted having)).1.stats i = 0 :=
      fun i bound => AudioBuffer.stats_shrink s.buffer _ bound
    have earlier : ∀ drop ∈ s.drops, 0 < drop.time ∧ drop.time ≤ now := by
      intro drop known
      have past := sound.past drop known
      exact ⟨past.1, by omega⟩
    generalize s.buffer.shrink (s.buffer.counted having) = after at ring rate less cleared ⊢
    dsimp only
    rw [if_pos checks]
    refine ⟨?_, rate ▸ sound.rate, ?_, ?_, fun i bound => cleared i bound, nofun, ?_, ?_, ?_⟩
    · rw [ring, rate]
      exact sound.capacity
    · rw [ring]
      exact RingBuffer.skip_suffix sound.held _
    · rw [ring]
      exact ((List.Sublist.refl _).append (List.drop_sublist _ _)).trans sound.order
    · intro drop known
      by_cases dropped : 0 < after.2
      · rw [if_pos dropped] at known
        rcases List.mem_cons.mp known with rfl | old
        · refine ⟨(less dropped).1, List.cons_ne_nil _ _, fun had measured => ?_⟩
          have bound := (less dropped).2
          rw [sound.capacity] at bound
          exact AudioBuffer.unneeded (rates had measured) bound
            (AudioBuffer.zero_le_level counts measured)
        · exact sound.fair drop old
      · rw [if_neg dropped] at known
        exact sound.fair drop known
    · intro drop known
      by_cases dropped : 0 < after.2
      · rw [if_pos dropped] at known
        rcases List.mem_cons.mp known with rfl | old
        · exact ⟨by show 0 < now; omega, Nat.le_refl _⟩
        · exact earlier drop old
      · rw [if_neg dropped] at known
        exact earlier drop known
    · by_cases dropped : 0 < after.2
      · rw [if_pos dropped]
        refine List.pairwise_cons.mpr ⟨fun drop old => ?_, sound.spaced⟩
        have past := sound.past drop old
        show drop.time + 12000 ≤ now
        omega
      · rw [if_neg dropped]
        exact sound.spaced
  · obtain ⟨time, waits, kept⟩ := AudioBuffer.tryShrink_waits s.buffer having checks
    rw [waits]
    dsimp only
    rw [if_neg checks, if_neg (Nat.lt_irrefl 0)]
    refine ⟨sound.capacity, sound.rate, sound.held, sound.order, counts, rates, sound.fair, ?_,
      sound.spaced⟩
    intro drop known
    have past := sound.past drop known
    have some : s.tms ≠ 0 := by omega
    rw [kept some]
    exact past

theorem step {e : Event α} (sound : Sound s) (next : Audio.step s e = some t) : Sound t := by
  cases e with
  | resize sampleRate channels => exact sound.resize next
  | append pcm => exact sound.append next
  | shrink now => exact sound.shrink next
  | play n => exact sound.play next
  | elsewhere now => exact sound.elsewhere next

theorem initial (tms : Nat) : Sound (start tms : State α) where
  capacity := by simp [start, AudioBuffer.default, RingBuffer.new, audioBufferMs]
  rate := by simp [start, AudioBuffer.default]
  held := List.suffix_refl _
  order := List.Sublist.refl _
  counts _ _ := rfl
  rates := nofun
  fair := nofun
  past := nofun
  spaced := List.Pairwise.nil

end Sound

/-- In every run the buffer holds the last of what was received, for three seconds at most, and what
was played and is yet to be played came in that order. What is dropped to catch up was not needed
since the last check, and twelve seconds pass between two drops. -/
theorem buffer_sound : (audio (α := α)).Always Machine.free fun _ _ s =>
    s.buffer.ring.contents <:+ s.received ∧
    s.buffer.ring.occupied ≤ 3 * s.buffer.rate ∧
    (s.played ++ s.buffer.ring.contents).Sublist s.received ∧
    (∀ drop ∈ s.drops, drop.Fair) ∧
    s.drops.Pairwise fun later earlier => earlier.time + 12000 ≤ later.time := by
  refine Machine.Always.of_invariant Sound ?_ (fun _ _ _ before _ next => before.step next) ?_
  · rintro _ ⟨tms, rfl⟩
    exact Sound.initial tms
  intro _ _ t before _ next
  have after : Sound t := before.step next
  exact ⟨after.held, after.capacity ▸ t.buffer.ring.fits, after.order, after.fair, after.spaced⟩

/-- Devices with one or two channels that play whole frames of what is in whole frames. -/
def Whole (s : State α) : Event α → Prop
  | .resize sampleRate channels =>
    (channels = 1 ∨ channels = 2) ∧
      (channels = s.channels ∨
        sampleRate * channels * audioBufferMs / 1000 ≠ s.buffer.ring.capacity)
  | .append pcm => s.channels ∣ pcm.length
  | .play n => s.channels ∣ n
  | _ => True

/-- What is received, held and dropped is in whole frames. -/
structure Aligned (s : State α) : Prop where
  sound : Sound s
  channels : s.channels = 1 ∨ s.channels = 2
  rate : s.channels ∣ s.buffer.rate
  held : s.channels ∣ s.buffer.ring.occupied
  received : s.channels ∣ s.received.length

namespace Aligned

variable {s t : State α}

/-- The buffer has room for whole frames. -/
theorem capacity (aligned : Aligned s) : s.channels ∣ s.buffer.ring.capacity := by
  rw [aligned.sound.capacity]
  exact Dvd.dvd.mul_left aligned.rate 3

/-- Where samples are dropped, they are whole frames. -/
theorem dropped (aligned : Aligned s) (having now : Nat) :
    ∃ skip, s.channels ∣ skip ∧
      (s.buffer.tryShrink having now s.tms).1.ring = s.buffer.ring.skip skip ∧
      (s.buffer.tryShrink having now s.tms).1.rate = s.buffer.rate := by
  by_cases checks : s.tms ≠ 0 ∧ s.tms + 12000 ≤ now
  · rw [AudioBuffer.tryShrink_checks s.buffer having checks]
    have ring := AudioBuffer.ring_shrink s.buffer (s.buffer.counted having)
    have even : 2 ∣ (s.buffer.shrink (s.buffer.counted having)).2 := by
      unfold AudioBuffer.shrink AudioBuffer.skipOf
      dsimp only
      split_ifs
      all_goals first | exact Nat.dvd_zero 2 | exact Nat.dvd_mul_left 2 _
    generalize s.buffer.shrink (s.buffer.counted having) = after at ring even ⊢
    refine ⟨after.2, ?_, ring⟩
    rcases aligned.channels with one | two
    · exact one ▸ Nat.one_dvd _
    · exact two ▸ even
  · obtain ⟨time, waits, -⟩ := AudioBuffer.tryShrink_waits s.buffer having checks
    rw [waits]
    exact ⟨0, Nat.dvd_zero _, rfl, rfl⟩

theorem step {e : Event α} (aligned : Aligned s) (whole : Whole s e)
    (next : Audio.step s e = some t) : Aligned t := by
  have sound := aligned.sound.step next
  cases e with
  | resize sampleRate channels =>
    simp only [Audio.step] at next
    split_ifs at next with can other
    · cases next
      have made : s.buffer.resize sampleRate channels =
          { s.buffer with
            ring := .new (sampleRate * channels * audioBufferMs / 1000)
            rate := sampleRate * channels } := if_pos other
      refine ⟨sound, whole.1, ?_, ?_, Nat.dvd_zero _⟩
      · rw [made]
        exact Nat.dvd_mul_left _ _
      · rw [made]
        exact Nat.dvd_zero _
    · cases next
      have kept : s.buffer.resize sampleRate channels = s.buffer := if_neg other
      have same : channels = s.channels := whole.2.resolve_right (fun ne => other ne)
      subst same
      refine ⟨sound, whole.1, ?_, ?_, aligned.received⟩
      · rw [kept]
        exact aligned.rate
      · rw [kept]
        exact aligned.held
  | append pcm =>
    have frames : s.channels ∣ pcm.length := whole
    simp only [Audio.step, AudioBuffer.appendPcm2_eq] at next
    split_ifs at next with can
    cases next
    refine ⟨sound, aligned.channels, aligned.rate, ?_, ?_⟩
    · show s.channels ∣ (s.buffer.ring.pushOverwrite pcm).occupied
      rw [RingBuffer.occupied_pushOverwrite]
      rcases Nat.le_total s.buffer.ring.capacity (s.buffer.ring.occupied + pcm.length) with
        full | room
      · rw [Nat.min_eq_left full]
        exact aligned.capacity
      · rw [Nat.min_eq_right room]
        exact Nat.dvd_add aligned.held frames
    · show s.channels ∣ (s.received ++ pcm).length
      rw [List.length_append]
      exact Nat.dvd_add aligned.received frames
  | shrink now =>
    simp only [Audio.step] at next
    obtain ⟨having, -, rfl⟩ := Option.map_eq_some_iff.mp next
    obtain ⟨skip, frames, ring, rate⟩ := aligned.dropped having now
    refine ⟨sound, aligned.channels, ?_, ?_, aligned.received⟩
    · show s.channels ∣ (s.buffer.tryShrink having now s.tms).1.rate
      rw [rate]
      exact aligned.rate
    · show s.channels ∣ (s.buffer.tryShrink having now s.tms).1.ring.occupied
      rw [ring, RingBuffer.occupied_skip]
      exact Nat.dvd_sub aligned.held frames
  | play n =>
    have frames : s.channels ∣ n := whole
    simp only [Audio.step] at next
    cases next
    refine ⟨sound, aligned.channels, aligned.rate, ?_, aligned.received⟩
    show s.channels ∣ (s.buffer.ring.skip n).occupied
    rw [RingBuffer.occupied_skip]
    exact Nat.dvd_sub aligned.held frames
  | elsewhere now =>
    simp only [Audio.step] at next
    split_ifs at next with checks
    cases next
    exact ⟨sound, aligned.channels, aligned.rate, aligned.held, aligned.received⟩

end Aligned

/-- With one or two channels the device always goes on with the first channel of a frame. -/
theorem playback_aligned : (audio (α := α)).Always Whole fun _ _ s =>
    s.channels ∣ s.received.length - s.buffer.ring.occupied ∧
      s.channels ∣ s.buffer.ring.occupied := by
  refine Machine.Always.of_invariant Aligned ?_
    (fun _ _ _ before whole next => before.step whole next) ?_
  · rintro _ ⟨tms, rfl⟩
    exact ⟨Sound.initial tms, .inr rfl, Nat.dvd_mul_left 2 48000, Nat.dvd_zero _, Nat.dvd_zero _⟩
  intro _ _ t before whole next
  have after : Aligned t := before.step whole next
  exact ⟨Nat.dvd_sub after.received after.held, after.held⟩

-- With six channels a drop can be a part of a frame.
example : ¬ 6 ∣ AudioBuffer.skipOf (3 * (44100 * 6)) 7 := by
  decide

end ChainRemote.Hq.Audio
