import Mathlib.Data.List.Basic

/-!
# The rate limiter

`lib/rate-limit.ts` keeps the times of counted requests under text keys and counts those in a
sliding window. Buckets whose last time is more than ten minutes old are swept once a minute.
What a limiter says about a key is the number of its times that still count; `counting` is that
number for the window of ten minutes, and each operation changes it as its lemma says.
-/

namespace ChainRemote.Panel.RateLimit

/-- `buckets` and `lastSweep`. -/
structure Limiter where
  buckets : String → Option (List Nat)
  lastSweep : Nat

/-- The limiter of a new process. -/
def Limiter.empty : Limiter := ⟨fun _ => none, 0⟩

/-- `{ allowed, retryAfterSec }`. -/
structure Verdict where
  allowed : Bool
  retryAfterSec : Nat
deriving DecidableEq, Repr

/-- `arr.length === 0 || now - arr[arr.length - 1] > 600_000`. -/
def stale (now : Nat) (times : List Nat) : Bool :=
  match times.getLast? with
  | none => true
  | some last => decide (last + 600000 < now)

/-- `sweep`. -/
def sweep (now : Nat) (limiter : Limiter) : Limiter :=
  if now < limiter.lastSweep + 60000 then limiter
  else
    { buckets := fun key => (limiter.buckets key).filter fun times => !stale now times
      lastSweep := now }

/-- `buckets.get(key) ?? []`. -/
def Limiter.bucket (limiter : Limiter) (key : String) : List Nat := (limiter.buckets key).getD []

/-- `buckets.set(key, times)`. -/
def Limiter.set (limiter : Limiter) (key : String) (times : List Nat) : Limiter :=
  { limiter with buckets := Function.update limiter.buckets key (some times) }

/-- `.filter((t) => now - t < windowMs)`. -/
def recent (now windowMs : Nat) (times : List Nat) : List Nat :=
  times.filter fun t => decide (now < t + windowMs)

/-- `Math.max(1, Math.ceil((windowMs - (now - arr[0])) / 1000))`. -/
def retryAfter (now windowMs : Nat) (times : List Nat) : Nat :=
  max 1 ((windowMs + times.headD now - now + 999) / 1000)

/-- `rateLimit`. -/
def rateLimit (now : Nat) (key : String) (limit windowMs : Nat) (limiter : Limiter) :
    Verdict × Limiter :=
  let limiter := sweep now limiter
  let times := recent now windowMs (limiter.bucket key)
  if limit ≤ times.length then (⟨false, retryAfter now windowMs times⟩, limiter.set key times)
  else (⟨true, 0⟩, limiter.set key (times ++ [now]))

/-- `rateLimitPeek`. -/
def rateLimitPeek (now : Nat) (key : String) (limit windowMs : Nat) (limiter : Limiter) :
    Verdict × Limiter :=
  let limiter := sweep now limiter
  let times := recent now windowMs (limiter.bucket key)
  if limit ≤ times.length then (⟨false, retryAfter now windowMs times⟩, limiter.set key times)
  else (⟨true, 0⟩, limiter.set key times)

/-- `rateLimitRecord`. -/
def rateLimitRecord (now : Nat) (key : String) (windowMs : Nat) (limiter : Limiter) : Limiter :=
  let limiter := sweep now limiter
  limiter.set key (recent now windowMs (limiter.bucket key) ++ [now])

/-- `rateLimitReset`. -/
def rateLimitReset (key : String) (limiter : Limiter) : Limiter :=
  { limiter with buckets := Function.update limiter.buckets key none }

/-- The times of every bucket are in order and not in the future. -/
def Ordered (now : Nat) (limiter : Limiter) : Prop :=
  ∀ key, (limiter.bucket key).Pairwise (· ≤ ·) ∧ ∀ t ∈ limiter.bucket key, t ≤ now

/-- The times of a key that still count at some time, for the window of ten minutes. -/
def Limiter.counting (limiter : Limiter) (key : String) (now : Nat) : Nat :=
  (recent now 600000 (limiter.bucket key)).length

section Buckets

variable {limiter : Limiter} {now later windowMs : Nat} {key other : String} {times : List Nat}

@[simp] theorem bucket_set_self : (limiter.set key times).bucket key = times := by
  simp [Limiter.bucket, Limiter.set]

@[simp] theorem bucket_set_of_ne (apart : other ≠ key) :
    (limiter.set key times).bucket other = limiter.bucket other := by
  simp [Limiter.bucket, Limiter.set, Function.update_of_ne apart]

@[simp] theorem bucket_reset_of_ne (apart : other ≠ key) :
    (rateLimitReset key limiter).bucket other = limiter.bucket other := by
  simp [Limiter.bucket, rateLimitReset, Function.update_of_ne apart]

@[simp] theorem bucket_reset_self : (rateLimitReset key limiter).bucket key = [] := by
  simp [Limiter.bucket, rateLimitReset]

theorem ordered_empty (now : Nat) : Ordered now Limiter.empty := by
  intro key
  simp [Limiter.bucket, Limiter.empty]

theorem Ordered.mono (ordered : Ordered now limiter) (le : now ≤ later) : Ordered later limiter :=
  fun key => ⟨(ordered key).1, fun t inside => Nat.le_trans ((ordered key).2 t inside) le⟩

/-- Times that still count later are among those that count now. -/
theorem recent_recent (le : now ≤ later) (times : List Nat) :
    recent later windowMs (recent now windowMs times) = recent later windowMs times := by
  unfold recent
  rw [List.filter_filter]
  apply List.filter_congr
  intro t _
  by_cases counts : later < t + windowMs
  · have also : now < t + windowMs := by omega
    simp [counts, also]
  · simp [counts]

/-- No time of a stale bucket counts, for a window of ten minutes or less. -/
theorem recent_of_stale (ordered : Ordered now limiter) (short : windowMs ≤ 600000)
    (gone : stale now (limiter.bucket key) = true) (le : now ≤ later) :
    recent later windowMs (limiter.bucket key) = [] := by
  unfold recent
  rw [List.filter_eq_nil_iff]
  intro t inside
  cases last : (limiter.bucket key).getLast? with
  | none =>
    rw [List.getLast?_eq_none_iff] at last
    rw [last] at inside
    cases inside
  | some final =>
    simp only [stale, last, decide_eq_true_eq] at gone
    have newest : t ≤ final := by
      obtain ⟨front, split⟩ := List.getLast?_eq_some_iff.mp last
      have sorted := (ordered key).1
      rw [split] at sorted inside
      rcases List.mem_append.mp inside with older | own
      · exact (List.pairwise_append.mp sorted).2.2 t older final List.mem_cons_self
      · exact Nat.le_of_eq (List.mem_singleton.mp own)
    simp only [decide_eq_true_eq]
    omega

/-- A sweep removes whole buckets. -/
theorem bucket_sweep (now : Nat) (limiter : Limiter) (key : String) :
    (sweep now limiter).bucket key = limiter.bucket key ∨
      (sweep now limiter).bucket key = [] ∧ stale now (limiter.bucket key) = true := by
  unfold sweep
  split
  · exact .inl rfl
  · unfold Limiter.bucket
    dsimp only
    cases held : limiter.buckets key with
    | none => exact .inl rfl
    | some times =>
      cases old : stale now times with
      | true => exact .inr ⟨by simp [Option.filter, old], by simpa using old⟩
      | false => exact .inl (by simp [Option.filter, old])

theorem ordered_sweep (ordered : Ordered now limiter) : Ordered now (sweep now limiter) := by
  intro key
  rcases bucket_sweep now limiter key with same | ⟨gone, -⟩
  · rw [same]
    exact ordered key
  · rw [gone]
    exact ⟨List.Pairwise.nil, by simp⟩

/-- A sweep removes no time that counts. -/
theorem recent_sweep (ordered : Ordered now limiter) (short : windowMs ≤ 600000)
    (le : now ≤ later) (key : String) :
    recent later windowMs ((sweep now limiter).bucket key) =
      recent later windowMs (limiter.bucket key) := by
  rcases bucket_sweep now limiter key with same | ⟨gone, old⟩
  · rw [same]
  · rw [gone, recent_of_stale ordered short old le]
    rfl

theorem counting_sweep (ordered : Ordered now limiter) (le : now ≤ later) (key : String) :
    (sweep now limiter).counting key later = limiter.counting key later := by
  unfold Limiter.counting
  rw [recent_sweep ordered (Nat.le_refl 600000) le]

theorem ordered_set (ordered : Ordered now limiter) (sorted : times.Pairwise (· ≤ ·))
    (past : ∀ t ∈ times, t ≤ now) : Ordered now (limiter.set key times) := by
  intro other
  by_cases same : other = key
  · rw [same, bucket_set_self]
    exact ⟨sorted, past⟩
  · rw [bucket_set_of_ne same]
    exact ordered other

theorem ordered_reset (ordered : Ordered now limiter) : Ordered now (rateLimitReset key limiter) := by
  intro other
  by_cases same : other = key
  · rw [same, bucket_reset_self]
    exact ⟨List.Pairwise.nil, by simp⟩
  · rw [bucket_reset_of_ne same]
    exact ordered other

/-- The recent times of a bucket, and one more now, are in order. -/
theorem recent_ordered (ordered : Ordered now limiter) (windowMs : Nat) (key : String) :
    (recent now windowMs (limiter.bucket key) ++ [now]).Pairwise (· ≤ ·) ∧
      ∀ t ∈ recent now windowMs (limiter.bucket key) ++ [now], t ≤ now := by
  have past : ∀ t ∈ recent now windowMs (limiter.bucket key), t ≤ now :=
    fun t inside => (ordered key).2 t (List.mem_of_mem_filter inside)
  constructor
  · refine List.pairwise_append.mpr ⟨(ordered key).1.sublist List.filter_sublist, by simp, ?_⟩
    intro t inside final own
    rw [List.mem_singleton.mp own]
    exact past t inside
  · intro t inside
    rcases List.mem_append.mp inside with old | own
    · exact past t old
    · exact Nat.le_of_eq (List.mem_singleton.mp own)

theorem ordered_recent (ordered : Ordered now limiter) (windowMs : Nat) (key : String) :
    Ordered now (limiter.set key (recent now windowMs (limiter.bucket key))) := by
  have both := recent_ordered ordered windowMs key
  apply ordered_set ordered (List.pairwise_append.mp both.1).1
  intro t inside
  exact both.2 t (List.mem_append_left _ inside)

/-- What does not touch a bucket leaves its count. -/
theorem counting_set_of_ne (apart : other ≠ key) :
    (limiter.set key times).counting other later = limiter.counting other later := by
  unfold Limiter.counting
  rw [bucket_set_of_ne apart]

end Buckets

section Operations

variable {limiter : Limiter} {now later limit windowMs : Nat} {key other : String}

/-- A counted request adds at most its own time, and leaves the other keys. -/
theorem rateLimit_spec (ordered : Ordered now limiter) (key : String) (limit windowMs : Nat) :
    Ordered now (rateLimit now key limit windowMs limiter).2 ∧
      ∀ other later, other ≠ key → now ≤ later →
        (rateLimit now key limit windowMs limiter).2.counting other later =
          limiter.counting other later := by
  have swept := ordered_sweep ordered
  have added := recent_ordered swept windowMs key
  unfold rateLimit
  dsimp only
  split
  · refine ⟨ordered_recent swept windowMs key, fun other later apart le => ?_⟩
    rw [counting_set_of_ne apart, counting_sweep ordered le]
  · refine ⟨ordered_set swept added.1 added.2, fun other later apart le => ?_⟩
    rw [counting_set_of_ne apart, counting_sweep ordered le]

/-- A look changes no count, and allows while fewer times count than the limit. -/
theorem rateLimitPeek_spec (ordered : Ordered now limiter) (key : String) (limit : Nat) :
    Ordered now (rateLimitPeek now key limit 600000 limiter).2 ∧
      (∀ other later, now ≤ later →
        (rateLimitPeek now key limit 600000 limiter).2.counting other later =
          limiter.counting other later) ∧
      ((rateLimitPeek now key limit 600000 limiter).1.allowed = true ↔
        limiter.counting key now < limit) := by
  have swept := ordered_sweep ordered
  have looked : (rateLimitPeek now key limit 600000 limiter).2 =
      (sweep now limiter).set key (recent now 600000 ((sweep now limiter).bucket key)) := by
    unfold rateLimitPeek
    dsimp only
    split
    · rfl
    · rfl
  rw [looked]
  refine ⟨ordered_recent swept 600000 key, ?_, ?_⟩
  · intro other later le
    rw [← counting_sweep ordered le]
    by_cases same : other = key
    · unfold Limiter.counting
      rw [same, bucket_set_self, recent_recent le]
    · exact counting_set_of_ne same
  · rw [← counting_sweep ordered (Nat.le_refl now)]
    unfold rateLimitPeek Limiter.counting
    dsimp only
    split
    · rename_i full
      simp only [Bool.false_eq_true, false_iff]
      omega
    · rename_i room
      simp only [true_iff]
      omega

/-- A recorded failure counts for ten minutes. -/
theorem rateLimitRecord_spec (ordered : Ordered now limiter) (key : String) :
    Ordered now (rateLimitRecord now key 600000 limiter) ∧
      (∀ other later, other ≠ key → now ≤ later →
        (rateLimitRecord now key 600000 limiter).counting other later =
          limiter.counting other later) ∧
      ∀ later, now ≤ later →
        (rateLimitRecord now key 600000 limiter).counting key later =
          limiter.counting key later + if later < now + 600000 then 1 else 0 := by
  have swept := ordered_sweep ordered
  have added := recent_ordered swept 600000 key
  refine ⟨ordered_set swept added.1 added.2, ?_, ?_⟩
  · intro other later apart le
    rw [← counting_sweep ordered le]
    exact counting_set_of_ne apart
  · intro later le
    rw [← counting_sweep ordered le]
    unfold Limiter.counting rateLimitRecord
    rw [bucket_set_self]
    have split : recent later 600000
        (recent now 600000 ((sweep now limiter).bucket key) ++ [now]) =
        recent later 600000 ((sweep now limiter).bucket key) ++ recent later 600000 [now] := by
      unfold recent
      rw [List.filter_append]
      exact congrArg (· ++ _) (recent_recent le _)
    rw [split, List.length_append]
    by_cases counts : later < now + 600000
    · simp [recent, counts]
    · simp [recent, counts]

theorem counting_reset_of_ne (apart : other ≠ key) :
    (rateLimitReset key limiter).counting other later = limiter.counting other later := by
  unfold Limiter.counting
  rw [bucket_reset_of_ne apart]

end Operations

end ChainRemote.Panel.RateLimit
