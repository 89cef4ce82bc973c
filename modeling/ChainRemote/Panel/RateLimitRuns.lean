import ChainRemote.Panel.RateLimit
import Mathlib.Data.List.Induction

/-!
# Calls of the rate limiter

Calls on any keys share one map of buckets, which is filtered at a call and swept now and then.
Beside the limiter stands the log of the calls that it allowed: at every later time the bucket of a
key counts the same times as the log.
-/

namespace ChainRemote.Panel.RateLimit

/-- The limit and the window that each key is always used with. -/
structure Policy where
  limit : String → Nat
  windowMs : String → Nat
  positive : ∀ key, 1 ≤ limit key
  short : ∀ key, windowMs key ≤ 600000

/-- A call of `rateLimit`. -/
structure Call where
  time : Nat
  key : String
deriving DecidableEq

/-- The limiter, with the log of the calls that it allowed. -/
structure History where
  limiter : Limiter
  allowed : List Call

/-- A new process. -/
def History.empty : History := ⟨Limiter.empty, []⟩

/-- What the next call is told. -/
def History.verdict (policy : Policy) (history : History) (call : Call) : Verdict :=
  (rateLimit call.time call.key (policy.limit call.key) (policy.windowMs call.key)
    history.limiter).1

/-- The history after one more call. -/
def History.next (policy : Policy) (history : History) (call : Call) : History where
  limiter := (rateLimit call.time call.key (policy.limit call.key) (policy.windowMs call.key)
    history.limiter).2
  allowed :=
    if (history.verdict policy call).allowed then history.allowed ++ [call] else history.allowed

/-- The history after some calls. -/
def history (policy : Policy) (calls : List Call) : History :=
  calls.foldl (History.next policy) History.empty

/-- The times of the allowed calls of a key. -/
def History.times (history : History) (key : String) : List Nat :=
  (history.allowed.filter fun call => call.key == key).map Call.time

/-- The times in the interval that starts at `start` and has the length of the window. -/
def within (start windowMs : Nat) (times : List Nat) : List Nat :=
  times.filter fun t => decide (start ≤ t ∧ t < start + windowMs)

/-- The log is of calls up to now, and the buckets count the same times from now on. -/
structure Tracks (policy : Policy) (now : Nat) (history : History) : Prop where
  ordered : Ordered now history.limiter
  past : ∀ key, ∀ t ∈ history.times key, t ≤ now
  counts : ∀ key later, now ≤ later →
    recent later (policy.windowMs key) (history.limiter.bucket key) =
      recent later (policy.windowMs key) (history.times key)

/-- No interval of the length of the window holds more allowed calls of a key than its limit. -/
def Bounded (policy : Policy) (history : History) : Prop :=
  ∀ key start, (within start (policy.windowMs key) (history.times key)).length ≤ policy.limit key

section Steps

variable {policy : Policy} {now later : Nat} {past : History} {call : Call} {key : String}

theorem recent_append (windowMs : Nat) (first second : List Nat) :
    recent now windowMs (first ++ second) =
      recent now windowMs first ++ recent now windowMs second :=
  List.filter_append ..

theorem within_append (start windowMs : Nat) (first second : List Nat) :
    within start windowMs (first ++ second) =
      within start windowMs first ++ within start windowMs second :=
  List.filter_append ..

theorem Tracks.mono (tracks : Tracks policy now past) (le : now ≤ later) :
    Tracks policy later past where
  ordered := tracks.ordered.mono le
  past key t inside := Nat.le_trans (tracks.past key t inside) le
  counts key at_ after := tracks.counts key at_ (Nat.le_trans le after)

theorem tracks_empty (policy : Policy) (now : Nat) : Tracks policy now History.empty where
  ordered := ordered_empty now
  past key t inside := by cases inside
  counts key later _ := rfl

/-- The times of a key after one more call. -/
theorem times_next (key : String) :
    (past.next policy call).times key =
      past.times key ++
        if (past.verdict policy call).allowed = true ∧ call.key = key then [call.time] else [] := by
  unfold History.next History.times
  by_cases allowed : (past.verdict policy call).allowed = true
  · by_cases own : call.key = key
    · simp [allowed, own]
    · simp [allowed, own]
  · simp [allowed]

/-- The recent times that a call sees are those of the log. -/
theorem recent_seen (tracks : Tracks policy call.time past) (key : String) :
    recent call.time (policy.windowMs key) ((sweep call.time past.limiter).bucket key) =
      recent call.time (policy.windowMs key) (past.times key) := by
  rw [recent_sweep tracks.ordered (policy.short key) (Nat.le_refl _)]
  exact tracks.counts key call.time (Nat.le_refl _)

/-- A call is allowed exactly where fewer than the limit were allowed in the window before it. -/
theorem allowed_iff (tracks : Tracks policy call.time past) :
    (past.verdict policy call).allowed = true ↔
      (recent call.time (policy.windowMs call.key) (past.times call.key)).length <
        policy.limit call.key := by
  rw [← recent_seen tracks]
  unfold History.verdict rateLimit
  dsimp only
  split
  · rename_i full
    simp only [Bool.false_eq_true, false_iff]
    omega
  · rename_i room
    simp only [true_iff]
    omega

/-- A refused call is told when the oldest call that counts leaves the window. -/
theorem retryAfterSec_refused (tracks : Tracks policy call.time past)
    (refused : (past.verdict policy call).allowed = false) :
    (past.verdict policy call).retryAfterSec =
      retryAfter call.time (policy.windowMs call.key)
        (recent call.time (policy.windowMs call.key) (past.times call.key)) := by
  rw [← recent_seen tracks]
  unfold History.verdict rateLimit at refused ⊢
  dsimp only at refused ⊢
  split
  · rfl
  · rename_i room
    rw [if_neg room] at refused
    cases refused

/-- The bucket of the key of a call, and those of the others. -/
theorem bucket_next (key : String) :
    (past.next policy call).limiter.bucket key =
      if call.key = key then
        recent call.time (policy.windowMs key) ((sweep call.time past.limiter).bucket key) ++
          if (past.verdict policy call).allowed = true then [call.time] else []
      else (sweep call.time past.limiter).bucket key := by
  by_cases own : call.key = key
  · subst own
    rw [if_pos rfl]
    unfold History.next History.verdict rateLimit
    dsimp only
    split
    · simp
    · simp
  · rw [if_neg own]
    unfold History.next rateLimit
    dsimp only
    split
    · exact bucket_set_of_ne (Ne.symm own)
    · exact bucket_set_of_ne (Ne.symm own)

/-- A call keeps the buckets and the log together. -/
theorem Tracks.next (tracks : Tracks policy call.time past) :
    Tracks policy call.time (past.next policy call) where
  ordered := (rateLimit_spec tracks.ordered call.key _ _).1
  past key t inside := by
    rw [times_next] at inside
    rcases List.mem_append.mp inside with old | new
    · exact tracks.past key t old
    · split at new
      · exact Nat.le_of_eq (List.mem_singleton.mp new)
      · cases new
  counts key later le := by
    have swept := recent_sweep tracks.ordered (policy.short key) le key
    have before := tracks.counts key later le
    rw [bucket_next, times_next]
    by_cases own : call.key = key
    · rw [if_pos own, recent_append, recent_append, recent_recent le, swept, before]
      simp only [own, and_true]
    · rw [if_neg own, swept, before]
      simp only [own, and_false, if_false, List.append_nil]

/-- What lies in an interval that reaches up to now also counts now. -/
theorem within_le_recent {start windowMs : Nat} (reaches : now < start + windowMs)
    (times : List Nat) :
    (within start windowMs times).length ≤ (recent now windowMs times).length := by
  apply List.Sublist.length_le
  apply List.monotone_filter_right
  intro t inside
  simp only [decide_eq_true_eq] at inside ⊢
  omega

/-- What counts now lies in the interval that ends now. -/
theorem recent_eq_within (windowMs : Nat) {times : List Nat} (past : ∀ t ∈ times, t ≤ now) :
    recent now windowMs times = within (now + 1 - windowMs) windowMs times := by
  apply List.filter_congr
  intro t inside
  have before := past t inside
  rw [decide_eq_decide]
  omega

/-- A call keeps the bound: it is allowed only with room in every interval that it falls into. -/
theorem Bounded.next (bounded : Bounded policy past) (tracks : Tracks policy call.time past) :
    Bounded policy (past.next policy call) := by
  intro key start
  have before := bounded key start
  rw [times_next, within_append, List.length_append]
  by_cases counted : (past.verdict policy call).allowed = true ∧ call.key = key
  · rw [if_pos counted]
    obtain ⟨allowed, rfl⟩ := counted
    have room := (allowed_iff tracks).mp allowed
    by_cases falls : start ≤ call.time ∧ call.time < start + policy.windowMs call.key
    · have others := within_le_recent falls.2 (past.times call.key)
      have one : (within start (policy.windowMs call.key) [call.time]).length ≤ 1 :=
        List.length_filter_le ..
      omega
    · have none : (within start (policy.windowMs call.key) [call.time]).length = 0 := by
        simp [within, falls]
      omega
  · rw [if_neg counted]
    have none : (within start (policy.windowMs key) []).length = 0 := rfl
    omega

end Steps

section Runs

variable {policy : Policy} {now later : Nat} {calls between : List Call} {call : Call}

theorem history_append (first second : List Call) :
    history policy (first ++ second) =
      second.foldl (History.next policy) (history policy first) :=
  List.foldl_append

/-- The invariants hold after calls in order. -/
theorem history_tracks (policy : Policy) (inOrder : calls.Pairwise fun a b => a.time ≤ b.time)
    (past : ∀ c ∈ calls, c.time ≤ now) :
    Tracks policy now (history policy calls) ∧ Bounded policy (history policy calls) := by
  induction calls using List.reverseRecOn generalizing now with
  | nil => exact ⟨tracks_empty policy now, fun _ _ => Nat.zero_le _⟩
  | append_singleton earlier last ih =>
    rw [List.pairwise_append] at inOrder
    have before : ∀ c ∈ earlier, c.time ≤ last.time :=
      fun c inside => inOrder.2.2 c inside last List.mem_cons_self
    have le : last.time ≤ now := past last (by simp)
    obtain ⟨tracks, bounded⟩ := ih inOrder.1 before
    rw [history_append]
    exact ⟨tracks.next.mono le, bounded.next tracks⟩

theorem history_bounded (policy : Policy)
    (inOrder : calls.Pairwise fun a b => a.time ≤ b.time) :
    Bounded policy (history policy calls) := by
  rcases List.eq_nil_or_concat' calls with rfl | ⟨earlier, last, rfl⟩
  · exact fun _ _ => Nat.zero_le _
  · have past : ∀ c ∈ earlier ++ [last], c.time ≤ last.time := by
      intro c inside
      rcases List.mem_append.mp inside with old | own
      · exact (List.pairwise_append.mp inOrder).2.2 c old last List.mem_cons_self
      · exact Nat.le_of_eq (congrArg Call.time (List.mem_singleton.mp own))
    exact (history_tracks policy inOrder past).2

/-- Calls on other keys add no times to a key. -/
theorem times_others (start : History) (others : ∀ c ∈ between, c.key ≠ call.key) :
    (between.foldl (History.next policy) start).times call.key = start.times call.key := by
  induction between generalizing start with
  | nil => rfl
  | cons c rest ih =>
    have apart : c.key ≠ call.key := others c List.mem_cons_self
    rw [List.foldl_cons, ih _ fun c inside => others c (List.mem_cons_of_mem _ inside), times_next,
      if_neg fun both => apart both.2, List.append_nil]

/-- The oldest call that counts has left the window after the seconds of a refusal. -/
theorem recent_after_retry {windowMs : Nat} {times : List Nat} (some : recent now windowMs times ≠ [])
    (le : now + 1000 * retryAfter now windowMs (recent now windowMs times) ≤ later) :
    (recent later windowMs times).length < (recent now windowMs times).length := by
  have order : now ≤ later := by omega
  rw [← recent_recent order]
  cases counted : recent now windowMs times with
  | nil => exact absurd counted some
  | cons oldest rest =>
    rw [counted] at le
    have left : oldest + windowMs ≤ later := by
      simp only [retryAfter, List.headD_cons] at le
      omega
    have gone : recent later windowMs (oldest :: rest) = recent later windowMs rest :=
      List.filter_cons_of_neg (by simpa using left)
    rw [gone, List.length_cons]
    exact Nat.lt_succ_of_le (List.length_filter_le ..)

/-- For calls in order: no interval of the length of the window holds more allowed calls of a key
than its limit, a call is allowed exactly where fewer than the limit were allowed in the window
before it, and a refused call is allowed again after the seconds that it was told. -/
theorem sliding_window (policy : Policy) (calls : List Call)
    (inOrder : calls.Pairwise fun a b => a.time ≤ b.time) :
    (∀ key start, (within start (policy.windowMs key) ((history policy calls).times key)).length ≤
      policy.limit key) ∧
    (∀ call, (∀ c ∈ calls, c.time ≤ call.time) →
      (((history policy calls).verdict policy call).allowed = true ↔
        (recent call.time (policy.windowMs call.key)
          ((history policy calls).times call.key)).length < policy.limit call.key)) ∧
    ∀ earlier call between again, calls = earlier ++ call :: between →
      ((history policy earlier).verdict policy call).allowed = false →
      (∀ c ∈ between, c.key ≠ call.key) → again.key = call.key →
      (∀ c ∈ calls, c.time ≤ again.time) →
      call.time + 1000 * ((history policy earlier).verdict policy call).retryAfterSec ≤
        again.time →
      ((history policy calls).verdict policy again).allowed = true := by
  refine ⟨?_, ?_, ?_⟩
  · exact history_bounded policy inOrder
  · intro call past
    exact allowed_iff (history_tracks policy inOrder past).1
  · intro earlier call between again split refused others same past later
    have whole := (history_tracks policy inOrder past).1
    rw [split, List.pairwise_append] at inOrder
    have before : ∀ c ∈ earlier, c.time ≤ call.time :=
      fun c inside => inOrder.2.2 c inside call List.mem_cons_self
    obtain ⟨tracks, bounded⟩ := history_tracks policy inOrder.1 before
    have times : (history policy calls).times call.key = (history policy earlier).times call.key := by
      rw [split, history_append, List.foldl_cons, times_others _ others, times_next,
        if_neg (by simp [refused]), List.append_nil]
    have full : ¬ (recent call.time (policy.windowMs call.key)
        ((history policy earlier).times call.key)).length < policy.limit call.key := by
      rw [← allowed_iff tracks, refused]
      exact Bool.false_ne_true
    have atMost := bounded call.key (call.time + 1 - policy.windowMs call.key)
    rw [← recent_eq_within _ (tracks.past call.key)] at atMost
    have positive := policy.positive call.key
    rw [retryAfterSec_refused tracks refused] at later
    have fewer := recent_after_retry (List.ne_nil_of_length_pos (by omega)) later
    rw [allowed_iff whole, same, times]
    omega

/-- Two calls in a minute. -/
def twice : Policy where
  limit _ := 2
  windowMs _ := 60000
  positive _ := Nat.le_of_ble_eq_true rfl
  short _ := Nat.le_of_ble_eq_true rfl

/-- Three calls on one key within a second, the last of them refused for a minute, and one on
another key. -/
def burst : List Call :=
  [⟨1000000, "a"⟩, ⟨1000400, "a"⟩, ⟨1000900, "a"⟩, ⟨1030000, "b"⟩]

theorem sliding_window_burst :
    burst.Pairwise (fun a b => a.time ≤ b.time) ∧
      (within 1000000 60000 ((history twice burst).times "a")).length ≤ 2 ∧
      (history twice (burst.take 2)).verdict twice ⟨1000900, "a"⟩ = ⟨false, 60⟩ ∧
      ((history twice burst).verdict twice ⟨1060900, "a"⟩).allowed = true := by
  have inOrder : burst.Pairwise (fun a b => a.time ≤ b.time) := by decide
  have window := sliding_window twice burst inOrder
  have refused : (history twice (burst.take 2)).verdict twice ⟨1000900, "a"⟩ = ⟨false, 60⟩ := by
    decide +kernel
  have later : 1000900 + 1000 * ((history twice (burst.take 2)).verdict twice
      ⟨1000900, "a"⟩).retryAfterSec ≤ 1060900 := by
    rw [refused]
    decide
  refine ⟨inOrder, window.1 "a" 1000000, refused, ?_⟩
  exact window.2.2 (burst.take 2) ⟨1000900, "a"⟩ [⟨1030000, "b"⟩] ⟨1060900, "a"⟩ rfl
    (congrArg Verdict.allowed refused) (by decide) rfl (by decide) later

end Runs

end ChainRemote.Panel.RateLimit
