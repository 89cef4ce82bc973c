import Mathlib.Logic.Function.Basic
import ChainRemote.Lib.Machine
import ChainRemote.Agent.PushChecks

/-!
# The throttling of password attempts

`check_failure` and `update_failure` of `server/connection.rs` keep three numbers for each address,
and for three prefixes of an IPv6 address. One attempt is one step here: the check, the comparison
of the password and the update. The counters of a key are what the history says of it: how many
attempts were compared and found wrong since the last login that removed the key.
-/

namespace ChainRemote.Server.LoginThrottle

open Lib Agent

/-- A key of `LOGIN_FAILURES`: the text of an address, or that of a masked address with a slash and
the length behind it. -/
inductive Key
  | address (ip : String)
  | net (length : Nat) (masked : BitVec 128)
deriving DecidableEq

/-- The three numbers of a key. -/
structure Failure where
  /-- The minute of the last wrong attempt. -/
  minute : Int
  /-- The wrong attempts in that minute. -/
  count : Nat
  /-- The wrong attempts. -/
  total : Nat
deriving DecidableEq, Repr

/-- `LOGIN_FAILURES[0]`. -/
abbrev Failures := Key → Option Failure

/-- `.get(key).copied().unwrap_or((0, 0, 0))`. -/
def Failures.get (failures : Failures) (key : Key) : Failure := (failures key).getD ⟨0, 0, 0⟩

/-- `insert`. -/
def Failures.insert (failures : Failures) (key : Key) (failure : Failure) : Failures :=
  Function.update failures key (some failure)

/-- `remove`. -/
def Failures.remove (failures : Failures) (key : Key) : Failures := Function.update failures key none

/-- `AlarmAuditType`, the kinds that are posted here. -/
inductive AlarmAuditType
  | exceedThirtyAttempts
  | sixAttemptsWithinOneMinute
  | exceedIPv6PrefixAttempts
deriving DecidableEq, Repr

/-- The login error that is sent and the alarm that is posted. -/
structure Refusal where
  error : String
  alarm : AlarmAuditType
deriving DecidableEq, Repr

/-- `as i32`. -/
def wrap32 (x : Int) : Int := Int.bmod x (2 ^ 32)

/-- The minute of the wall clock, from milliseconds. -/
def minuteOf (now : Nat) : Nat := now / 60000

/-- `mask_u128`. -/
def maskU128 (addr : BitVec 128) (length : Nat) : BitVec 128 :=
  addr &&& if length = 0 ∨ 128 < length then 0 else BitVec.allOnes 128 <<< (128 - length)

section Addresses

-- `Ipv6Addr::from_str`
variable (fromStr : String → Option (BitVec 128))

/-- The address of a connection, without a zone id, if it is an IPv6 address. -/
def ipv6 (ip : String) : Option (BitVec 128) :=
  fromStr (String.ofList (rustTrim (String.ofList (ip.toList.takeWhile (· ≠ '%')))))

/-- `get_ipv6_prefixes`. -/
def getIpv6Prefixes (ip : String) : Option (Key × Key × Key) :=
  (ipv6 fromStr ip).map fun addr =>
    (.net 64 (maskU128 addr 64), .net 56 (maskU128 addr 56), .net 48 (maskU128 addr 48))

/-- `bump`. -/
def bump (cur : Failure) (time : Int) : Failure :=
  if cur.minute = time then { cur with count := cur.count + 1, total := cur.total + 1 }
  else { minute := time, count := 1, total := cur.total + 1 }

/-- `update_failure`. -/
def updateFailure (failures : Failures) (ip : String) (failure : Failure) (time : Int)
    (remove : Bool) : Failures :=
  if remove then
    if failure.minute ≠ 0 then
      match getIpv6Prefixes fromStr ip with
      | some (p64, p56, p48) =>
        (((failures.remove p64).remove p56).remove p48).remove (.address ip)
      | none => failures.remove (.address ip)
    else failures
  else
    match getIpv6Prefixes fromStr ip with
    | some (p64, p56, p48) =>
      ([p64, p56, p48].foldl (fun m key => m.insert key (bump (m.get key) time)) failures).insert
        (.address ip) (bump failure time)
    | none => failures.insert (.address ip) (bump failure time)

/-- `check_failure_ipv6_prefix`. -/
def checkFailureIpv6Net (failures : Failures) (key : Key) (length thresh : Nat) : Option Refusal :=
  if thresh < (failures.get key).total then
    some ⟨"Too many wrong attempts for IPv6 prefix /" ++ toString length,
      .exceedIPv6PrefixAttempts⟩
  else none

/-- The first check of `check_failure`, of the prefixes. -/
def checkPrefixes (failures : Failures) (ip : String) : Option Refusal :=
  (getIpv6Prefixes fromStr ip).bind fun (p64, p56, p48) =>
    ((checkFailureIpv6Net failures p64 64 60).or (checkFailureIpv6Net failures p56 56 80)).or
      (checkFailureIpv6Net failures p48 48 100)

/-- `check_failure`: the numbers of the address and the minute, for an attempt that may go on. -/
def checkFailure (failures : Failures) (ip : String) (now : Nat) :
    Except Refusal (Failure × Int) :=
  let time := wrap32 (minuteOf now)
  match checkPrefixes fromStr failures ip with
  | some refusal => .error refusal
  | none =>
    let failure := failures.get (.address ip)
    if 30 < failure.total then .error ⟨"Too many wrong attempts", .exceedThirtyAttempts⟩
    else if time = failure.minute ∧ 6 < failure.count then
      .error ⟨"Please try 1 minute later", .sixAttemptsWithinOneMinute⟩
    else .ok (failure, time)

/-- A password attempt: the address as text, the time in milliseconds, and whether
`validate_password` accepts it. -/
structure Attempt where
  ip : String
  now : Nat
  valid : Bool
deriving DecidableEq, Repr

/-- What becomes of an attempt. -/
inductive Outcome
  /-- It is not compared. -/
  | refused (refusal : Refusal)
  /-- It is compared and found wrong. -/
  | wrong
  /-- It logs in, and resets the address or not. -/
  | passed (reset : Bool)
deriving DecidableEq, Repr

/-- One attempt. -/
def attempt (failures : Failures) (a : Attempt) : Failures × Outcome :=
  match checkFailure fromStr failures a.ip a.now with
  | .error refusal => (failures, .refused refusal)
  | .ok (failure, time) =>
    if a.valid then
      (updateFailure fromStr failures a.ip failure time true, .passed (failure.minute ≠ 0))
    else (updateFailure fromStr failures a.ip failure time false, .wrong)

/-- An attempt of the history. -/
structure Record where
  ip : String
  now : Nat
  outcome : Outcome
deriving DecidableEq, Repr

/-- When the attempt was made. -/
def Record.minute (r : Record) : Nat := minuteOf r.now

/-- The counters, the time and the attempts so far, the newest first. -/
structure State where
  failures : Failures
  now : Nat
  log : List Record

/-- One attempt after some time. -/
def step (s : State) (a : Attempt) : Option State :=
  if a.now < s.now then none
  else
    let (failures, outcome) := attempt fromStr s.failures a
    some { failures, now := a.now, log := ⟨a.ip, a.now, outcome⟩ :: s.log }

/-- A device that takes logins. -/
def throttle : Machine State Attempt where
  start s := s.failures = (fun _ => none) ∧ s.log = []
  step := step fromStr

/-- The keys of an address. -/
def keysOf (ip : String) : List Key :=
  match getIpv6Prefixes fromStr ip with
  | some (p64, p56, p48) => [p64, p56, p48, .address ip]
  | none => [.address ip]

/-- The addresses with the same top bits. -/
def sameTop (length : Nat) (addr : BitVec 128) (ip : String) : Bool :=
  (ipv6 fromStr ip).any fun other : BitVec 128 => other >>> (128 - length) == addr >>> (128 - length)

end Addresses

/-- The attempts since the last login that reset one of the addresses. -/
def sinceReset (about : String → Bool) (log : List Record) : List Record :=
  log.takeWhile fun r => !(about r.ip && r.outcome == .passed true)

/-- How many of them came from the addresses, were compared and found wrong, and are of a kind. -/
def wrongSince (about : String → Bool) (which : Record → Bool) (log : List Record) : Nat :=
  (sinceReset about log).countP fun r => about r.ip && r.outcome == .wrong && which r

/-- One more attempt counts where it was wrong, and a login that resets ends the count. -/
theorem wrongSince_cons (about : String → Bool) (which : Record → Bool) (r : Record)
    (log : List Record) :
    wrongSince about which (r :: log) =
      match r.outcome with
      | .refused _ => wrongSince about which log
      | .wrong => wrongSince about which log + if about r.ip && which r then 1 else 0
      | .passed true => if about r.ip then 0 else wrongSince about which log
      | .passed false => wrongSince about which log := by
  unfold wrongSince sinceReset
  rw [List.takeWhile_cons]
  cases outcome : r.outcome with
  | refused refusal => simp [outcome]
  | wrong => simp [outcome, List.countP_cons]
  | passed reset =>
    cases reset with
    | false => simp [outcome]
    | true => cases own : about r.ip <;> simp [outcome]

section Steps

variable {fromStr : String → Option (BitVec 128)} {failures : Failures} {ip : String}

theorem bump_minute (cur : Failure) (time : Int) : (bump cur time).minute = time := by
  unfold bump
  split
  · assumption
  · rfl

theorem bump_total (cur : Failure) (time : Int) : (bump cur time).total = cur.total + 1 := by
  unfold bump
  split <;> rfl

/-- A wrong attempt is counted in its minute. -/
theorem bump_count (cur : Failure) (time : Int) :
    (if cur.minute = time then cur.count else 0) < (bump cur time).count := by
  unfold bump
  split
  · exact Nat.lt_succ_self _
  · exact Nat.one_pos

theorem insert_get (failures : Failures) (key other : Key) (failure : Failure) :
    (failures.insert key failure).get other = if other = key then failure else failures.get other := by
  unfold Failures.insert Failures.get
  by_cases same : other = key
  · rw [same, Function.update_self, if_pos rfl]
    rfl
  · rw [Function.update_of_ne same, if_neg same]

theorem remove_get (failures : Failures) (key other : Key) :
    (failures.remove key).get other = if other = key then ⟨0, 0, 0⟩ else failures.get other := by
  unfold Failures.remove Failures.get
  by_cases same : other = key
  · rw [same, Function.update_self, if_pos rfl]
    rfl
  · rw [Function.update_of_ne same, if_neg same]

theorem address_mem_keysOf {other : String} :
    Key.address other ∈ keysOf fromStr ip ↔ other = ip := by
  unfold keysOf
  cases nets : getIpv6Prefixes fromStr ip with
  | none => simp
  | some found =>
    obtain ⟨addr, -, rfl⟩ := Option.map_eq_some_iff.mp nets
    simp

/-- Two addresses have the same masked address exactly where their top bits are the same. -/
theorem maskU128_eq_iff {length : Nat} (positive : 0 < length) (most : length ≤ 128)
    (addr other : BitVec 128) :
    maskU128 addr length = maskU128 other length ↔
      addr >>> (128 - length) = other >>> (128 - length) := by
  have inside : ¬ (length = 0 ∨ 128 < length) := by omega
  have bit : ∀ (x : BitVec 128) (i : Nat), i < 128 →
      (maskU128 x length).getLsbD i = (x.getLsbD i && decide (128 - length ≤ i)) := by
    intro x i below
    have upper : i - (128 - length) < 128 := by omega
    unfold maskU128
    rw [if_neg inside, BitVec.getLsbD_and, BitVec.getLsbD_shiftLeft, BitVec.getLsbD_allOnes]
    by_cases low : i < 128 - length
    · have short : ¬ 128 ≤ i + length := by omega
      simp [low, short]
    · simp [low, below, upper, Nat.not_lt.mp low]
  constructor
  · intro same
    apply BitVec.eq_of_getLsbD_eq
    intro i below
    rw [BitVec.getLsbD_ushiftRight, BitVec.getLsbD_ushiftRight]
    by_cases far : 128 - length + i < 128
    · have equal := congrArg (fun x => BitVec.getLsbD x (128 - length + i)) same
      simpa [bit _ _ far] using equal
    · rw [BitVec.getLsbD_of_ge _ _ (Nat.not_lt.mp far), BitVec.getLsbD_of_ge _ _ (Nat.not_lt.mp far)]
  · intro same
    apply BitVec.eq_of_getLsbD_eq
    intro i below
    rw [bit addr i below, bit other i below]
    by_cases low : i < 128 - length
    · have short : ¬ 128 ≤ i + length := by omega
      simp [short]
    · have equal := congrArg (fun x => BitVec.getLsbD x (i - (128 - length))) same
      simp only [BitVec.getLsbD_ushiftRight, Nat.add_sub_cancel' (Nat.not_lt.mp low)] at equal
      rw [equal]

/-- A prefix of one of the three lengths is a key of the addresses with the same top bits. -/
theorem net_mem_keysOf {length : Nat} (kept : length = 64 ∨ length = 56 ∨ length = 48)
    (addr : BitVec 128) :
    Key.net length (maskU128 addr length) ∈ keysOf fromStr ip ↔
      sameTop fromStr length addr ip = true := by
  have same : ∀ other, maskU128 addr length = maskU128 other length ↔
      other >>> (128 - length) = addr >>> (128 - length) := by
    intro other
    rw [maskU128_eq_iff (by omega) (by omega)]
    exact eq_comm
  unfold keysOf getIpv6Prefixes sameTop
  cases known : ipv6 fromStr ip with
  | none => simp
  | some other =>
    simp only [Option.map_some, List.mem_cons, Key.net.injEq, List.not_mem_nil, or_false,
      reduceCtorEq, Option.any_some, beq_iff_eq]
    rw [← same other]
    rcases kept with rfl | rfl | rfl
    · simp
    · simp
    · simp

/-- A wrong attempt is counted under every key of its address. -/
theorem updateFailure_wrong (key : Key) (time : Int) :
    (updateFailure fromStr failures ip (failures.get (.address ip)) time false).get key =
      if key ∈ keysOf fromStr ip then bump (failures.get key) time else failures.get key := by
  unfold updateFailure keysOf
  cases nets : getIpv6Prefixes fromStr ip with
  | none =>
    by_cases own : key = .address ip
    · simp [insert_get, own]
    · simp [insert_get, own]
  | some found =>
    obtain ⟨addr, -, rfl⟩ := Option.map_eq_some_iff.mp nets
    simp only [Bool.false_eq_true, if_false, List.foldl_cons, List.foldl_nil, insert_get,
      List.mem_cons, List.not_mem_nil, or_false]
    by_cases own : key = .address ip
    · subst own
      simp
    · by_cases p48 : key = .net 48 (maskU128 addr 48)
      · subst p48
        simp
      · by_cases p56 : key = .net 56 (maskU128 addr 56)
        · subst p56
          simp
        · by_cases p64 : key = .net 64 (maskU128 addr 64)
          · subst p64
            simp
          · simp [own, p48, p56, p64]

/-- A login that resets removes every key of its address. -/
theorem updateFailure_passed (key : Key) (failure : Failure) (time : Int) :
    (updateFailure fromStr failures ip failure time true).get key =
      if failure.minute ≠ 0 ∧ key ∈ keysOf fromStr ip then ⟨0, 0, 0⟩ else failures.get key := by
  unfold updateFailure keysOf
  by_cases known : failure.minute = 0
  · simp [known]
  · cases nets : getIpv6Prefixes fromStr ip with
    | none => simp [known, remove_get]
    | some found =>
      obtain ⟨addr, -, rfl⟩ := Option.map_eq_some_iff.mp nets
      simp only [if_true, known, ne_eq, not_false_eq_true, true_and, remove_get, List.mem_cons,
        List.not_mem_nil, or_false]
      by_cases own : key = .address ip
      · simp [own]
      · by_cases p48 : key = .net 48 (maskU128 addr 48)
        · simp [p48]
        · by_cases p56 : key = .net 56 (maskU128 addr 56)
          · simp [p56]
          · simp [own, p48, p56]

/-- How many wrong attempts of a key are compared between two resets. -/
def Key.limit : Key → Nat
  | .address _ => 31
  | .net length _ => if length = 64 then 61 else if length = 56 then 81 else 101

/-- An attempt that may go on is below the limits of all its keys, and not the eighth of a
minute. -/
theorem checkFailure_ok {now : Nat} {failure : Failure} {time : Int}
    (passes : checkFailure fromStr failures ip now = .ok (failure, time)) :
    failure = failures.get (.address ip) ∧ time = wrap32 (minuteOf now) ∧
      (∀ key ∈ keysOf fromStr ip, (failures.get key).total < key.limit) ∧
      (failure.minute = time → failure.count ≤ 6) := by
  unfold checkFailure at passes
  dsimp only at passes
  split at passes
  · cases passes
  · rename_i nets
    split at passes
    · cases passes
    · rename_i few
      split at passes
      · cases passes
      · rename_i slow
        obtain ⟨rfl, rfl⟩ := Prod.mk.inj (Except.ok.inj passes)
        have own : (failures.get (.address ip)).total < (Key.address ip).limit :=
          Nat.lt_succ_of_le (Nat.not_lt.mp few)
        refine ⟨rfl, rfl, fun key inside => ?_, fun same => ?_⟩
        · unfold checkPrefixes at nets
          unfold keysOf at inside
          cases found : getIpv6Prefixes fromStr ip with
          | none =>
            rw [found] at inside
            rw [List.mem_singleton.mp inside]
            exact own
          | some found' =>
            rw [found] at nets inside
            obtain ⟨addr, -, rfl⟩ := Option.map_eq_some_iff.mp found
            simp only [Option.bind_some, Option.or_eq_none_iff, checkFailureIpv6Net,
              ite_eq_right_iff, reduceCtorEq, imp_false, Nat.not_lt] at nets
            obtain ⟨⟨p64, p56⟩, p48⟩ := nets
            simp only [List.mem_cons, List.not_mem_nil, or_false] at inside
            rcases inside with rfl | rfl | rfl | rfl
            · exact Nat.lt_succ_of_le p64
            · exact Nat.lt_succ_of_le p56
            · exact Nat.lt_succ_of_le p48
            · exact own
        · by_contra many
          exact slow ⟨same.symm, Nat.not_le.mp many⟩

end Steps

section Runs

variable {fromStr : String → Option (BitVec 128)} {s t : State}

/-- An address has a key. -/
def has (fromStr : String → Option (BitVec 128)) (key : Key) (ip : String) : Bool :=
  decide (key ∈ keysOf fromStr ip)

/-- All attempts. -/
def any : Record → Bool := fun _ => true

/-- The attempts within a minute. -/
def within (minute : Nat) : Record → Bool := fun r => decide (r.minute = minute)

/-- What every run keeps. -/
structure Sound (fromStr : String → Option (BitVec 128)) (s : State) : Prop where
  past : ∀ r ∈ s.log, r.minute ≤ minuteOf s.now
  total : ∀ key, (s.failures.get key).total = wrongSince (has fromStr key) any s.log
  bounded : ∀ key, wrongSince (has fromStr key) any s.log ≤ key.limit
  minutes : ∀ ip minute, wrongSince (has fromStr (.address ip)) (within minute) s.log ≤ 7
  /-- The count of the minute that is running, and of none that comes. -/
  current : ∀ ip minute, minuteOf s.now ≤ minute →
    wrongSince (has fromStr (.address ip)) (within minute) s.log ≤
      if (s.failures.get (.address ip)).minute = wrap32 minute then
        (s.failures.get (.address ip)).count
      else 0

/-- Nothing was counted in a minute that is still to come. -/
theorem wrongSince_future {about : String → Bool} {minute : Nat} {log : List Record}
    (past : ∀ r ∈ log, r.minute < minute) : wrongSince about (within minute) log = 0 := by
  unfold wrongSince
  apply List.countP_eq_zero.mpr
  intro r inside counted
  simp only [within, Bool.and_eq_true, decide_eq_true_eq] at counted
  have earlier := past r ((List.takeWhile_sublist _).mem inside)
  omega

/-- The time goes on. -/
theorem Sound.later (sound : Sound fromStr s) {now : Nat} (after : s.now ≤ now) :
    Sound fromStr { s with now } := by
  have minutes : minuteOf s.now ≤ minuteOf now := Nat.div_le_div_right after
  refine ⟨fun r inside => ?_, sound.total, sound.bounded, sound.minutes, fun ip minute coming => ?_⟩
  · exact (sound.past r inside).trans minutes
  · exact sound.current ip minute (minutes.trans coming)

/-- An attempt that is not compared. -/
theorem Sound.refused (sound : Sound fromStr s) (ip : String) (refusal : Refusal) :
    Sound fromStr { s with log := ⟨ip, s.now, .refused refusal⟩ :: s.log } := by
  have same : ∀ about which,
      wrongSince about which (⟨ip, s.now, .refused refusal⟩ :: s.log) =
        wrongSince about which s.log := by
    intro about which
    rw [wrongSince_cons]
  refine ⟨fun r inside => ?_, ?_, ?_, ?_, ?_⟩
  · rcases List.mem_cons.mp inside with rfl | before
    · exact Nat.le_refl _
    · exact sound.past r before
  · simp only [same]
    exact sound.total
  · simp only [same]
    exact sound.bounded
  · simp only [same]
    exact sound.minutes
  · simp only [same]
    exact sound.current

/-- An attempt that is compared and found wrong. -/
theorem Sound.wrong (sound : Sound fromStr s) {ip : String} {failure : Failure} {time : Int}
    (passes : checkFailure fromStr s.failures ip s.now = .ok (failure, time)) :
    Sound fromStr { s with
      failures := updateFailure fromStr s.failures ip failure time false
      log := ⟨ip, s.now, .wrong⟩ :: s.log } := by
  obtain ⟨stored, started, few, slow⟩ := checkFailure_ok passes
  rw [stored, started]
  rw [stored, started] at slow
  have one : ∀ about which, wrongSince about which (⟨ip, s.now, .wrong⟩ :: s.log) =
      wrongSince about which s.log +
        if about ip && which ⟨ip, s.now, .wrong⟩ then 1 else 0 := by
    intro about which
    rw [wrongSince_cons]
  refine ⟨fun r inside => ?_, fun key => ?_, fun key => ?_, fun other minute => ?_,
    fun other minute coming => ?_⟩
  · rcases List.mem_cons.mp inside with rfl | before
    · exact Nat.le_refl _
    · exact sound.past r before
  · dsimp only
    rw [updateFailure_wrong, one, ← sound.total key]
    by_cases own : key ∈ keysOf fromStr ip
    · rw [if_pos own, bump_total]
      simp [has, own, any]
    · rw [if_neg own]
      simp [has, own]
  · rw [one]
    by_cases own : key ∈ keysOf fromStr ip
    · have below := few key own
      rw [sound.total key] at below
      simp only [has, own, any, decide_true, Bool.and_self, if_true]
      omega
    · have kept := sound.bounded key
      simpa [has, own] using kept
  · rw [one]
    by_cases own : Key.address other ∈ keysOf fromStr ip ∧ minuteOf s.now = minute
    · obtain ⟨inside, rfl⟩ := own
      obtain rfl := address_mem_keysOf.mp inside
      -- the eighth attempt of a minute is not compared
      have now := sound.current other (minuteOf s.now) (Nat.le_refl _)
      have most : wrongSince (has fromStr (.address other)) (within (minuteOf s.now)) s.log ≤ 6 := by
        split at now
        · rename_i running
          exact now.trans (slow running)
        · omega
      split <;> omega
    · have kept := sound.minutes other minute
      have out : (has fromStr (.address other) ip &&
          within minute ⟨ip, s.now, .wrong⟩) = false := by
        by_cases inside : Key.address other ∈ keysOf fromStr ip
        · have elsewhere : ¬ minuteOf s.now = minute := fun now => own ⟨inside, now⟩
          simp [within, Record.minute, elsewhere]
        · simp [has, inside]
      rw [out]
      simpa using kept
  · dsimp only at coming ⊢
    rw [one, updateFailure_wrong]
    have before := sound.current other minute coming
    by_cases own : Key.address other ∈ keysOf fromStr ip
    · rw [if_pos own]
      by_cases running : minuteOf s.now = minute
      · subst running
        have grown := bump_count (s.failures.get (.address other)) (wrap32 (minuteOf s.now))
        rw [if_pos (bump_minute _ _)]
        split <;> omega
      · have nothing : wrongSince (has fromStr (.address other)) (within minute) s.log = 0 := by
          apply wrongSince_future
          intro r inside
          have earlier := sound.past r inside
          omega
        have out : within minute ⟨ip, s.now, .wrong⟩ = false := decide_eq_false running
        rw [nothing, out]
        simp
    · rw [if_neg own]
      simpa [has, own] using before

/-- An attempt that logs in. -/
theorem Sound.passed (sound : Sound fromStr s) (ip : String) (failure : Failure) (time : Int) :
    Sound fromStr { s with
      failures := updateFailure fromStr s.failures ip failure time true
      log := ⟨ip, s.now, .passed (failure.minute ≠ 0)⟩ :: s.log } := by
  have one : ∀ key which, wrongSince (has fromStr key) which
      (⟨ip, s.now, .passed (failure.minute ≠ 0)⟩ :: s.log) =
        if failure.minute ≠ 0 ∧ key ∈ keysOf fromStr ip then 0
        else wrongSince (has fromStr key) which s.log := by
    intro key which
    rw [wrongSince_cons]
    by_cases reset : failure.minute = 0
    · simp [reset]
    · by_cases own : key ∈ keysOf fromStr ip
      · simp [reset, has, own]
      · simp [reset, has, own]
  refine ⟨fun r inside => ?_, fun key => ?_, fun key => ?_, fun other minute => ?_,
    fun other minute coming => ?_⟩
  · rcases List.mem_cons.mp inside with rfl | before
    · exact Nat.le_refl _
    · exact sound.past r before
  · dsimp only
    rw [updateFailure_passed, one]
    split
    · rfl
    · exact sound.total key
  · rw [one]
    split
    · exact Nat.zero_le _
    · exact sound.bounded key
  · rw [one]
    split
    · exact Nat.zero_le _
    · exact sound.minutes other minute
  · dsimp only at coming ⊢
    rw [one, updateFailure_passed]
    by_cases reset : failure.minute ≠ 0 ∧ Key.address other ∈ keysOf fromStr ip
    · rw [if_pos reset]
      exact Nat.zero_le _
    · rw [if_neg reset, if_neg reset]
      exact sound.current other minute coming

theorem Sound.step {a : Attempt} (sound : Sound fromStr s) (next : step fromStr s a = some t) :
    Sound fromStr t := by
  unfold LoginThrottle.step at next
  split at next
  · cases next
  · rename_i after
    cases next
    have later := sound.later (Nat.not_lt.mp after)
    split
    · exact later.refused a.ip _
    · rename_i failure time passes
      by_cases valid : a.valid = true
      · rw [if_pos valid]
        exact later.passed a.ip failure time
      · rw [if_neg valid]
        exact later.wrong passes

theorem sound_of_reaches (reached : (throttle fromStr).Reaches Machine.free s) :
    Sound fromStr s := by
  apply reached.invariant (Sound fromStr)
  · rintro ⟨failures, now, log⟩ ⟨empty, fresh⟩
    subst empty
    subst fresh
    exact ⟨fun _ inside => absurd inside List.not_mem_nil, fun _ => rfl, fun _ => Nat.zero_le _,
      fun _ _ => Nat.zero_le _, fun _ _ _ => Nat.zero_le _⟩
  · exact fun _ _ _ sound _ next => sound.step next

end Runs

/-- In every run, since the last login that reset an address, at most 31 attempts from it were
compared and found wrong, and at most 7 of them in one minute; since the last login that reset a
prefix, at most 61, 81 and 101 from the IPv6 addresses with the same top 64, 56 and 48 bits. -/
theorem wrong_attempts_bounded (fromStr : String → Option (BitVec 128)) (s : State)
    (reached : (throttle fromStr).Reaches Machine.free s) :
    (∀ ip, wrongSince (fun other => decide (other = ip)) any s.log ≤ 31 ∧
      ∀ minute, wrongSince (fun other => decide (other = ip)) (within minute) s.log ≤ 7) ∧
    ∀ addr, wrongSince (sameTop fromStr 64 addr) any s.log ≤ 61 ∧
      wrongSince (sameTop fromStr 56 addr) any s.log ≤ 81 ∧
      wrongSince (sameTop fromStr 48 addr) any s.log ≤ 101 := by
  have sound := sound_of_reaches reached
  have address : ∀ ip, (fun other => decide (other = ip)) = has fromStr (.address ip) := by
    intro ip
    funext other
    unfold has
    simp only [address_mem_keysOf]
    exact decide_eq_decide.mpr eq_comm
  have net : ∀ length, length = 64 ∨ length = 56 ∨ length = 48 → ∀ addr,
      sameTop fromStr length addr = has fromStr (.net length (maskU128 addr length)) := by
    intro length kept addr
    funext other
    rw [Bool.eq_iff_iff, ← net_mem_keysOf kept]
    exact decide_eq_true_iff.symm
  refine ⟨fun ip => ?_, fun addr => ⟨?_, ?_, ?_⟩⟩
  · rw [address ip]
    exact ⟨sound.bounded (.address ip), sound.minutes ip⟩
  · rw [net 64 (.inl rfl)]
    exact sound.bounded (.net 64 (maskU128 addr 64))
  · rw [net 56 (.inr (.inl rfl))]
    exact sound.bounded (.net 56 (maskU128 addr 56))
  · rw [net 48 (.inr (.inr rfl))]
    exact sound.bounded (.net 48 (maskU128 addr 48))

/-- `Ipv6Addr::from_str` on the texts of two addresses of one network, and on others that are not
IPv6. -/
def twoHosts (text : String) : Option (BitVec 128) :=
  if text = "2001:db8::1" then some 0x20010db8000000000000000000000001#128
  else if text = "2001:db8::2" then some 0x20010db8000000000000000000000002#128
  else none

/-- Eight wrong attempts from one address within a minute, and one from the other. -/
def guesses : List Attempt :=
  List.replicate 8 ⟨"2001:db8::1", 1000000, false⟩ ++ [⟨"2001:db8::2", 1000000, false⟩]

theorem wrong_attempts_bounded_guesses :
    wrongSince (fun other => decide (other = "2001:db8::1")) (within 16)
      ((throttle twoHosts).play Machine.free ⟨fun _ => none, 0, []⟩ guesses).log ≤ 7 := by
  have bounded := wrong_attempts_bounded twoHosts
    ((throttle twoHosts).play Machine.free ⟨fun _ => none, 0, []⟩ guesses)
    ⟨_, ⟨rfl, rfl⟩, Machine.runs_play _ _ _ _⟩
  exact (bounded.1 "2001:db8::1").2 16

end ChainRemote.Server.LoginThrottle
