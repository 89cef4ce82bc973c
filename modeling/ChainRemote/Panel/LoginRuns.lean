import ChainRemote.Lib.Machine
import ChainRemote.Panel.Login

/-!
# Wrong passwords along runs

Runs of login requests, handled one after another. The failures of an account since its last right
password are in the bucket of its name as long as they count, if each of them came under that
name. An account therefore sees at most twenty wrong passwords in ten minutes without a login.
-/

namespace ChainRemote.Panel.Login

open Lib Seats RateLimit

/-- The limiter, the tables, the clock and the passwords compared so far, the last one first. -/
structure State where
  limiter : Limiter
  db : Seats.Db
  now : Nat
  history : List Attempt

/-- The names of accounts are different, and so are their keys. -/
def Named (amb : Ambient) (db : Seats.Db) : Prop :=
  (db.users.map User.id).Nodup ∧ (db.users.map fun user => amb.sqlLower user.email).Nodup

/-- The state after a request. -/
def State.after (s : State) (request : Request) (outcome : Outcome) : State where
  limiter := outcome.limiter
  db := outcome.db
  now := request.clock.seated
  history := outcome.attempt.toList ++ s.history

/-- Requests one after another, from a new process. -/
def logins (amb : Ambient) : Machine State Request where
  start s := s.limiter = Limiter.empty ∧ s.history = [] ∧ Named amb s.db
  step s request :=
    if request.clock.After s.now then some (s.after request (post amb s.limiter s.db request))
    else none

/-- A wrong password for the account within a span of time. -/
def Attempt.wrongIn (user from' until' : Nat) (attempt : Attempt) : Bool :=
  attempt.user == user && !attempt.right && decide (from' ≤ attempt.compared) &&
    decide (attempt.compared < until')

/-- The wrong passwords for an account within a span of time. -/
def wrongs (history : List Attempt) (user from' until' : Nat) : List Attempt :=
  history.filter (Attempt.wrongIn user from' until')

/-- The recorded failures of an account since its last right password. -/
def failures (user : Nat) : List Attempt → List Nat
  | [] => []
  | attempt :: rest =>
    if attempt.user = user then
      if attempt.right then [] else attempt.recorded :: failures user rest
    else failures user rest

/-- The request passes its rate limits and finds an account. -/
structure Compares (amb : Ambient) (limiter : Limiter) (db : Seats.Db) (request : Request)
    (login : Seats.Login) (user : User) (tenant : Tenant) : Prop where
  parsed : request.login = .ok login
  allowed : (checkLimits amb request.clock login limiter).1.allowed = true
  stored : storable (amb.toLowerCase login.email) = true
  found : lookup amb db request.route login.email = some (user, tenant)

/-- A wrong password for an account that only the letters of the keys of the id name. -/
def WrongByKeys (amb : Ambient) (s : State) (request : Request) : Prop :=
  ∃ login user tenant, Compares amb s.limiter s.db request login user tenant ∧
    findByName amb.seats s.db login.email = none ∧
    verifyPassword amb.compareSync login.password user.passwordHash = false

/-- A right password that gets no token. -/
def RightRefused (amb : Ambient) (s : State) (request : Request) : Prop :=
  ∃ login user tenant, Compares amb s.limiter s.db request login user tenant ∧
    verifyPassword amb.compareSync login.password user.passwordHash = true ∧
    ¬ (mayEnter s.db request.clock.seated user tenant = .ok () ∧
      (takeSeat s.db request.clock.seated request.jti request.route login user).2.isToken = true)

/-- No wrong password comes by the keys of an id. -/
def TypedOnly (amb : Ambient) (s : State) (request : Request) : Prop := ¬ WrongByKeys amb s request

/-- And every right password gets a token. -/
def TypedAndServed (amb : Ambient) (s : State) (request : Request) : Prop :=
  TypedOnly amb s request ∧ ¬ RightRefused amb s request

/-- The attempt of a request that compares a password. -/
def Request.attempt (request : Request) (login : Seats.Login) (user : User) (right issued : Bool) :
    Attempt where
  user := user.id
  password := login.password
  compared := request.clock.compared
  recorded := request.clock.recorded
  finished := request.clock.seated
  right := right
  issued := issued

section Requests

variable {amb : Ambient} {limiter : Limiter} {db : Seats.Db} {request : Request}

/-- Requests leave accounts and companies. -/
theorem takeSeat_accounts (now jti : Nat) (route : Route) (login : Seats.Login) (user : User) :
    (takeSeat db now jti route login user).1.users = db.users ∧
      (takeSeat db now jti route login user).1.tenants = db.tenants := by
  unfold takeSeat
  cases route with
  | token =>
    dsimp only
    split
    · exact ⟨rfl, rfl⟩
    · exact ⟨rfl, rfl⟩
  | takeover => exact ⟨rfl, rfl⟩

/-- What a request that compared a password did. -/
structure Effect (amb : Ambient) (limiter : Limiter) (db : Seats.Db) (request : Request)
    (login : Seats.Login) (user : User) (tenant : Tenant) (outcome : Outcome) : Prop where
  attempt : ∃ right issued, outcome.attempt = some (request.attempt login user right issued) ∧
    verifyPassword amb.compareSync login.password user.passwordHash = right ∧
    (right = true → (issued = true ↔ mayEnter db request.clock.seated user tenant = .ok () ∧
      (takeSeat db request.clock.seated request.jti request.route login user).2.isToken = true)) ∧
    outcome.limiter =
      if right then rateLimitReset (emailKey amb login.email) limiter
      else rateLimitRecord request.clock.recorded (emailKey amb login.email) 600000 limiter

/-- Everything that a request does after its rate limits. -/
theorem afterLimits_cases (login : Seats.Login) :
    (afterLimits amb limiter db request login).db.users = db.users ∧
      (afterLimits amb limiter db request login).db.tenants = db.tenants ∧
      ((afterLimits amb limiter db request login).attempt = none ∧
          (afterLimits amb limiter db request login).limiter = limiter ∨
        ∃ user tenant, storable (amb.toLowerCase login.email) = true ∧
          lookup amb db request.route login.email = some (user, tenant) ∧
          Effect amb limiter db request login user tenant
            (afterLimits amb limiter db request login)) := by
  unfold afterLimits
  dsimp only
  split
  · exact ⟨rfl, rfl, .inl ⟨rfl, rfl⟩⟩
  · rename_i stored
    split
    · exact ⟨rfl, rfl, .inl ⟨rfl, rfl⟩⟩
    · rename_i user tenant found
      have stored : storable (amb.toLowerCase login.email) = true := by simpa using stored
      split
      · rename_i wrong
        refine ⟨rfl, rfl, .inr ⟨user, tenant, stored, found, ⟨false, false, rfl, ?_, nofun, rfl⟩⟩⟩
        simpa using wrong
      · rename_i fits
        have fits : verifyPassword amb.compareSync login.password user.passwordHash = true := by
          simpa using fits
        split
        · rename_i thrown admitted
          refine ⟨rfl, rfl, .inr ⟨user, tenant, stored, found, ⟨true, false, rfl, fits, ?_, rfl⟩⟩⟩
          simp [admitted]
        · rename_i passed admitted
          have accounts := @takeSeat_accounts db request.clock.seated request.jti
            request.route login user
          refine ⟨accounts.1, accounts.2,
            .inr ⟨user, tenant, stored, found, ⟨true, _, rfl, fits, ?_, rfl⟩⟩⟩
          simp [admitted]

/-- The key of a name. -/
def nameKey (name : String) : String := "login:email:" ++ name

theorem emailKey_eq (amb : Ambient) (email : String) :
    emailKey amb email = nameKey (amb.toLowerCase email) := rfl

theorem nameKey_ne_ipKey (name : String) (ip : Option String) : nameKey name ≠ ipKey ip := by
  intro same
  have chars := congrArg String.toList same
  simp [nameKey, ipKey] at chars

theorem nameKey_inj {name other : String} (same : nameKey name = nameKey other) : name = other := by
  have chars := congrArg String.toList same
  simp only [nameKey, String.toList_append, List.append_cancel_left_eq] at chars
  exact String.toList_inj.mp chars

/-- A limiter in order at a time in which the same failures of every name count. -/
structure SameCounts (limiter : Limiter) (now : Nat) (limited : Limiter) : Prop where
  ordered : Ordered now limited
  counts : ∀ name later, now ≤ later →
    limited.counting (nameKey name) later = limiter.counting (nameKey name) later

theorem checkLimits_eq (clock : Clock) (login : Seats.Login) :
    checkLimits amb clock login limiter =
      if (rateLimit clock.arrived (ipKey login.ip) 15 60000 limiter).1.allowed then
        rateLimitPeek clock.peeked (emailKey amb login.email) 20 600000
          (rateLimit clock.arrived (ipKey login.ip) 15 60000 limiter).2
      else rateLimit clock.arrived (ipKey login.ip) 15 60000 limiter := rfl

theorem afterBody_ok (login : Seats.Login) :
    afterBody amb limiter db request (.ok login) =
      if (checkLimits amb request.clock login limiter).1.allowed then
        afterLimits amb (checkLimits amb request.clock login limiter).2 db request login
      else
        { limiter := (checkLimits amb request.clock login limiter).2, db,
          answer := .tooManyRequests
            (checkLimits amb request.clock login limiter).1.retryAfterSec } := rfl

/-- The rate limits change no count of a name, and let a request through only while fewer than
twenty failures count. -/
theorem checkLimits_spec {now : Nat} (ordered : Ordered now limiter)
    (after : request.clock.After now) (login : Seats.Login) :
    SameCounts limiter request.clock.peeked (checkLimits amb request.clock login limiter).2 ∧
      ((checkLimits amb request.clock login limiter).1.allowed = true →
        limiter.counting (emailKey amb login.email) request.clock.peeked < 20) := by
  obtain ⟨arrives, peeks, -⟩ := after
  have address := rateLimit_spec (ordered.mono arrives) (ipKey login.ip) 15 60000
  rw [checkLimits_eq]
  generalize rateLimit request.clock.arrived (ipKey login.ip) 15 60000 limiter = byAddress
    at address ⊢
  have same : ∀ name later, request.clock.arrived ≤ later →
      byAddress.2.counting (nameKey name) later = limiter.counting (nameKey name) later :=
    fun name later le => address.2 _ later (nameKey_ne_ipKey name login.ip) le
  split
  · have looked := rateLimitPeek_spec (address.1.mono peeks) (emailKey amb login.email) 20
    generalize rateLimitPeek request.clock.peeked (emailKey amb login.email) 20 600000
      byAddress.2 = peek at looked ⊢
    refine ⟨⟨looked.1, ?_⟩, ?_⟩
    · intro name later le
      rw [looked.2.1 _ later le, same name later (by omega)]
    · intro allowed
      have room := looked.2.2.mp allowed
      rw [emailKey_eq, same _ _ peeks] at room
      rw [emailKey_eq]
      exact room
  · rename_i refused
    refine ⟨⟨address.1.mono peeks, ?_⟩, ?_⟩
    · intro name later le
      exact same name later (by omega)
    · intro allowed
      exact absurd allowed refused

/-- Everything that a request does to the limiter, the accounts and the history. -/
theorem post_cases {now : Nat} (amb : Ambient) (db : Seats.Db) (ordered : Ordered now limiter)
    (after : request.clock.After now) :
    (post amb limiter db request).db.users = db.users ∧
      (post amb limiter db request).db.tenants = db.tenants ∧
      ∃ limited, SameCounts limiter request.clock.peeked limited ∧
        ((post amb limiter db request).attempt = none ∧
            (post amb limiter db request).limiter = limited ∨
          ∃ login user tenant, Compares amb limiter db request login user tenant ∧
            limiter.counting (emailKey amb login.email) request.clock.peeked < 20 ∧
            Effect amb limited db request login user tenant (post amb limiter db request)) := by
  unfold post
  cases parsed : request.login with
  | error thrown =>
    have later : now ≤ request.clock.peeked := by
      have ⟨arrives, peeks, _⟩ := after
      omega
    exact ⟨rfl, rfl, limiter, ⟨ordered.mono later, fun _ _ _ => rfl⟩, .inl ⟨rfl, rfl⟩⟩
  | ok login =>
    have limits := @checkLimits_spec amb _ _ _ ordered after login
    have allows : ∀ user tenant, (checkLimits amb request.clock login limiter).1.allowed = true →
        storable (amb.toLowerCase login.email) = true →
        lookup amb db request.route login.email = some (user, tenant) →
        Compares amb limiter db request login user tenant :=
      fun _ _ allowed stored found => ⟨parsed, allowed, stored, found⟩
    rw [afterBody_ok]
    generalize checkLimits amb request.clock login limiter = checked at limits allows ⊢
    by_cases allowed : checked.1.allowed = true
    · rw [if_pos allowed]
      obtain ⟨users, tenants, rest⟩ := @afterLimits_cases amb checked.2 db request login
      refine ⟨users, tenants, checked.2, limits.1, ?_⟩
      rcases rest with ⟨none, same⟩ | ⟨user, tenant, stored, found, effect⟩
      · exact .inl ⟨none, same⟩
      · exact .inr ⟨login, user, tenant, allows user tenant allowed stored found,
          limits.2 allowed, effect⟩
    · rw [if_neg allowed]
      have keeps : ∀ limiter answer, ({ limiter, db, answer } : Outcome).limiter = limiter :=
        fun _ _ => rfl
      exact ⟨rfl, rfl, checked.2, limits.1, .inl ⟨rfl, keeps checked.2 _⟩⟩

/-- An account that logins can find. -/
def Findable (db : Seats.Db) (account : User) : Prop :=
  account ∈ db.users ∧ account.isActive = true ∧ ∃ tenant ∈ db.tenants, tenant.id = account.tenantId

/-- The account that is found under a name has it. -/
theorem findByName_some {name : String} {user : User} {tenant : Tenant}
    (found : findByName amb.seats db name = some (user, tenant)) :
    Findable db user ∧ amb.sqlLower user.email = amb.toLowerCase name := by
  obtain ⟨account, member, here⟩ := List.exists_of_findSome?_eq_some found
  split at here
  · rename_i fits
    obtain ⟨company, known, same⟩ := Option.map_eq_some_iff.mp here
    simp only [Prod.mk.injEq] at same
    obtain ⟨rfl, rfl⟩ := same
    have home : company.id = account.tenantId := by simpa using List.find?_some known
    exact ⟨⟨member, fits.2, company, List.mem_of_find?_eq_some known, home⟩, fits.1⟩
  · cases here

/-- A name of an account that can be found finds one. -/
theorem findByName_ne_none {name : String} {account : User} (findable : Findable db account)
    (same : amb.sqlLower account.email = amb.toLowerCase name) :
    findByName amb.seats db name ≠ none := by
  obtain ⟨member, active, company, known, home⟩ := findable
  intro nobody
  have here := List.findSome?_eq_none_iff.mp nobody account member
  rw [if_pos ⟨same, active⟩, Option.map_eq_none_iff, List.find?_eq_none] at here
  exact here company known (by simp [home])

theorem lookup_findable {route : Route} {email : String} {user : User} {tenant : Tenant}
    (found : lookup amb db route email = some (user, tenant)) : Findable db user := by
  unfold lookup at found
  split at found
  · rename_i pair direct
    cases found
    exact (findByName_some direct).1
  · split at found
    · unfold findByKeys at found
      split at found
      · split at found
        · cases found
        · exact (findByName_some found).1
      · cases found
    · cases found

end Requests

/-- The passwords were compared one after another, in the past. -/
structure Timed (s : State) : Prop where
  ordered : Ordered s.now s.limiter
  past : ∀ e ∈ s.history, e.compared ≤ e.recorded ∧ e.recorded ≤ e.finished ∧ e.finished ≤ s.now
  sorted : s.history.Pairwise fun newer older => older.finished ≤ newer.compared

/-- The failures of the account that count are in the bucket of its name. -/
def Counted (amb : Ambient) (account : User) (s : State) : Prop :=
  ∀ later, s.now ≤ later → (recent later 600000 (failures account.id s.history)).length ≤
    s.limiter.counting (nameKey (amb.sqlLower account.email)) later

/-- At most twenty wrong passwords in ten minutes in which no right one is stamped. -/
def Bounded (user : Nat) (stamp : Attempt → Nat) (history : List Attempt) : Prop :=
  ∀ from' until', until' ≤ from' + 600000 →
    (∀ e ∈ history, e.user = user → e.right = true → ¬ (from' ≤ stamp e ∧ stamp e < until')) →
    (wrongs history user from' until').length ≤ 20

section Steps

variable {amb : Ambient} {s t : State} {request : Request} {account : User}

theorem step_after (next : (logins amb).step s request = some t) :
    request.clock.After s.now ∧ s.after request (post amb s.limiter s.db request) = t := by
  simp only [logins, Option.ite_none_right_eq_some, Option.some.injEq] at next
  exact next

/-- The times of one more attempt. -/
theorem timed_cons {limiter : Limiter} {db : Seats.Db} {login : Seats.Login} {user : User}
    {right issued : Bool} (timed : Timed s) (after : request.clock.After s.now)
    (ordered : Ordered request.clock.seated limiter) :
    Timed ⟨limiter, db, request.clock.seated,
      request.attempt login user right issued :: s.history⟩ := by
  obtain ⟨arrives, peeks, compares, records, seats⟩ := after
  refine ⟨ordered, ?_, ?_⟩
  · intro e inside
    rcases List.mem_cons.mp inside with rfl | old
    · exact ⟨records, seats, Nat.le_refl _⟩
    · have own := timed.past e old
      dsimp only
      omega
  · refine List.pairwise_cons.mpr ⟨?_, timed.sorted⟩
    intro e old
    have own := timed.past e old
    show e.finished ≤ request.clock.compared
    omega

/-- A request keeps the order of times. -/
theorem timed_step (timed : Timed s) (next : (logins amb).step s request = some t) : Timed t := by
  obtain ⟨after, rfl⟩ := step_after next
  have ⟨arrives, peeks, compares, records, seats⟩ := after
  have effects := post_cases amb s.db timed.ordered after
  generalize post amb s.limiter s.db request = outcome at effects ⊢
  obtain ⟨-, -, limited, same, ⟨none, limiter⟩ | ⟨login, user, tenant, -, -, effect⟩⟩ := effects
  · refine ⟨?_, ?_, ?_⟩
    · show Ordered request.clock.seated outcome.limiter
      rw [limiter]
      exact same.ordered.mono (by omega)
    · intro e inside
      unfold State.after at inside ⊢
      rw [none] at inside
      have own := timed.past e inside
      dsimp only
      omega
    · unfold State.after
      rw [none]
      exact timed.sorted
  · obtain ⟨right, issued, attempt, -, -, limiter⟩ := effect.attempt
    unfold State.after
    rw [attempt]
    apply timed_cons timed after
    rw [limiter]
    cases right with
    | true => exact ordered_reset (same.ordered.mono (by omega))
    | false => exact (rateLimitRecord_spec (same.ordered.mono (by omega)) _).1.mono seats

/-- Every attempt is at an account that logins can find. -/
theorem accounts_step (timed : Timed s) (next : (logins amb).step s request = some t) :
    t.db.users = s.db.users ∧ t.db.tenants = s.db.tenants ∧
      ∀ e ∈ t.history, e ∈ s.history ∨ ∃ user, Findable s.db user ∧ e.user = user.id := by
  obtain ⟨after, rfl⟩ := step_after next
  have effects := post_cases amb s.db timed.ordered after
  generalize post amb s.limiter s.db request = outcome at effects ⊢
  obtain ⟨users, tenants, limited, -,
    ⟨none, -⟩ | ⟨login, user, tenant, found, -, effect⟩⟩ := effects
  · refine ⟨users, tenants, ?_⟩
    intro e inside
    unfold State.after at inside
    rw [none] at inside
    exact .inl inside
  · obtain ⟨right, issued, attempt, -⟩ := effect.attempt
    refine ⟨users, tenants, ?_⟩
    intro e inside
    unfold State.after at inside
    rw [attempt] at inside
    rcases List.mem_cons.mp inside with rfl | old
    · exact .inr ⟨user, lookup_findable found.found, rfl⟩
    · exact .inl old

/-- The name of an account finds this account, in both routes. -/
theorem lookup_name {db : Seats.Db} {route : Route} {email : String} {user : User} {tenant : Tenant}
    (named : Named amb db) (findable : Findable db account)
    (same : amb.sqlLower account.email = amb.toLowerCase email)
    (found : lookup amb db route email = some (user, tenant)) : user = account := by
  unfold lookup at found
  split at found
  · rename_i pair direct
    cases found
    obtain ⟨other, name⟩ := findByName_some direct
    exact List.inj_on_of_nodup_map named.2 other.1 findable.1 (name.trans same.symm)
  · rename_i nobody
    exact absurd nobody (findByName_ne_none findable same)

/-- A wrong password that the guard admits comes under the name of its account. -/
theorem typed_name {login : Seats.Login} {user : User} {tenant : Tenant}
    (typed : TypedOnly amb s request)
    (found : Compares amb s.limiter s.db request login user tenant)
    (wrong : verifyPassword amb.compareSync login.password user.passwordHash = false) :
    amb.sqlLower user.email = amb.toLowerCase login.email := by
  have direct : findByName amb.seats s.db login.email ≠ none :=
    fun nobody => typed ⟨login, user, tenant, found, nobody, wrong⟩
  have here := found.found
  unfold lookup at here
  split at here
  · rename_i pair own
    cases here
    exact (findByName_some own).2
  · rename_i nobody
    exact absurd nobody direct

theorem failures_cons_of_ne {attempt : Attempt} {rest : List Attempt} {user : Nat}
    (apart : attempt.user ≠ user) : failures user (attempt :: rest) = failures user rest :=
  if_neg apart

/-- A request keeps the failures that count in the bucket of the name. -/
theorem counted_step (timed : Timed s) (counted : Counted amb account s)
    (named : Named amb s.db) (findable : Findable s.db account) (typed : TypedOnly amb s request)
    (next : (logins amb).step s request = some t) : Counted amb account t := by
  obtain ⟨after, rfl⟩ := step_after next
  have ⟨arrives, peeks, compares, records, seats⟩ := after
  have effects := post_cases amb s.db timed.ordered after
  generalize post amb s.limiter s.db request = outcome at effects ⊢
  intro later le
  have late : request.clock.seated ≤ later := le
  have before := counted later (by omega)
  unfold State.after
  obtain ⟨-, -, limited, same, ⟨none, limiter⟩ | ⟨login, user, tenant, found, -, effect⟩⟩ := effects
  · rw [none, limiter, same.counts _ later (by omega)]
    exact before
  · have own := same.counts (amb.sqlLower account.email) later (by omega)
    obtain ⟨right, issued, attempt, fits, -, limiter⟩ := effect.attempt
    rw [attempt, limiter]
    dsimp only [Option.toList, List.cons_append, List.nil_append]
    cases right with
    | true =>
      by_cases this : user.id = account.id
      · have none : failures account.id (request.attempt login user true issued :: s.history) =
            [] := by
          simp [failures, Request.attempt, this]
        rw [none]
        exact Nat.zero_le _
      · have apart : nameKey (amb.sqlLower account.email) ≠ emailKey amb login.email := by
          intro equal
          have same := lookup_name named findable (nameKey_inj equal) found.found
          exact this (same ▸ rfl)
        rw [failures_cons_of_ne this, if_pos rfl, counting_reset_of_ne apart, own]
        exact before
    | false =>
      have name := typed_name typed found fits
      have record := @rateLimitRecord_spec _ _ (same.ordered.mono (by omega : _ ≤
        request.clock.recorded)) (emailKey amb login.email)
      rw [if_neg Bool.false_ne_true]
      rw [emailKey_eq, ← name] at record ⊢
      by_cases this : user.id = account.id
      · obtain rfl := List.inj_on_of_nodup_map named.1 (lookup_findable found.found).1
          findable.1 this
        have one : failures user.id (request.attempt login user false issued :: s.history) =
            request.clock.recorded :: failures user.id s.history := by
          simp [failures, Request.attempt]
        rw [one, record.2.2 later (by omega), own]
        by_cases counts : later < request.clock.recorded + 600000
        · simp only [recent, List.filter_cons, counts, decide_true, if_true, List.length_cons]
          exact Nat.succ_le_succ before
        · simp only [recent, List.filter_cons, counts, decide_false, Bool.false_eq_true, if_false]
          exact before
      · have apart : nameKey (amb.sqlLower account.email) ≠ nameKey (amb.sqlLower user.email) := by
          intro equal
          have users := List.inj_on_of_nodup_map named.2 findable.1
            (lookup_findable found.found).1 (nameKey_inj equal)
          exact this (users ▸ rfl)
        rw [failures_cons_of_ne this, record.2.1 _ later apart (by omega), own]
        exact before

/-- The wrong passwords of a span without a right one are among the failures since the last right
one. -/
theorem wrongs_le_failures {user from' until' : Nat} {stamp : Attempt → Nat}
    {history : List Attempt}
    (stamped : ∀ e ∈ history, e.compared ≤ stamp e ∧ stamp e ≤ e.finished)
    (times : ∀ e ∈ history, e.compared ≤ e.recorded ∧ e.finished < until')
    (sorted : history.Pairwise fun newer older => older.finished ≤ newer.compared)
    (apart : ∀ e ∈ history, e.user = user → e.right = true →
      ¬ (from' ≤ stamp e ∧ stamp e < until')) :
    (wrongs history user from' until').length ≤
      ((failures user history).filter fun t => decide (from' ≤ t)).length := by
  induction history with
  | nil => simp [wrongs]
  | cons e rest ih =>
    obtain ⟨older, sorted⟩ := List.pairwise_cons.mp sorted
    have ih := ih (fun x inside => stamped x (List.mem_cons_of_mem e inside))
      (fun x inside => times x (List.mem_cons_of_mem e inside)) sorted
      (fun x inside => apart x (List.mem_cons_of_mem e inside))
    unfold wrongs at ih ⊢
    by_cases own : e.user = user
    · cases right : e.right with
      | false =>
        have recorded := (times e List.mem_cons_self).1
        simp only [failures, own, if_true, right, Bool.false_eq_true, if_false]
        by_cases inside : from' ≤ e.compared ∧ e.compared < until'
        · have counts : from' ≤ e.recorded := by omega
          have hit : Attempt.wrongIn user from' until' e = true := by
            simp [Attempt.wrongIn, own, right, inside.1, inside.2]
          rw [List.filter_cons_of_pos hit, List.filter_cons_of_pos (by simpa using counts)]
          exact Nat.succ_le_succ ih
        · have miss : ¬ Attempt.wrongIn user from' until' e = true := by
            simp only [Attempt.wrongIn, Bool.and_eq_true, decide_eq_true_eq]
            tauto
          rw [List.filter_cons_of_neg miss]
          refine ih.trans (List.Sublist.length_le ?_)
          exact List.Sublist.filter _ (List.sublist_cons_self _ _)
      | true =>
        -- Everything before a right password that is stamped before the span is before it too.
        have early : e.compared < from' := by
          have own' := stamped e List.mem_cons_self
          have done := (times e List.mem_cons_self).2
          have out := apart e List.mem_cons_self own right
          omega
        have nothing : (e :: rest).filter (Attempt.wrongIn user from' until') = [] := by
          rw [List.filter_eq_nil_iff]
          intro x inside hit
          simp only [Attempt.wrongIn, Bool.and_eq_true, decide_eq_true_eq] at hit
          rcases List.mem_cons.mp inside with rfl | old
          · omega
          · have before := older x old
            have own' := stamped x (List.mem_cons_of_mem e old)
            omega
        rw [nothing]
        exact Nat.zero_le _
    · have miss : ¬ Attempt.wrongIn user from' until' e = true := by
        simp [Attempt.wrongIn, own]
      rw [List.filter_cons_of_neg miss, failures_cons_of_ne own]
      exact ih

/-- A request keeps the bound of an account. -/
theorem bounded_step {stamp : Attempt → Nat} (timed : Timed s) (counted : Counted amb account s)
    (typed : TypedOnly amb s request) (named : Named amb s.db) (findable : Findable s.db account)
    (stamps : ∀ e : Attempt, e.compared ≤ e.recorded → e.recorded ≤ e.finished →
      e.compared ≤ stamp e ∧ stamp e ≤ e.finished)
    (bounded : Bounded account.id stamp s.history)
    (next : (logins amb).step s request = some t) : Bounded account.id stamp t.history := by
  obtain ⟨after, rfl⟩ := step_after next
  have ⟨arrives, peeks, compares, records, seats⟩ := after
  have effects := post_cases amb s.db timed.ordered after
  generalize post amb s.limiter s.db request = outcome at effects ⊢
  unfold State.after
  -- An attempt that is no wrong password of the span leaves its count.
  have skip : ∀ e : Attempt, (∀ from' until', until' ≤ from' + 600000 →
      (∀ x ∈ e :: s.history, x.user = account.id → x.right = true →
        ¬ (from' ≤ stamp x ∧ stamp x < until')) →
      Attempt.wrongIn account.id from' until' e = true →
        (wrongs s.history account.id from' until').length < 20) →
      Bounded account.id stamp (e :: s.history) := by
    intro e hit from' until' short apart
    have rest := bounded from' until' short fun x inside =>
      apart x (List.mem_cons_of_mem e inside)
    unfold wrongs at rest ⊢
    cases here : Attempt.wrongIn account.id from' until' e with
    | false =>
      rw [List.filter_cons_of_neg (by rw [here]; exact Bool.false_ne_true)]
      exact rest
    | true =>
      rw [List.filter_cons_of_pos here]
      exact hit from' until' short apart here
  obtain ⟨-, -, limited, -, ⟨none, -⟩ | ⟨login, user, tenant, found, room, effect⟩⟩ := effects
  · rw [none]
    exact bounded
  · obtain ⟨right, issued, attempt, fits, -⟩ := effect.attempt
    rw [attempt]
    apply skip
    intro from' until' short apart here
    simp only [Attempt.wrongIn, Bool.and_eq_true, beq_iff_eq, decide_eq_true_eq] at here
    obtain ⟨⟨⟨own, wrong⟩, starts⟩, ends⟩ := here
    have wrong : right = false := by simpa [Request.attempt] using wrong
    rw [wrong] at fits
    have starts : from' ≤ request.clock.compared := starts
    have ends : request.clock.compared < until' := ends
    obtain rfl := List.inj_on_of_nodup_map named.1 (lookup_findable found.found).1 findable.1 own
    have key : emailKey amb login.email = nameKey (amb.sqlLower user.email) := by
      rw [typed_name typed found fits]
      rfl
    rw [key] at room
    have fewer := counted request.clock.peeked (by omega)
    have among := @wrongs_le_failures user.id from' until' stamp s.history
      (fun e inside => stamps e (timed.past e inside).1 (timed.past e inside).2.1)
      (fun e inside => by
        have own := timed.past e inside
        omega)
      timed.sorted (fun e inside => apart e (List.mem_cons_of_mem _ inside))
    have counts : ((failures user.id s.history).filter fun t => decide (from' ≤ t)).length ≤
        (recent request.clock.peeked 600000 (failures user.id s.history)).length := by
      apply List.Sublist.length_le
      apply List.monotone_filter_right
      intro t enough
      simp only [decide_eq_true_eq] at enough ⊢
      omega
    omega

/-- With served right passwords, each of them is a login. -/
theorem issued_step (timed : Timed s) (served : ¬ RightRefused amb s request)
    (issued : ∀ e ∈ s.history, e.right = true → e.issued = true)
    (next : (logins amb).step s request = some t) :
    ∀ e ∈ t.history, e.right = true → e.issued = true := by
  obtain ⟨after, rfl⟩ := step_after next
  have effects := post_cases amb s.db timed.ordered after
  generalize post amb s.limiter s.db request = outcome at effects ⊢
  unfold State.after
  obtain ⟨-, -, limited, -, ⟨none, -⟩ | ⟨login, user, tenant, found, -, effect⟩⟩ := effects
  · rw [none]
    exact issued
  · obtain ⟨right, given, attempt, fits, serves, -⟩ := effect.attempt
    rw [attempt]
    intro e inside correct
    rcases List.mem_cons.mp inside with rfl | old
    · have correct : right = true := correct
      by_contra refused
      refine served ⟨login, user, tenant, found, fits.trans correct, fun both => refused ?_⟩
      exact (serves correct).mpr both
    · exact issued e old correct

end Steps

/-- What holds along runs without wrong passwords by the keys of an id. -/
structure Guarded (amb : Ambient) (s : State) : Prop where
  timed : Timed s
  named : Named amb s.db
  known : ∀ e ∈ s.history, ∃ account, Findable s.db account ∧ e.user = account.id
  counted : ∀ account, Findable s.db account → Counted amb account s
  bounded : ∀ account, Findable s.db account → Bounded account.id Attempt.compared s.history ∧
    Bounded account.id Attempt.finished s.history

theorem guarded_start {amb : Ambient} {s : State} (start : (logins amb).start s) :
    Guarded amb s := by
  obtain ⟨empty, none, named⟩ := start
  refine ⟨⟨?_, ?_, ?_⟩, named, ?_, ?_, ?_⟩
  · rw [empty]
    exact ordered_empty s.now
  · rw [none]
    exact List.forall_mem_nil _
  · rw [none]
    exact List.Pairwise.nil
  · rw [none]
    exact List.forall_mem_nil _
  · intro account _ later _
    rw [none]
    exact Nat.zero_le _
  · intro account _
    rw [none]
    exact ⟨fun _ _ _ _ => Nat.zero_le _, fun _ _ _ _ => Nat.zero_le _⟩

theorem guarded_step {amb : Ambient} {s t : State} {request : Request} (kept : Guarded amb s)
    (typed : TypedOnly amb s request) (next : (logins amb).step s request = some t) :
    Guarded amb t := by
  obtain ⟨users, tenants, sources⟩ := accounts_step kept.timed next
  have findable : ∀ account, Findable t.db account ↔ Findable s.db account := by
    intro account
    unfold Findable
    rw [users, tenants]
  refine ⟨timed_step kept.timed next, ?_, ?_, ?_, ?_⟩
  · unfold Named
    rw [users]
    exact kept.named
  · intro e inside
    rcases sources e inside with old | ⟨user, known, same⟩
    · obtain ⟨account, known, same⟩ := kept.known e old
      exact ⟨account, (findable account).mpr known, same⟩
    · exact ⟨user, (findable user).mpr known, same⟩
  · intro account known
    have here := (findable account).mp known
    exact counted_step kept.timed (kept.counted account here) kept.named here typed next
  · intro account known
    have here := (findable account).mp known
    have both := kept.bounded account here
    refine ⟨bounded_step kept.timed (kept.counted account here) typed kept.named here ?_ both.1
      next, bounded_step kept.timed (kept.counted account here) typed kept.named here ?_ both.2
      next⟩
    · exact fun e records finishes => ⟨Nat.le_refl _, records.trans finishes⟩
    · exact fun e records finishes => ⟨records.trans finishes, Nat.le_refl _⟩

/-- The bounds hold for every account, also for one that nobody can find. -/
theorem Guarded.all {amb : Ambient} {s : State} (kept : Guarded amb s) (user : Nat) :
    Bounded user Attempt.compared s.history ∧ Bounded user Attempt.finished s.history := by
  by_cases some : ∃ e ∈ s.history, e.user = user
  · obtain ⟨e, inside, rfl⟩ := some
    obtain ⟨account, known, same⟩ := kept.known e inside
    rw [same]
    exact kept.bounded account known
  · have nothing : ∀ from' until', wrongs s.history user from' until' = [] := by
      intro from' until'
      unfold wrongs
      rw [List.filter_eq_nil_iff]
      intro e inside hit
      simp only [Attempt.wrongIn, Bool.and_eq_true, beq_iff_eq] at hit
      exact some ⟨e, inside, hit.1.1.1⟩
    constructor
    · intro from' until' _ _
      rw [nothing]
      exact Nat.zero_le _
    · intro from' until' _ _
      rw [nothing]
      exact Nat.zero_le _

/-- The texts that the wrong passwords of a span compared with the hash. -/
def wrongTexts (history : List Attempt) (user from' until' : Nat) : List String :=
  (wrongs history user from' until').flatMap fun e => candidates e.password

/-- Passwords without spaced digits are compared once each. -/
theorem wrongTexts_length {history : List Attempt} {user from' until' : Nat}
    (plain : ∀ e ∈ wrongs history user from' until', spacedDigits e.password = none) :
    (wrongTexts history user from' until').length = (wrongs history user from' until').length := by
  unfold wrongTexts
  rw [List.length_flatMap]
  have ones : (wrongs history user from' until').map (fun e => (candidates e.password).length) =
      (wrongs history user from' until').map fun _ => 1 := by
    apply List.map_congr_left
    intro e inside
    rw [candidates, plain e inside]
    rfl
  rw [ones]
  simp

/-- If no wrong password comes by the keys of an id, an account sees at most twenty wrong
passwords in ten minutes without a right one. If every right password gets a token too, it sees
at most twenty in ten minutes without a login, and as many texts if none has spaced digits. -/
theorem wrongPasswords_bounded (amb : Ambient) :
    (∀ s, (logins amb).Reaches (TypedOnly amb) s → ∀ user,
      Bounded user Attempt.compared s.history) ∧
    (∀ s, (logins amb).Reaches (TypedAndServed amb) s → ∀ user from' until',
      until' ≤ from' + 600000 →
      (∀ e ∈ s.history, e.user = user → e.issued = true →
        ¬ (from' ≤ e.finished ∧ e.finished < until')) →
      (wrongs s.history user from' until').length ≤ 20 ∧
        ((∀ e ∈ wrongs s.history user from' until', spacedDigits e.password = none) →
          (wrongTexts s.history user from' until').length ≤ 20)) := by
  constructor
  · intro s reached user
    have kept := reached.invariant (Guarded amb) (fun _ start => guarded_start start)
      fun _ _ _ kept typed next => guarded_step kept typed next
    exact (kept.all user).1
  · intro s reached user from' until' short apart
    have kept : Guarded amb s ∧ ∀ e ∈ s.history, e.right = true → e.issued = true := by
      apply reached.invariant
        fun s => Guarded amb s ∧ ∀ e ∈ s.history, e.right = true → e.issued = true
      · intro s start
        refine ⟨guarded_start start, ?_⟩
        rw [start.2.1]
        exact List.forall_mem_nil _
      · intro s request t kept served next
        exact ⟨guarded_step kept.1 served.1 next, issued_step kept.1.timed served.2 kept.2 next⟩
    have few := (kept.1.all user).2 from' until' short fun e inside own right =>
      apart e inside own (kept.2 e inside right)
    refine ⟨few, fun plain => ?_⟩
    rw [wrongTexts_length plain]
    exact few

/-- A wrong password under an id, at a time. -/
def guess (email : String) (now : Nat) : Request :=
  { sampleLogin email with
    body := ⟨some email, some "guess", some "pc", none⟩
    clock := ⟨now, now, now, now, now⟩ }

/-- The account before any login. -/
def fresh : State := ⟨Limiter.empty, sampleDb, 0, []⟩

theorem fresh_start : (logins sampleAmbient).start fresh := by
  refine ⟨rfl, rfl, ?_⟩
  unfold Named
  decide

/-- Twenty guesses under the id as it is stored, and one under the id of a Korean keyboard, five
seconds apart. -/
def guesses : List Request :=
  (List.range 20).map (fun i => guess "chang" (5000 * i)) ++ [guess "초뭏" 100000]

/-- The account after these guesses. -/
def guessed : State := (logins sampleAmbient).play Machine.free fresh guesses

/-- An account sees twenty-one wrong passwords in less than two minutes without a login. -/
theorem guessed_unbounded :
    (logins sampleAmbient).Reaches Machine.free guessed ∧
      (∀ e ∈ guessed.history, e.issued = false) ∧
      (wrongs guessed.history 1 0 600000).length = 21 := by
  have run : (logins sampleAmbient).Runs Machine.free fresh guessed :=
    Machine.runs_play (logins sampleAmbient) Machine.free fresh guesses
  refine ⟨⟨fresh, fresh_start, run⟩, ?_⟩
  decide +kernel

/-- A request that finds its account under the id as typed, with a wrong password, passes both
guards. -/
theorem guess_admitted : TypedAndServed sampleAmbient fresh (guess "chang" 0) := by
  have only : ∀ login, (guess "chang" 0).login = .ok login →
      login = ⟨"chang", "guess", "pc", none, some "10.0.0.1"⟩ := by
    intro login parsed
    exact (Except.ok.inj parsed).symm
  constructor
  · rintro ⟨login, user, tenant, found, nobody, -⟩
    obtain rfl := only login found.parsed
    revert nobody
    decide +kernel
  · rintro ⟨login, user, tenant, found, fits, -⟩
    obtain rfl := only login found.parsed
    have here := found.found
    have direct : lookup sampleAmbient fresh.db (guess "chang" 0).route "chang" =
        some (sampleUser, ⟨1, true, true, 1⟩) := by decide +kernel
    rw [direct] at here
    cases here
    revert fits
    decide +kernel

/-- The account after one guess. -/
def guessedOnce : State := fresh.after (guess "chang" 0)
  (post sampleAmbient fresh.limiter fresh.db (guess "chang" 0))

/-- One guess is one wrong password, within the bound. -/
theorem guessedOnce_bounded :
    (wrongs guessedOnce.history 1 0 600000).length = 1 ∧
      (wrongs guessedOnce.history 1 0 600000).length ≤ 20 := by
  have next : (logins sampleAmbient).step fresh (guess "chang" 0) = some guessedOnce := by
    have clock : (guess "chang" 0).clock.After fresh.now := by decide
    simp only [logins, if_pos clock]
    rfl
  have reached : (logins sampleAmbient).Reaches (TypedAndServed sampleAmbient) guessedOnce :=
    ⟨fresh, fresh_start, .step _ .refl guess_admitted next⟩
  refine ⟨by decide +kernel, ?_⟩
  exact ((wrongPasswords_bounded sampleAmbient).2 guessedOnce reached 1 0 600000 (Nat.le_refl _)
    (by decide +kernel)).1

end ChainRemote.Panel.Login
