import ChainRemote.Lib.Checks
import ChainRemote.Panel.Push
import ChainRemote.Panel.RateLimit
import ChainRemote.Panel.Seats

/-!
# The login routes

`POST /api/auth/token` and `POST /api/auth/takeover` as whole requests: the checks of the body,
the two rate limits, the lookup of the account, the password, the subscription, the seat total and
the seat. Only the first route reads an id that was typed on a Korean keyboard a second time as
the Latin letters of its keys.
-/

namespace ChainRemote.Panel.Login

open Lib Seats RateLimit

/-- `KEY`: the keys of a letter in the two-set layout. -/
def keys : List (Char × String) :=
  [('ㄱ', "r"), ('ㄲ', "R"), ('ㄳ', "rt"), ('ㄴ', "s"), ('ㄵ', "sw"), ('ㄶ', "sg"), ('ㄷ', "e"),
   ('ㄸ', "E"), ('ㄹ', "f"), ('ㄺ', "fr"), ('ㄻ', "fa"), ('ㄼ', "fq"), ('ㄽ', "ft"), ('ㄾ', "fx"),
   ('ㄿ', "fv"), ('ㅀ', "fg"), ('ㅁ', "a"), ('ㅂ', "q"), ('ㅃ', "Q"), ('ㅄ', "qt"), ('ㅅ', "t"),
   ('ㅆ', "T"), ('ㅇ', "d"), ('ㅈ', "w"), ('ㅉ', "W"), ('ㅊ', "c"), ('ㅋ', "z"), ('ㅌ', "x"),
   ('ㅍ', "v"), ('ㅎ', "g"), ('ㅏ', "k"), ('ㅐ', "o"), ('ㅑ', "i"), ('ㅒ', "O"), ('ㅓ', "j"),
   ('ㅔ', "p"), ('ㅕ', "u"), ('ㅖ', "P"), ('ㅗ', "h"), ('ㅘ', "hk"), ('ㅙ', "ho"), ('ㅚ', "hl"),
   ('ㅛ', "y"), ('ㅜ', "n"), ('ㅝ', "nj"), ('ㅞ', "np"), ('ㅟ', "nl"), ('ㅠ', "b"), ('ㅡ', "m"),
   ('ㅢ', "ml"), ('ㅣ', "l")]

/-- `CHO`: the initial consonants of a syllable. -/
def cho : List Char := "ㄱㄲㄴㄷㄸㄹㅁㅂㅃㅅㅆㅇㅈㅉㅊㅋㅌㅍㅎ".toList

/-- `JUNG`: its vowels. -/
def jung : List Char := "ㅏㅐㅑㅒㅓㅔㅕㅖㅗㅘㅙㅚㅛㅜㅝㅞㅟㅠㅡㅢㅣ".toList

/-- `JONG` without its empty first place: its final consonants. -/
def jong : List Char := "ㄱㄲㄳㄴㄵㄶㄷㄹㄺㄻㄼㄽㄾㄿㅀㅁㅂㅄㅅㅆㅇㅈㅊㅋㅌㅍㅎ".toList

/-- `KEY[letters[i]] ?? ""`. -/
def keyAt (letters : List Char) (i : Nat) : String :=
  (letters[i]?.bind fun letter => keys.lookup letter).getD ""

/-- `SYL_FIRST`. -/
def sylFirst : Nat := 0xac00

/-- `SYL_LAST`. -/
def sylLast : Nat := 0xd7a3

/-- The keys of a character, if it is a syllable or a letter of Hangul. -/
def hangulKeys (c : Char) : Option String :=
  if sylFirst ≤ c.toNat ∧ c.toNat ≤ sylLast then
    let i := c.toNat - sylFirst
    some (keyAt cho (i / 588) ++ keyAt jung (i % 588 / 28) ++
      if i % 28 = 0 then "" else keyAt jong (i % 28 - 1))
  else keys.lookup c

/-- `qwertyFromHangul`. -/
def qwertyFromHangul (input : String) : Option String :=
  if input.toList.any fun c => (hangulKeys c).isSome then
    some (String.join (input.toList.map fun c => (hangulKeys c).getD c.toString))
  else none

example : qwertyFromHangul "초뭏" = some "chang" := by decide +kernel

/-- `input.replace(/\s+/g, "")`. -/
def compact (input : String) : String :=
  String.ofList (input.toList.filter fun c => !jsBlank c)

/-- The password without its blanks, if that is another text of four digits or more. -/
def spacedDigits (input : String) : Option String :=
  if compact input ≠ input ∧ 4 ≤ (compact input).toList.length ∧
      (compact input).toList.all Char.isDigit then some (compact input)
  else none

/-- The texts that `verifyPassword` compares with the hash, in order, until one fits. -/
def candidates (input : String) : List String := input :: (spacedDigits input).toList

/-- `verifyPassword`. -/
def verifyPassword (compareSync : String → String → Bool) (input passwordHash : String) : Bool :=
  (candidates input).any fun text => compareSync text passwordHash

/-- Functions outside this model. -/
structure Ambient where
  /-- `lower` of the database. -/
  sqlLower : String → String
  /-- `toLowerCase`. -/
  toLowerCase : String → String
  /-- `bcrypt.compareSync` of a text and a hash. -/
  compareSync : String → String → Bool

/-- What the seat tables take from it. -/
def Ambient.seats (amb : Ambient) : Seats.Ambient where
  sqlLower := amb.sqlLower
  toLowerCase := amb.toLowerCase
  qwertyFromHangul := qwertyFromHangul
  verifyPassword := verifyPassword amb.compareSync

/-- `clientIp` of the two headers. -/
def clientIp (forwardedFor realIp : Option String) : Option String :=
  match forwardedFor with
  | some text =>
    let first := jsTrim (String.ofList (text.toList.takeWhile fun c => c != ','))
    if first = "" then realIp else some first
  | none => realIp

/-- The fields of the body; one that is not text is missing. -/
structure Body where
  email : Option String
  password : Option String
  deviceId : Option String
  deviceLabel : Option String
deriving DecidableEq, Repr

/-- The checks of the body. -/
def Body.login (body : Body) (ip : Option String) : Except ApiAuthError Seats.Login := do
  let email := jsTrim (body.email.getD "")
  let password := body.password.getD ""
  let deviceId := jsSlice 128 (jsTrim (body.deviceId.getD ""))
  let deviceLabel := jsSlice 128 (jsTrim (body.deviceLabel.getD ""))
  require (email ≠ "" ∧ password ≠ "") { status := 400, message := "email/password 필요" }
  require (deviceId ≠ "") { status := 400, message := "deviceId 필요" }
  let label := if deviceLabel = "" then none else some deviceLabel
  return ⟨email, password, deviceId, label, ip⟩

/-- The clock at the steps of a request that read it. -/
structure Clock where
  /-- `rateLimit` of the address. -/
  arrived : Nat
  /-- `rateLimitPeek` of the id. -/
  peeked : Nat
  /-- `verifyPassword`. -/
  compared : Nat
  /-- `rateLimitRecord`. -/
  recorded : Nat
  /-- The seat statements and the token. -/
  seated : Nat
deriving DecidableEq, Repr

/-- The clock does not run backwards. -/
def Clock.After (clock : Clock) (now : Nat) : Prop :=
  now ≤ clock.arrived ∧ clock.arrived ≤ clock.peeked ∧ clock.peeked ≤ clock.compared ∧
    clock.compared ≤ clock.recorded ∧ clock.recorded ≤ clock.seated

instance (clock : Clock) (now : Nat) : Decidable (clock.After now) :=
  inferInstanceAs (Decidable (_ ∧ _))

/-- A request to one of the routes; `jti` is the identifier it draws. -/
structure Request where
  route : Route
  body : Body
  forwardedFor : Option String
  realIp : Option String
  clock : Clock
  jti : Nat
deriving DecidableEq, Repr

/-- The body of a request after its checks. -/
def Request.login (request : Request) : Except ApiAuthError Seats.Login :=
  request.body.login (clientIp request.forwardedFor request.realIp)

/-- The key of an id. -/
def emailKey (amb : Ambient) (email : String) : String := "login:email:" ++ amb.toLowerCase email

/-- The key of an address. -/
def ipKey (ip : Option String) : String := "login:ip:" ++ ip.getD "unknown"

/-- The two rate limits: the first that refuses, or the second. -/
def checkLimits (amb : Ambient) (clock : Clock) (login : Seats.Login) (limiter : Limiter) :
    Verdict × Limiter :=
  let byAddress := rateLimit clock.arrived (ipKey login.ip) 15 60000 limiter
  if byAddress.1.allowed then
    rateLimitPeek clock.peeked (emailKey amb login.email) 20 600000 byAddress.2
  else byAddress

/-- The account that the id names as the Latin letters of its keys. -/
def findByKeys (amb : Ambient) (db : Seats.Db) (email : String) : Option (User × Tenant) :=
  match qwertyFromHangul email with
  | some alt => if alt = "" then none else findByName amb.seats db alt
  | none => none

/-- The account that a route finds: as typed, and in the token route else by the keys. -/
def lookup (amb : Ambient) (db : Seats.Db) (route : Route) (email : String) :
    Option (User × Tenant) :=
  match findByName amb.seats db email with
  | some found => some found
  | none =>
    match route with
    | .token => findByKeys amb db email
    | .takeover => none

/-- The checks of the subscription and of the seat total. -/
def mayEnter (db : Seats.Db) (now : Nat) (user : User) (tenant : Tenant) :
    Except ApiAuthError Unit := do
  require (user.role = .superAdmin ∨ tenant.isActive ∧ tenant.subscribed)
    { status := 403, message := "구독이 정지되어 로그인할 수 없습니다. 관리자에게 문의하세요." }
  require (countLiveTenantSessions db now user.tenantId user.id < tenant.maxSeats)
    (seatsTaken tenant.maxSeats)

/-- The response of a login route. -/
inductive Answer
  | error (error : ApiAuthError)
  | tooManyRequests (retryAfterSec : Nat)
  | occupied (deviceLabel : Option String) (since : Option Nat)
  | token (token : Token)

/-- A password that a request compared with the hash of an account: when, whether it fitted, and
when the request was over and whether a token came of it. -/
structure Attempt where
  user : Nat
  password : String
  compared : Nat
  recorded : Nat
  finished : Nat
  right : Bool
  issued : Bool
deriving DecidableEq, Repr

/-- What a request does. -/
structure Outcome where
  limiter : Limiter
  db : Seats.Db
  answer : Answer
  /-- The account for which `claimSeat` or `takeoverSeat` is called. -/
  seat : Option User := none
  /-- The password that was compared. -/
  attempt : Option Attempt := none

/-- `claimSeat` or `takeoverSeat` and the response. -/
def takeSeat (db : Seats.Db) (now jti : Nat) (route : Route) (login : Seats.Login) (user : User) :
    Seats.Db × Answer :=
  let row := login.session now user.id jti
  let token := Answer.token (signApiToken now user.id user.role user.tenantId jti)
  match route with
  | .token =>
    let after := claimSeat now row db.sessions
    if after.1 then ({ db with sessions := after.2 }, token)
    else
      let held := getActiveSession db.sessions user.id
      (db, .occupied (held.bind Session.deviceLabel) (held.map Session.createdAt))
  | .takeover => ({ db with sessions := takeoverSeat row db.sessions }, token)

/-- A token was sent. -/
def Answer.isToken : Answer → Bool
  | .token _ => true
  | _ => false

/-- The rest of a request after its rate limits. -/
def afterLimits (amb : Ambient) (limiter : Limiter) (db : Seats.Db) (request : Request)
    (login : Seats.Login) : Outcome :=
  let key := emailKey amb login.email
  if !storable (amb.toLowerCase login.email) then { limiter, db, answer := .error databaseError }
  else
    match lookup amb db request.route login.email with
    | none => { limiter, db, answer := .error { status := 401, message := "자격 실패" } }
    | some (user, tenant) =>
      let attempt : Attempt :=
        { user := user.id, password := login.password, compared := request.clock.compared,
          recorded := request.clock.recorded, finished := request.clock.seated, right := true,
          issued := false }
      if !verifyPassword amb.compareSync login.password user.passwordHash then
        { limiter := rateLimitRecord request.clock.recorded key 600000 limiter
          db
          answer := .error { status := 401, message := "자격 실패" }
          attempt := some { attempt with right := false } }
      else
        match mayEnter db request.clock.seated user tenant with
        | .error error =>
          { limiter := rateLimitReset key limiter, db, answer := .error error,
            attempt := some attempt }
        | .ok _ =>
          let after := takeSeat db request.clock.seated request.jti request.route login user
          { limiter := rateLimitReset key limiter
            db := after.1
            answer := after.2
            seat := some user
            attempt := some { attempt with issued := after.2.isToken } }

/-- The rest of a request after the checks of its body. -/
def afterBody (amb : Ambient) (limiter : Limiter) (db : Seats.Db) (request : Request) :
    Except ApiAuthError Seats.Login → Outcome
  | .error error => { limiter, db, answer := .error error }
  | .ok login =>
    let limits := checkLimits amb request.clock login limiter
    if limits.1.allowed then afterLimits amb limits.2 db request login
    else { limiter := limits.2, db, answer := .tooManyRequests limits.1.retryAfterSec }

/-- `POST` of both routes. -/
def post (amb : Ambient) (limiter : Limiter) (db : Seats.Db) (request : Request) : Outcome :=
  afterBody amb limiter db request request.login

section Routes

variable {amb : Ambient} {limiter : Limiter} {db : Seats.Db} {request : Request}
  {login : Seats.Login}

/-- A request gets as far as its seat where the account is found and its checks pass. -/
theorem afterLimits_seat_iff {user : User} :
    (afterLimits amb limiter db request login).seat = some user ↔
      storable (amb.toLowerCase login.email) = true ∧ ∃ tenant,
        lookup amb db request.route login.email = some (user, tenant) ∧
          verifyPassword amb.compareSync login.password user.passwordHash = true ∧
          mayEnter db request.clock.seated user tenant = .ok () := by
  unfold afterLimits
  dsimp only
  cases stored : storable (amb.toLowerCase login.email) with
  | false => simp
  | true =>
    simp only [Bool.not_true, Bool.false_eq_true, if_false, true_and]
    cases found : lookup amb db request.route login.email with
    | none => simp
    | some pair =>
      obtain ⟨account, tenant⟩ := pair
      dsimp only
      cases fits : verifyPassword amb.compareSync login.password account.passwordHash with
      | false =>
        simp only [Bool.not_false, if_true, reduceCtorEq, false_iff]
        rintro ⟨other, same, fitting, -⟩
        simp only [Option.some.injEq, Prod.mk.injEq] at same
        rw [← same.1, fits] at fitting
        cases fitting
      | true =>
        simp only [Bool.not_true, Bool.false_eq_true, if_false]
        cases admitted : mayEnter db request.clock.seated account tenant with
        | error thrown =>
          simp only [reduceCtorEq, false_iff]
          rintro ⟨other, same, -, passed⟩
          simp only [Option.some.injEq, Prod.mk.injEq] at same
          rw [← same.1, ← same.2, admitted] at passed
          cases passed
        | ok passed =>
          simp only [Option.some.injEq, Prod.mk.injEq]
          constructor
          · rintro rfl
            exact ⟨tenant, ⟨rfl, rfl⟩, fits, admitted⟩
          · rintro ⟨other, same, -⟩
            exact same.1

end Routes

/-- Neither rate limit refuses the request. -/
def Unexhausted (amb : Ambient) (limiter : Limiter) (request : Request) : Prop :=
  ∀ login, request.login = .ok login →
    (checkLimits amb request.clock login limiter).1.allowed = true

/-- The request gets as far as the seat of an account, in one of the routes. -/
def ReachesSeat (amb : Ambient) (limiter : Limiter) (db : Seats.Db) (request : Request)
    (route : Route) (user : User) : Prop :=
  (post amb limiter db { request with route := route }).seat = some user

/-- The id as typed names no account, and as the letters of its keys it names one whose checks
pass. -/
def ByKeysOnly (amb : Ambient) (db : Seats.Db) (request : Request) : Prop :=
  ∃ login, request.login = .ok login ∧ storable (amb.toLowerCase login.email) = true ∧
    findByName amb.seats db login.email = none ∧ ∃ user tenant,
      findByKeys amb db login.email = some (user, tenant) ∧
        verifyPassword amb.compareSync login.password user.passwordHash = true ∧
        mayEnter db request.clock.seated user tenant = .ok ()

theorem reachesSeat_iff {amb : Ambient} {limiter : Limiter} {db : Seats.Db} {request : Request}
    {route : Route} {user : User} (free : Unexhausted amb limiter request) :
    ReachesSeat amb limiter db request route user ↔
      ∃ login, request.login = .ok login ∧ storable (amb.toLowerCase login.email) = true ∧
        ∃ tenant, lookup amb db route login.email = some (user, tenant) ∧
          verifyPassword amb.compareSync login.password user.passwordHash = true ∧
          mayEnter db request.clock.seated user tenant = .ok () := by
  unfold ReachesSeat post
  have same : Request.login { request with route := route } = request.login := rfl
  rw [same]
  cases parsed : request.login with
  | error thrown => simp [afterBody]
  | ok login =>
    have allowed := free login parsed
    unfold afterBody
    dsimp only
    rw [if_pos allowed, afterLimits_seat_iff]
    constructor
    · intro passed
      exact ⟨login, rfl, passed⟩
    · rintro ⟨other, own, passed⟩
      cases own
      exact passed

/-- The two routes get as far as the seat of the same account for every request exactly if the
account is not one that only the token route finds. -/
theorem routes_agree_iff (amb : Ambient) (db : Seats.Db) (request : Request)
    (first second : Limiter) (tokenFree : Unexhausted amb first request)
    (takeoverFree : Unexhausted amb second request) :
    (∀ user, ReachesSeat amb first db request .token user ↔
      ReachesSeat amb second db request .takeover user) ↔ ¬ ByKeysOnly amb db request := by
  constructor
  · rintro agree ⟨login, parsed, stored, absent, user, tenant, found, fits, admitted⟩
    have byToken : ReachesSeat amb first db request .token user := by
      refine (reachesSeat_iff tokenFree).mpr ⟨login, parsed, stored, tenant, ?_, fits, admitted⟩
      unfold lookup
      rw [absent]
      exact found
    obtain ⟨other, same, -, company, nobody, -⟩ := (reachesSeat_iff takeoverFree).mp
      ((agree user).mp byToken)
    obtain rfl : login = other := Except.ok.inj (parsed.symm.trans same)
    unfold lookup at nobody
    rw [absent] at nobody
    cases nobody
  · intro typed user
    rw [reachesSeat_iff tokenFree, reachesSeat_iff takeoverFree]
    constructor
    · rintro ⟨login, parsed, stored, tenant, found, fits, admitted⟩
      refine ⟨login, parsed, stored, tenant, ?_, fits, admitted⟩
      unfold lookup at found ⊢
      cases direct : findByName amb.seats db login.email with
      | some pair => rwa [direct] at found
      | none =>
        rw [direct] at found
        exact absurd ⟨login, parsed, stored, direct, user, tenant, found, fits, admitted⟩ typed
    · rintro ⟨login, parsed, stored, tenant, found, fits, admitted⟩
      refine ⟨login, parsed, stored, tenant, ?_, fits, admitted⟩
      unfold lookup at found ⊢
      cases direct : findByName amb.seats db login.email with
      | some pair => rwa [direct] at found
      | none =>
        rw [direct] at found
        cases found

/-- Lower case text, and a hash that only its own text fits. -/
def sampleAmbient : Ambient where
  sqlLower := id
  toLowerCase := id
  compareSync text hash := text == hash

/-- An account whose password is `secret`. -/
def sampleUser : User := ⟨1, 1, "chang", "secret", .owner, true⟩

/-- One account in one company. -/
def sampleDb : Seats.Db where
  users := [sampleUser]
  tenants := [⟨1, true, true, 1⟩]
  sessions := []

/-- A login with the right password under an id. -/
def sampleLogin (email : String) : Request where
  route := .token
  body := ⟨some email, some "secret", some "pc", none⟩
  forwardedFor := none
  realIp := some "10.0.0.1"
  clock := ⟨0, 0, 0, 0, 0⟩
  jti := 1

/-- The body of such a login after its checks. -/
def sampleParsed (email : String) : Seats.Login := ⟨email, "secret", "pc", none, some "10.0.0.1"⟩

/-- A new process refuses neither spelling of the id. -/
theorem sampleLogin_unexhausted {email : String}
    (parsed : (sampleLogin email).login = .ok (sampleParsed email))
    (allowed : (checkLimits sampleAmbient (sampleLogin email).clock (sampleParsed email)
      Limiter.empty).1.allowed = true) :
    Unexhausted sampleAmbient Limiter.empty (sampleLogin email) := by
  intro login same
  obtain rfl := Except.ok.inj (parsed.symm.trans same)
  exact allowed

/-- Under the id as it is stored, both routes reach the account. -/
theorem latin_reaches :
    ReachesSeat sampleAmbient Limiter.empty sampleDb (sampleLogin "chang") .token sampleUser ∧
      ReachesSeat sampleAmbient Limiter.empty sampleDb (sampleLogin "chang") .takeover
        sampleUser := by
  have free := @sampleLogin_unexhausted "chang" rfl (by decide +kernel)
  have typed : ¬ ByKeysOnly sampleAmbient sampleDb (sampleLogin "chang") := by
    rintro ⟨login, parsed, -, absent, -⟩
    obtain rfl : sampleParsed "chang" = login := Except.ok.inj parsed
    revert absent
    decide +kernel
  have byToken : ReachesSeat sampleAmbient Limiter.empty sampleDb (sampleLogin "chang") .token
      sampleUser := by
    unfold ReachesSeat
    decide +kernel
  refine ⟨byToken, ?_⟩
  exact ((routes_agree_iff sampleAmbient sampleDb (sampleLogin "chang") Limiter.empty Limiter.empty
    free free).mpr typed sampleUser).mp byToken

/-- Typed on a Korean keyboard, the id reaches the account in the token route only. -/
theorem hangul_reaches :
    Unexhausted sampleAmbient Limiter.empty (sampleLogin "초뭏") ∧
      ReachesSeat sampleAmbient Limiter.empty sampleDb (sampleLogin "초뭏") .token sampleUser ∧
      ¬ ReachesSeat sampleAmbient Limiter.empty sampleDb (sampleLogin "초뭏") .takeover
        sampleUser := by
  refine ⟨@sampleLogin_unexhausted "초뭏" rfl (by decide +kernel), ?_, ?_⟩
  · unfold ReachesSeat
    decide +kernel
  · unfold ReachesSeat
    decide +kernel

end ChainRemote.Panel.Login
