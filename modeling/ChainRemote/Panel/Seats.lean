import ChainRemote.Lib.Machine
import ChainRemote.Panel.Text
import Mathlib.Data.List.Nodup

/-!
# Login seats

`active_login_sessions` keeps one row for each account. The functions of
`lib/data/active-sessions.ts` are single SQL statements on it (`claimSeat` with a read
before and after), and `requireApiAuth` of `lib/api-auth.ts` compares the token of every
API request with the row. The routes that call them are tasks: one constructor for each
statement a route is about to run, with what the earlier statements returned. The machine
interleaves any number of tasks statement by statement with the passage of time and with
changes to accounts and companies.

A random identifier enters with the statement that stores it, since nothing reads it
before. `written` is history: every pair of account and identifier a login has stored.
-/

namespace ChainRemote.Panel.Seats

open Lib

/-- `user_role`. -/
inductive Role
  | owner
  | admin
  | operator
  | viewer
  | superAdmin
deriving DecidableEq, Repr

/-- The columns of a `users` row that logins and API requests read. -/
structure User where
  id : Nat
  tenantId : Nat
  email : String
  passwordHash : String
  role : Role
  isActive : Bool
deriving DecidableEq, Repr

/-- The columns of a `tenants` row that logins and API requests read. -/
structure Tenant where
  id : Nat
  isActive : Bool
  /-- `subscription_status = 'active'`. -/
  subscribed : Bool
  maxSeats : Nat
deriving DecidableEq, Repr

/-- An `active_login_sessions` row; the account is its primary key. -/
structure Session where
  userId : Nat
  jti : Nat
  deviceId : String
  deviceLabel : Option String
  ip : Option String
  createdAt : Nat
  lastSeenAt : Nat
deriving DecidableEq, Repr

/-- The three tables. -/
structure Db where
  users : List User
  tenants : List Tenant
  sessions : List Session

/-- The claims of an API token. The name and the address in it are display text. -/
structure Token where
  uid : Nat
  role : Role
  tenantId : Nat
  jti : Option Nat
  /-- Expiry in seconds. -/
  exp : Nat
deriving DecidableEq, Repr

/-- `ApiAuthError`. -/
structure ApiAuthError where
  status : Nat
  message : String
  revoked : Bool := false
deriving DecidableEq, Repr

/-- `interval '2 minutes'` in milliseconds. -/
def orphanAfter : Nat := 2 * 60 * 1000

/-- `last_seen_at > now() - interval '2 minutes'`. -/
def Session.live (now : Nat) (row : Session) : Bool := decide (now < row.lastSeenAt + orphanAfter)

/-- The company of an account. -/
def Db.tenantOf (db : Db) (userId : Nat) : Option Nat :=
  (db.users.find? fun user => user.id == userId).map User.tenantId

/-- The account exists, as the reference of a seat row requires. -/
def Db.hasUser (db : Db) (userId : Nat) : Bool := db.users.any fun user => user.id == userId

/-- The rows `countLiveTenantSessions` counts. -/
def Db.liveOthers (db : Db) (now tenantId excludeUserId : Nat) : List Session :=
  db.sessions.filter fun row =>
    db.tenantOf row.userId == some tenantId && row.userId != excludeUserId && row.live now

/-- `countLiveTenantSessions`. -/
def countLiveTenantSessions (db : Db) (now tenantId excludeUserId : Nat) : Nat :=
  (db.liveOthers now tenantId excludeUserId).length

/-- `getActiveSession`. -/
def getActiveSession (sessions : List Session) (userId : Nat) : Option Session :=
  sessions.find? fun row => row.userId == userId

/-- An insert that replaces the row of the same account. -/
def store (row : Session) (sessions : List Session) : List Session :=
  row :: sessions.filter fun other => other.userId != row.userId

/-- The upsert of `claimSeat`: refused while another device holds the account and was seen
within two minutes. -/
def claimSeat (now : Nat) (row : Session) (sessions : List Session) : Bool × List Session :=
  match getActiveSession sessions row.userId with
  | none => (true, store row sessions)
  | some held =>
    if held.deviceId = row.deviceId ∨ held.lastSeenAt + orphanAfter < now then
      (true, store row sessions)
    else (false, sessions)

/-- `takeoverSeat`. -/
def takeoverSeat (row : Session) (sessions : List Session) : List Session := store row sessions

/-- `touchHeartbeat`: whether the identifier still holds the account, and the table with its row
stamped. -/
def touchHeartbeat (now userId jti : Nat) (sessions : List Session) : Bool × List Session :=
  let mine := fun row : Session => row.userId == userId && row.jti == jti
  (sessions.any mine,
    sessions.map fun row => if mine row then { row with lastSeenAt := now } else row)

/-- `releaseSeat`. -/
def releaseSeat (userId jti : Nat) (sessions : List Session) : List Session :=
  sessions.filter fun row => !(row.userId == userId && row.jti == jti)

/-- `revokeSeat`. -/
def revokeSeat (userId : Nat) (sessions : List Session) : List Session :=
  sessions.filter fun row => row.userId != userId

/-- `isTenantActive`. -/
def isTenantActive (db : Db) (tenantId : Nat) : Bool :=
  match db.tenants.find? fun tenant => tenant.id == tenantId with
  | some tenant => tenant.isActive && tenant.subscribed
  | none => false

/-- `TOKEN_TTL` in seconds. -/
def tokenTtl : Nat := 24 * 60 * 60

/-- `signApiToken`. -/
def signApiToken (now : Nat) (uid : Nat) (role : Role) (tenantId jti : Nat) : Token :=
  { uid, role, tenantId, jti := some jti, exp := now / 1000 + tokenTtl }

/-- `needsTokenRefresh`. -/
def needsTokenRefresh (now exp : Nat) : Bool := decide (exp < now / 1000 + 60 * 60 * 12)

/-- The error of a token whose account or seat is gone. -/
def revokedError : ApiAuthError := { status := 401, message := "REVOKED", revoked := true }

/-- `jsonError` of a statement the database refuses. -/
def databaseError : ApiAuthError := { status := 500, message := "처리 중 오류가 발생했습니다." }

/-- `requireApiAuth` on a token this server signed: the claims with the role the database has. -/
def requireApiAuth (now : Nat) (db : Db) (token : Token) : Except ApiAuthError Token :=
  if token.exp ≤ now / 1000 then .error { status := 401, message := "토큰 검증 실패" }
  else
    match db.users.find? fun user => user.id == token.uid with
    | none => .error revokedError
    | some user =>
      match db.tenants.find? fun tenant => tenant.id == user.tenantId with
      | none => .error revokedError
      | some tenant =>
        if !user.isActive then .error revokedError
        else if token.jti.isSome ∧
            (getActiveSession db.sessions user.id).map Session.jti ≠ token.jti then
          .error revokedError
        else if user.role ≠ .superAdmin ∧ !(tenant.isActive && tenant.subscribed) then
          .error { status := 401, message := "구독이 정지된 회사입니다" }
        else .ok { token with role := user.role }

/-- What a login request carries. -/
structure Login where
  email : String
  password : String
  deviceId : String
  deviceLabel : Option String
  ip : Option String
deriving DecidableEq, Repr

/-- The two login routes. -/
inductive Route
  /-- `POST /api/auth/token`. -/
  | token
  /-- `POST /api/auth/takeover`. -/
  | takeover
deriving DecidableEq, Repr

/-- The operations that replace the password hash of an account. -/
inductive PasswordChange
  /-- `resetPassword` by a manager of the company. -/
  | resetPassword (tenantId userId : Nat)
  /-- `adminResetUserPassword` by the platform operator. -/
  | adminResetUserPassword (tenantId userId : Nat)
  /-- `/api/me/password` by the account itself. -/
  | mePassword (userId : Nat)
  /-- `resetTenantOwnerPassword` by the platform operator. -/
  | resetTenantOwnerPassword (userId : Nat)
deriving DecidableEq, Repr

/-- The account whose hash is replaced. -/
def PasswordChange.target : PasswordChange → Nat
  | .resetPassword _ userId => userId
  | .adminResetUserPassword _ userId => userId
  | .mePassword userId => userId
  | .resetTenantOwnerPassword userId => userId

/-- The `WHERE` clause of the update of the hash. -/
def PasswordChange.selects (change : PasswordChange) (user : User) : Bool :=
  match change with
  | .resetPassword tenantId userId => user.id == userId && user.tenantId == tenantId
  | .adminResetUserPassword tenantId userId => user.id == userId && user.tenantId == tenantId
  | .mePassword userId => user.id == userId
  | .resetTenantOwnerPassword userId => user.id == userId

/-- Whether the operation goes on to `revokeSeat`. -/
def PasswordChange.revokes : PasswordChange → Bool
  | .resetPassword _ _ => true
  | .adminResetUserPassword _ _ => true
  | .mePassword _ => true
  | .resetTenantOwnerPassword _ => false

/-- A request in progress, by the statement it is about to run. Its body has passed the checks
that need no statement. -/
inductive Task
  /-- A login looks the account up under the next of its names. -/
  | find (route : Route) (login : Login) (name : String) (others : List String)
  /-- It counts the other live sessions of the company. -/
  | count (route : Route) (login : Login) (user : User) (maxSeats : Nat)
  /-- `claimSeat` reads the holder for its log; `counted` are the accounts the count saw. -/
  | prior (login : Login) (user : User) (counted : List Nat)
  /-- `claimSeat` writes. -/
  | claim (login : Login) (user : User) (counted : List Nat) (prior : Option Session)
  /-- `claimSeat` reads the holder for the refusal. -/
  | occupied (user : User)
  /-- `takeoverSeat` writes. -/
  | seat (login : Login) (user : User) (counted : List Nat)
  /-- The login is logged and its token sent. -/
  | issue (user : User) (jti : Nat)
  /-- A heartbeat authenticates. -/
  | beatAuth (token : Token)
  /-- It checks the company. -/
  | beatTenant (claims : Token)
  /-- It reads the account for a new token. -/
  | beatRefresh (claims : Token) (jti : Nat)
  /-- It stamps the seat. -/
  | beatTouch (claims : Token) (jti : Nat) (refreshed : Option Token)
  /-- A logout authenticates. -/
  | outAuth (token : Token)
  /-- It releases the seat. -/
  | outRelease (claims : Token) (jti : Nat)
  /-- A deactivated account loses its seat. -/
  | revoke (userId : Nat)
  /-- A password change by the account itself authenticates. -/
  | meAuth (token : Token) (currentPassword newHash : String)
  /-- It checks the current password. -/
  | meFind (claims : Token) (currentPassword newHash : String)
  /-- The reset of an owner looks the account up. -/
  | ownerFind (tenantId : Nat) (newHash : String)
  /-- A password change replaces the hash. -/
  | setHash (change : PasswordChange) (newHash : String)
  /-- A password change revokes the seat. -/
  | dropSeat (change : PasswordChange)

/-- The response of a finished request. -/
inductive Reply
  | error (error : ApiAuthError)
  | occupied (deviceLabel : Option String) (since : Option Nat)
  | token (token : Token)
  | ok (refreshed : Option Token)
  /-- A token without an identifier is let through without a seat. -/
  | unenforced
  /-- A panel action throws. -/
  | thrown (message : String)

/-- The effect of one statement of a task. -/
structure Outcome where
  /-- The tables afterwards. -/
  db : Db
  /-- The tokens sent out. -/
  sent : List Token := []
  /-- The seat a login stored. -/
  wrote : Option (Nat × Nat) := none
  /-- The rest of the task, or its response. -/
  next : Task ⊕ Reply

/-- Functions outside this model: text folding, keyboard layout and password hashing. -/
structure Ambient where
  /-- `lower` of the database. -/
  sqlLower : String → String
  /-- `toLowerCase`. -/
  toLowerCase : String → String
  /-- `qwertyFromHangul`. -/
  qwertyFromHangul : String → Option String
  /-- `verifyPassword` of a password and a hash. -/
  verifyPassword : String → String → Bool

/-- The account lookup of the login routes. -/
def findByName (amb : Ambient) (db : Db) (name : String) : Option (User × Tenant) :=
  db.users.findSome? fun user =>
    if amb.sqlLower user.email = amb.toLowerCase name ∧ user.isActive then
      (db.tenants.find? fun tenant => tenant.id == user.tenantId).map fun tenant => (user, tenant)
    else none

/-- The row a login stores. -/
def Login.session (login : Login) (now userId jti : Nat) : Session :=
  { userId, jti, deviceId := login.deviceId, deviceLabel := login.deviceLabel, ip := login.ip,
    createdAt := now, lastSeenAt := now }

/-- The refusal of a login while the seats of the company are taken. -/
def seatsTaken (maxSeats : Nat) : ApiAuthError :=
  { status := 403
    message := "동시 접속 인원(" ++ toString maxSeats ++
      "명)이 모두 사용 중입니다. 다른 직원이 접속을 종료한 뒤 다시 시도하세요." }

/-- A heartbeat after its checks: a token without an identifier ends here, an old one is
renewed first. -/
def afterChecks (now : Nat) (claims : Token) : Task ⊕ Reply :=
  match claims.jti with
  | none => .inr .unenforced
  | some jti =>
    .inl (if needsTokenRefresh now claims.exp then .beatRefresh claims jti
      else .beatTouch claims jti none)

/-- One statement of a task at a time, with the identifier it may draw. -/
def Task.run (amb : Ambient) (now : Nat) (db : Db) (jti : Nat) : Task → Outcome
  | .find route login name others =>
    match findByName amb db name with
    | none =>
      match others with
      | [] => { db, next := .inr (.error { status := 401, message := "자격 실패" }) }
      | other :: rest => { db, next := .inl (.find route login other rest) }
    | some (user, tenant) =>
      if !amb.verifyPassword login.password user.passwordHash then
        { db, next := .inr (.error { status := 401, message := "자격 실패" }) }
      else if user.role ≠ .superAdmin ∧ !(tenant.isActive && tenant.subscribed) then
        { db, next := .inr (.error
            { status := 403
              message := "구독이 정지되어 로그인할 수 없습니다. 관리자에게 문의하세요." }) }
      else { db, next := .inl (.count route login user tenant.maxSeats) }
  | .count route login user maxSeats =>
    if maxSeats ≤ countLiveTenantSessions db now user.tenantId user.id then
      { db, next := .inr (.error (seatsTaken maxSeats)) }
    else
      let counted := (db.liveOthers now user.tenantId user.id).map Session.userId
      match route with
      | .token => { db, next := .inl (.prior login user counted) }
      | .takeover => { db, next := .inl (.seat login user counted) }
  | .prior login user counted =>
    { db, next := .inl (.claim login user counted (getActiveSession db.sessions user.id)) }
  | .claim login user _ _ =>
    let after := claimSeat now (login.session now user.id jti) db.sessions
    if !after.1 then { db, next := .inl (.occupied user) }
    else if db.hasUser user.id then
      { db := { db with sessions := after.2 }, wrote := some (user.id, jti),
        next := .inl (.issue user jti) }
    else { db, next := .inr (.error databaseError) }
  | .occupied user =>
    let held := getActiveSession db.sessions user.id
    { db, next := .inr (.occupied (held.bind Session.deviceLabel) (held.map Session.createdAt)) }
  | .seat login user _ =>
    if db.hasUser user.id then
      { db := { db with
          sessions := takeoverSeat (login.session now user.id jti) db.sessions }
        wrote := some (user.id, jti)
        next := .inl (.issue user jti) }
    else { db, next := .inr (.error databaseError) }
  | .issue user jti =>
    let token := signApiToken now user.id user.role user.tenantId jti
    { db, sent := [token], next := .inr (.token token) }
  | .beatAuth token =>
    match requireApiAuth now db token with
    | .error error => { db, next := .inr (.error error) }
    | .ok claims =>
      { db, next := if claims.role = .superAdmin then afterChecks now claims
          else .inl (.beatTenant claims) }
  | .beatTenant claims =>
    if isTenantActive db claims.tenantId then { db, next := afterChecks now claims }
    else { db, next := .inr (.error { status := 401, message := "구독이 정지되었습니다" }) }
  | .beatRefresh claims jti =>
    match db.users.find? fun user => user.id == claims.uid with
    | none => { db, next := .inr (.error revokedError) }
    | some user =>
      if user.isActive then
        { db, next := .inl (.beatTouch claims jti
            (some (signApiToken now claims.uid user.role claims.tenantId jti))) }
      else { db, next := .inr (.error revokedError) }
  | .beatTouch claims jti refreshed =>
    let after := touchHeartbeat now claims.uid jti db.sessions
    if after.1 then
      { db := { db with sessions := after.2 }, sent := refreshed.toList,
        next := .inr (.ok refreshed) }
    else { db, next := .inr (.error revokedError) }
  | .outAuth token =>
    match requireApiAuth now db token with
    | .error error => { db, next := .inr (.error error) }
    | .ok claims =>
      match claims.jti with
      | some jti => { db, next := .inl (.outRelease claims jti) }
      | none => { db, next := .inr (.ok none) }
  | .outRelease claims jti =>
    { db := { db with sessions := releaseSeat claims.uid jti db.sessions }, next := .inr (.ok none) }
  | .revoke userId =>
    { db := { db with sessions := revokeSeat userId db.sessions }, next := .inr (.ok none) }
  | .meAuth token currentPassword newHash =>
    match requireApiAuth now db token with
    | .error error => { db, next := .inr (.error error) }
    | .ok claims => { db, next := .inl (.meFind claims currentPassword newHash) }
  | .meFind claims currentPassword newHash =>
    match db.users.find? fun user => user.id == claims.uid with
    | none => { db, next := .inr (.error { status := 404, message := "사용자 없음" }) }
    | some user =>
      if amb.verifyPassword currentPassword user.passwordHash then
        { db, next := .inl (.setHash (.mePassword claims.uid) newHash) }
      else { db, next := .inr (.error { status := 403, message := "현재 비밀번호 불일치" }) }
  | .ownerFind tenantId newHash =>
    match db.users.find? fun user => user.tenantId == tenantId && user.role == .owner with
    | none => { db, next := .inr (.thrown "이 회사의 owner 사용자 못 찾음") }
    | some owner => { db, next := .inl (.setHash (.resetTenantOwnerPassword owner.id) newHash) }
  | .setHash change newHash =>
    { db := { db with
        users := db.users.map fun user =>
          if change.selects user then { user with passwordHash := newHash } else user }
      next := if change.revokes then .inl (.dropSeat change) else .inr (.ok none) }
  | .dropSeat change =>
    { db := { db with sessions := revokeSeat change.target db.sessions }, next := .inr (.ok none) }

/-- The tables, the clock in milliseconds, the tokens sent out and the requests in progress. -/
structure State where
  db : Db
  now : Nat
  tokens : List Token
  tasks : List Task
  /-- Every account and identifier a login stored. -/
  written : List (Nat × Nat)

/-- A request at its first statement, for tokens the server has sent. -/
def Task.starts (amb : Ambient) (tokens : List Token) : Task → Prop
  | .find .token login name others =>
    name = login.email ∧ others = (amb.qwertyFromHangul login.email).toList
  | .find .takeover login name others => name = login.email ∧ others = []
  | .beatAuth token => token ∈ tokens
  | .outAuth token => token ∈ tokens
  | .meAuth token _ _ => token ∈ tokens
  | .revoke _ => True
  | .ownerFind _ _ => True
  | .setHash (.resetPassword _ _) _ => True
  | .setHash (.adminResetUserPassword _ _) _ => True
  | _ => False

instance (amb : Ambient) (tokens : List Token) (task : Task) :
    Decidable (task.starts amb tokens) := by
  unfold Task.starts
  split <;> infer_instance

/-- The primary keys and references of accounts and companies. -/
def Accounts (users : List User) (tenants : List Tenant) : Prop :=
  (users.map User.id).Nodup ∧ (tenants.map Tenant.id).Nodup ∧
    ∀ user ∈ users, user.tenantId ∈ tenants.map Tenant.id

instance (users : List User) (tenants : List Tenant) : Decidable (Accounts users tenants) :=
  inferInstanceAs (Decidable (_ ∧ _ ∧ _))

/-- A step of the server. -/
inductive Event
  /-- A request arrives. -/
  | spawn (task : Task)
  /-- A request runs its next statement; `jti` is the identifier it draws. -/
  | run (i jti : Nat)
  /-- A request breaks off. -/
  | abort (i : Nat)
  /-- Time passes. -/
  | pass (milliseconds : Nat)
  /-- Accounts and companies change; the seats of deleted accounts go with them. -/
  | edit (users : List User) (tenants : List Tenant)

/-- The tasks after one of them ran. -/
def advance (tasks : List Task) (i : Nat) : Task ⊕ Reply → List Task
  | .inl task => tasks.set i task
  | .inr _ => tasks.eraseIdx i

/-- The state after a task ran a statement. -/
def State.after (s : State) (i : Nat) (outcome : Outcome) : State :=
  { s with
    db := outcome.db
    tokens := outcome.sent ++ s.tokens
    tasks := advance s.tasks i outcome.next
    written := outcome.wrote.toList ++ s.written }

/-- One step; `none` where the event cannot happen. A drawn identifier is a new one. -/
def step (amb : Ambient) (s : State) : Event → Option State
  | .spawn task => if task.starts amb s.tokens then some { s with tasks := task :: s.tasks } else none
  | .run i jti =>
    match s.tasks[i]? with
    | none => none
    | some task =>
      let outcome := task.run amb s.now s.db jti
      if ∀ pair ∈ outcome.wrote, pair.2 ∉ s.written.map Prod.snd then some (s.after i outcome)
      else none
  | .abort i => if i < s.tasks.length then some { s with tasks := s.tasks.eraseIdx i } else none
  | .pass milliseconds => some { s with now := s.now + milliseconds }
  | .edit users tenants =>
    if Accounts users tenants then
      some { s with
        db := { users, tenants, sessions := s.db.sessions.filter fun row =>
          Db.hasUser { s.db with users } row.userId } }
    else none

/-- The empty seat table at some time, with its accounts and companies. -/
def empty (now : Nat) (users : List User) (tenants : List Tenant) : State where
  db := { users, tenants, sessions := [] }
  now := now
  tokens := []
  tasks := []
  written := []

/-- The server. -/
def machine (amb : Ambient) : Machine State Event where
  start s := ∃ now users tenants, Accounts users tenants ∧ s = empty now users tenants
  step := step amb

/-- A claim that succeeds stores its row. -/
theorem claimSeat_stores {now : Nat} {row : Session} {sessions : List Session}
    (claimed : (claimSeat now row sessions).1 = true) :
    (claimSeat now row sessions).2 = store row sessions := by
  unfold claimSeat at claimed ⊢
  split
  · rfl
  · split
    · rfl
    · simp_all

/-- An account with a company exists. -/
theorem hasUser_of_tenantOf {db : Db} {userId tenantId : Nat}
    (known : db.tenantOf userId = some tenantId) : db.hasUser userId = true := by
  obtain ⟨user, found, -⟩ := Option.map_eq_some_iff.mp known
  have same := List.find?_some found
  exact List.any_eq_true.mpr ⟨user, List.mem_of_find?_eq_some found, same⟩

/-- The statements that write a table. -/
def Task.writes : Task → Bool
  | .claim .. | .seat .. | .beatTouch .. | .outRelease .. | .revoke .. | .setHash .. |
    .dropSeat .. => true
  | _ => false

/-- Every other statement only reads. -/
theorem run_reads (amb : Ambient) (now : Nat) (db : Db) (jti : Nat) {task : Task}
    (reads : task.writes = false) :
    (task.run amb now db jti).db = db ∧ (task.run amb now db jti).wrote = none := by
  cases task <;> simp only [Task.writes, Bool.true_eq_false] at reads
  all_goals
    simp only [Task.run]
    repeat' split
  all_goals trivial

/-- The statements of a task leave the companies and only replace password hashes. -/
theorem run_accounts (amb : Ambient) (now : Nat) (db : Db) (jti : Nat) (task : Task) :
    (task.run amb now db jti).db.tenants = db.tenants ∧
      ∃ hash : User → String, (task.run amb now db jti).db.users =
        db.users.map fun user => { user with passwordHash := hash user } := by
  have same : ∃ hash : User → String,
      db.users = db.users.map fun user => { user with passwordHash := hash user } :=
    ⟨User.passwordHash, (List.map_id' db.users).symm⟩
  cases task with
  | setHash change newHash =>
    refine ⟨rfl, fun user => if change.selects user then newHash else user.passwordHash, ?_⟩
    refine List.map_congr_left fun user _ => ?_
    by_cases selected : change.selects user <;> simp [selected]
  | claim | seat | beatTouch =>
    simp only [Task.run]
    repeat' split
    all_goals exact ⟨rfl, same⟩
  | outRelease | revoke | dropSeat => exact ⟨rfl, same⟩
  | _ =>
    rw [(run_reads amb now db jti rfl).1]
    exact ⟨rfl, same⟩

/-- What a statement of a task does to the seats: it stores the seat of a login, stamps the row
of a heartbeat, or removes rows. -/
theorem run_sessions (amb : Ambient) (now : Nat) (db : Db) (jti : Nat) (task : Task) :
    (∃ login user counted,
      ((∃ prior, task = .claim login user counted prior) ∨ task = .seat login user counted) ∧
        (task.run amb now db jti).wrote = some (user.id, jti) ∧
        (task.run amb now db jti).next = .inl (.issue user jti) ∧
        db.hasUser user.id ∧
        (task.run amb now db jti).db.sessions =
          store (login.session now user.id jti) db.sessions) ∨
      (task.run amb now db jti).wrote = none ∧
        ((∃ claims mine refreshed, task = .beatTouch claims mine refreshed ∧
          (∃ row ∈ db.sessions, row.userId = claims.uid ∧ row.jti = mine) ∧
          (task.run amb now db jti).db.sessions =
            (touchHeartbeat now claims.uid mine db.sessions).2) ∨
        (task.run amb now db jti).db.sessions.Sublist db.sessions) := by
  cases task with
  | claim login user counted prior =>
    simp only [Task.run]
    split
    · exact .inr ⟨rfl, .inr (.refl _)⟩
    · rename_i claimed
      split
      · rename_i known
        refine .inl ⟨login, user, counted, .inl ⟨prior, rfl⟩, rfl, rfl, known, ?_⟩
        exact claimSeat_stores (by simpa using claimed)
      · exact .inr ⟨rfl, .inr (.refl _)⟩
  | seat login user counted =>
    simp only [Task.run]
    split
    · rename_i known
      exact .inl ⟨login, user, counted, .inr rfl, rfl, rfl, known, rfl⟩
    · exact .inr ⟨rfl, .inr (.refl _)⟩
  | beatTouch claims mine refreshed =>
    simp only [Task.run]
    split
    · rename_i alive
      refine .inr ⟨rfl, .inl ⟨claims, mine, refreshed, rfl, ?_, rfl⟩⟩
      simpa [touchHeartbeat] using alive
    · exact .inr ⟨rfl, .inr (.refl _)⟩
  | outRelease claims mine => exact .inr ⟨rfl, .inr List.filter_sublist⟩
  | revoke userId => exact .inr ⟨rfl, .inr List.filter_sublist⟩
  | dropSeat change => exact .inr ⟨rfl, .inr List.filter_sublist⟩
  | setHash change newHash => exact .inr ⟨rfl, .inr (.refl _)⟩
  | _ =>
    refine .inr ⟨(run_reads amb now db jti rfl).2, .inr ?_⟩
    rw [(run_reads amb now db jti rfl).1]

end ChainRemote.Panel.Seats
