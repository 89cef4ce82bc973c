import ChainRemote.Lib.Machine
import ChainRemote.Panel.Database
import ChainRemote.Panel.Heartbeat
import ChainRemote.Panel.PushLifecycle

/-!
# Heartbeat tokens without the key of a company

The routes of the agents take a device id, which is public, and a token, of which the row of the
device keeps the hash. `register-heartbeat-token` issues tokens: with the slug and the enroll key of
a company it sets the token of the device again, and without them it sets a token only where the row
has none. Every other route compares the hash. A caller without a key therefore neither changes a
token that is there nor gets one for a device that has one. `hash` is `hashHeartbeatToken`
everywhere below.
-/

namespace ChainRemote.Panel.HeartbeatTokens

open Lib

/-- A `tenants` row, with the columns of the enrollment. -/
structure Tenant where
  id : Nat
  slug : String
  enrollSecretHash : Option String
  isActive : Bool
deriving DecidableEq, Repr

/-- `typeof v === "string" ? v.trim() : ""`. -/
def str (value : Option String) : String := jsTrim (value.getD "")

section Functions

variable (hash : String → String)

/-- `resolveTenantByEnroll`. -/
def resolveTenantByEnroll (slug enrollKey : String) (tenants : List Tenant) : Option Nat :=
  if slug = "" ∨ enrollKey = "" then none
  else
    (tenants.find? fun row =>
      row.slug == slug && row.enrollSecretHash == some (hash enrollKey) && row.isActive).map
      Tenant.id

/-- Set the token of the selected rows; the token is returned if there are any. -/
def issueToken (plaintext : String) (here : Customer → Bool) (db : Db) :
    Except DbError (Option String × Db) := do
  let after ← db.updateCustomers here fun row =>
    { row with heartbeatToken := some (hash plaintext) }
  return (if db.customers.any here then some plaintext else none, after)

/-- `registerHeartbeatToken`; `plaintext` is what `generateHeartbeatToken` draws. -/
def registerHeartbeatToken (plaintext remoteId : String) (tenantId : Option Nat) (db : Db) :
    Except DbError (Option String × Db) :=
  issueToken hash plaintext
    (fun row => row.remoteId == some remoteId && tenantId.all fun id => row.tenantId == id) db

/-- `registerHeartbeatTokenFirstIssue`. -/
def registerHeartbeatTokenFirstIssue (plaintext remoteId : String) (db : Db) :
    Except DbError (Option String × Db) :=
  if remoteId = "" then .ok (none, db)
  else
    issueToken hash plaintext
      (fun row => row.remoteId == some remoteId && row.heartbeatToken.isNone) db

/-- A request to one of the routes of the agents. Fields that are no text are none, and so is a
header that is not sent; the table of the pushes is the one at the time of the request. -/
inductive Request
  /-- `POST /api/customers/register-heartbeat-token`. -/
  | register (remoteId tenantSlug enrollKey : Option String) (plaintext : String)
  /-- `POST /api/customers/heartbeat`. -/
  | heartbeat (token remoteId version : Option String) (now : Nat) (beat : Beat)
  /-- `GET /api/customers/pending-update`. -/
  | poll (token remoteId : Option String) (pushes : PushTable)
  /-- `POST /api/customers/pending-update`; the id is a text that may stand for no row. -/
  | report (token remoteId : Option String) (pushId : Option (Option Nat))
      (status reason : Option String) (now : Nat) (pushes : PushTable)

/-- What a route answers. -/
inductive Response
  | token (plaintext : String)
  /-- A heartbeat was recorded; the answer carries the commands for the device. -/
  | accepted
  /-- A waiting push, or none. -/
  | push (row : Option PendingUpdate)
  | reported
  | error (status : Nat) (message : String)

/-- What `register-heartbeat-token` answers to an attempt to issue. -/
def registered (db : Db) : Except DbError (Option String × Db) → Db × Response
  | .error _ => (db, .error 500 "internal error")
  | .ok (some token, after) => (after, .token token)
  | .ok (none, after) =>
    (after, .error 409 "거래처 미등록 또는 이미 토큰 보유(회전은 enroll-key 필요)")

/-- `POST /api/customers/register-heartbeat-token`. -/
def register (remoteId tenantSlug enrollKey : Option String) (plaintext : String)
    (tenants : List Tenant) (db : Db) : Db × Response :=
  let remoteId := str remoteId
  let tenantSlug := str tenantSlug
  let enrollKey := str enrollKey
  if remoteId = "" then (db, .error 400 "remoteId 필수")
  else if storable remoteId = false then (db, .error 500 "internal error")
  else if enrollKey ≠ "" ∧ tenantSlug ≠ "" then
    match resolveTenantByEnroll hash tenantSlug enrollKey tenants with
    | none => (db, .error 403 "tenant 인증 실패")
    | some tenantId =>
      registered db (registerHeartbeatToken hash plaintext remoteId (some tenantId) db)
  else registered db (registerHeartbeatTokenFirstIssue hash plaintext remoteId db)

/-- `POST /api/customers/heartbeat`. -/
def heartbeat (token remoteId version : Option String) (now : Nat) (beat : Beat) (db : Db) :
    Db × Response :=
  match token.filter fun text => text ≠ "" with
  | none => (db, .error 401 "token 헤더 필수")
  | some token =>
    let remoteId := str remoteId
    let version := str version
    if remoteId = "" ∨ version = "" then (db, .error 400 "remoteId + version 필수")
    else if storable remoteId = false ∨ storable version = false then
      (db, .error 500 "처리 중 오류가 발생했습니다.")
    else
      let here := selects hash remoteId token
      match db.updateCustomers here (beatSet now { beat with version }) with
      | .error _ => (db, .error 500 "처리 중 오류가 발생했습니다.")
      | .ok after =>
        if db.customers.any here then (after, .accepted)
        else (after, .error 403 "token 또는 remoteId 불일치")

/-- `GET /api/customers/pending-update`. -/
def poll (token remoteId : Option String) (pushes : PushTable) (db : Db) : Response :=
  match token.filter fun text => text ≠ "" with
  | none => .error 401 "token 헤더 필수"
  | some token =>
    if str remoteId = "" then .error 400 "remoteId 필수"
    else if storable (str remoteId) = false then .error 500 "처리 중 오류가 발생했습니다."
    else .push (getPendingForAgent db.customers hash (str remoteId) token pushes)

/-- `POST /api/customers/pending-update`. -/
def report (token remoteId : Option String) (pushId : Option (Option Nat))
    (status reason : Option String) (now : Nat) (pushes : PushTable) (db : Db) : Response :=
  match token.filter fun text => text ≠ "" with
  | none => .error 401 "token 헤더 필수"
  | some token =>
    let remoteId := str remoteId
    let status := str status
    let reason := if str reason = "" then "unknown" else str reason
    match pushId with
    | none => .error 400 "id + remoteId + status(applied|failed) 필수"
    | some pushId =>
      if remoteId = "" ∨ (status ≠ "applied" ∧ status ≠ "failed") then
        .error 400 "id + remoteId + status(applied|failed) 필수"
      else if storable remoteId = false then .error 500 "처리 중 오류가 발생했습니다."
      else
        match pushId with
        | none => .error 500 "처리 중 오류가 발생했습니다."
        | some pushId =>
          let ok :=
            if status = "applied" then
              (markApplied db.customers now hash pushId remoteId token pushes).2
            else (markFailed db.customers now hash pushId remoteId token reason pushes).2
          if ok then .reported else .error 403 "매칭 실패 또는 이미 처리됨"

/-- The customers after a request, and the answer. -/
def handle (tenants : List Tenant) (db : Db) : Request → Db × Response
  | .register remoteId tenantSlug enrollKey plaintext =>
    register hash remoteId tenantSlug enrollKey plaintext tenants db
  | .heartbeat token remoteId version now beat => heartbeat hash token remoteId version now beat db
  | .poll token remoteId pushes => (db, poll hash token remoteId pushes db)
  | .report token remoteId pushId status reason now pushes =>
    (db, report hash token remoteId pushId status reason now pushes db)

/-- The request has the slug and the enroll key of a company. -/
def Request.keyed (tenants : List Tenant) : Request → Bool
  | .register _ tenantSlug enrollKey _ =>
    (resolveTenantByEnroll hash (str tenantSlug) (str enrollKey) tenants).isSome
  | _ => false

/-- The device id a request names. -/
def Request.remoteId : Request → String
  | .register remoteId _ _ _ => str remoteId
  | .heartbeat _ remoteId _ _ _ => str remoteId
  | .poll _ remoteId _ => str remoteId
  | .report _ remoteId _ _ _ _ _ => str remoteId

/-- The token a request presents. -/
def Request.token : Request → Option String
  | .register _ _ _ _ => none
  | .heartbeat token _ _ _ _ => token
  | .poll token _ _ => token
  | .report token _ _ _ _ _ _ => token

/-- The answer lets the caller act as the device: it carries its token or a push for it, or a
report in its name was taken. -/
def Response.acts : Response → Bool
  | .token _ => true
  | .accepted => true
  | .push row => row.isSome
  | .reported => true
  | .error _ _ => false

/-- The answer carries a new token. -/
def Response.issues : Response → Bool
  | .token _ => true
  | _ => false

/-- The companies and their devices, with the tokens issued without a key. -/
structure State where
  db : Db
  tenants : List Tenant
  /-- The rows that a token was issued for without a key, once for each such token since the row was
  last without one. -/
  keyless : List Nat

/-- What happens to the panel. -/
inductive Event
  | request (request : Request)
  /-- Anything else: an enrollment, a move of a device, a change of a company. -/
  | other (db : Db) (tenants : List Tenant)

/-- The rows of a device id. -/
def rowsOf (remoteId : String) (db : Db) : List Nat :=
  (db.customers.filter fun row => row.remoteId == some remoteId).map Customer.id

/-- The row is there without a token. -/
def tokenless (db : Db) (id : Nat) : Bool :=
  db.customers.any fun row => row.id == id && row.heartbeatToken.isNone

/-- The state after an event. -/
def next (s : State) : Event → State
  | .request request =>
    let (db, response) := handle hash s.tenants s.db request
    if response.issues && !request.keyed hash s.tenants then
      { s with db, keyless := rowsOf request.remoteId s.db ++ s.keyless }
    else { s with db }
  | .other db tenants => { db, tenants, keyless := s.keyless.filter fun id => !tokenless db id }

/-- The panel, from any tables and before any token is issued without a key. -/
def panel : Machine State Event where
  start s := s.keyless = []
  step s e := some (next hash s e)

/-- The event is a request without the slug and the enroll key of a company. -/
def Keyless (s : State) : Event → Prop
  | .request request => request.keyed hash s.tenants = false
  | .other _ _ => False

end Functions

section Requests

variable {hash : String → String} {tenants : List Tenant} {db after : Db} {request : Request}

/-- The token the update of `issueToken` writes. -/
def tokenSet (hash : String → String) (plaintext : String) (row : Customer) : Customer :=
  { row with heartbeatToken := some (hash plaintext) }

/-- The `WHERE` clause of `registerHeartbeatTokenFirstIssue`. -/
def first (remoteId : String) (row : Customer) : Bool :=
  row.remoteId == some remoteId && row.heartbeatToken.isNone

/-- What a request does to the rows and whether a token is issued. -/
inductive HandleCase (hash : String → String) (tenants : List Tenant) (db : Db)
    (request : Request) : Db × Response → Prop
  /-- Nothing is written. -/
  | idle {response : Response} (silent : response.issues = false) :
      HandleCase hash tenants db request (db, response)
  /-- A heartbeat is recorded. -/
  | beaten {after : Db} {response : Response} (here : Customer → Bool) (now : Nat) (beat : Beat)
      (written : after.customers = updateWhere here (beatSet now beat) db.customers)
      (silent : response.issues = false) : HandleCase hash tenants db request (after, response)
  /-- A token is issued if a row is selected; without a key, only rows without a token are. -/
  | issued {after : Db} {response : Response} (here : Customer → Bool) (plaintext : String)
      (named : request.remoteId ≠ "")
      (written : after.customers = updateWhere here (tokenSet hash plaintext) db.customers)
      (keyless : request.keyed hash tenants = false → here = first request.remoteId)
      (answered : response.issues = db.customers.any here) :
      HandleCase hash tenants db request (after, response)

theorem updateCustomers_written {here : Customer → Bool} {set : Customer → Customer}
    (done : db.updateCustomers here set = .ok after) :
    after.customers = updateWhere here set db.customers :=
  congrArg Tables.customers (commit_ok done)

/-- An issue writes the hash to the selected rows and answers the token if there are any. -/
theorem issueToken_ok {plaintext : String} {here : Customer → Bool} {answer : Option String}
    (done : issueToken hash plaintext here db = .ok (answer, after)) :
    after.customers = updateWhere here (tokenSet hash plaintext) db.customers ∧
      answer = if db.customers.any here then some plaintext else none := by
  unfold issueToken at done
  cases updated : db.updateCustomers here fun row =>
      { row with heartbeatToken := some (hash plaintext) } with
  | error e =>
    rw [updated] at done
    cases done
  | ok later =>
    rw [updated] at done
    obtain ⟨rfl, rfl⟩ := Prod.mk.inj (Except.ok.inj done)
    exact ⟨updateCustomers_written updated, rfl⟩

theorem registered_cases {plaintext : String} {here : Customer → Bool}
    (named : request.remoteId ≠ "")
    (keyless : request.keyed hash tenants = false → here = first request.remoteId) :
    HandleCase hash tenants db request (registered db (issueToken hash plaintext here db)) := by
  cases issued : issueToken hash plaintext here db with
  | error e => exact .idle rfl
  | ok result =>
    obtain ⟨answer, later⟩ := result
    obtain ⟨written, answered⟩ := issueToken_ok issued
    cases selected : db.customers.any here with
    | true =>
      rw [selected] at answered
      subst answered
      exact .issued here plaintext named written keyless selected.symm
    | false =>
      rw [selected] at answered
      subst answered
      exact .issued here plaintext named written keyless selected.symm

theorem handle_cases (hash : String → String) (tenants : List Tenant) (db : Db)
    (request : Request) :
    HandleCase hash tenants db request (handle hash tenants db request) := by
  cases request with
  | register remoteId tenantSlug enrollKey plaintext =>
    simp only [handle, register]
    split
    · exact .idle rfl
    · rename_i named
      split
      · exact .idle rfl
      · split
        · split
          · exact .idle rfl
          · rename_i tenantId resolved
            apply registered_cases
            · exact named
            · intro keyless
              simp only [Request.keyed, resolved, Option.isSome_some] at keyless
              cases keyless
        · unfold registerHeartbeatTokenFirstIssue
          rw [if_neg named]
          apply registered_cases
          · exact named
          · exact fun _ => rfl
  | heartbeat token remoteId version now beat =>
    simp only [handle, heartbeat]
    split
    · exact .idle rfl
    · split
      · exact .idle rfl
      · split
        · exact .idle rfl
        · split
          · exact .idle rfl
          · rename_i later updated
            split
            · exact .beaten _ now _ (updateCustomers_written updated) rfl
            · exact .beaten _ now _ (updateCustomers_written updated) rfl
  | poll token remoteId pushes =>
    apply HandleCase.idle
    unfold poll
    split
    · rfl
    · split
      · rfl
      · split <;> rfl
  | report token remoteId pushId status reason now pushes =>
    apply HandleCase.idle
    simp only [report]
    repeat' split
    all_goals rfl

/-- A row with a token is still there, with that token and its device id. -/
def Keeps (before after : Db) : Prop :=
  ∀ row ∈ before.customers, row.heartbeatToken ≠ none →
    ∃ later ∈ after.customers, later.id = row.id ∧ later.heartbeatToken = row.heartbeatToken ∧
      later.remoteId = row.remoteId

theorem Keeps.trans {a b c : Db} (earlier : Keeps a b) (later : Keeps b c) : Keeps a c := by
  intro row inside held
  obtain ⟨middle, between, sameId, sameToken, sameRemoteId⟩ := earlier row inside held
  have middleHeld : middle.heartbeatToken ≠ none := sameToken ▸ held
  obtain ⟨last, inLast, lastId, lastToken, lastRemoteId⟩ := later middle between middleHeld
  exact ⟨last, inLast, lastId.trans sameId, lastToken.trans sameToken,
    lastRemoteId.trans sameRemoteId⟩

/-- An update that writes neither the id, the token nor the device id of a row with a token keeps
the rows with a token. -/
theorem keeps_of_written {here : Customer → Bool} {set : Customer → Customer}
    (written : after.customers = updateWhere here set db.customers)
    (kept : ∀ row, here row = true → row.heartbeatToken ≠ none →
      (set row).id = row.id ∧ (set row).heartbeatToken = row.heartbeatToken ∧
        (set row).remoteId = row.remoteId) : Keeps db after := by
  intro row inside held
  rw [written]
  cases hit : here row with
  | true => exact ⟨set row, mem_updateWhere_of_hit inside hit, kept row hit held⟩
  | false => exact ⟨row, mem_updateWhere_of_miss inside hit, rfl, rfl, rfl⟩

/-- A request without a key keeps the rows with a token. -/
theorem handle_keeps (keyless : request.keyed hash tenants = false) :
    Keeps db (handle hash tenants db request).1 := by
  have shape := handle_cases hash tenants db request
  generalize handle hash tenants db request = outcome at shape ⊢
  cases shape with
  | idle _ => exact fun row inside _ => ⟨row, inside, rfl, rfl, rfl⟩
  | beaten here now beat written silent =>
    apply keeps_of_written written
    intro row _ _
    obtain ⟨sameId, _, sameRemoteId, _, sameToken⟩ := beatSet_keys now beat row
    exact ⟨sameId, sameToken, sameRemoteId⟩
  | issued here plaintext named written only answered =>
    apply keeps_of_written written
    intro row selected held
    -- without a key only rows without a token are selected
    rw [only keyless] at selected
    have absent : row.heartbeatToken = none := by
      simpa using (Bool.and_eq_true_iff.mp selected).2
    exact absurd absent held

/-- Every row after a request was there, and a row with a token still has one. -/
theorem handle_traces {later : Customer}
    (inside : later ∈ (handle hash tenants db request).1.customers) :
    ∃ row ∈ db.customers, row.id = later.id ∧
      (later.heartbeatToken = none → row.heartbeatToken = none) := by
  have shape := handle_cases hash tenants db request
  generalize handle hash tenants db request = outcome at shape inside
  cases shape with
  | idle _ => exact ⟨later, inside, rfl, id⟩
  | beaten here now beat written silent =>
    rw [written] at inside
    rcases mem_updateWhere.mp inside with ⟨row, old, -, rfl⟩ | ⟨old, -⟩
    · obtain ⟨sameId, _, _, _, sameToken⟩ := beatSet_keys now beat row
      exact ⟨row, old, sameId.symm, fun absent => sameToken ▸ absent⟩
    · exact ⟨later, old, rfl, id⟩
  | issued here plaintext named written only answered =>
    rw [written] at inside
    rcases mem_updateWhere.mp inside with ⟨row, old, -, rfl⟩ | ⟨old, -⟩
    · exact ⟨row, old, rfl, nofun⟩
    · exact ⟨later, old, rfl, id⟩

theorem mem_rowsOf {remoteId : String} {id : Nat} :
    id ∈ rowsOf remoteId db ↔ ∃ row ∈ db.customers, row.remoteId = some remoteId ∧ row.id = id := by
  unfold rowsOf
  rw [List.mem_map]
  constructor
  · rintro ⟨row, found, same⟩
    have member := List.mem_filter.mp found
    exact ⟨row, member.1, eq_of_beq member.2, same⟩
  · rintro ⟨row, inside, named, same⟩
    exact ⟨row, List.mem_filter.mpr ⟨inside, beq_iff_eq.mpr named⟩, same⟩

/-- A token issued without a key goes to a device whose row had none, and the row has one then. -/
theorem issued_first (keyless : request.keyed hash tenants = false)
    (issues : (handle hash tenants db request).2.issues = true) :
    (∀ row ∈ db.customers, row.remoteId = some request.remoteId → row.heartbeatToken = none) ∧
      ∀ later ∈ (handle hash tenants db request).1.customers,
        later.id ∈ rowsOf request.remoteId db → later.heartbeatToken ≠ none := by
  have shape := handle_cases hash tenants db request
  generalize handle hash tenants db request = outcome at shape issues ⊢
  cases shape with
  | idle silent => exact absurd issues (by rw [silent]; decide)
  | beaten here now beat written silent => exact absurd issues (by rw [silent]; decide)
  | issued here plaintext named written only answered =>
    rw [answered, only keyless] at issues
    obtain ⟨target, inside, selected⟩ := List.any_eq_true.mp issues
    have targetNamed := eq_of_beq (Bool.and_eq_true_iff.mp selected).1
    have targetBare : target.heartbeatToken = none := by
      simpa using (Bool.and_eq_true_iff.mp selected).2
    have unique : ∀ row ∈ db.customers, row.remoteId = some request.remoteId → row = target :=
      fun row old same => db.eq_of_remoteId named old inside same targetNamed
    refine ⟨fun row old same => (unique row old same) ▸ targetBare, ?_⟩
    intro later there ofDevice
    obtain ⟨row, old, same, sameId⟩ := mem_rowsOf.mp ofDevice
    obtain rfl := unique row old same
    rw [written, only keyless] at there
    rcases mem_updateWhere.mp there with ⟨source, _, _, rfl⟩ | ⟨kept, missed⟩
    · exact nofun
    · -- a row that was not written is the selected row itself
      obtain rfl := db.eq_of_id inside kept sameId
      rw [selected] at missed
      cases missed

/-- The statement of a route that compares the hash selects the rows of the token presented. -/
theorem presented_of_selects {token remoteId h : String} {row found : Customer}
    (named : remoteId ≠ "") (inside : row ∈ db.customers) (foundInside : found ∈ db.customers)
    (rowNamed : row.remoteId = some remoteId) (held : row.heartbeatToken = some h)
    (selected : selects hash remoteId token found = true) : hash token = h := by
  obtain ⟨foundNamed, foundHeld⟩ := Bool.and_eq_true_iff.mp selected
  obtain rfl := db.eq_of_remoteId named inside foundInside rowNamed (eq_of_beq foundNamed)
  have same := held.symm.trans (eq_of_beq foundHeld)
  exact (Option.some.inj same).symm

/-- A push of the agent is a push of a row that the token selects. -/
theorem selects_of_isAgents {token remoteId : String} {push : PendingUpdate}
    (mine : isAgents db.customers hash remoteId token push = true) :
    ∃ found ∈ db.customers, selects hash remoteId token found = true := by
  obtain ⟨found, inside, matching⟩ := List.any_eq_true.mp mine
  exact ⟨found, inside, (Bool.and_eq_true_iff.mp matching).2⟩

/-- A report is taken only for a push of a row that the token selects. -/
theorem selects_of_owned {token remoteId : String} {pushId : Nat} {pushes : PushTable}
    (owned : (pushes.rows.any fun row =>
      row.id == pushId && isAgents db.customers hash remoteId token row) = true) :
    ∃ found ∈ db.customers, selects hash remoteId token found = true := by
  obtain ⟨push, _, matching⟩ := List.any_eq_true.mp owned
  exact selects_of_isAgents (Bool.and_eq_true_iff.mp matching).2

theorem selects_of_markApplied {token remoteId : String} {now pushId : Nat} {pushes : PushTable}
    (marked : (markApplied db.customers now hash pushId remoteId token pushes).2 = true) :
    ∃ found ∈ db.customers, selects hash remoteId token found = true := by
  unfold markApplied at marked
  split at marked
  · rename_i owned
    exact selects_of_owned owned
  · cases marked

theorem selects_of_markFailed {token remoteId reason : String} {now pushId : Nat}
    {pushes : PushTable}
    (marked : (markFailed db.customers now hash pushId remoteId token reason pushes).2 = true) :
    ∃ found ∈ db.customers, selects hash remoteId token found = true := by
  unfold markFailed at marked
  split at marked
  · rename_i owned
    exact selects_of_owned owned
  · cases marked

theorem registered_acts {issued : Except DbError (Option String × Db)}
    (acts : (registered db issued).2.acts = true) : (registered db issued).2.issues = true := by
  unfold registered at acts ⊢
  split
  · cases acts
  · rfl
  · cases acts

/-- A caller that acts as a device has a token that selects a row, or got a token. -/
theorem acts_cases (acts : (handle hash tenants db request).2.acts = true) :
    (handle hash tenants db request).2.issues = true ∨
      request.remoteId ≠ "" ∧ ∃ token, request.token = some token ∧
        ∃ found ∈ db.customers, selects hash request.remoteId token found = true := by
  cases request with
  | register remoteId tenantSlug enrollKey plaintext =>
    refine .inl ?_
    simp only [handle, register] at acts ⊢
    split at acts
    · cases acts
    · rename_i named
      rw [if_neg named]
      split at acts
      · cases acts
      · rename_i stored
        rw [if_neg stored]
        split at acts
        · rename_i keyed
          rw [if_pos keyed]
          split at acts
          · cases acts
          · exact registered_acts acts
        · rename_i unkeyed
          rw [if_neg unkeyed]
          exact registered_acts acts
  | heartbeat token remoteId version now beat =>
    refine .inr ?_
    simp only [handle, heartbeat] at acts
    split at acts
    · cases acts
    · rename_i text presented
      split at acts
      · cases acts
      · rename_i filled
        split at acts
        · cases acts
        · split at acts
          · cases acts
          · split at acts
            · rename_i selected
              obtain ⟨found, inside, hit⟩ := List.any_eq_true.mp selected
              exact ⟨fun blank => filled (.inl blank), text,
                (Option.filter_eq_some_iff.mp presented).1, found, inside, hit⟩
            · cases acts
  | poll token remoteId pushes =>
    refine .inr ?_
    simp only [handle, poll] at acts
    split at acts
    · cases acts
    · rename_i text presented
      split at acts
      · cases acts
      · rename_i named
        split at acts
        · cases acts
        · obtain ⟨push, served⟩ := Option.isSome_iff_exists.mp acts
          have member := (List.mem_filter.mp (PushLifecycle.newest_mem served)).2
          have mine := (Bool.and_eq_true_iff.mp member).1
          exact ⟨named, text, (Option.filter_eq_some_iff.mp presented).1, selects_of_isAgents mine⟩
  | report token remoteId pushId status reason now pushes =>
    refine .inr ?_
    simp only [handle, report] at acts
    generalize (if str reason = "" then "unknown" else str reason) = failure at acts
    split at acts
    · cases acts
    · rename_i text presented
      split at acts
      · cases acts
      · split at acts
        · cases acts
        · rename_i filled
          split at acts
          · cases acts
          · split at acts
            · cases acts
            · refine ⟨fun blank => filled (.inl blank), text,
                (Option.filter_eq_some_iff.mp presented).1, ?_⟩
              split at acts
              · split at acts
                · rename_i marked
                  exact selects_of_markApplied marked
                · cases acts
              · split at acts
                · rename_i marked
                  exact selects_of_markFailed marked
                · cases acts

/-- A request without a key acts as a device that has a token only by presenting it. -/
theorem acts_presents {row : Customer} {h : String} (keyless : request.keyed hash tenants = false)
    (inside : row ∈ db.customers) (named : row.remoteId = some request.remoteId)
    (held : row.heartbeatToken = some h)
    (acts : (handle hash tenants db request).2.acts = true) :
    ∃ token, request.token = some token ∧ hash token = h := by
  rcases acts_cases acts with issues | ⟨filled, token, presented, found, there, selected⟩
  · have bare := (issued_first keyless issues).1 row inside named
    rw [held] at bare
    cases bare
  · exact ⟨token, presented, presented_of_selects filled inside there named held selected⟩

end Requests

section Runs

variable {hash : String → String} {s t : State}

/-- A row that a token was issued for without a key has a token, and was issued one. -/
structure Sound (s : State) : Prop where
  held : ∀ row ∈ s.db.customers, row.id ∈ s.keyless → row.heartbeatToken ≠ none
  once : s.keyless.Nodup

/-- The rows of a device are in the list once. -/
theorem nodup_rowsOf (remoteId : String) (db : Db) : (rowsOf remoteId db).Nodup :=
  List.Nodup.sublist (List.filter_sublist.map Customer.id) db.valid.customerIds

theorem Sound.request (sound : Sound s) (request : Request) :
    Sound (next hash s (.request request)) := by
  have kept : ∀ later ∈ (handle hash s.tenants s.db request).1.customers,
      later.id ∈ s.keyless → later.heartbeatToken ≠ none := by
    intro later inside listed absent
    obtain ⟨row, old, sameId, bare⟩ := handle_traces inside
    exact sound.held row old (sameId ▸ listed) (bare absent)
  simp only [next]
  split
  · rename_i issuing
    obtain ⟨issues, unkeyed⟩ := Bool.and_eq_true_iff.mp issuing
    have keyless : request.keyed hash s.tenants = false := by simpa using unkeyed
    obtain ⟨bare, holds⟩ := issued_first keyless issues
    constructor
    · intro later inside listed
      rcases List.mem_append.mp listed with new | old
      · exact holds later inside new
      · exact kept later inside old
    · apply List.Nodup.append (nodup_rowsOf _ _) sound.once
      intro id new old
      obtain ⟨row, inside, named, rfl⟩ := mem_rowsOf.mp new
      exact sound.held row inside old (bare row inside named)
  · exact ⟨kept, sound.once⟩

theorem Sound.other (sound : Sound s) (db : Db) (tenants : List Tenant) :
    Sound (next hash s (.other db tenants)) := by
  constructor
  · intro row inside listed absent
    have kept := (List.mem_filter.mp listed).2
    have bare : tokenless db row.id = true := by
      refine List.any_eq_true.mpr ⟨row, inside, ?_⟩
      rw [absent]
      simp
    rw [bare] at kept
    cases kept
  · exact sound.once.filter _

/-- In every run the tokens issued without a key are one for each row, since the row was last
without a token. -/
theorem sound_of_reaches (reached : (panel hash).Reaches Machine.free s) : Sound s := by
  apply reached.invariant Sound
  · intro s started
    have empty : s.keyless = [] := started
    constructor
    · intro row _ listed
      rw [empty] at listed
      cases listed
    · rw [empty]
      exact List.nodup_nil
  · intro s e t sound _ stepped
    obtain rfl := Option.some.inj stepped
    cases e with
    | request request => exact sound.request request
    | other db tenants => exact sound.other db tenants

/-- Requests without a key keep the rows with a token. -/
theorem keeps_of_runs (run : (panel hash).Runs (Keyless hash) s t) : Keeps s.db t.db := by
  induction run with
  | refl => exact fun row inside _ => ⟨row, inside, rfl, rfl, rfl⟩
  | step e _ admitted stepped ih =>
    obtain rfl := Option.some.inj stepped
    apply ih.trans
    cases e with
    | request request =>
      simp only [next]
      split
      · exact handle_keeps admitted
      · exact handle_keeps admitted
    | other db tenants => exact admitted.elim

end Runs

/-- Requests without the slug and the enroll key of a company, from any state the panel reaches,
leave every row that has a token its token and its device id; of the tokens issued without a key
each row has at most one since it was last without a token; and such a request acts as a device
whose row had a token only if it presents that token. -/
theorem token_not_stolen (hash : String → String) {s t : State}
    (reached : (panel hash).Reaches Machine.free s)
    (run : (panel hash).Runs (Keyless hash) s t) :
    Keeps s.db t.db ∧ (∀ id, t.keyless.count id ≤ 1) ∧
      ∀ request : Request, request.keyed hash t.tenants = false →
        ∀ row ∈ s.db.customers, ∀ h, row.remoteId = some request.remoteId →
          row.heartbeatToken = some h → (handle hash t.tenants t.db request).2.acts = true →
            ∃ token, request.token = some token ∧ hash token = h := by
  have kept := keeps_of_runs run
  have sound := sound_of_reaches (reached.run (run.mono fun _ _ _ => trivial))
  refine ⟨kept, List.nodup_iff_count_le_one.mp sound.once, ?_⟩
  intro request keyless row inside h named held acts
  obtain ⟨later, there, _, sameToken, sameRemoteId⟩ := kept row inside (by rw [held]; exact nofun)
  exact acts_presents keyless there (sameRemoteId.trans named) (sameToken.trans held) acts

instance (hash : String → String) (s : State) (e : Event) : Decidable (Keyless hash s e) :=
  match e with
  | .request request => inferInstanceAs (Decidable (request.keyed hash s.tenants = false))
  | .other _ _ => isFalse id

/-- The digests of the tokens below. -/
def digest (token : String) : String :=
  if token = "guess" then "f1abe1b083d12d181ae136cfc75b8d18a8ecb43ac4e9d1a36d6a9c75b6016b61"
  else if token = "0123456789abcdef0123456789abcdef0123456789abcdef0123456789abcdef" then
    "a8ae6e6ee929abea3afcfc5258c8ccd6f85273e0d4626d26c7279f3250f77c8e"
  else "7b9d07f2404b102b3c62fede026097c5ab81668f18414abd8ea560cecb008006"

/-- A device with a token and one without. -/
def twoDevices : State where
  db :=
    { customers :=
        [{ id := 0, tenantId := 1, name := "cafe", remoteId := some "100",
           heartbeatToken := some (digest
             "0123456789abcdef0123456789abcdef0123456789abcdef0123456789abcdef") },
          { id := 1, tenantId := 1, name := "bakery", remoteId := some "200" }]
      favorites := []
      alerts := []
      nextId := 2
      valid := by decide }
  tenants := []
  keyless := []

/-- Someone who knows the device ids only. -/
def thief : List Event :=
  [.request (.register (some "100") none none
      "fedcba9876543210fedcba9876543210fedcba9876543210fedcba9876543210"),
    .request (.register (some "200") none none
      "fedcba9876543210fedcba9876543210fedcba9876543210fedcba9876543210"),
    .request (.register (some "200") none none "guess"),
    .request (.heartbeat (some "guess") (some "100") (some "1.0") 5 {})]

theorem thief_empty_handed :
    ((panel digest).play (Keyless digest) twoDevices thief).keyless = [1] ∧
      Keeps twoDevices.db ((panel digest).play (Keyless digest) twoDevices thief).db := by
  have started : (panel digest).Reaches Machine.free twoDevices := ⟨twoDevices, rfl, .refl⟩
  refine ⟨by decide +kernel, ?_⟩
  exact (token_not_stolen digest started (Machine.runs_play _ _ _ _)).1

end ChainRemote.Panel.HeartbeatTokens
