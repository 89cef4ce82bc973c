import ChainRemote.Lib.Query
import ChainRemote.Panel.Database
import ChainRemote.Panel.SupportSessionRuns

/-!
# Support sessions and the customers of other companies

Three writers insert support sessions: the start of the panel, the start of the HQ app, and a manual
record. Each looks the customer up in the company of the caller. The HQ app and the manual record
refuse a customer that is not there; the start of the panel goes on with the id it was given, and
the database only asks that some company has that customer. The three readers join the customers by
their id alone, so what they return is the company's own where every session refers to a customer of
its own company.
-/

namespace ChainRemote.Panel.SessionTenants

open Lib SupportSessions

/-- The customers and the support sessions. -/
structure World where
  db : Db
  table : Table

/-- The row of a customer in a company. -/
def customerOf (db : Db) (id tenantId : Nat) : Option Customer :=
  db.customers.find? fun c => c.id == id && c.tenantId == tenantId

/-- `startSession` of the data layer, with the reference that the database checks for a new row. -/
def startLinked (now : Int) (w : World) (input : StartInput)
    (seat : Option (Option String × Option String)) : Except Failure (SupportSession × Table) := do
  require ((w.table.rows.find? input.selects).isSome = true ∨
    w.db.customers.any (fun c => c.id == input.customerId) = true) .database
  startSession now w.table input seat

/-- `startSession` of the panel; the id is the one that its text stands for, if it is one. -/
def panelStartSession (now : Int) (w : World) (tenantId operatorId : Nat) (customerId : Option Nat)
    (seat : Option (Option String × Option String)) : Except Failure (SupportSession × Table) := do
  let customerId ← orThrow customerId .database
  let customer := customerOf w.db customerId tenantId
  startLinked now w
    { tenantId, operatorId, customerId, remoteId := customer.bind Customer.remoteId } seat

/-- What `POST /api/sessions` answers. -/
inductive StartAnswer
  | started (sessionId : Nat)
  | unknown
  | internal
deriving DecidableEq, Repr

/-- `POST /api/sessions`. -/
def postSession (now : Int) (w : World) (tenantId uid : Nat) (remoteId : Option String)
    (connDirect : Option Bool) (seat : Option (Option String × Option String)) :
    Except Failure (StartAnswer × Table) := do
  let remoteId := jsTrim (remoteId.getD "")
  require (remoteId ≠ "") (.message "remoteId 필수")
  match w.db.customers.find? fun c => c.remoteId == some remoteId && c.tenantId == tenantId with
  | none => return (.unknown, w.table)
  | some customer =>
    if customer.isInternal then return (.internal, w.table)
    else
      let (row, table) ← startLinked now w
        { tenantId, operatorId := uid, customerId := customer.id, remoteId := some remoteId
          connDirect } seat
      return (.started row.id, table)

/-- A call of `createManualSession`; a text that is no row id finds no row. -/
structure ManualCall where
  tenantId : Nat
  operatorId : Nat
  customerId : Option (Option Nat)
  startedAt : Option Int
  endedAt : Option Int
  fields : SessionRecordFields

/-- The input with the row that the customer id selects. -/
def ManualCall.input (call : ManualCall) (db : Db) : ManualInput where
  tenantId := call.tenantId
  operatorId := call.operatorId
  customer := call.customerId.map fun chosen =>
    (chosen.bind fun id => customerOf db id call.tenantId).map fun c => (c.id, c.remoteId)
  startedAt := call.startedAt
  endedAt := call.endedAt
  fields := call.fields

/-- The operation inserts a session. -/
def inserts : Op → Bool
  | .startSession .. | .createManualSession _ => true
  | _ => false

/-- The sessions of customers that are gone lose the reference. -/
def released (kept : Nat → Bool) (row : SupportSession) : SupportSession :=
  { row with customerId := row.customerId.filter kept }

theorem valid_released {rows : List SupportSession} {nextId : Nat} (valid : Valid rows nextId)
    (kept : Nat → Bool) : Valid (rows.map (released kept)) nextId where
  ids := by
    rw [List.map_map]
    exact valid.ids
  below := by
    intro row inside
    obtain ⟨old, member, rfl⟩ := List.mem_map.mp inside
    exact valid.below old member
  single := by
    rw [List.pairwise_map]
    apply valid.single.imp
    rintro a b apart ⟨left, right, tenant, known, operator, given, customer⟩
    apply apart
    have same : ∀ row : SupportSession, (row.customerId.filter kept).isSome = true →
        row.customerId.filter kept = row.customerId := by
      intro row present
      cases link : row.customerId with
      | none => rfl
      | some id =>
        rw [link] at present
        by_cases stays : kept id = true
        · simp [stays]
        · simp [stays] at present
    have equal : a.customerId.filter kept = b.customerId.filter kept := customer
    have first := same a given
    have second := same b (equal ▸ given)
    refine ⟨left, right, tenant, known, operator, ?_, first.symm.trans (equal.trans second)⟩
    rw [← first]
    exact given

/-- The table after the customers changed. -/
def Table.release (table : Table) (kept : Nat → Bool) : Table where
  rows := table.rows.map (released kept)
  nextId := table.nextId
  valid := valid_released table.valid kept

/-- What happens to the sessions and to the customers. -/
inductive Event
  | panelStart (now : Int) (tenantId operatorId : Nat) (customerId : Option Nat)
      (seat : Option (Option String × Option String))
  | post (now : Int) (tenantId uid : Nat) (remoteId : Option String) (connDirect : Option Bool)
      (seat : Option (Option String × Option String))
  | manual (now : Int) (call : ManualCall)
  /-- An update or a delete of sessions. -/
  | update (now : Int) (op : Op)
  /-- The customers are inserted, edited and deleted; no statement moves one to another company. -/
  | customers (later : Db)

/-- The world with the table of a call; one that throws changes nothing. -/
def World.settle (w : World) : Except Failure Table → World
  | .ok table => { w with table }
  | .error _ => w

/-- No customer is in another company. -/
def SameTenants (before later : Db) : Prop :=
  ∀ old ∈ before.customers, ∀ new ∈ later.customers, new.id = old.id → new.tenantId = old.tenantId

instance (before later : Db) : Decidable (SameTenants before later) :=
  inferInstanceAs (Decidable (∀ old ∈ _, ∀ new ∈ _, _))

/-- The sessions, from the empty table and any customers. -/
def shop : Machine World Event where
  start w := w.table.rows = []
  step w
    | .panelStart now tenantId operatorId customerId seat =>
      some (w.settle ((panelStartSession now w tenantId operatorId customerId seat).map Prod.snd))
    | .post now tenantId uid remoteId connDirect seat =>
      some (w.settle ((postSession now w tenantId uid remoteId connDirect seat).map Prod.snd))
    | .manual now call => some (w.settle (createManualSession now w.table (call.input w.db)))
    | .update now op => if inserts op then none else some (w.settle (op.run now w.table))
    | .customers later =>
      if SameTenants w.db later then
        some
          { db := later
            table := Table.release w.table fun id => later.customers.any fun c => c.id == id }
      else none

/-- Every session with a customer refers to a customer of its own company. -/
def Inside (w : World) : Prop :=
  ∀ row ∈ w.table.rows, ∀ id, row.customerId = some id →
    ∃ c ∈ w.db.customers, c.id = id ∧ c.tenantId = row.tenantId

/-- The panel starts sessions only with customers of the caller's company. -/
def Owned (w : World) : Event → Prop
  | .panelStart _ tenantId _ customerId _ =>
    ∀ c ∈ w.db.customers, customerId = some c.id → c.tenantId = tenantId
  | _ => True

instance (w : World) : (event : Event) → Decidable (Owned w event)
  | .panelStart _ _ _ _ _ => inferInstanceAs (Decidable (∀ c ∈ _, _ → _))
  | .post .. | .manual .. | .update .. | .customers _ => isTrue trivial

variable {w t : World}

/-- A row of the company with the id. -/
theorem customerOf_eq_some {db : Db} {id tenantId : Nat} {c : Customer}
    (found : customerOf db id tenantId = some c) :
    c ∈ db.customers ∧ c.id = id ∧ c.tenantId = tenantId := by
  have selected := List.find?_some found
  simp only [Bool.and_eq_true, beq_iff_eq] at selected
  exact ⟨List.mem_of_find?_eq_some found, selected.1, selected.2⟩

/-- A new session with a customer of its company. -/
theorem Inside.cons (inside : Inside w) {table : Table} {row : SupportSession} {id : Nat}
    (rows : table.rows = row :: w.table.rows) (link : row.customerId = some id)
    (owned : ∃ c ∈ w.db.customers, c.id = id ∧ c.tenantId = row.tenantId) :
    Inside { w with table := table } := by
  intro other member linked same
  simp only [rows, List.mem_cons] at member
  obtain rfl | old := member
  · rw [link] at same
    obtain rfl := Option.some.inj same
    exact owned
  · exact inside other old linked same

/-- A start of a session with a customer that only the caller's company has. -/
theorem Inside.started (inside : Inside w) {now : Int} {input : StartInput}
    {seat : Option (Option String × Option String)} {pair : SupportSession × Table}
    (owned : ∀ c ∈ w.db.customers, c.id = input.customerId → c.tenantId = input.tenantId)
    (done : startLinked now w input seat = .ok pair) : Inside { w with table := pair.2 } := by
  unfold startLinked at done
  rw [require_bind_eq_ok] at done
  obtain ⟨known, started⟩ := done
  obtain same | ⟨rows, _⟩ := startSession_ok started
  · rw [same]
    exact inside
  · obtain isOpen | present := known
    · -- An open session is returned as it is, so no row was inserted.
      obtain ⟨existing, found⟩ := Option.isSome_iff_exists.mp isOpen
      unfold startSession at started
      rw [found] at started
      obtain rfl := Except.ok.inj started
      exact inside
    · obtain ⟨c, member, sameId⟩ := List.any_eq_true.mp present
      have sameId' : c.id = input.customerId := by simpa using sameId
      exact inside.cons rows rfl ⟨c, member, sameId', owned c member sameId'⟩

/-- Updates and deletes leave the company and the customer of every session. -/
theorem rows_of_update {now : Int} {table after : Table} (op : Op) (updates : inserts op = false)
    (done : op.run now table = .ok after) :
    ∀ row ∈ after.rows, ∃ old ∈ table.rows, row.tenantId = old.tenantId ∧
      row.customerId = old.customerId := by
  have updated : ∀ {here : SupportSession → Bool} {set : SupportSession → SupportSession},
      Keeps set → after.rows = updateWhere here set table.rows →
        ∀ row ∈ after.rows, ∃ old ∈ table.rows, row.tenantId = old.tenantId ∧
          row.customerId = old.customerId := by
    intro here set keeps rows row inside
    rw [rows] at inside
    obtain ⟨old, member, _, rfl⟩ | ⟨member, _⟩ := mem_updateWhere.mp inside
    · exact ⟨old, member, keeps.tenantId old, keeps.customerId old⟩
    · exact ⟨row, member, rfl, rfl⟩
  cases op with
  | startSession input seat => cases updates
  | createManualSession input => cases updates
  | endReport sessionId tenantId body =>
    exact updated (body.fields.keeps now) (update_ok (body.fields.keeps now) done).1
  | panelEndSession id tenantId form =>
    obtain ⟨issueType, resolution, description, rows, _⟩ := panelEndSession_ok done
    exact updated (endFormSet_keeps now issueType resolution description) rows
  | closeOrphanSessions tenantId seen =>
    exact updated (closeSet_keeps now seen) (update_ok (closeSet_keeps now seen) done).1
  | discardSessionSoft sessionId tenantId =>
    exact updated (discardSet_keeps now) (update_ok (discardSet_keeps now) done).1
  | restoreSession sessionId tenantId =>
    exact updated restoreSet_keeps (update_ok restoreSet_keeps done).1
  | updateSessionRecord sessionId tenantId fields =>
    unfold Op.run updateSessionRecord at done
    rw [require_bind_eq_ok] at done
    exact updated fields.keeps (update_ok fields.keeps done.2).1
  | discardSession sessionId tenantId =>
    obtain rfl := Except.ok.inj done
    intro row inside
    exact ⟨row, List.mem_of_mem_filter inside, rfl, rfl⟩

/-- A call that throws leaves the world, and one that returns has its table. -/
theorem Inside.settle (inside : Inside w) {result : Except Failure Table}
    (returns : ∀ table, result = .ok table → Inside { w with table := table }) :
    Inside (w.settle result) := by
  cases done : result with
  | error thrown => exact inside
  | ok table => exact returns table done

/-- The start of the panel. -/
theorem Inside.panelStart (inside : Inside w) {now : Int} {tenantId operatorId : Nat}
    {customerId : Option Nat} {seat : Option (Option String × Option String)}
    (owned : ∀ c ∈ w.db.customers, customerId = some c.id → c.tenantId = tenantId) {table : Table}
    (done : (panelStartSession now w tenantId operatorId customerId seat).map Prod.snd =
      .ok table) :
    Inside { w with table := table } := by
  cases result : panelStartSession now w tenantId operatorId customerId seat with
  | error thrown =>
    rw [result] at done
    cases done
  | ok pair =>
    rw [result] at done
    obtain rfl := Except.ok.inj done
    unfold panelStartSession at result
    obtain ⟨id, given, started⟩ := returns_bind_iff.mp result
    rw [orThrow_eq_ok] at given
    refine inside.started ?_ started
    intro c member sameId
    exact owned c member (by rw [given, sameId])

/-- The start of the HQ app. -/
theorem Inside.post (inside : Inside w) {now : Int} {tenantId uid : Nat}
    {remoteId : Option String} {connDirect : Option Bool}
    {seat : Option (Option String × Option String)} {table : Table}
    (done : (postSession now w tenantId uid remoteId connDirect seat).map Prod.snd = .ok table) :
    Inside { w with table := table } := by
  cases result : postSession now w tenantId uid remoteId connDirect seat with
  | error thrown =>
    rw [result] at done
    cases done
  | ok pair =>
    rw [result] at done
    obtain rfl := Except.ok.inj done
    unfold postSession at result
    rw [require_bind_eq_ok] at result
    obtain ⟨_, answered⟩ := result
    split at answered
    · obtain rfl := Except.ok.inj answered
      exact inside
    · rename_i customer found
      split at answered
      · obtain rfl := Except.ok.inj answered
        exact inside
      · obtain ⟨started, linked, same⟩ := returns_bind_iff.mp answered
        obtain rfl := Except.ok.inj same
        have selected := List.find?_some found
        simp only [Bool.and_eq_true, beq_iff_eq] at selected
        refine inside.started ?_ linked
        intro c member sameId
        rw [w.db.eq_of_id member (List.mem_of_find?_eq_some found) sameId]
        exact selected.2

/-- A manual record. -/
theorem Inside.manual (inside : Inside w) {now : Int} {call : ManualCall} {table : Table}
    (done : createManualSession now w.table (call.input w.db) = .ok table) :
    Inside { w with table := table } := by
  unfold createManualSession at done
  simp only [returns_bind_iff, require_eq_ok, exists_const, orThrow_eq_ok] at done
  obtain ⟨chosen, selected, startedAt, _, endedAt, _, _, _, _, customer, found, _, inserted⟩ := done
  have rows := (insert_ok inserted).1
  refine inside.cons rows rfl ?_
  simp only [ManualCall.input, Option.map_eq_some_iff] at selected
  obtain ⟨text, _, rfl⟩ := selected
  obtain ⟨c, looked, rfl⟩ := Option.map_eq_some_iff.mp found
  obtain ⟨id, _, located⟩ := Option.bind_eq_some_iff.mp looked
  obtain ⟨member, _, tenant⟩ := customerOf_eq_some located
  exact ⟨c, member, rfl, tenant⟩

/-- The customers change. -/
theorem Inside.customers (inside : Inside w) {later : Db} (same : SameTenants w.db later) :
    Inside
      { db := later
        table := Table.release w.table fun id => later.customers.any fun c => c.id == id } := by
  intro row member id link
  obtain ⟨old, stood, rfl⟩ := List.mem_map.mp member
  have kept : old.customerId.filter (fun id => later.customers.any fun c => c.id == id) = some id :=
    link
  obtain ⟨linked, present⟩ := Option.filter_eq_some_iff.mp kept
  obtain ⟨c, member, sameId⟩ := List.any_eq_true.mp present
  have sameId' : c.id = id := by simpa using sameId
  obtain ⟨before, was, wasId, tenant⟩ := inside old stood id linked
  refine ⟨c, member, sameId', ?_⟩
  rw [same before was c member (sameId'.trans wasId.symm)]
  exact tenant

/-- Every step that starts the company's own sessions keeps the references inside. -/
theorem Inside.step (inside : Inside w) {event : Event} (owned : Owned w event)
    (next : shop.step w event = some t) : Inside t := by
  cases event with
  | panelStart now tenantId operatorId customerId seat =>
    obtain rfl := Option.some.inj next
    exact inside.settle fun table done => inside.panelStart owned done
  | post now tenantId uid remoteId connDirect seat =>
    obtain rfl := Option.some.inj next
    exact inside.settle fun table done => inside.post done
  | manual now call =>
    obtain rfl := Option.some.inj next
    exact inside.settle fun table done => inside.manual done
  | update now op =>
    simp only [shop] at next
    split at next
    · cases next
    · rename_i updates
      obtain rfl := Option.some.inj next
      refine inside.settle fun table done => ?_
      intro row member id link
      obtain ⟨old, stood, tenant, customer⟩ :=
        rows_of_update op (by simpa using updates) done row member
      rw [tenant]
      exact inside old stood id (customer ▸ link)
  | customers later =>
    simp only [shop] at next
    split at next
    · rename_i same
      obtain rfl := Option.some.inj next
      exact inside.customers same
    · cases next

/-- The account of an operator. -/
structure Operator where
  id : Nat
  displayName : String
  email : String
deriving DecidableEq, Repr

/-- What a reader has beside the sessions and the customers. -/
structure Reading where
  now : Int
  users : List Operator
  /-- `last_seen_at` by account. -/
  seen : Nat → Option Int
  /-- `date_trunc('month', now())`. -/
  monthStart : Int
  /-- `ILIKE`, of a text and a pattern. -/
  ilike : String → String → Bool

/-- A session with its customer and its operator. -/
structure Joined where
  session : SupportSession
  customer : Option Customer
  operator : Option Operator

/-- The sessions of a company that meet a condition, the latest first. -/
def selectSessions (reading : Reading) (rows : List SupportSession) (customers : List Customer)
    (tenantId : Nat) (condition : Joined → Bool) : List Joined :=
  let linked := leftJoin (fun row c => row.customerId == some c.id) rows customers
  let named := leftJoin (fun pair user => pair.1.operatorId == some user.id) linked reading.users
  let mine := named.filter fun row =>
    row.1.1.tenantId == tenantId && condition ⟨row.1.1, row.1.2, row.2⟩
  (orderDesc (fun row => row.1.1.startedAt) mine).map fun row => ⟨row.1.1, row.1.2, row.2⟩

/-- A row of `listActiveSessions`. -/
structure ActiveRow where
  session : SupportSession
  customer : Option Customer
  operatorName : Option String
  operatorEmail : Option String

/-- `listActiveSessions`. -/
def listActiveSessions (reading : Reading) (table : Table) (customers : List Customer)
    (tenantId : Nat) : Except Failure (List ActiveRow) := do
  let table ← closeOrphanSessions reading.now table tenantId reading.seen
  let rows := selectSessions reading table.rows customers tenantId fun row =>
    row.session.endedAt.isNone
  return rows.map fun row =>
    { session := row.session
      customer := row.customer
      operatorName := row.operator.map Operator.displayName
      operatorEmail := row.operator.map Operator.email }

/-- A row of `listRecentSessions`. -/
structure RecentRow where
  session : SupportSession
  customer : Option Customer
  operatorName : Option String

/-- `listRecentSessions`. -/
def listRecentSessions (reading : Reading) (table : Table) (customers : List Customer)
    (tenantId limit : Nat) (remoteId : Option String) : Except Failure (List RecentRow) := do
  let table ← closeOrphanSessions reading.now table tenantId reading.seen
  let remoteId := remoteId.filter fun id => id ≠ ""
  require (remoteId.all storable) .database
  let rows := selectSessions reading table.rows customers tenantId fun row =>
    row.session.discardedAt.isNone &&
      remoteId.all fun id => row.customer.bind Customer.remoteId == some id
  return (rows.take limit).map fun row =>
    { session := row.session
      customer := row.customer
      operatorName := row.operator.map Operator.displayName }

/-- `SessionPeriod`. -/
inductive Period
  | thisMonth
  | week
  | month
  | all
deriving DecidableEq, Repr

/-- The start of a period, if it has one. -/
def Period.since (reading : Reading) : Period → Option Int
  | .thisMonth => some reading.monthStart
  | .week => some (reading.now - 7 * 86400000)
  | .month => some (reading.now - 30 * 86400000)
  | .all => none

/-- The options of `searchSessions`; a customer is not asked for, or by an id that may be none. -/
structure SearchOptions where
  period : Period
  customerId : Option (Option Nat) := none
  q : Option String := none
  includeDiscarded : Bool := false
  limit : Option Nat := none

/-- The search text. -/
def SearchOptions.text (options : SearchOptions) : String :=
  jsSlice 60 (jsTrim (options.q.getD ""))

/-- `searchConds`, but for the company. -/
def searchConds (reading : Reading) (options : SearchOptions) (customerId : Option Nat)
    (row : Joined) : Bool :=
  let like := "%" ++ options.text ++ "%"
  (options.includeDiscarded || row.session.discardedAt.isNone) &&
    ((options.period.since reading).all fun time => decide (time ≤ row.session.startedAt)) &&
    (customerId.all fun id => row.session.customerId == some id) &&
    (options.text == "" ||
      [row.session.description, row.customer.map Customer.name, row.session.contactName,
        row.operator.map Operator.displayName].any fun column =>
          column.any fun value => reading.ilike value like)

/-- A row of `searchSessions`. -/
structure SearchRow where
  id : Nat
  discardedAt : Option Int
  manual : Bool
  customerId : Option Nat
  customerName : Option String
  startedAt : Int
  endedAt : Option Int
  durationSec : Option Int
  issueType : Option IssueType
  resolution : Option Resolution
  description : Option String
  categories : Option String
  contactName : Option String
  remoteId : Option String
  viaSchedWindow : Bool
  operatorName : Option String
  operatorDevice : Option String
  operatorIp : Option String

/-- The selected columns. -/
def Joined.searchRow (row : Joined) : SearchRow where
  id := row.session.id
  discardedAt := row.session.discardedAt
  manual := row.session.manual
  customerId := row.session.customerId
  customerName := row.customer.map Customer.name
  startedAt := row.session.startedAt
  endedAt := row.session.endedAt
  durationSec := row.session.endedAt.map fun ended => seconds (ended - row.session.startedAt)
  issueType := row.session.issueType
  resolution := row.session.resolution
  description := row.session.description
  categories := row.session.categories
  contactName := row.session.contactName
  remoteId := row.session.remoteId
  viaSchedWindow := row.session.viaSchedWindow
  operatorName := row.operator.map Operator.displayName
  operatorDevice := row.session.operatorDevice
  operatorIp := row.session.operatorIp

/-- `searchSessions`. -/
def searchSessions (reading : Reading) (table : Table) (customers : List Customer) (tenantId : Nat)
    (options : SearchOptions) : Except Failure (List SearchRow) := do
  let table ← closeOrphanSessions reading.now table tenantId reading.seen
  let customerId ← match options.customerId with
    | none => .ok none
    | some id => (orThrow id .database).map some
  require (storable options.text) .database
  let rows := selectSessions reading table.rows customers tenantId
    (searchConds reading options customerId)
  return (rows.take (options.limit.getD 200)).map Joined.searchRow

/-- A call of a reader. -/
inductive Reader
  | active
  | recent (limit : Nat) (remoteId : Option String)
  | search (options : SearchOptions)

/-- What a reader returns. -/
inductive Answer
  | active (rows : List ActiveRow)
  | recent (rows : List RecentRow)
  | found (rows : List SearchRow)

/-- Run a reader. -/
def Reader.read (reading : Reading) (table : Table) (customers : List Customer) (tenantId : Nat) :
    Reader → Except Failure Answer
  | .active => (listActiveSessions reading table customers tenantId).map .active
  | .recent limit remoteId =>
    (listRecentSessions reading table customers tenantId limit remoteId).map .recent
  | .search options => (searchSessions reading table customers tenantId options).map .found

/-- What a company reads does not depend on the customers of other companies. -/
def Independent (w : World) : Prop :=
  ∀ (tenantId : Nat) (reading : Reading) (reader : Reader) (other : Db),
    other.customers.filter (fun c => c.tenantId == tenantId) =
      w.db.customers.filter (fun c => c.tenantId == tenantId) →
    reader.read reading w.table other.customers tenantId =
      reader.read reading w.table w.db.customers tenantId

/-- The customer of an id that a company has is found among its own customers. -/
theorem filter_own {db : Db} {tenantId id : Nat}
    (owned : ∃ c ∈ db.customers, c.id = id ∧ c.tenantId = tenantId) :
    db.customers.filter (fun c => some id == some c.id) =
      (db.customers.filter fun c => c.tenantId == tenantId).filter
        fun c => some id == some c.id := by
  obtain ⟨own, member, rfl, tenant⟩ := owned
  rw [List.filter_filter]
  apply List.filter_congr
  intro c inside
  by_cases same : own.id = c.id
  · rw [← db.eq_of_id member inside same]
    simp [tenant]
  · simp [same]

/-- A selection of a company's sessions reads only the company's customers. -/
theorem selectSessions_congr {reading : Reading} {rows : List SupportSession} {db other : Db}
    {tenantId : Nat} (condition : Joined → Bool)
    (inside : ∀ row ∈ rows, ∀ id, row.customerId = some id →
      ∃ c ∈ db.customers, c.id = id ∧ c.tenantId = row.tenantId)
    (same : other.customers.filter (fun c => c.tenantId == tenantId) =
      db.customers.filter (fun c => c.tenantId == tenantId)) :
    selectSessions reading rows other.customers tenantId condition =
      selectSessions reading rows db.customers tenantId condition := by
  have linked : leftJoin (fun row c => row.customerId == some c.id)
        (rows.filter fun row => row.tenantId == tenantId) other.customers =
      leftJoin (fun row c => row.customerId == some c.id)
        (rows.filter fun row => row.tenantId == tenantId) db.customers := by
    apply leftJoin_congr
    intro row mine
    obtain ⟨member, tenant⟩ := List.mem_filter.mp mine
    have tenant' : row.tenantId = tenantId := by simpa using tenant
    cases link : row.customerId with
    | none => simp
    | some id =>
      obtain ⟨c, old, sameId, owner⟩ := inside row member id link
      rw [tenant'] at owner
      have there : c ∈ other.customers := by
        have own : c ∈ db.customers.filter fun c => c.tenantId == tenantId :=
          List.mem_filter.mpr ⟨old, by simpa using owner⟩
        rw [← same] at own
        exact List.mem_of_mem_filter own
      rw [filter_own ⟨c, there, sameId, owner⟩, filter_own ⟨c, old, sameId, owner⟩, same]
  have split : ∀ customers : List Customer,
      selectSessions reading rows customers tenantId condition =
      (orderDesc (fun row => row.1.1.startedAt)
        ((leftJoin (fun pair user => pair.1.operatorId == some user.id)
          (leftJoin (fun row c => row.customerId == some c.id)
            (rows.filter fun row => row.tenantId == tenantId) customers) reading.users).filter
          fun row => condition ⟨row.1.1, row.1.2, row.2⟩)).map
        fun row => ⟨row.1.1, row.1.2, row.2⟩ := by
    intro customers
    unfold selectSessions
    rw [← filter_leftJoin _ (fun row : SupportSession => row.tenantId == tenantId),
      ← filter_leftJoin _ fun pair : SupportSession × Option Customer => pair.1.tenantId == tenantId,
      List.filter_filter]
    simp only [Bool.and_comm]
  rw [split, split, linked]

/-- Where every session refers to a customer of its own company, no reader depends on others. -/
theorem Inside.independent (inside : Inside w) : Independent w := by
  intro tenantId reading reader other same
  have select : ∀ {table : Table},
      closeOrphanSessions reading.now w.table tenantId reading.seen = .ok table →
        ∀ condition, selectSessions reading table.rows other.customers tenantId condition =
          selectSessions reading table.rows w.db.customers tenantId condition := by
    intro table closed condition
    refine selectSessions_congr condition ?_ same
    intro row member id link
    obtain ⟨old, stood, tenant, customer⟩ := rows_of_update
      (.closeOrphanSessions tenantId reading.seen) rfl closed row member
    rw [tenant]
    exact inside old stood id (customer ▸ link)
  cases closed : closeOrphanSessions reading.now w.table tenantId reading.seen with
  | error thrown =>
    cases reader <;>
      simp [Reader.read, listActiveSessions, listRecentSessions, searchSessions, closed, bind,
        Except.bind]
  | ok table =>
    cases reader <;>
      simp only [Reader.read, listActiveSessions, listRecentSessions, searchSessions, closed, bind,
        Except.bind, select closed]

/-- In every run in which the panel starts sessions with the company's own customers, every session
refers to a customer of its own company, and no company reads another's customers. -/
theorem sessions_inside (w : World) (reached : shop.Reaches Owned w) :
    Inside w ∧ Independent w := by
  have inside : Inside w := by
    apply reached.invariant Inside
    · intro start empty row member
      have none : start.table.rows = [] := empty
      rw [none] at member
      cases member
    · intro before event after kept admitted next
      exact kept.step admitted next
  exact ⟨inside, inside.independent⟩

/-- Two companies with one customer each. -/
def twoCompanies : World where
  db :=
    { customers :=
        [{ id := 0, tenantId := 1, name := "cafe", remoteId := some "100" },
         { id := 1, tenantId := 2, name := "bar", remoteId := some "200" }]
      favorites := []
      alerts := []
      nextId := 2
      valid := by decide }
  table := { rows := [], nextId := 0, valid := ⟨List.nodup_nil, List.forall_mem_nil _, .nil⟩ }

/-- The HQ app and the panel start sessions with the company's own customer. -/
theorem own_sessions_inside :
    let w := shop.play Owned twoCompanies
      [.post 5 1 7 (some "100") none none, .panelStart 6 1 8 (some 0) none]
    w.table.rows.map SupportSession.customerId = [some 0, some 0] ∧ Inside w ∧ Independent w :=
  ⟨by decide +kernel, sessions_inside _ ⟨twoCompanies, rfl, shop.runs_play Owned twoCompanies _⟩⟩

/-- The panel of the first company starts a session with the customer of the second. -/
def foreignStart : World :=
  shop.play Machine.free twoCompanies [.panelStart 5 1 7 (some 1) none]

/-- The first company without the customer of the second. -/
def oneCompany : Db where
  customers := [{ id := 0, tenantId := 1, name := "cafe", remoteId := some "100" }]
  favorites := []
  alerts := []
  nextId := 2
  valid := by decide

/-- A reading right after the start. -/
def soon : Reading where
  now := 6
  users := []
  seen := fun _ => none
  monthStart := 0
  ilike := fun _ _ => false

/-- The names of the customers that the list of active sessions shows. -/
def shownNames : Except Failure Answer → List (Option String)
  | .ok (.active rows) => rows.map fun row => row.customer.map Customer.name
  | _ => []

/-- The session of the first company refers to a customer of the second, and its list of active
sessions shows the row of that customer. -/
theorem foreign_session :
    shop.Reaches Machine.free foreignStart ∧ ¬ Inside foreignStart ∧
      ¬ Independent foreignStart := by
  refine ⟨⟨twoCompanies, rfl, shop.runs_play Machine.free twoCompanies _⟩, ?_, ?_⟩
  · intro inside
    let row : SupportSession :=
      { id := 0, tenantId := 1, customerId := some 1, operatorId := some 7, startedAt := 5
        resolution := some .inProgress }
    have rows : foreignStart.table.rows = [row] := by decide +kernel
    have own := inside row (by rw [rows]; exact List.mem_singleton_self row) 1 rfl
    revert own
    decide +kernel
  · intro independent
    have same := congrArg shownNames (independent 1 soon .active oneCompany rfl)
    revert same
    decide +kernel

end ChainRemote.Panel.SessionTenants
