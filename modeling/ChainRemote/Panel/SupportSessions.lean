import ChainRemote.Lib.Checks
import ChainRemote.Lib.Machine
import ChainRemote.Lib.Rows
import ChainRemote.Panel.Push

/-!
# Support sessions

The table `support_sessions` and its writers: the start and the end report of the HQ app, the
actions of the panel, and the automatic closing of orphans. Each writer is one statement, so an
operation is a function on the table that may throw and then has written nothing.

A row never gets a new key, a new start or an open end again; `Keeps` states this of what an
update sets, and the table takes only such updates.
-/

namespace ChainRemote.Panel.SupportSessions

open Lib

/-- `issue_type`. -/
inductive IssueType
  | config
  | hardware
  | software
  | network
  | training
  | other
deriving DecidableEq, Repr

/-- `resolution_status`. -/
inductive Resolution
  | resolved
  | pending
  | escalated
  | inProgress
deriving DecidableEq, Repr

/-- The texts of `issue_type`. -/
def issueTypeOf : String → Option IssueType
  | "config" => some .config
  | "hardware" => some .hardware
  | "software" => some .software
  | "network" => some .network
  | "training" => some .training
  | "other" => some .other
  | _ => none

/-- The texts of `resolution_status`. -/
def resolutionOf : String → Option Resolution
  | "resolved" => some .resolved
  | "pending" => some .pending
  | "escalated" => some .escalated
  | "in_progress" => some .inProgress
  | _ => none

/-- A `support_sessions` row; times in milliseconds. -/
structure SupportSession where
  id : Nat
  tenantId : Nat
  customerId : Option Nat
  operatorId : Option Nat
  startedAt : Int
  endedAt : Option Int := none
  remoteId : Option String := none
  issueType : Option IssueType := none
  resolution : Option Resolution := none
  description : Option String := none
  contactName : Option String := none
  categories : Option String := none
  connDirect : Option Bool := none
  viaSchedWindow : Bool := false
  discardedAt : Option Int := none
  manual : Bool := false
  operatorDevice : Option String := none
  operatorIp : Option String := none
deriving DecidableEq, Repr

/-- `EXTRACT(EPOCH FROM …)::INTEGER` of a span in milliseconds. -/
def seconds (span : Int) : Int :=
  if 0 ≤ span then (span + 500) / 1000 else -((500 - span) / 1000)

/-- The generated column `duration_sec` fits its type. -/
def SupportSession.durationFits (row : SupportSession) : Bool :=
  match row.endedAt with
  | none => true
  | some ended =>
    decide (int4Min ≤ seconds (ended - row.startedAt)) &&
      decide (seconds (ended - row.startedAt) ≤ int4Max)

/-- Two rows that `uq_active_session_operator_customer` forbids together. -/
def SupportSession.Clash (a b : SupportSession) : Prop :=
  a.endedAt = none ∧ b.endedAt = none ∧ a.tenantId = b.tenantId ∧
    a.operatorId.isSome = true ∧ a.operatorId = b.operatorId ∧
    a.customerId.isSome = true ∧ a.customerId = b.customerId

instance (a b : SupportSession) : Decidable (a.Clash b) := inferInstanceAs (Decidable (_ ∧ _))

/-- The constraints of the table; ids from `nextId` on are not drawn yet. -/
structure Valid (rows : List SupportSession) (nextId : Nat) : Prop where
  /-- The primary key. -/
  ids : (rows.map SupportSession.id).Nodup
  /-- Ids not yet drawn are in no row. -/
  below : ∀ row ∈ rows, row.id < nextId
  /-- `uq_active_session_operator_customer`. -/
  single : rows.Pairwise fun a b => ¬ a.Clash b

/-- The table `support_sessions`. -/
structure Table where
  rows : List SupportSession
  /-- The source of new ids. -/
  nextId : Nat
  valid : Valid rows nextId

/-- What an update sets keeps the keys and the start, and opens no row again. -/
structure Keeps (set : SupportSession → SupportSession) : Prop where
  id : ∀ row, (set row).id = row.id
  tenantId : ∀ row, (set row).tenantId = row.tenantId
  customerId : ∀ row, (set row).customerId = row.customerId
  operatorId : ∀ row, (set row).operatorId = row.operatorId
  startedAt : ∀ row, (set row).startedAt = row.startedAt
  ended : ∀ row, (set row).endedAt = none → row.endedAt = none

/-- Why an operation throws. -/
inductive Failure
  /-- An error with its message. -/
  | message (text : String)
  /-- PostgreSQL refused a statement. -/
  | database
deriving DecidableEq, Repr

theorem Keeps.clash {set : SupportSession → SupportSession} (keeps : Keeps set)
    (here : SupportSession → Bool) {a b : SupportSession} :
    (if here a then set a else a).Clash (if here b then set b else b) → a.Clash b := by
  have field : ∀ row, (if here row then set row else row).tenantId = row.tenantId ∧
      (if here row then set row else row).customerId = row.customerId ∧
      (if here row then set row else row).operatorId = row.operatorId ∧
      ((if here row then set row else row).endedAt = none → row.endedAt = none) := by
    intro row
    split
    · exact ⟨keeps.tenantId row, keeps.customerId row, keeps.operatorId row, keeps.ended row⟩
    · exact ⟨rfl, rfl, rfl, fun none => none⟩
  rintro ⟨left, right, tenant, known, operator, given, customer⟩
  obtain ⟨ta, ca, oa, ea⟩ := field a
  obtain ⟨tb, cb, ob, eb⟩ := field b
  rw [ta, tb] at tenant
  rw [oa] at known
  rw [oa, ob] at operator
  rw [ca] at given
  rw [ca, cb] at customer
  exact ⟨ea left, eb right, tenant, known, operator, given, customer⟩

theorem Valid.update {rows : List SupportSession} {nextId : Nat} (valid : Valid rows nextId)
    (here : SupportSession → Bool) {set : SupportSession → SupportSession} (keeps : Keeps set) :
    Valid (updateWhere here set rows) nextId where
  ids := by
    rw [map_updateWhere SupportSession.id keeps.id]
    exact valid.ids
  below := by
    intro row inside
    rcases mem_updateWhere.mp inside with ⟨old, member, -, rfl⟩ | ⟨member, -⟩
    · rw [keeps.id]
      exact valid.below old member
    · exact valid.below row member
  single := by
    unfold updateWhere
    rw [List.pairwise_map]
    exact valid.single.imp fun apart clash => apart (keeps.clash here clash)

/-- `UPDATE support_sessions SET set WHERE here`. -/
def Table.update (table : Table) (here : SupportSession → Bool)
    (set : SupportSession → SupportSession) (keeps : Keeps set) : Except Failure Table := do
  require (∀ row ∈ table.rows, here row → (set row).durationFits) .database
  return { table with
    rows := updateWhere here set table.rows
    valid := table.valid.update here keeps }

/-- `INSERT INTO support_sessions`; the key is the next one. -/
def Table.insert (table : Table) (row : SupportSession) (own : row.id = table.nextId) :
    Except Failure Table :=
  if fits : row.durationFits = true ∧ ∀ other ∈ table.rows, ¬ row.Clash other then
    .ok
      { rows := row :: table.rows
        nextId := table.nextId + 1
        valid :=
          { ids := by
              refine List.nodup_cons.mpr ⟨?_, table.valid.ids⟩
              intro inside
              obtain ⟨other, member, same⟩ := List.mem_map.mp inside
              have below := table.valid.below other member
              omega
            below := by
              intro other inside
              rcases List.mem_cons.mp inside with rfl | old
              · omega
              · have below := table.valid.below other old
                omega
            single := List.pairwise_cons.mpr ⟨fits.2, table.valid.single⟩ } }
  else .error .database

/-- `DELETE FROM support_sessions WHERE here`. -/
def Table.delete (table : Table) (here : SupportSession → Bool) : Table where
  rows := table.rows.filter fun row => !here row
  nextId := table.nextId
  valid :=
    { ids := table.valid.ids.sublist (List.filter_sublist.map _)
      below := fun row inside => table.valid.below row (List.mem_of_mem_filter inside)
      single := table.valid.single.sublist List.filter_sublist }

/-- `where(and(eq(supportSessions.id, id), eq(supportSessions.tenantId, tenantId)))`. -/
def within (id tenantId : Nat) (row : SupportSession) : Bool :=
  row.id == id && row.tenantId == tenantId

/-- The input of `startSession`. -/
structure StartInput where
  tenantId : Nat
  operatorId : Nat
  customerId : Nat
  remoteId : Option String
  connDirect : Option Bool := none

/-- The open session of an operator with a customer. -/
def StartInput.selects (input : StartInput) (row : SupportSession) : Bool :=
  row.tenantId == input.tenantId && row.operatorId == some input.operatorId &&
    row.customerId == some input.customerId && row.endedAt.isNone

/-- The row of a new session; `seat` has the label and the address of the operator's device. -/
def StartInput.row (input : StartInput) (now : Int) (id : Nat)
    (seat : Option (Option String × Option String)) : SupportSession where
  id := id
  tenantId := input.tenantId
  customerId := some input.customerId
  operatorId := some input.operatorId
  startedAt := now
  remoteId := input.remoteId
  resolution := some .inProgress
  connDirect := input.connDirect
  operatorDevice := seat.bind Prod.fst
  operatorIp := seat.bind Prod.snd

/-- `startSession`: the session it returns and the table. -/
def startSession (now : Int) (table : Table) (input : StartInput)
    (seat : Option (Option String × Option String)) : Except Failure (SupportSession × Table) :=
  match table.rows.find? input.selects with
  | some existing => .ok (existing, table)
  | none => do
    require (input.remoteId.all storable) .database
    let row := input.row now table.nextId seat
    let after ← table.insert row rfl
    return (row, after)

/-- `EndSessionFields`; a field that is missing is `undefined`. -/
structure EndSessionFields where
  categories : Option String := none
  description : Option String := none
  contactName : Option String := none
  resolution : Option Resolution := none
  connDirect : Option Bool := none
  viaSchedWindow : Option Bool := none

/-- `v?.trim() ? v.trim() : …`. -/
def filled (text : Option String) : Option String := (text.map jsTrim).filter fun v => v ≠ ""

/-- What `endSession` sets. -/
def EndSessionFields.set (fields : EndSessionFields) (now : Int) (row : SupportSession) :
    SupportSession :=
  { row with
    endedAt := some (row.endedAt.getD now)
    categories := (filled fields.categories).or row.categories
    description := (filled fields.description).or row.description
    contactName := (filled fields.contactName).or row.contactName
    resolution := fields.resolution.or row.resolution
    connDirect := fields.connDirect.or row.connDirect }

theorem EndSessionFields.keeps (fields : EndSessionFields) (now : Int) : Keeps (fields.set now) :=
  ⟨fun _ => rfl, fun _ => rfl, fun _ => rfl, fun _ => rfl, fun _ => rfl,
    fun _ never => nomatch never⟩

/-- `endSession` of the data layer. -/
def endSession (now : Int) (table : Table) (sessionId tenantId : Nat) (fields : EndSessionFields) :
    Except Failure Table :=
  table.update (within sessionId tenantId) (fields.set now) (fields.keeps now)

/-- `v.split(NUL).join("")`. -/
def clean (text : String) : String :=
  String.ofList (text.toList.filter fun c => c != Char.ofNat 0)

/-- The body of an end report; a text or flag that is none is missing. -/
structure EndBody where
  categories : Option String := none
  description : Option String := none
  contactName : Option String := none
  resolution : Option String := none
  connDirect : Option Bool := none
  /-- `body.viaSchedWindow === true`. -/
  viaSchedWindow : Bool := false

/-- The fields that `POST /api/sessions/[id]/end` passes on. -/
def EndBody.fields (body : EndBody) : EndSessionFields where
  categories := body.categories.map clean
  description := body.description.map clean
  contactName := body.contactName.map clean
  resolution := body.resolution.bind resolutionOf
  connDirect := body.connDirect
  viaSchedWindow := if body.viaSchedWindow then some true else none

/-- The form of the panel's `endSession`. -/
structure EndForm where
  issueType : Option String := none
  resolution : Option String := none
  description : Option String := none

/-- `formData.get(…) || …`. -/
def given (text : Option String) : Option String := text.filter fun v => v ≠ ""

/-- What the panel's `endSession` sets. -/
def endFormSet (now : Int) (issueType : Option IssueType) (resolution : Resolution)
    (description : Option String) (row : SupportSession) : SupportSession :=
  { row with
    endedAt := some now
    issueType := issueType.or row.issueType
    resolution := some resolution
    description := description }

theorem endFormSet_keeps (now : Int) (issueType : Option IssueType) (resolution : Resolution)
    (description : Option String) : Keeps (endFormSet now issueType resolution description) :=
  ⟨fun _ => rfl, fun _ => rfl, fun _ => rfl, fun _ => rfl, fun _ => rfl,
    fun _ never => nomatch never⟩

/-- The issue type of the form; PostgreSQL refuses text that is no value of the type. -/
def EndForm.issue (form : EndForm) : Except Failure (Option IssueType) :=
  match given form.issueType with
  | none => .ok none
  | some text => (orThrow (issueTypeOf text) .database).map some

/-- `endSession` of the panel. -/
def panelEndSession (now : Int) (table : Table) (id tenantId : Nat) (form : EndForm) :
    Except Failure Table := do
  let issueType ← form.issue
  let resolution ← orThrow (resolutionOf ((given form.resolution).getD "resolved")) .database
  let description := filled form.description
  require (description.all storable) .database
  table.update (within id tenantId) (endFormSet now issueType resolution description)
    (endFormSet_keeps now issueType resolution description)

/-- `interval '2 minutes'`. -/
def graceMs : Int := 2 * 60 * 1000

/-- `interval '12 hours'`. -/
def longestMs : Int := 12 * 60 * 60 * 1000

/-- The last heartbeat of an operator's seat; `seen` is `last_seen_at` by account. -/
def lastSeen (seen : Nat → Option Int) (row : SupportSession) : Option Int :=
  row.operatorId.bind seen

/-- The sessions that `closeOrphanSessions` closes. -/
def orphan (now : Int) (tenantId : Nat) (seen : Nat → Option Int) (row : SupportSession) : Bool :=
  row.tenantId == tenantId && row.endedAt.isNone && decide (row.startedAt < now - graceMs) &&
    (!((lastSeen seen row).any fun t => decide (now - graceMs < t)) ||
      decide (row.startedAt < now - longestMs))

/-- What it sets. -/
def closeSet (now : Int) (seen : Nat → Option Int) (row : SupportSession) : SupportSession :=
  { row with endedAt := some (max row.startedAt ((lastSeen seen row).getD now)) }

theorem closeSet_keeps (now : Int) (seen : Nat → Option Int) : Keeps (closeSet now seen) :=
  ⟨fun _ => rfl, fun _ => rfl, fun _ => rfl, fun _ => rfl, fun _ => rfl,
    fun _ never => nomatch never⟩

/-- `closeOrphanSessions`. -/
def closeOrphanSessions (now : Int) (table : Table) (tenantId : Nat) (seen : Nat → Option Int) :
    Except Failure Table :=
  table.update (orphan now tenantId seen) (closeSet now seen) (closeSet_keeps now seen)

/-- What `discardSessionSoft` sets. -/
def discardSet (now : Int) (row : SupportSession) : SupportSession :=
  { row with discardedAt := some now, endedAt := some (row.endedAt.getD now) }

theorem discardSet_keeps (now : Int) : Keeps (discardSet now) :=
  ⟨fun _ => rfl, fun _ => rfl, fun _ => rfl, fun _ => rfl, fun _ => rfl,
    fun _ never => nomatch never⟩

/-- `discardSessionSoft`. -/
def discardSessionSoft (now : Int) (table : Table) (sessionId tenantId : Nat) :
    Except Failure Table :=
  table.update (within sessionId tenantId) (discardSet now) (discardSet_keeps now)

/-- What `restoreSession` sets. -/
def restoreSet (row : SupportSession) : SupportSession := { row with discardedAt := none }

theorem restoreSet_keeps : Keeps restoreSet :=
  ⟨fun _ => rfl, fun _ => rfl, fun _ => rfl, fun _ => rfl, fun _ => rfl, fun _ none => none⟩

/-- `restoreSession`. -/
def restoreSession (table : Table) (sessionId tenantId : Nat) : Except Failure Table :=
  table.update (within sessionId tenantId) restoreSet restoreSet_keeps

/-- `SessionRecordFields`: a field is missing, or given, possibly as `null`. -/
structure SessionRecordFields where
  issueType : Option (Option IssueType) := none
  resolution : Option (Option Resolution) := none
  contactName : Option (Option String) := none
  categories : Option (Option String) := none
  description : Option (Option String) := none

/-- What `updateSessionRecord` sets. -/
def SessionRecordFields.set (f : SessionRecordFields) (row : SupportSession) : SupportSession :=
  { row with
    issueType := f.issueType.getD row.issueType
    resolution := f.resolution.getD row.resolution
    contactName := (f.contactName.map filled).getD row.contactName
    categories := (f.categories.map filled).getD row.categories
    description := (f.description.map filled).getD row.description }

theorem SessionRecordFields.keeps (f : SessionRecordFields) : Keeps f.set :=
  ⟨fun _ => rfl, fun _ => rfl, fun _ => rfl, fun _ => rfl, fun _ => rfl, fun _ none => none⟩

/-- The texts of the fields can be stored. -/
def SessionRecordFields.storable (f : SessionRecordFields) : Bool :=
  [f.contactName, f.categories, f.description].all fun text =>
    (text.bind filled).all Panel.storable

/-- `updateSessionRecord`. -/
def updateSessionRecord (table : Table) (sessionId tenantId : Nat) (f : SessionRecordFields) :
    Except Failure Table := do
  require f.storable .database
  table.update (within sessionId tenantId) f.set f.keeps

/-- The input of `createManualSession`; a time that is no date is none. A customer is not chosen,
or not one of the company, or a row with its remote id. -/
structure ManualInput where
  tenantId : Nat
  operatorId : Nat
  customer : Option (Option (Nat × Option String))
  startedAt : Option Int
  endedAt : Option Int
  fields : SessionRecordFields

/-- The row of a manual record. -/
def ManualInput.row (input : ManualInput) (id : Nat) (customer : Nat × Option String)
    (startedAt endedAt : Int) : SupportSession where
  id := id
  tenantId := input.tenantId
  customerId := some customer.1
  operatorId := some input.operatorId
  startedAt := startedAt
  endedAt := some endedAt
  remoteId := customer.2
  manual := true
  issueType := input.fields.issueType.getD none
  resolution := some ((input.fields.resolution.getD none).getD .resolved)
  contactName := input.fields.contactName.bind filled
  categories := input.fields.categories.bind filled
  description := input.fields.description.bind filled

/-- `createManualSession`, the action and the data layer. -/
def createManualSession (now : Int) (table : Table) (input : ManualInput) :
    Except Failure Table := do
  let chosen ← orThrow input.customer (.message "거래처를 고르세요")
  let startedAt ← orThrow input.startedAt (.message "시작·종료 시각을 넣으세요")
  let endedAt ← orThrow input.endedAt (.message "시작·종료 시각을 넣으세요")
  require (startedAt ≤ endedAt) (.message "종료가 시작보다 앞섭니다")
  require (startedAt ≤ now + 60000) (.message "미래 시각입니다")
  require ((input.fields.description.bind filled).isSome)
    (.message "지원 내용을 적으세요 — 수동 기록은 내용이 전부입니다")
  let customer ← orThrow chosen (.message "거래처가 없습니다")
  require input.fields.storable .database
  table.insert (input.row table.nextId customer startedAt endedAt) rfl

/-- `discardSession` of the HQ app. -/
def discardSession (table : Table) (sessionId tenantId : Nat) : Table :=
  table.delete (within sessionId tenantId)

end ChainRemote.Panel.SupportSessions
