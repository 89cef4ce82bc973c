import Mathlib.Data.List.Lex
import ChainRemote.Lib.Decimal
import ChainRemote.Lib.Rows
import ChainRemote.Panel.Heartbeat

/-!
# The queue of update pushes

The table `pending_updates` and the functions of `lib/data/pending-updates.ts` on it, with
`parseMeta` of `lib/agent-push-meta.ts`. The partial unique index of migration 009 is part
of the table's type. Every function is one atomic step here, except that `pushBulk` keeps
its cancellation when its insert fails, because the source sends the two as separate
statements.

A value reaches a column only if it fits: whole numbers of 32 bits, and text without the
zero character. PostgreSQL folds constant casts when it plans a statement, so the casts of
`pushBulk` on its own arguments fail whatever the table holds; it evaluates the version
casts for the customers that pass the other conditions.
-/

namespace ChainRemote.Panel

open Lib

/-- The largest value of an `integer` column. -/
def int4Max : Int := 2147483647

/-- The smallest value of an `integer` column. -/
def int4Min : Int := -2147483648

/-- `Number.isInteger`, with the value. -/
def JsNumber.integer : JsNumber → Option Int
  | .finite v => if v.den = 1 then some v.num else none
  | _ => none

/-- A number as an `integer` column stores it. -/
def JsNumber.int4 (n : JsNumber) : Option Int :=
  n.integer.filter fun v => int4Min ≤ v && v ≤ int4Max

/-- Text that a `text` column stores. -/
def storable (text : String) : Bool := !text.toList.contains (Char.ofNat 0)

/-- A `pending_updates` row. -/
structure PendingUpdate where
  id : Nat
  tenantId : Nat
  customerId : Nat
  targetVersion : String
  assetUrl : String
  assetSha256 : String
  assetSize : Int
  windowStartHour : Int
  windowEndHour : Int
  randomizeMaxSec : Int
  bulkBatchId : Option Nat := none
  requestedBy : Option Nat := none
  appliedAt : Option Nat := none
  cancelledAt : Option Nat := none
  failedAt : Option Nat := none
  failureReason : Option String := none
  createdAt : Nat := 0
  updatedAt : Nat := 0
deriving DecidableEq, Repr

/-- A row without a mark: the push waits for its agent. -/
def PendingUpdate.active (row : PendingUpdate) : Bool :=
  row.appliedAt.isNone && row.cancelledAt.isNone && row.failedAt.isNone

/-- Two rows that `uq_pending_updates_customer_version_active` forbids together. -/
def PendingUpdate.Clash (a b : PendingUpdate) : Prop :=
  a.active = true ∧ b.active = true ∧ a.customerId = b.customerId ∧
    a.targetVersion = b.targetVersion

instance (a b : PendingUpdate) : Decidable (a.Clash b) := inferInstanceAs (Decidable (_ ∧ _))

/-- The constraints of the table; ids from `nextId` on are not drawn yet. -/
structure PushValid (rows : List PendingUpdate) (nextId : Nat) : Prop where
  /-- The primary key. -/
  ids : (rows.map PendingUpdate.id).Nodup
  /-- Ids not yet drawn are in no row. -/
  below : ∀ row ∈ rows, row.id < nextId
  /-- `uq_pending_updates_customer_version_active`. -/
  single : rows.Pairwise fun a b => ¬ a.Clash b

/-- The table `pending_updates`. -/
structure PushTable where
  rows : List PendingUpdate
  /-- The source of new ids: `gen_random_uuid()` and `crypto.randomUUID()`. -/
  nextId : Nat
  valid : PushValid rows nextId

/-- Why a function throws. -/
inductive PushError
  /-- `PushValidationError` with its message. -/
  | validation (message : String)
  /-- PostgreSQL refused a statement. -/
  | database
deriving DecidableEq, Repr

/-- `PushAsset`. -/
structure PushAsset where
  targetVersion : String
  assetUrl : String
  assetSha256 : String
  assetSize : JsNumber
deriving DecidableEq, Repr

/-- `PushOptions`: a field is absent, or given, possibly as `undefined`. -/
structure PushOptions where
  windowStartHour : Option (Option JsNumber) := none
  windowEndHour : Option (Option JsNumber) := none
  randomizeMaxSec : Option (Option JsNumber) := none
deriving DecidableEq, Repr

/-- `{ ...DEFAULT_OPTIONS, ...opts }`. -/
structure MergedOptions where
  windowStartHour : Option JsNumber
  windowEndHour : Option JsNumber
  randomizeMaxSec : Option JsNumber
deriving DecidableEq, Repr

/-- The spread: a given field replaces the default, also where it is `undefined`. -/
def PushOptions.merged (opts : PushOptions) : MergedOptions where
  windowStartHour := opts.windowStartHour.getD (some (.finite 0))
  windowEndHour := opts.windowEndHour.getD (some (.finite 7))
  randomizeMaxSec := opts.randomizeMaxSec.getD (some (.finite 600))

/-- The parts of a text that `VERSION_RE` accepts. -/
def versionParts (text : String) : Option (List (List Char)) :=
  match text.toList.splitOn '.' with
  | [major, minor, build] =>
    if isDigits major && isDigits minor && isDigits build then some [major, minor, build] else none
  | _ => none

/-- `VERSION_RE.test`. -/
def isVersion (text : String) : Bool := (versionParts text).isSome

/-- `/^https?:\/\//i.test`. -/
def isHttp (url : String) : Bool :=
  let lower := url.toList.map Char.toLower
  "http://".toList.isPrefixOf lower || "https://".toList.isPrefixOf lower

/-- `SHA256_RE.test`. -/
def isSha256 (text : String) : Bool := text.toList.length == 64 && text.toList.all isHexDigit

/-- A whole number between zero and a bound. -/
def wholeUpTo (bound : Int) (n : Option JsNumber) : Bool :=
  (n.bind JsNumber.integer).any fun v => 0 ≤ v && v ≤ bound

/-- `validatePush`. -/
def validatePush (asset : PushAsset) (opts : MergedOptions) : Except PushError Unit :=
  if !isVersion asset.targetVersion then
    .error (.validation "버전 형식이 잘못됐습니다 (예: 1.4.132)")
  else if !isHttp asset.assetUrl then .error (.validation "설치파일 주소가 잘못됐습니다")
  else if !isSha256 asset.assetSha256 then
    .error (.validation "sha256 은 64자리 16진수여야 합니다")
  else if !asset.assetSize.integer.any (0 < ·) then
    .error (.validation "설치파일 크기가 잘못됐습니다")
  else if !wholeUpTo 24 opts.windowStartHour then
    .error (.validation "시작 시각은 0~24 사이 정수여야 합니다")
  else if !wholeUpTo 24 opts.windowEndHour then
    .error (.validation "종료 시각은 0~24 사이 정수여야 합니다")
  else if opts.windowStartHour = opts.windowEndHour then
    .error (.validation "시작과 종료 시각이 같으면 업데이트 창이 열리지 않습니다 (예: 0시~7시)")
  else if !wholeUpTo 86400 opts.randomizeMaxSec then
    .error (.validation "분산 시간은 0~86400초 사이여야 합니다")
  else .ok ()

/-- The double nearest to a natural number, ties to even; `2 ^ 1024` stands for infinity. -/
def toDouble (n : Nat) : Nat :=
  if n < 2 ^ 53 then n
  else
    let shift := n.log2 - 52
    let unit := 2 ^ shift
    let half := 2 ^ (shift - 1)
    let low := n / unit
    let up := half < n % unit ∨ n % unit = half ∧ low % 2 = 1
    min ((if up then low + 1 else low) * unit) (2 ^ 1024)

/-- `parseVer`: the three numbers of a version. -/
def parseVer (text : Option String) : Option (List Nat) :=
  (text.bind fun v => versionParts (jsTrim v)).map fun parts =>
    parts.map fun part => toDouble (digitsValue part)

/-- `isOlder`. -/
def isOlder (a b : Option (List Nat)) : Bool :=
  match a, b with
  | some a, some b => decide (a < b)
  | _, _ => false

/-- `parseInt(x, 10) || 0`, a sign and a magnitude as a double. -/
def parseIntOrZero (text : List Char) : Int :=
  let body := text.dropWhile jsBlank
  let magnitude := fun digits : List Char => toDouble (digitsValue (digits.takeWhile Char.isDigit))
  match body with
  | '-' :: rest => -(magnitude rest : Int)
  | '+' :: rest => magnitude rest
  | rest => magnitude rest

/-- The numbers `isVersionNewer` compares. -/
def versionNumbers (text : String) : List Int :=
  ((jsTrim text).toList.splitOn '.').map parseIntOrZero

/-- The comparison of `isVersionNewer`: missing places are zero. -/
def newerNumbers : List Int → List Int → Bool
  | [], [] => false
  | a :: as, [] => if a ≠ 0 then decide (a > 0) else newerNumbers as []
  | [], b :: bs => if 0 ≠ b then decide (0 > b) else newerNumbers [] bs
  | a :: as, b :: bs => if a ≠ b then decide (a > b) else newerNumbers as bs

/-- `isVersionNewer`. -/
def isVersionNewer (a b : String) : Bool := newerNumbers (versionNumbers a) (versionNumbers b)

/-- The fields of `agent-push.json` that `parseMeta` reads; one of another type is absent. -/
structure MetaFile where
  version : Option String := none
  url : Option String := none
  sha256 : Option String := none
  size : Option JsNumber := none
  /-- The field is the literal `false`. -/
  autoRolloutOff : Bool := false
deriving DecidableEq, Repr

/-- `AgentPushMeta`. -/
structure AgentPushMeta where
  version : String
  url : String
  sha256 : String
  size : JsNumber
  autoRollout : Bool
deriving DecidableEq, Repr

/-- `size <= 0`. -/
def JsNumber.nonpositive : JsNumber → Bool
  | .nan => false
  | .infinite negative => negative
  | .finite v => v ≤ 0

/-- `parseMeta`. -/
def parseMeta (file : MetaFile) : Option AgentPushMeta :=
  let version := file.version.getD ""
  let url := file.url.getD ""
  let sha256 := file.sha256.getD ""
  let size := file.size.getD (.finite 0)
  if version = "" ∨ url = "" ∨ sha256 = "" ∨ size.nonpositive then none
  else some { version, url, sha256, size, autoRollout := !file.autoRolloutOff }

/-- An update that keeps the keys, sets marks only where there are none and makes no row
active again. -/
structure Marks (set : PendingUpdate → PendingUpdate) : Prop where
  id : ∀ row, (set row).id = row.id
  customer : ∀ row, (set row).customerId = row.customerId
  version : ∀ row, (set row).targetVersion = row.targetVersion
  active : ∀ row, (set row).active = true → row.active = true

namespace PushValid

variable {rows : List PendingUpdate} {nextId : Nat}

/-- The rows after an update satisfy the constraints. -/
theorem update (valid : PushValid rows nextId) {set : PendingUpdate → PendingUpdate}
    (marks : Marks set) (here : PendingUpdate → Bool) :
    PushValid (updateWhere here set rows) nextId where
  ids := by
    have column : (updateWhere here set rows).map PendingUpdate.id = rows.map PendingUpdate.id :=
      map_updateWhere PendingUpdate.id marks.id
    rw [column]
    exact valid.ids
  below := by
    intro row inside
    rcases mem_updateWhere.mp inside with ⟨old, before, -, rfl⟩ | ⟨before, -⟩
    · rw [marks.id]
      exact valid.below old before
    · exact valid.below row before
  single := by
    unfold updateWhere
    apply List.pairwise_map.mpr
    apply valid.single.imp
    intro a b apart clash
    apply apart
    have keys : ∀ row, (if here row then set row else row).customerId = row.customerId ∧
        (if here row then set row else row).targetVersion = row.targetVersion ∧
        ((if here row then set row else row).active = true → row.active = true) := by
      intro row
      split
      · exact ⟨marks.customer row, marks.version row, marks.active row⟩
      · exact ⟨rfl, rfl, fun same => same⟩
    refine ⟨(keys a).2.2 clash.1, (keys b).2.2 clash.2.1, ?_, ?_⟩
    · rw [← (keys a).1, ← (keys b).1]
      exact clash.2.2.1
    · rw [← (keys a).2.1, ← (keys b).2.1]
      exact clash.2.2.2

/-- A row under a new id satisfies the constraints where no row clashes with it. -/
theorem append (valid : PushValid rows nextId) {row : PendingUpdate} (drawn : row.id = nextId)
    (apart : ∀ old ∈ rows, ¬ old.Clash row) : PushValid (rows ++ [row]) (nextId + 1) where
  ids := by
    rw [List.map_append]
    apply List.Nodup.append valid.ids (List.nodup_singleton _)
    intro id old new
    obtain ⟨other, inside, rfl⟩ := List.mem_map.mp old
    have below := valid.below other inside
    rw [List.mem_singleton.mp new, drawn] at below
    exact Nat.lt_irrefl _ below
  below := by
    intro other inside
    rcases List.mem_append.mp inside with old | new
    · exact Nat.lt_succ_of_lt (valid.below other old)
    · rw [List.mem_singleton.mp new, drawn]
      exact Nat.lt_succ_self _
  single := by
    apply List.pairwise_append.mpr
    refine ⟨valid.single, List.pairwise_singleton _ _, ?_⟩
    intro a old b new
    rw [List.mem_singleton.mp new]
    exact apart a old

/-- More ids may have been drawn. -/
theorem draw (valid : PushValid rows nextId) : PushValid rows (nextId + 1) :=
  { valid with below := fun row inside => Nat.lt_succ_of_lt (valid.below row inside) }

end PushValid

namespace PushTable

/-- The table after an id was drawn for something else than a row. -/
def draw (t : PushTable) : PushTable := ⟨t.rows, t.nextId + 1, t.valid.draw⟩

/-- `INSERT`: store a row under a new id; `none` where the unique index forbids it. -/
def add (t : PushTable) (values : PendingUpdate) : Option PushTable :=
  let row := { values with id := t.nextId }
  if apart : ∀ old ∈ t.rows, ¬ old.Clash row then
    some ⟨t.rows ++ [row], t.nextId + 1, t.valid.append rfl apart⟩
  else none

/-- `INSERT … ON CONFLICT DO NOTHING`. -/
def addNew (t : PushTable) (values : PendingUpdate) : PushTable := (t.add values).getD t

/-- `UPDATE`, where it only sets marks. -/
def mark (t : PushTable) (here : PendingUpdate → Bool) (set : PendingUpdate → PendingUpdate)
    (marks : Marks set) : PushTable :=
  ⟨updateWhere here set t.rows, t.nextId, t.valid.update marks here⟩

end PushTable

/-- `SET applied_at = now, updated_at = now`. -/
def applySet (now : Nat) (row : PendingUpdate) : PendingUpdate :=
  { row with appliedAt := some now, updatedAt := now }

/-- `SET failed_at = now, failure_reason, updated_at = now`. -/
def failSet (now : Nat) (reason : String) (row : PendingUpdate) : PendingUpdate :=
  { row with failedAt := some now, failureReason := some (jsSlice 1000 reason), updatedAt := now }

/-- `SET cancelled_at = now, updated_at = now`. -/
def cancelSet (now : Nat) (row : PendingUpdate) : PendingUpdate :=
  { row with cancelledAt := some now, updatedAt := now }

theorem active_applySet (now : Nat) (row : PendingUpdate) : (applySet now row).active = false := by
  simp [applySet, PendingUpdate.active]

theorem active_failSet (now : Nat) (reason : String) (row : PendingUpdate) :
    (failSet now reason row).active = false := by
  simp [failSet, PendingUpdate.active]

theorem active_cancelSet (now : Nat) (row : PendingUpdate) : (cancelSet now row).active = false := by
  simp [cancelSet, PendingUpdate.active]

/-- An update that keeps the keys and leaves no row active. -/
theorem Marks.of_inactive {set : PendingUpdate → PendingUpdate} (id : ∀ row, (set row).id = row.id)
    (customer : ∀ row, (set row).customerId = row.customerId)
    (version : ∀ row, (set row).targetVersion = row.targetVersion)
    (inactive : ∀ row, (set row).active = false) : Marks set := by
  refine ⟨id, customer, version, ?_⟩
  intro row active
  rw [inactive row] at active
  cases active

theorem marks_applySet (now : Nat) : Marks (applySet now) :=
  .of_inactive (fun _ => rfl) (fun _ => rfl) (fun _ => rfl) (active_applySet now)

theorem marks_failSet (now : Nat) (reason : String) : Marks (failSet now reason) :=
  .of_inactive (fun _ => rfl) (fun _ => rfl) (fun _ => rfl) (active_failSet now reason)

theorem marks_cancelSet (now : Nat) : Marks (cancelSet now) :=
  .of_inactive (fun _ => rfl) (fun _ => rfl) (fun _ => rfl) (active_cancelSet now)

/-- The columns of a new row, all but its customer; `none` where a value does not fit. -/
def PushAsset.columns (asset : PushAsset) (opts : MergedOptions) (tenantId : Nat)
    (bulkBatchId requestedBy : Option Nat) (now : Nat) : Option (Nat → PendingUpdate) := do
  let assetSize ← asset.assetSize.int4
  let windowStartHour ← opts.windowStartHour.bind JsNumber.int4
  let windowEndHour ← opts.windowEndHour.bind JsNumber.int4
  let randomizeMaxSec ← opts.randomizeMaxSec.bind JsNumber.int4
  if storable asset.targetVersion && storable asset.assetUrl && storable asset.assetSha256 then
    some fun customerId =>
      { id := 0, tenantId, customerId, targetVersion := asset.targetVersion
        assetUrl := asset.assetUrl, assetSha256 := asset.assetSha256, assetSize, windowStartHour
        windowEndHour, randomizeMaxSec, bulkBatchId, requestedBy, createdAt := now
        updatedAt := now }
  else none

/-- What the columns of a new row are, where they fit. -/
theorem PushAsset.columns_some {asset : PushAsset} {opts : MergedOptions} {tenantId : Nat}
    {bulkBatchId requestedBy : Option Nat} {now : Nat} {row : Nat → PendingUpdate}
    (fits : asset.columns opts tenantId bulkBatchId requestedBy now = some row) (customerId : Nat) :
    asset.assetSize.int4 = some (row customerId).assetSize ∧
      opts.windowStartHour.bind JsNumber.int4 = some (row customerId).windowStartHour ∧
      opts.windowEndHour.bind JsNumber.int4 = some (row customerId).windowEndHour ∧
      opts.randomizeMaxSec.bind JsNumber.int4 = some (row customerId).randomizeMaxSec ∧
      row customerId =
        { id := 0, tenantId, customerId, targetVersion := asset.targetVersion
          assetUrl := asset.assetUrl, assetSha256 := asset.assetSha256
          assetSize := (row customerId).assetSize
          windowStartHour := (row customerId).windowStartHour
          windowEndHour := (row customerId).windowEndHour
          randomizeMaxSec := (row customerId).randomizeMaxSec
          bulkBatchId, requestedBy, createdAt := now, updatedAt := now } := by
  unfold PushAsset.columns at fits
  obtain ⟨size, sizeFits, fits⟩ := Option.bind_eq_some_iff.mp fits
  obtain ⟨start, startFits, fits⟩ := Option.bind_eq_some_iff.mp fits
  obtain ⟨close, closeFits, fits⟩ := Option.bind_eq_some_iff.mp fits
  obtain ⟨random, randomFits, fits⟩ := Option.bind_eq_some_iff.mp fits
  split at fits
  · obtain rfl := Option.some.inj fits
    exact ⟨sizeFits, startFits, closeFits, randomFits, rfl⟩
  · cases fits

/-- The `ctx` of the panel's functions. -/
structure PushContext where
  tenantId : Nat
  requestedBy : Nat
deriving DecidableEq, Repr

section Operations

variable (customers : List Customer) (now : Nat)

/-- `pushToCustomer`: the table afterwards and the id of the new row, or null for a customer of
another tenant and for a push that waits already. -/
def pushToCustomer (customerId : Nat) (asset : PushAsset) (opts : PushOptions) (ctx : PushContext)
    (t : PushTable) : PushTable × Except PushError (Option Nat) :=
  match validatePush asset opts.merged with
  | .error error => (t, .error error)
  | .ok () =>
    match customers.find? fun c => c.id == customerId && c.tenantId == ctx.tenantId with
    | none => (t, .ok none)
    | some owned =>
      if isOlder (parseVer (some asset.targetVersion)) (parseVer owned.lastVersion) then
        (t, .error (.validation ("이 거래처는 이미 더 높은 버전(" ++ owned.lastVersion.getD "" ++
          ")입니다. 에이전트는 낮은 버전을 설치하지 않습니다.")))
      else
        match asset.columns opts.merged ctx.tenantId none (some ctx.requestedBy) now with
        | none => (t, .error .database)
        | some row =>
          match t.add (row customerId) with
          | none => (t, .ok none)
          | some after => (after, .ok (some t.nextId))

/-- The customers whose waiting rows `pushBulk` cancels. -/
def isFleet (tenantId : Nat) (c : Customer) : Bool :=
  c.tenantId == tenantId && c.isActive && !c.isInternal

/-- The customers that `pushBulk` considers. -/
def isEligible (tenantId : Nat) (c : Customer) : Bool :=
  isFleet tenantId c && (c.enrollStatus == .active || c.enrollStatus == .pending)

/-- `string_to_array(text, '.')::int[]` of an accepted version; `none` where the cast fails. -/
def intArray (text : String) : Option (List Nat) :=
  (versionParts text).bind fun parts =>
    let values := parts.map digitsValue
    if values.all fun v => (v : Int) ≤ int4Max then some values else none

/-- The version condition of `pushBulk` on a customer; `none` where its cast fails. -/
def isBehind (target : List Nat) (c : Customer) : Option Bool :=
  match c.lastVersion with
  | none => some true
  | some version =>
    if isVersion version then (intArray version).map fun reported => decide (reported ≤ target)
    else some true

/-- The waiting rows that `pushBulk` supersedes. -/
def isSuperseded (tenantId : Nat) (row : PendingUpdate) : Bool :=
  row.tenantId == tenantId && row.active &&
    customers.any fun c => c.id == row.customerId && isFleet tenantId c

/-- The rows of the customers behind the target, skipping those that wait already. -/
def addAll (row : Nat → PendingUpdate) (targets : List Customer) (t : PushTable) : PushTable :=
  targets.foldl (fun t c => t.addNew (row c.id)) t

/-- The `INSERT … SELECT` of `pushBulk`; `none` where a cast fails. -/
def insertBulk (asset : PushAsset) (opts : MergedOptions) (ctx : PushContext) (bulkBatchId : Nat)
    (t : PushTable) : Option PushTable := do
  let row ← asset.columns opts ctx.tenantId (some bulkBatchId) (some ctx.requestedBy) now
  let target ← intArray asset.targetVersion
  let eligible := customers.filter (isEligible ctx.tenantId)
  if eligible.all fun c => (isBehind target c).isSome then
    some (addAll row (eligible.filter fun c => isBehind target c == some true) t)
  else none

/-- The guard of `pushBulk` against a version that is still staged. -/
def isStaged (agentMeta : Option AgentPushMeta) (allowStaging : Bool) (asset : PushAsset) : Bool :=
  !allowStaging && agentMeta.any fun m => m.version == asset.targetVersion && !m.autoRollout

/-- The result of `pushBulk`. -/
structure BulkResult where
  bulkBatchId : Nat
  inserted : Nat
  eligible : Nat
deriving DecidableEq, Repr

/-- `pushBulk`: cancel what waits, then insert. The two statements are no transaction. -/
def pushBulk (agentMeta : Option AgentPushMeta) (asset : PushAsset) (opts : PushOptions)
    (ctx : PushContext) (allowStaging : Bool) (t : PushTable) :
    PushTable × Except PushError BulkResult :=
  match validatePush asset opts.merged with
  | .error error => (t, .error error)
  | .ok () =>
    if isStaged agentMeta allowStaging asset then
      (t, .error (.validation ("v" ++ asset.targetVersion ++
        " 은 아직 검증이 끝나지 않은 스테이징 버전입니다. " ++
        "실기기 확인을 마친 뒤 AUTO_ROLLOUT=1 로 다시 발행하고 일괄 푸시하세요. " ++
        "(한 대만 확인하려면 거래처 행의 [푸시] 를 쓰세요.)")))
    else
      let bulkBatchId := t.nextId
      let cancelled := t.draw.mark (isSuperseded customers ctx.tenantId) (cancelSet now)
        (marks_cancelSet now)
      match insertBulk customers now asset opts.merged ctx bulkBatchId cancelled with
      | none => (cancelled, .error .database)
      | some after =>
        (after, .ok
          { bulkBatchId
            inserted := after.rows.length - cancelled.rows.length
            eligible := (customers.filter (isEligible ctx.tenantId)).length })

variable (hash : String → String)

/-- The row belongs to the agent that the device id and the token name. -/
def isAgents (remoteId token : String) (row : PendingUpdate) : Bool :=
  customers.any fun c => c.id == row.customerId && selects hash remoteId token c

/-- `ORDER BY created_at DESC LIMIT 1`. -/
def newest : List PendingUpdate → Option PendingUpdate
  | [] => none
  | row :: rows =>
    match newest rows with
    | none => some row
    | some other => if other.createdAt ≤ row.createdAt then some row else some other

/-- `getPendingForAgent`: the newest waiting push of the agent. -/
def getPendingForAgent (remoteId token : String) (t : PushTable) : Option PendingUpdate :=
  newest (t.rows.filter fun row => isAgents customers hash remoteId token row && row.active)

/-- `markApplied`. A repeated report of an applied push succeeds. -/
def markApplied (pushId : Nat) (remoteId token : String) (t : PushTable) : PushTable × Bool :=
  if t.rows.any fun row => row.id == pushId && isAgents customers hash remoteId token row then
    let here := fun row : PendingUpdate => row.id == pushId && row.appliedAt.isNone
    (t.mark here (applySet now) (marks_applySet now),
      t.rows.any here || t.rows.any fun row => row.id == pushId && row.appliedAt.isSome)
  else (t, false)

/-- `markFailed`. A repeated report of a failed push succeeds. -/
def markFailed (pushId : Nat) (remoteId token reason : String) (t : PushTable) :
    PushTable × Bool :=
  if t.rows.any fun row => row.id == pushId && isAgents customers hash remoteId token row then
    let here := fun row : PendingUpdate => row.id == pushId && row.failedAt.isNone
    (t.mark here (failSet now reason) (marks_failSet now reason),
      t.rows.any here || t.rows.any fun row => row.id == pushId && row.failedAt.isSome)
  else (t, false)

/-- `cancelPush`. -/
def cancelPush (pushId tenantId : Nat) (t : PushTable) : PushTable × Bool :=
  let here := fun row : PendingUpdate => row.id == pushId && row.tenantId == tenantId && row.active
  (t.mark here (cancelSet now) (marks_cancelSet now), t.rows.any here)

/-- `cancelBulk`. -/
def cancelBulk (bulkBatchId tenantId : Nat) (t : PushTable) : PushTable × Nat :=
  let here := fun row : PendingUpdate =>
    row.bulkBatchId == some bulkBatchId && row.tenantId == tenantId && row.active
  (t.mark here (cancelSet now) (marks_cancelSet now), t.rows.countP here)

/-- The result of `getBulkProgress`. -/
structure BulkProgress where
  total : Nat
  applied : Nat
  pending : Nat
  cancelled : Nat
  failed : Nat
deriving DecidableEq, Repr

/-- `getBulkProgress`: a row with several marks counts once, applied before failed before
cancelled. -/
def getBulkProgress (bulkBatchId tenantId : Nat) (t : PushTable) : BulkProgress :=
  let rows := t.rows.filter fun row =>
    row.bulkBatchId == some bulkBatchId && row.tenantId == tenantId
  let applied := rows.countP fun row => row.appliedAt.isSome
  let failed := rows.countP fun row => row.appliedAt.isNone && row.failedAt.isSome
  let cancelled := rows.countP fun row =>
    row.appliedAt.isNone && row.failedAt.isNone && row.cancelledAt.isSome
  { total := rows.length, applied, cancelled, failed
    pending := rows.length - applied - cancelled - failed }

/-- The options of an automatic push. -/
def autoOptions : MergedOptions where
  windowStartHour := some (.finite 0)
  windowEndHour := some (.finite 24)
  randomizeMaxSec := some (.finite 3600)

/-- The earlier rows of a target speak against an automatic push: the newest one is not
applied, or the target was applied twice. -/
def isSettled (prior : List PendingUpdate) : Bool :=
  match newest prior with
  | none => false
  | some latest => latest.appliedAt.isNone || 2 ≤ prior.countP fun row => row.appliedAt.isSome

/-- `autoQueueIfBehind`: whether a row was inserted. Errors are swallowed. -/
def autoQueueIfBehind (customer : Customer) (reportedVersion : String)
    (agentMeta : Option AgentPushMeta) (t : PushTable) : PushTable × Bool :=
  match agentMeta with
  | none => (t, false)
  | some m =>
    if !m.autoRollout then (t, false)
    else if customer.isInternal || jsTrim reportedVersion == "" then (t, false)
    else if !isVersionNewer m.version reportedVersion then (t, false)
    else if t.rows.any fun row =>
        row.customerId == customer.id && row.requestedBy.isSome && row.active then (t, false)
    else if isSettled (t.rows.filter fun row =>
      row.customerId == customer.id && row.targetVersion == m.version) then (t, false)
    else
      match PushAsset.columns ⟨m.version, m.url, m.sha256, m.size⟩ autoOptions customer.tenantId
        none none now with
      | none => (t, false)
      | some row =>
        match t.add (row customer.id) with
        | none => (t, false)
        | some after => (after, true)

end Operations

section Specs

variable {now : Nat} {s t : PushTable}

/-- The row that an insert stores. -/
theorem add_rows {values : PendingUpdate} (stored : s.add values = some t) :
    t.rows = s.rows ++ [{ values with id := s.nextId }] := by
  unfold PushTable.add at stored
  dsimp only at stored
  split at stored
  · obtain rfl := Option.some.inj stored
    rfl
  · cases stored

/-- The unique index admits the row. -/
theorem add_apart {values : PendingUpdate} (stored : s.add values = some t) :
    ∀ old ∈ s.rows, ¬ old.Clash { values with id := s.nextId } := by
  unfold PushTable.add at stored
  dsimp only at stored
  split at stored
  · assumption
  · cases stored

/-- The rows a bulk push inserts are those of some customers. -/
theorem addAll_rows (row : Nat → PendingUpdate) (targets : List Customer) (s : PushTable) :
    ∃ more, (addAll row targets s).rows = s.rows ++ more ∧
      ∀ new ∈ more, ∃ c id, new = { row c with id } := by
  unfold addAll
  induction targets generalizing s with
  | nil => exact ⟨[], (List.append_nil _).symm, List.forall_mem_nil _⟩
  | cons c targets ih =>
    rw [List.foldl_cons]
    obtain ⟨more, rows, own⟩ := ih (s.addNew (row c.id))
    cases stored : s.add (row c.id) with
    | none =>
      have same : s.addNew (row c.id) = s := by simp [PushTable.addNew, stored]
      rw [same] at rows ⊢
      exact ⟨more, rows, own⟩
    | some after =>
      have same : s.addNew (row c.id) = after := by simp [PushTable.addNew, stored]
      rw [same] at rows ⊢
      refine ⟨{ row c.id with id := s.nextId } :: more, ?_, ?_⟩
      · rw [rows, add_rows stored, List.append_assoc]
        rfl
      · intro new inside
        rcases List.mem_cons.mp inside with first | rest
        · exact ⟨c.id, s.nextId, first⟩
        · exact own new rest

/-- New rows carry their time, who requested them and no mark. -/
theorem columns_new {asset : PushAsset} {opts : MergedOptions} {tenantId : Nat}
    {bulkBatchId requestedBy : Option Nat} {row : Nat → PendingUpdate}
    (fits : asset.columns opts tenantId bulkBatchId requestedBy now = some row) (c : Nat) :
    (row c).createdAt = now ∧ (row c).active = true ∧ (row c).requestedBy = requestedBy ∧
      (row c).customerId = c ∧ (row c).targetVersion = asset.targetVersion := by
  rw [(PushAsset.columns_some fits c).2.2.2.2]
  exact ⟨rfl, rfl, rfl, rfl, rfl⟩

/-- A push by a person leaves the table, or inserts its row. -/
theorem pushToCustomer_cases (customers : List Customer) (now customerId : Nat) (asset : PushAsset)
    (opts : PushOptions) (ctx : PushContext) (t : PushTable) :
    let after := (pushToCustomer customers now customerId asset opts ctx t).1
    after = t ∨ validatePush asset opts.merged = .ok () ∧ ∃ row,
      asset.columns opts.merged ctx.tenantId none (some ctx.requestedBy) now = some row ∧
        t.add (row customerId) = some after := by
  dsimp only
  unfold pushToCustomer
  split
  · exact .inl rfl
  · rename_i valid
    split
    · exact .inl rfl
    · split
      · exact .inl rfl
      · split
        · exact .inl rfl
        · rename_i row fits
          split
          · exact .inl rfl
          · rename_i after stored
            exact .inr ⟨valid, row, fits, stored⟩

/-- The insert of a bulk push is of rows for customers that it considers. -/
theorem insertBulk_some {customers : List Customer} {asset : PushAsset} {opts : MergedOptions}
    {ctx : PushContext} {bulkBatchId : Nat}
    (inserted : insertBulk customers now asset opts ctx bulkBatchId s = some t) :
    ∃ row targets,
      asset.columns opts ctx.tenantId (some bulkBatchId) (some ctx.requestedBy) now = some row ∧
        (∀ c ∈ targets, c ∈ customers ∧ isEligible ctx.tenantId c = true) ∧
        t = addAll row targets s := by
  unfold insertBulk at inserted
  obtain ⟨row, fits, inserted⟩ := Option.bind_eq_some_iff.mp inserted
  obtain ⟨target, -, inserted⟩ := Option.bind_eq_some_iff.mp inserted
  dsimp only at inserted
  split at inserted
  · refine ⟨row, _, fits, ?_, (Option.some.inj inserted).symm⟩
    intro c chosen
    exact List.mem_filter.mp (List.mem_filter.mp chosen).1
  · cases inserted

/-- A bulk push leaves the table, or cancels what it supersedes, with rows inserted or not. -/
theorem pushBulk_cases (customers : List Customer) (now : Nat) (agentMeta : Option AgentPushMeta)
    (asset : PushAsset) (opts : PushOptions) (ctx : PushContext) (allowStaging : Bool)
    (t : PushTable) :
    let after := (pushBulk customers now agentMeta asset opts ctx allowStaging t).1
    let cancelled := t.draw.mark (isSuperseded customers ctx.tenantId) (cancelSet now)
      (marks_cancelSet now)
    after = t ∨ validatePush asset opts.merged = .ok () ∧
      (after = cancelled ∨ ∃ row targets,
        asset.columns opts.merged ctx.tenantId (some t.nextId) (some ctx.requestedBy) now =
            some row ∧
          (∀ c ∈ targets, c ∈ customers ∧ isEligible ctx.tenantId c = true) ∧
          after = addAll row targets cancelled) := by
  dsimp only
  unfold pushBulk
  dsimp only
  split
  · exact .inl rfl
  · rename_i valid
    split
    · exact .inl rfl
    · split
      · exact .inr ⟨valid, .inl rfl⟩
      · rename_i after inserted
        exact .inr ⟨valid, .inr (insertBulk_some inserted)⟩

/-- An automatic push leaves the table, or inserts its row where no push of a person waits and the
target is not settled. -/
theorem autoQueueIfBehind_cases (now : Nat) (customer : Customer) (reportedVersion : String)
    (agentMeta : Option AgentPushMeta) (t : PushTable) :
    autoQueueIfBehind now customer reportedVersion agentMeta t = (t, false) ∨
      ∃ m row after, agentMeta = some m ∧
        (t.rows.any fun old =>
          old.customerId == customer.id && old.requestedBy.isSome && old.active) = false ∧
        isSettled (t.rows.filter fun old =>
          old.customerId == customer.id && old.targetVersion == m.version) = false ∧
        PushAsset.columns ⟨m.version, m.url, m.sha256, m.size⟩ autoOptions customer.tenantId
          none none now = some row ∧
        t.add (row customer.id) = some after ∧
        autoQueueIfBehind now customer reportedVersion agentMeta t = (after, true) := by
  unfold autoQueueIfBehind
  split
  · exact .inl rfl
  · rename_i m
    split
    · exact .inl rfl
    · split
      · exact .inl rfl
      · split
        · exact .inl rfl
        · split
          · exact .inl rfl
          · rename_i unpinned
            split
            · exact .inl rfl
            · rename_i unsettled
              split
              · exact .inl rfl
              · rename_i row fits
                split
                · exact .inl rfl
                · rename_i after stored
                  exact .inr ⟨m, row, after, rfl, Bool.not_eq_true _ ▸ unpinned,
                    Bool.not_eq_true _ ▸ unsettled, fits, stored, rfl⟩

end Specs

end ChainRemote.Panel
