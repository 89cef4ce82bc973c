import Mathlib.Algebra.Order.Ring.Unbundled.Rat
import ChainRemote.Agent.PushChecks
import ChainRemote.Panel.PushBulk

/-!
# What the panel queues and what the agent can run

The panel checks a push in `validatePush`, or in `parseMeta` for an automatic one; the agent
checks it again in its own terms: unsigned fields of a fixed width, `parse_version`,
`is_valid_sha256_hex` and an hour window. This module says which of the rows the panel
inserts pass the agent's checks.
-/

namespace ChainRemote.Link.PushAccepted

open Lib Agent Panel

/-- The body served for a row, decoded by the agent. -/
def decode (row : PendingUpdate) : Option (PendingResponse Nat) := do
  let assetSize ← decodeUnsigned 64 row.assetSize
  let windowStartHour ← decodeUnsigned 32 row.windowStartHour
  let windowEndHour ← decodeUnsigned 32 row.windowEndHour
  let randomizeMaxSec ← decodeUnsigned 32 row.randomizeMaxSec
  return { id := row.id, targetVersion := row.targetVersion, assetUrl := row.assetUrl
           assetSha256 := row.assetSha256, assetSize, windowStartHour, windowEndHour
           randomizeMaxSec }

/-- The agent can run the push: it decodes the body, reads the version and the hash, and the
window is open at some hour of the day. -/
def Executable (row : PendingUpdate) : Prop :=
  ∃ response, decode row = some response ∧ (parseVersion response.targetVersion).isSome = true ∧
    isValidSha256Hex response.assetSha256 = true ∧
    ∃ hour, hour < 24 ∧
      withinBusinessWindow response.windowStartHour response.windowEndHour hour = true

/-- A call that inserts rows. -/
inductive Insertion
  | pushToCustomer (customers : List Customer) (now customerId : Nat) (asset : PushAsset)
      (opts : PushOptions) (ctx : PushContext)
  | pushBulk (call : BulkCall)
  /-- An automatic push of the published file. -/
  | autoQueueIfBehind (now : Nat) (customer : Customer) (reportedVersion : String) (file : MetaFile)

/-- The table after the call. -/
def Insertion.after (t : PushTable) : Insertion → PushTable
  | .pushToCustomer customers now customerId asset opts ctx =>
    (Panel.pushToCustomer customers now customerId asset opts ctx t).1
  | .pushBulk call => (call.run t).1
  | .autoQueueIfBehind now customer reportedVersion file =>
    (Panel.autoQueueIfBehind now customer reportedVersion (parseMeta file) t).1

/-- The call inserts the row. -/
def Inserts (e : Insertion) (t : PushTable) (row : PendingUpdate) : Prop :=
  row ∈ (e.after t).rows ∧ ∀ old ∈ t.rows, old.id ≠ row.id

/-- A push from the panel that the agent can run: the places of the version stay below
`2 ^ 32`, and the window is not from 24 to 0. -/
def PanelSuits (asset : PushAsset) (opts : MergedOptions) : Prop :=
  (∀ parts, versionParts asset.targetVersion = some parts →
      ∀ part ∈ parts, digitsValue part < 2 ^ 32) ∧
    ¬ (opts.windowStartHour.bind JsNumber.integer = some 24 ∧
      opts.windowEndHour.bind JsNumber.integer = some 0)

/-- The condition on a call. An automatic push takes its texts from the published file, where
nothing but their presence was checked. -/
def Suits : Insertion → Prop
  | .pushToCustomer _ _ _ asset opts _ => PanelSuits asset opts.merged
  | .pushBulk call => PanelSuits call.asset call.opts.merged
  | .autoQueueIfBehind _ _ _ file =>
    Readable (file.version.getD "") ∧ (rustTrim (file.sha256.getD "")).length = 64 ∧
      ∀ c ∈ rustTrim (file.sha256.getD ""), isHexDigit c = true

/-- The agent reads numbers in range as they are. -/
theorem decode_some {row : PendingUpdate} (size : 0 ≤ row.assetSize ∧ row.assetSize ≤ int4Max)
    (start : 0 ≤ row.windowStartHour ∧ row.windowStartHour ≤ 24)
    (close : 0 ≤ row.windowEndHour ∧ row.windowEndHour ≤ 24)
    (random : 0 ≤ row.randomizeMaxSec ∧ row.randomizeMaxSec ≤ 86400) :
    decode row = some
      { id := row.id, targetVersion := row.targetVersion, assetUrl := row.assetUrl
        assetSha256 := row.assetSha256, assetSize := row.assetSize.toNat
        windowStartHour := row.windowStartHour.toNat, windowEndHour := row.windowEndHour.toNat
        randomizeMaxSec := row.randomizeMaxSec.toNat } := by
  have unsigned : ∀ (bits : Nat) (value : Int), 0 ≤ value ∧ value < 2 ^ bits →
      decodeUnsigned bits value = some value.toNat := by
    intro bits value range
    unfold decodeUnsigned
    rw [if_pos range]
  unfold int4Max at size
  unfold decode
  rw [unsigned 64 row.assetSize (by omega), unsigned 32 row.windowStartHour (by omega),
    unsigned 32 row.windowEndHour (by omega), unsigned 32 row.randomizeMaxSec (by omega)]
  rfl

/-- What decides over a row whose numbers are in range. -/
theorem executable_iff {row : PendingUpdate} (size : 0 ≤ row.assetSize ∧ row.assetSize ≤ int4Max)
    (start : 0 ≤ row.windowStartHour ∧ row.windowStartHour ≤ 24)
    (close : 0 ≤ row.windowEndHour ∧ row.windowEndHour ≤ 24)
    (apart : row.windowStartHour ≠ row.windowEndHour)
    (random : 0 ≤ row.randomizeMaxSec ∧ row.randomizeMaxSec ≤ 86400) :
    Executable row ↔ Readable row.targetVersion ∧ isValidSha256Hex row.assetSha256 = true ∧
      ¬ (row.windowStartHour = 24 ∧ row.windowEndHour = 0) := by
  have window := @withinBusinessWindow_iff row.windowStartHour.toNat row.windowEndHour.toNat
    (by omega) (by omega) (by omega)
  have ends : (row.windowStartHour.toNat = 24 ∧ row.windowEndHour.toNat = 0) ↔
      row.windowStartHour = 24 ∧ row.windowEndHour = 0 := by omega
  rw [ends] at window
  unfold Executable
  rw [decode_some size start close random]
  constructor
  · rintro ⟨response, same, version, sha256, opens⟩
    obtain rfl := Option.some.inj same
    exact ⟨(parseVersion_isSome _).mp version, sha256, window.mp opens⟩
  · rintro ⟨version, sha256, opens⟩
    exact ⟨_, rfl, (parseVersion_isSome _).mpr version, sha256, window.mpr opens⟩

theorem rustBlank_of_isHexDigit {c : Char} (digit : isHexDigit c = true) :
    rustBlank c = false := by
  simp only [isHexDigit, Bool.or_eq_true, Bool.and_eq_true, decide_eq_true_eq] at digit
  rcases digit with (decimal | lower) | upper
  · exact rustBlank_of_isDigit decimal
  · have low : 97 ≤ c.toNat := lower.1
    exact rustBlank_of_between (by omega) lower.2
  · have high : c.toNat ≤ 70 := upper.2
    have low : 65 ≤ c.toNat := upper.1
    exact rustBlank_of_between (by omega) (by omega)

/-- The agent reads a version of the panel's format exactly where its places fit. -/
theorem readable_iff {text : String} (accepted : isVersion text = true) :
    Readable text ↔ ∀ parts, versionParts text = some parts →
      ∀ part ∈ parts, digitsValue part < 2 ^ 32 := by
  obtain ⟨parts, found⟩ := Option.isSome_iff_exists.mp accepted
  obtain ⟨major, minor, build, rfl, split, joined, first, second, third⟩ := versionParts_some found
  have trimmed : rustTrim text = text.toList := by
    apply stripWhere_of_forall
    intro c inside
    rw [joined] at inside
    simp only [List.mem_append, List.mem_cons] at inside
    rcases inside with own | rfl | own | rfl | own
    · exact rustBlank_of_isDigit (isDigits_all first c own)
    · decide
    · exact rustBlank_of_isDigit (isDigits_all second c own)
    · decide
    · exact rustBlank_of_isDigit (isDigits_all third c own)
  have numeral : ∀ {place : List Char}, isDigits place = true →
      (Numeral place ↔ digitsValue place < 2 ^ 32) := by
    intro place digits
    constructor
    · rintro ⟨own, rfl | rfl, -, small⟩
      · exact small
      · rw [not_isDigits_plus] at digits
        cases digits
    · exact fun small => ⟨place, .inl rfl, digits, small⟩
  unfold Readable
  rw [trimmed, split, found]
  constructor
  · rintro ⟨major', minor', build', rest, same, fits⟩ parts own part inside
    obtain rfl := Option.some.inj own
    simp only [List.cons.injEq] at same
    obtain ⟨rfl, rfl, rfl, -⟩ := same
    rw [numeral first, numeral second, takeWhile_isDigit third] at fits
    simp only [List.mem_cons, List.not_mem_nil, or_false] at inside
    rcases inside with rfl | rfl | rfl
    · exact fits.1
    · exact fits.2.1
    · exact fits.2.2
  · intro fits
    have each := fits _ rfl
    refine ⟨major, minor, build, [], rfl, ?_⟩
    rw [numeral first, numeral second, takeWhile_isDigit third]
    exact ⟨each major (by simp), each minor (by simp), each build (by simp)⟩

/-- The agent accepts a hash of the panel's format. -/
theorem isValidSha256Hex_of_isSha256 {text : String} (accepted : isSha256 text = true) :
    isValidSha256Hex text = true := by
  simp only [isSha256, Bool.and_eq_true, List.all_eq_true] at accepted
  have trimmed : rustTrim text = text.toList := by
    apply stripWhere_of_forall
    exact fun c inside => rustBlank_of_isHexDigit (accepted.2 c inside)
  simp only [isValidSha256Hex, trimmed, Bool.and_eq_true, List.all_eq_true]
  exact accepted

/-- A column takes a whole number as it is. -/
theorem integer_of_int4 {n : Option JsNumber} {v : Int} (stored : n.bind JsNumber.int4 = some v) :
    n.bind JsNumber.integer = some v ∧ v ≤ int4Max := by
  obtain ⟨m, given, fits⟩ := Option.bind_eq_some_iff.mp stored
  have ⟨whole, range⟩ := Option.filter_eq_some_iff.mp fits
  simp only [Bool.and_eq_true, decide_eq_true_eq] at range
  rw [given]
  exact ⟨whole, range.2⟩

/-- Two numbers of one whole value are one number. -/
theorem eq_of_integer {a b : Option JsNumber} {v : Int} (left : a.bind JsNumber.integer = some v)
    (right : b.bind JsNumber.integer = some v) : a = b := by
  have finite : ∀ {n : Option JsNumber}, n.bind JsNumber.integer = some v →
      n = some (.finite v) := by
    intro n whole
    obtain ⟨m, given, value⟩ := Option.bind_eq_some_iff.mp whole
    cases m with
    | nan => cases value
    | infinite negative => cases value
    | finite q =>
      simp only [JsNumber.integer] at value
      split at value
      · rename_i unit
        have exact' : q = (v : Rat) := by
          apply Rat.ext
          · exact Option.some.inj value
          · exact unit
        rw [given, exact']
      · cases value
  rw [finite left, finite right]

/-- A row with the columns of an accepted push runs exactly where the push suits. -/
theorem executable_of_accepted {asset : PushAsset} {opts : MergedOptions}
    (accepted : Accepted asset opts) {tenantId : Nat} {bulkBatchId requestedBy : Option Nat}
    {now : Nat} {row : Nat → PendingUpdate}
    (fits : asset.columns opts tenantId bulkBatchId requestedBy now = some row)
    (customerId id : Nat) :
    Executable { row customerId with id } ↔ PanelSuits asset opts := by
  obtain ⟨sizeFits, startFits, closeFits, randomFits, columns⟩ :=
    PushAsset.columns_some fits customerId
  obtain ⟨size, whole, positive⟩ := accepted.size
  obtain ⟨start, startStored, startRange⟩ := int4_of_wholeUpTo (by decide) accepted.start
  obtain ⟨close, closeStored, closeRange⟩ := int4_of_wholeUpTo (by decide) accepted.close
  obtain ⟨random, randomStored, randomRange⟩ := int4_of_wholeUpTo (by decide) accepted.random
  obtain rfl := Option.some.inj (startFits.symm.trans startStored)
  obtain rfl := Option.some.inj (closeFits.symm.trans closeStored)
  obtain rfl := Option.some.inj (randomFits.symm.trans randomStored)
  have startWhole := (integer_of_int4 startFits).1
  have closeWhole := (integer_of_int4 closeFits).1
  have sizeWhole := integer_of_int4 (n := some asset.assetSize) sizeFits
  obtain rfl := Option.some.inj (whole.symm.trans sizeWhole.1)
  have apart : (row customerId).windowStartHour ≠ (row customerId).windowEndHour := by
    intro same
    rw [← same] at closeWhole
    exact accepted.apart (eq_of_integer startWhole closeWhole)
  have version : (row customerId).targetVersion = asset.targetVersion := by rw [columns]
  have sha256 : (row customerId).assetSha256 = asset.assetSha256 := by rw [columns]
  have sizeRange : 0 ≤ (row customerId).assetSize ∧ (row customerId).assetSize ≤ int4Max :=
    ⟨by omega, sizeWhole.2⟩
  have decides := @executable_iff { row customerId with id } sizeRange startRange closeRange apart
    randomRange
  rw [decides]
  unfold PanelSuits
  dsimp only
  rw [version, sha256, readable_iff accepted.version, startWhole, closeWhole]
  simp only [isValidSha256Hex_of_isSha256 accepted.sha256, true_and, Option.some.injEq]

section Rows

variable {t after : PushTable} {values row : PendingUpdate}

/-- A row of the table after an insert is an old one or the inserted one. -/
theorem mem_add (stored : t.add values = some after) (inside : row ∈ after.rows) :
    row ∈ t.rows ∨ row = { values with id := t.nextId } := by
  rw [add_rows stored] at inside
  rcases List.mem_append.mp inside with old | new
  · exact .inl old
  · exact .inr (List.mem_singleton.mp new)

theorem mem_addAll {columns : Nat → PendingUpdate} {targets : List Customer}
    (inside : row ∈ (addAll columns targets t).rows) :
    row ∈ t.rows ∨ ∃ customerId id, row = { columns customerId with id } := by
  obtain ⟨more, rows, own⟩ := addAll_rows columns targets t
  rw [rows] at inside
  rcases List.mem_append.mp inside with old | new
  · exact .inl old
  · exact .inr (own row new)

end Rows

/-- The rows that a call inserts, the one id apart, have the columns of its push. -/
inductive Columns : Insertion → PendingUpdate → Prop
  | pushToCustomer {customers : List Customer} {now customerId : Nat} {asset : PushAsset}
      {opts : PushOptions} {ctx : PushContext} {row : Nat → PendingUpdate} (id : Nat)
      (accepted : Accepted asset opts.merged)
      (fits : asset.columns opts.merged ctx.tenantId none (some ctx.requestedBy) now = some row) :
      Columns (.pushToCustomer customers now customerId asset opts ctx) { row customerId with id }
  | pushBulk {call : BulkCall} {row : Nat → PendingUpdate} (bulkBatchId customerId id : Nat)
      (accepted : Accepted call.asset call.opts.merged)
      (fits : call.asset.columns call.opts.merged call.ctx.tenantId (some bulkBatchId)
        (some call.ctx.requestedBy) call.now = some row) :
      Columns (.pushBulk call) { row customerId with id }
  | autoQueueIfBehind {now : Nat} {customer : Customer} {reportedVersion : String}
      {file : MetaFile} {m : AgentPushMeta} {row : Nat → PendingUpdate} (id : Nat)
      (published : parseMeta file = some m)
      (fits : PushAsset.columns ⟨m.version, m.url, m.sha256, m.size⟩ autoOptions customer.tenantId
        none none now = some row) :
      Columns (.autoQueueIfBehind now customer reportedVersion file) { row customer.id with id }

section Inserted

variable {t : PushTable} {inserted : PendingUpdate}

theorem columns_of_pushToCustomer {customers : List Customer} {now customerId : Nat}
    {asset : PushAsset} {opts : PushOptions} {ctx : PushContext}
    (inserts : Inserts (.pushToCustomer customers now customerId asset opts ctx) t inserted) :
    Columns (.pushToCustomer customers now customerId asset opts ctx) inserted := by
  have ⟨inside, fresh⟩ := inserts
  have absent : inserted ∉ t.rows := fun old => fresh inserted old rfl
  unfold Insertion.after at inside
  dsimp only at inside
  rcases pushToCustomer_cases customers now customerId asset opts ctx t with
    same | ⟨checked, row, fits, stored⟩
  · rw [same] at inside
    exact absurd inside absent
  · cases mem_add stored inside with
    | inl old => exact absurd old absent
    | inr new =>
      rw [new]
      exact .pushToCustomer t.nextId (accepted_of_validatePush checked) fits

/-- The cancellation of a bulk push inserts no id. -/
theorem id_of_cancelled {call : BulkCall} {row : PendingUpdate}
    (inside : row ∈ (call.cancelled t).rows) : ∃ old ∈ t.rows, old.id = row.id := by
  unfold BulkCall.cancelled PushTable.mark PushTable.draw at inside
  rcases mem_updateWhere.mp inside with ⟨old, before, -, rfl⟩ | ⟨before, -⟩
  · exact ⟨old, before, rfl⟩
  · exact ⟨row, before, rfl⟩

theorem columns_of_pushBulk {call : BulkCall} (inserts : Inserts (.pushBulk call) t inserted) :
    Columns (.pushBulk call) inserted := by
  have ⟨inside, fresh⟩ := inserts
  have absent : inserted ∉ t.rows := fun old => fresh inserted old rfl
  have notCancelled : inserted ∉ (call.cancelled t).rows := by
    intro there
    obtain ⟨old, before, same⟩ := id_of_cancelled there
    exact fresh old before same
  unfold Insertion.after BulkCall.run at inside
  dsimp only at inside
  rcases pushBulk_cases call.customers call.now call.agentMeta call.asset call.opts call.ctx
    call.allowStaging t with same | ⟨checked, same | ⟨row, targets, fits, -, same⟩⟩
  · rw [same] at inside
    exact absurd inside absent
  · rw [same] at inside
    exact absurd inside notCancelled
  · rw [same] at inside
    cases mem_addAll inside with
    | inl old => exact absurd old notCancelled
    | inr new =>
      obtain ⟨customerId, id, rfl⟩ := new
      exact .pushBulk t.nextId customerId id (accepted_of_validatePush checked) fits

theorem columns_of_autoQueueIfBehind {now : Nat} {customer : Customer} {reportedVersion : String}
    {file : MetaFile}
    (inserts : Inserts (.autoQueueIfBehind now customer reportedVersion file) t inserted) :
    Columns (.autoQueueIfBehind now customer reportedVersion file) inserted := by
  have ⟨inside, fresh⟩ := inserts
  have absent : inserted ∉ t.rows := fun old => fresh inserted old rfl
  unfold Insertion.after at inside
  dsimp only at inside
  rcases autoQueueIfBehind_cases now customer reportedVersion (parseMeta file) t with
    same | ⟨m, row, after, published, -, -, fits, stored, same⟩
  · rw [same] at inside
    exact absurd inside absent
  · rw [same] at inside
    cases mem_add stored inside with
    | inl old => exact absurd old absent
    | inr new =>
      rw [new]
      exact .autoQueueIfBehind t.nextId published fits

end Inserted

/-- What `parseMeta` hands on. -/
theorem parseMeta_some {file : MetaFile} {m : AgentPushMeta} (published : parseMeta file = some m) :
    m.version = file.version.getD "" ∧ m.sha256 = file.sha256.getD "" ∧
      m.size.nonpositive = false := by
  unfold parseMeta at published
  dsimp only at published
  split at published
  · cases published
  · rename_i present
    obtain rfl := Option.some.inj published
    refine ⟨rfl, rfl, ?_⟩
    cases sign : (file.size.getD (.finite 0)).nonpositive with
    | false => rfl
    | true => exact absurd (.inr (.inr (.inr sign))) present

/-- A whole number that is not at most zero is positive. -/
theorem positive_of_integer {n : JsNumber} {v : Int} (whole : n.integer = some v)
    (sign : n.nonpositive = false) : 0 < v := by
  cases n with
  | nan => cases whole
  | infinite negative => cases whole
  | finite q =>
    simp only [JsNumber.integer] at whole
    split at whole
    · obtain rfl := Option.some.inj whole
      have above : 0 < q := Rat.not_le.mp (by simpa [JsNumber.nonpositive] using sign)
      exact Rat.num_pos.mpr above
    · cases whole

/-- An automatic row runs exactly where the agent reads its version and its hash. -/
theorem executable_of_published {file : MetaFile} {m : AgentPushMeta} {tenantId now : Nat}
    {row : Nat → PendingUpdate} (published : parseMeta file = some m)
    (fits : PushAsset.columns ⟨m.version, m.url, m.sha256, m.size⟩ autoOptions tenantId none none
      now = some row) (customerId id : Nat) :
    Executable { row customerId with id } ↔
      Readable (file.version.getD "") ∧ isValidSha256Hex (file.sha256.getD "") = true := by
  obtain ⟨sizeFits, startFits, closeFits, randomFits, columns⟩ :=
    PushAsset.columns_some fits customerId
  obtain ⟨sameVersion, sameSha256, sign⟩ := parseMeta_some published
  have sizeWhole := integer_of_int4 (n := some m.size) sizeFits
  have positive := positive_of_integer sizeWhole.1 sign
  have start : (row customerId).windowStartHour = 0 := (Option.some.inj startFits).symm
  have close : (row customerId).windowEndHour = 24 := (Option.some.inj closeFits).symm
  have random : (row customerId).randomizeMaxSec = 3600 := (Option.some.inj randomFits).symm
  have version : (row customerId).targetVersion = file.version.getD "" := by
    rw [columns]
    exact sameVersion
  have sha256 : (row customerId).assetSha256 = file.sha256.getD "" := by
    rw [columns]
    exact sameSha256
  have sizeRange : 0 ≤ (row customerId).assetSize ∧ (row customerId).assetSize ≤ int4Max :=
    ⟨by omega, sizeWhole.2⟩
  have decides := @executable_iff { row customerId with id } sizeRange
    (by dsimp only; omega) (by dsimp only; omega) (by dsimp only; omega) (by dsimp only; omega)
  rw [decides]
  dsimp only
  rw [version, sha256, start]
  simp

/-- The agent can run an inserted row exactly where the call suits it. -/
theorem inserted_executable_iff (e : Insertion) (t : PushTable) (row : PendingUpdate)
    (inserts : Inserts e t row) : Executable row ↔ Suits e := by
  cases e with
  | pushToCustomer customers now customerId asset opts ctx =>
    cases columns_of_pushToCustomer inserts with
    | pushToCustomer id accepted fits => exact executable_of_accepted accepted fits customerId id
  | pushBulk call =>
    cases columns_of_pushBulk inserts with
    | pushBulk bulkBatchId customerId id accepted fits =>
      exact executable_of_accepted accepted fits customerId id
  | autoQueueIfBehind now customer reportedVersion file =>
    cases columns_of_autoQueueIfBehind inserts with
    | autoQueueIfBehind id published fits =>
      rw [executable_of_published published fits customer.id id]
      simp only [Suits, isValidSha256Hex, Bool.and_eq_true, beq_iff_eq, List.all_eq_true]

/-- The empty queue. -/
def emptyTable : PushTable := ⟨[], 0, ⟨List.nodup_nil, List.forall_mem_nil _, .nil⟩⟩

/-- A push of one version to the store 7, in one window. -/
def pushOf (version : String) (start close : Nat) : Insertion :=
  .pushToCustomer [{ id := 7, tenantId := 1, name := "cafe", lastVersion := some "1.0.0" }] 1000 7
    { targetVersion := version, assetUrl := "https://a"
      assetSha256 := "2cf24dba5fb0a30e26e83b2ac5b9e29e1b161e5c1fa7425e73043362938b9824"
      assetSize := .finite 1000 }
    { windowStartHour := some (some (.finite start)), windowEndHour := some (some (.finite close)) }
    ⟨1, 3⟩

/-- The row that `pushOf` inserts. -/
def rowOf (version : String) (start close : Nat) : PendingUpdate :=
  { id := 0, tenantId := 1, customerId := 7, targetVersion := version, assetUrl := "https://a"
    assetSha256 := "2cf24dba5fb0a30e26e83b2ac5b9e29e1b161e5c1fa7425e73043362938b9824"
    assetSize := 1000, windowStartHour := start, windowEndHour := close, randomizeMaxSec := 600
    requestedBy := some 3, createdAt := 1000, updatedAt := 1000 }

/-- An ordinary push, in a window over midnight, can be run. -/
theorem pushOf_night_executable :
    Inserts (pushOf "1.4.132" 22 5) emptyTable (rowOf "1.4.132" 22 5) ∧
      Executable (rowOf "1.4.132" 22 5) := by
  have inserts : Inserts (pushOf "1.4.132" 22 5) emptyTable (rowOf "1.4.132" 22 5) :=
    ⟨by decide +kernel, List.forall_mem_nil _⟩
  refine ⟨inserts, (inserted_executable_iff _ _ _ inserts).mpr ⟨?_, by decide +kernel⟩⟩
  intro parts found
  have known : versionParts "1.4.132" = some [['1'], ['4'], ['1', '3', '2']] := by decide +kernel
  obtain rfl := Option.some.inj (known.symm.trans found)
  decide +kernel

/-- The panel accepts a window from 24 to 0, which is open at no hour, and a version with a
place of `2 ^ 32`, which the agent cannot read. -/
theorem pushOf_not_executable :
    Inserts (pushOf "1.4.132" 24 0) emptyTable (rowOf "1.4.132" 24 0) ∧
      ¬ Executable (rowOf "1.4.132" 24 0) ∧
      Inserts (pushOf "1.4.4294967296" 0 7) emptyTable (rowOf "1.4.4294967296" 0 7) ∧
      ¬ Executable (rowOf "1.4.4294967296" 0 7) := by
  refine ⟨⟨by decide +kernel, List.forall_mem_nil _⟩, ?_,
    ⟨by decide +kernel, List.forall_mem_nil _⟩, ?_⟩
  · rintro ⟨response, decoded, -, -, hour, day, opens⟩
    rw [decode_some (by decide) (by decide) (by decide) (by decide)] at decoded
    obtain rfl := Option.some.inj decoded
    simp [rowOf, withinBusinessWindow] at opens
    omega
  · rintro ⟨response, decoded, version, -⟩
    rw [decode_some (by decide) (by decide) (by decide) (by decide)] at decoded
    obtain rfl := Option.some.inj decoded
    revert version
    decide +kernel

end ChainRemote.Link.PushAccepted
