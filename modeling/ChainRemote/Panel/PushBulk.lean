import Mathlib.Data.List.Pairwise
import ChainRemote.Panel.Push

/-!
# When a bulk push is all or nothing

`pushBulk` cancels what waits and inserts the new rows in a second statement. The insert
casts its arguments and every considered customer's self-reported version to 32-bit
integers, so a value that `validatePush` and the heartbeat route let through can make it
fail after the cancellation is stored.
-/

namespace ChainRemote.Panel

open Lib

/-- The rows that wait for a customer and a version. -/
def PendingUpdate.Waits (customerId : Nat) (version : String) (row : PendingUpdate) : Prop :=
  row.active = true ∧ row.customerId = customerId ∧ row.targetVersion = version

/-- The customer's reported version is absent, unreadable or not above the target. -/
def NotAhead (target : String) (c : Customer) : Prop :=
  ∀ version, c.lastVersion = some version → ∀ reported wanted, versionParts version = some reported →
    versionParts target = some wanted → reported.map digitsValue ≤ wanted.map digitsValue

/-- A call of `pushBulk`, with the customers and the clock of its moment. -/
structure BulkCall where
  customers : List Customer
  now : Nat
  agentMeta : Option AgentPushMeta
  asset : PushAsset
  opts : PushOptions
  ctx : PushContext
  allowStaging : Bool

namespace BulkCall

variable (call : BulkCall) (t : PushTable)

/-- What the call does to the table and returns. -/
def run : PushTable × Except PushError BulkResult :=
  pushBulk call.customers call.now call.agentMeta call.asset call.opts call.ctx call.allowStaging t

/-- A throw leaves the table; a return leaves exactly one waiting row of the target for every
eligible customer that is not ahead of it. -/
def AllOrNothing : Prop :=
  (∀ error, (call.run t).2 = .error error → (call.run t).1.rows = t.rows) ∧
    ∀ result, (call.run t).2 = .ok result →
      ∀ c ∈ call.customers, isEligible call.ctx.tenantId c = true →
        NotAhead call.asset.targetVersion c →
          ∃ row ∈ (call.run t).1.rows, row.Waits c.id call.asset.targetVersion ∧
            ∀ other ∈ (call.run t).1.rows, other.Waits c.id call.asset.targetVersion → other = row

/-- The places of a version fit a 32-bit integer. -/
def VersionFits (text : String) : Prop :=
  ∀ parts, versionParts text = some parts → ∀ part ∈ parts, (digitsValue part : Int) ≤ int4Max

/-- Every value the insert casts or stores fits: the size, the address, the places of the
target, and those of every considered customer's reported version. -/
structure Fits : Prop where
  size : ∀ size, call.asset.assetSize.integer = some size → size ≤ int4Max
  url : storable call.asset.assetUrl = true
  target : VersionFits call.asset.targetVersion
  fleet : ∀ c ∈ call.customers, isEligible call.ctx.tenantId c = true →
    ∀ version, c.lastVersion = some version → VersionFits version

/-- No row waits that the call would cancel. -/
def NothingWaits : Prop :=
  ∀ row ∈ t.rows, isSuperseded call.customers call.ctx.tenantId row = false

end BulkCall

section Columns

/-- The places of an accepted version, joined, are its text. -/
theorem versionParts_some {text : String} {parts : List (List Char)}
    (accepted : versionParts text = some parts) :
    ∃ major minor build, parts = [major, minor, build] ∧
      text.toList.splitOn '.' = [major, minor, build] ∧
      text.toList = major ++ '.' :: (minor ++ '.' :: build) ∧
      isDigits major = true ∧ isDigits minor = true ∧ isDigits build = true := by
  unfold versionParts at accepted
  have joined : ['.'].intercalate (text.toList.splitOn '.') = text.toList :=
    List.intercalate_splitOn '.'
  split at accepted
  · rename_i major minor build split
    split at accepted
    · rename_i digits
      simp only [Bool.and_eq_true] at digits
      refine ⟨major, minor, build, (Option.some.inj accepted).symm, split, ?_, digits.1.1,
        digits.1.2, digits.2⟩
      rw [← joined, split]
      simp [List.intercalate]
    · cases accepted
  · cases accepted

/-- Digits hold no zero character. -/
theorem isDigits_storable {text : List Char} (digits : isDigits text = true) :
    Char.ofNat 0 ∉ text := by
  intro inside
  have zero := isDigits_all digits _ inside
  revert zero
  decide

theorem storable_of_isVersion {text : String} (accepted : isVersion text = true) :
    storable text = true := by
  obtain ⟨parts, found⟩ := Option.isSome_iff_exists.mp accepted
  obtain ⟨major, minor, build, -, -, joined, first, second, third⟩ := versionParts_some found
  have dot : Char.ofNat 0 ≠ '.' := by decide
  simp [storable, joined, isDigits_storable first, isDigits_storable second,
    isDigits_storable third, dot]

theorem storable_of_isSha256 {text : String} (accepted : isSha256 text = true) :
    storable text = true := by
  simp only [isSha256, Bool.and_eq_true, List.all_eq_true] at accepted
  have absent : Char.ofNat 0 ∉ text.toList := by
    intro inside
    have zero := accepted.2 _ inside
    revert zero
    decide
  simp [storable, absent]

/-- A whole number up to a bound of 32 bits fits its column. -/
theorem int4_of_wholeUpTo {bound : Int} {n : Option JsNumber} (small : bound ≤ int4Max)
    (accepted : wholeUpTo bound n = true) :
    ∃ v, n.bind JsNumber.int4 = some v ∧ 0 ≤ v ∧ v ≤ bound := by
  unfold wholeUpTo at accepted
  obtain ⟨v, found, range⟩ := (Option.any_eq_true _ _).mp accepted
  obtain ⟨m, given, whole⟩ := Option.bind_eq_some_iff.mp found
  simp only [Bool.and_eq_true, decide_eq_true_eq] at range
  have lower : int4Min ≤ v := by
    have negative : int4Min ≤ 0 := by decide
    omega
  have upper : v ≤ int4Max := by omega
  refine ⟨v, ?_, range.1, range.2⟩
  rw [given]
  simp [JsNumber.int4, whole, Option.filter, lower, upper]

end Columns

/-- What `validatePush` has checked where it does not throw. -/
structure Accepted (asset : PushAsset) (opts : MergedOptions) : Prop where
  version : isVersion asset.targetVersion = true
  url : isHttp asset.assetUrl = true
  sha256 : isSha256 asset.assetSha256 = true
  size : ∃ size, asset.assetSize.integer = some size ∧ 0 < size
  start : wholeUpTo 24 opts.windowStartHour = true
  close : wholeUpTo 24 opts.windowEndHour = true
  apart : opts.windowStartHour ≠ opts.windowEndHour
  random : wholeUpTo 86400 opts.randomizeMaxSec = true

theorem accepted_of_validatePush {asset : PushAsset} {opts : MergedOptions}
    (passes : validatePush asset opts = .ok ()) : Accepted asset opts := by
  unfold validatePush at passes
  split at passes
  · cases passes
  split at passes
  · cases passes
  split at passes
  · cases passes
  split at passes
  · cases passes
  split at passes
  · cases passes
  split at passes
  · cases passes
  split at passes
  · cases passes
  split at passes
  · cases passes
  rename_i version url sha256 size start close apart random
  simp only [Bool.not_eq_true', Bool.not_eq_false] at version url sha256 size start close random
  obtain ⟨value, whole, positive⟩ := (Option.any_eq_true _ _).mp size
  exact ⟨version, url, sha256, ⟨value, whole, by simpa using positive⟩, start, close, apart, random⟩

/-- The columns of an accepted push fit where its size and its address do. -/
theorem columns_of_accepted {asset : PushAsset} {opts : MergedOptions} (accepted : Accepted asset opts)
    (tenantId : Nat) (bulkBatchId requestedBy : Option Nat) (now : Nat) :
    (asset.columns opts tenantId bulkBatchId requestedBy now).isSome = true ↔
      (∀ size, asset.assetSize.integer = some size → size ≤ int4Max) ∧
        storable asset.assetUrl = true := by
  obtain ⟨size, whole, positive⟩ := accepted.size
  obtain ⟨start, startFits, -⟩ := int4_of_wholeUpTo (by decide) accepted.start
  obtain ⟨close, closeFits, -⟩ := int4_of_wholeUpTo (by decide) accepted.close
  obtain ⟨random, randomFits, -⟩ := int4_of_wholeUpTo (by decide) accepted.random
  have lower : int4Min ≤ size := by
    have negative : int4Min ≤ 0 := by decide
    omega
  have texts : (storable asset.targetVersion && storable asset.assetUrl &&
      storable asset.assetSha256) = storable asset.assetUrl := by
    rw [storable_of_isVersion accepted.version, storable_of_isSha256 accepted.sha256]
    simp
  unfold PushAsset.columns
  rw [startFits, closeFits, randomFits, texts]
  by_cases small : size ≤ int4Max
  · have fits : asset.assetSize.int4 = some size := by
      simp [JsNumber.int4, whole, Option.filter, lower, small]
    rw [fits]
    simp only [Option.bind_eq_bind, Option.bind_some]
    split
    · rename_i stored
      refine iff_of_true rfl ⟨?_, stored⟩
      intro value same
      rw [whole] at same
      rw [← Option.some.inj same]
      exact small
    · rename_i refused
      exact iff_of_false nofun fun fit => refused fit.2
  · have overflows : asset.assetSize.int4 = none := by
      simp [JsNumber.int4, whole, Option.filter, small]
    rw [overflows]
    exact iff_of_false nofun fun fit => small (fit.1 size whole)

/-- The cast of an accepted version succeeds where its places fit. -/
theorem intArray_isSome {text : String} (accepted : isVersion text = true) :
    (intArray text).isSome = true ↔ BulkCall.VersionFits text := by
  obtain ⟨parts, found⟩ := Option.isSome_iff_exists.mp accepted
  unfold intArray BulkCall.VersionFits
  rw [found]
  simp only [Option.bind_some]
  split
  · rename_i small
    refine iff_of_true rfl ?_
    intro other same part inside
    obtain rfl := Option.some.inj same
    simp only [List.all_map, List.all_eq_true, Function.comp_apply, decide_eq_true_eq] at small
    exact small part inside
  · rename_i large
    refine iff_of_false nofun ?_
    intro fits
    apply large
    simp only [List.all_map, List.all_eq_true, Function.comp_apply, decide_eq_true_eq]
    exact fun part inside => fits parts rfl part inside

/-- A cast that succeeds gives the places. -/
theorem intArray_some {text : String} {values : List Nat} (cast : intArray text = some values) :
    ∃ parts, versionParts text = some parts ∧ values = parts.map digitsValue := by
  unfold intArray at cast
  obtain ⟨parts, found, small⟩ := Option.bind_eq_some_iff.mp cast
  dsimp only at small
  split at small
  · exact ⟨parts, found, (Option.some.inj small).symm⟩
  · cases small

/-- The version condition on a customer can be evaluated where the reported places fit. -/
theorem isBehind_isSome (target : List Nat) (c : Customer) :
    (isBehind target c).isSome = true ↔
      ∀ version, c.lastVersion = some version → BulkCall.VersionFits version := by
  unfold isBehind
  cases reported : c.lastVersion with
  | none => exact iff_of_true rfl nofun
  | some version =>
    dsimp only
    by_cases readable : isVersion version = true
    · rw [if_pos readable, Option.isSome_map, intArray_isSome readable]
      constructor
      · intro fits other same
        obtain rfl := Option.some.inj same
        exact fits
      · exact fun fits => fits version rfl
    · rw [if_neg readable]
      refine iff_of_true rfl ?_
      intro other same parts found
      obtain rfl := Option.some.inj same
      exact absurd (Option.isSome_iff_exists.mpr ⟨parts, found⟩) readable

namespace BulkCall

variable {call : BulkCall} {t : PushTable}

/-- The insert of an accepted call runs exactly where every value fits. -/
theorem insertBulk_isSome (accepted : Accepted call.asset call.opts.merged) (bulkBatchId : Nat) :
    (insertBulk call.customers call.now call.asset call.opts.merged call.ctx bulkBatchId t).isSome =
      true ↔ call.Fits := by
  have columns := columns_of_accepted accepted call.ctx.tenantId (some bulkBatchId)
    (some call.ctx.requestedBy) call.now
  have casts := intArray_isSome accepted.version
  unfold insertBulk
  cases row : call.asset.columns call.opts.merged call.ctx.tenantId (some bulkBatchId)
      (some call.ctx.requestedBy) call.now with
  | none =>
    rw [row] at columns
    refine iff_of_false nofun ?_
    intro fits
    have impossible := columns.mpr ⟨fits.size, fits.url⟩
    cases impossible
  | some row' =>
    rw [row] at columns
    have stored := columns.mp rfl
    cases cast : intArray call.asset.targetVersion with
    | none =>
      rw [cast] at casts
      refine iff_of_false nofun ?_
      intro fits
      have impossible := casts.mpr fits.target
      cases impossible
    | some target =>
      rw [cast] at casts
      simp only [Option.bind_eq_bind, Option.bind_some]
      have fleet : ((call.customers.filter (isEligible call.ctx.tenantId)).all fun c =>
          (isBehind target c).isSome) = true ↔ ∀ c ∈ call.customers,
            isEligible call.ctx.tenantId c = true →
              ∀ version, c.lastVersion = some version → VersionFits version := by
        rw [List.all_eq_true]
        constructor
        · intro all c inside eligible
          exact (isBehind_isSome target c).mp (all c (List.mem_filter.mpr ⟨inside, eligible⟩))
        · intro fits c member
          have ⟨inside, eligible⟩ := List.mem_filter.mp member
          exact (isBehind_isSome target c).mpr (fits c inside eligible)
      split
      · rename_i evaluated
        exact iff_of_true rfl ⟨stored.1, stored.2, casts.mp rfl, fleet.mp evaluated⟩
      · rename_i failed
        exact iff_of_false nofun fun fits => failed (fleet.mpr fits.fleet)

end BulkCall

/-- Two rows that wait for one customer and version are one row. -/
theorem PushTable.waits_unique (t : PushTable) {customerId : Nat} {version : String}
    {a b : PendingUpdate} (left : a ∈ t.rows) (right : b ∈ t.rows)
    (first : a.Waits customerId version) (second : b.Waits customerId version) : a = b := by
  by_contra differ
  let R := fun x y : PendingUpdate => ¬ x.Clash y
  have symmetric : Std.Symm R := by
    refine ⟨fun x y apart clash => apart ?_⟩
    exact ⟨clash.2.1, clash.1, clash.2.2.1.symm, clash.2.2.2.symm⟩
  have pairs : t.rows.Pairwise R := t.valid.single
  apply pairs.forall left right differ
  exact ⟨first.1, second.1, first.2.1.trans second.2.1.symm, first.2.2.trans second.2.2.symm⟩

/-- Rows stay through an insert that skips conflicts. -/
theorem PushTable.mem_addNew {t : PushTable} {values row : PendingUpdate} (inside : row ∈ t.rows) :
    row ∈ (t.addNew values).rows := by
  unfold PushTable.addNew PushTable.add
  dsimp only
  split
  · exact List.mem_append_left _ inside
  · exact inside

/-- After an insert that skips conflicts, a row of the customer and version waits. -/
theorem PushTable.waits_addNew (t : PushTable) {values : PendingUpdate}
    (active : values.active = true) :
    ∃ row ∈ (t.addNew values).rows, row.Waits values.customerId values.targetVersion := by
  unfold PushTable.addNew PushTable.add
  dsimp only
  split
  · refine ⟨{ values with id := t.nextId }, List.mem_append_right _ List.mem_cons_self, ?_⟩
    exact ⟨active, rfl, rfl⟩
  · rename_i taken
    obtain ⟨old, inside, clash⟩ := not_forall₂.mp taken
    have clashes := not_not.mp clash
    exact ⟨old, inside, clashes.1, clashes.2.2.1, clashes.2.2.2⟩

/-- After the insert of a batch, a row waits for each of its customers. -/
theorem waits_addAll {row : Nat → PendingUpdate} {version : String}
    (columns : ∀ c, (row c).active = true ∧ (row c).customerId = c ∧ (row c).targetVersion = version)
    (targets : List Customer) (t : PushTable) :
    (∀ old ∈ t.rows, old ∈ (addAll row targets t).rows) ∧
      ∀ c ∈ targets, ∃ new ∈ (addAll row targets t).rows, new.Waits c.id version := by
  unfold addAll
  induction targets generalizing t with
  | nil => exact ⟨fun _ inside => inside, List.forall_mem_nil _⟩
  | cons c targets ih =>
    rw [List.foldl_cons]
    have ⟨kept, reached⟩ := ih (t.addNew (row c.id))
    constructor
    · exact fun old inside => kept old (PushTable.mem_addNew inside)
    · intro d member
      cases List.mem_cons.mp member with
      | inl same =>
        rw [same]
        obtain ⟨new, inside, waits⟩ := t.waits_addNew (columns c.id).1
        rw [(columns c.id).2.1, (columns c.id).2.2] at waits
        exact ⟨new, kept new inside, waits⟩
      | inr later => exact reached d later

/-- A cancellation changes the rows exactly where one waits. -/
theorem cancelled_rows_eq {here : PendingUpdate → Bool} (now : Nat) {rows : List PendingUpdate}
    (waits : ∀ row, here row = true → row.active = true) :
    updateWhere here (cancelSet now) rows = rows ↔ ∀ row ∈ rows, here row = false := by
  constructor
  · intro same row inside
    have each : (if here row then cancelSet now row else row) = row := by
      unfold updateWhere at same
      have mapped := same.trans (List.map_id rows).symm
      exact List.map_inj_left.mp mapped row inside
    by_contra hit
    rw [if_pos (by simpa using hit)] at each
    have active := waits row (by simpa using hit)
    rw [← each, active_cancelSet] at active
    cases active
  · exact fun miss => updateWhere_of_miss miss

namespace BulkCall

variable {call : BulkCall} {t : PushTable}

/-- A row that waits is superseded only while it is active. -/
theorem active_of_superseded {customers : List Customer} {tenantId : Nat} (row : PendingUpdate)
    (hit : isSuperseded customers tenantId row = true) : row.active = true := by
  simp only [isSuperseded, Bool.and_eq_true] at hit
  exact hit.1.2

/-- The inserted batch reaches every eligible customer that is not ahead. -/
theorem insertBulk_waits {after : PushTable} {bulkBatchId : Nat} {c : Customer}
    (inserted : insertBulk call.customers call.now call.asset call.opts.merged call.ctx bulkBatchId
      t = some after)
    (inside : c ∈ call.customers) (eligible : isEligible call.ctx.tenantId c = true)
    (behind : NotAhead call.asset.targetVersion c) :
    ∃ row ∈ after.rows, row.Waits c.id call.asset.targetVersion := by
  unfold insertBulk at inserted
  obtain ⟨row, fits, inserted⟩ := Option.bind_eq_some_iff.mp inserted
  obtain ⟨target, cast, inserted⟩ := Option.bind_eq_some_iff.mp inserted
  dsimp only at inserted
  split at inserted
  · rename_i evaluated
    obtain rfl := Option.some.inj inserted
    have member : c ∈ call.customers.filter (isEligible call.ctx.tenantId) :=
      List.mem_filter.mpr ⟨inside, eligible⟩
    have selected : isBehind target c = some true := by
      have some' := List.all_eq_true.mp evaluated c member
      unfold isBehind at some' ⊢
      cases reported : c.lastVersion with
      | none => rfl
      | some version =>
        rw [reported] at some'
        dsimp only at some' ⊢
        by_cases readable : isVersion version = true
        · rw [if_pos readable] at some' ⊢
          cases own : intArray version with
          | none =>
            rw [own] at some'
            cases some'
          | some values =>
            obtain ⟨wanted, wantedParts, rfl⟩ := intArray_some cast
            obtain ⟨parts, ownParts, rfl⟩ := intArray_some own
            have ordered := behind version reported parts wanted ownParts wantedParts
            simp [ordered]
        · rw [if_neg readable]
    have columns : ∀ d, (row d).active = true ∧ (row d).customerId = d ∧
        (row d).targetVersion = call.asset.targetVersion := by
      intro d
      rw [(PushAsset.columns_some fits d).2.2.2.2]
      exact ⟨rfl, rfl, rfl⟩
    apply (waits_addAll columns _ t).2 c
    exact List.mem_filter.mpr ⟨member, by rw [selected]; rfl⟩
  · cases inserted

/-- The table after the first statement of the call. -/
def cancelled (call : BulkCall) (t : PushTable) : PushTable :=
  t.draw.mark (isSuperseded call.customers call.ctx.tenantId) (cancelSet call.now)
    (marks_cancelSet call.now)

/-- A staged version is refused before the first statement. -/
theorem run_staged (accepted : validatePush call.asset call.opts.merged = .ok ())
    (staged : isStaged call.agentMeta call.allowStaging call.asset = true) :
    ∃ error, call.run t = (t, .error error) := by
  unfold run pushBulk
  rw [accepted]
  dsimp only
  rw [if_pos staged]
  exact ⟨_, rfl⟩

/-- Any other accepted call cancels and then inserts. -/
theorem run_unstaged (accepted : validatePush call.asset call.opts.merged = .ok ())
    (unstaged : ¬ isStaged call.agentMeta call.allowStaging call.asset = true) :
    call.run t =
      match insertBulk call.customers call.now call.asset call.opts.merged call.ctx t.nextId
        (call.cancelled t) with
      | none => (call.cancelled t, .error .database)
      | some after =>
        (after, .ok
          { bulkBatchId := t.nextId
            inserted := after.rows.length - (call.cancelled t).rows.length
            eligible := (call.customers.filter (isEligible call.ctx.tenantId)).length }) := by
  unfold run pushBulk
  rw [accepted]
  dsimp only
  rw [if_neg unstaged]
  rfl

/-- The first statement changes nothing exactly where nothing waits. -/
theorem cancelled_rows (call : BulkCall) (t : PushTable) :
    (call.cancelled t).rows = t.rows ↔ call.NothingWaits t :=
  cancelled_rows_eq call.now (@active_of_superseded call.customers call.ctx.tenantId)

/-- A call that `validatePush` accepts is all or nothing exactly where it is refused as staged,
every value its insert casts fits, or no row waits that it would cancel. -/
theorem pushBulk_allOrNothing_iff (call : BulkCall) (t : PushTable)
    (accepted : validatePush call.asset call.opts.merged = .ok ()) :
    call.AllOrNothing t ↔
      isStaged call.agentMeta call.allowStaging call.asset = true ∨ call.Fits ∨
        call.NothingWaits t := by
  have inserts := @insertBulk_isSome call (call.cancelled t) (accepted_of_validatePush accepted)
    t.nextId
  unfold AllOrNothing
  by_cases staged : isStaged call.agentMeta call.allowStaging call.asset = true
  · obtain ⟨error, same⟩ := @run_staged call t accepted staged
    rw [same]
    refine iff_of_true ⟨fun _ _ => rfl, ?_⟩ (.inl staged)
    intro result impossible
    cases impossible
  · rw [run_unstaged accepted staged]
    cases inserted : insertBulk call.customers call.now call.asset call.opts.merged call.ctx t.nextId
        (call.cancelled t) with
    | none =>
      rw [inserted] at inserts
      constructor
      · rintro ⟨unchanged, -⟩
        exact .inr (.inr ((call.cancelled_rows t).mp (unchanged .database rfl)))
      · intro condition
        refine ⟨fun _ _ => ?_, ?_⟩
        · rcases condition with refused | fits | nothing
          · exact absurd refused staged
          · have impossible := inserts.mpr fits
            cases impossible
          · exact (call.cancelled_rows t).mpr nothing
        · intro result impossible
          cases impossible
    | some after =>
      rw [inserted] at inserts
      refine iff_of_true ⟨?_, ?_⟩ (.inr (.inl (inserts.mp rfl)))
      · intro error impossible
        cases impossible
      · intro result _ c inside eligible behind
        obtain ⟨row, there, waits⟩ := insertBulk_waits inserted inside eligible behind
        refine ⟨row, there, waits, ?_⟩
        intro other otherThere otherWaits
        exact after.waits_unique otherThere there otherWaits waits

/-- A store on version 1.0.0 that waits for version 1.1.0. -/
def waitingTable : PushTable where
  rows :=
    [{ id := 0, tenantId := 1, customerId := 7, targetVersion := "1.1.0", assetUrl := "https://a"
       assetSha256 := "", assetSize := 1, windowStartHour := 0, windowEndHour := 7
       randomizeMaxSec := 600 }]
  nextId := 1
  valid := ⟨by decide, by decide, by decide⟩

/-- A bulk push of version 1.2.0 to the store and to one that reports `lastVersion`. -/
def bulkOf (lastVersion : String) : BulkCall where
  customers :=
    [{ id := 7, tenantId := 1, name := "cafe", lastVersion := some "1.0.0" },
     { id := 8, tenantId := 1, name := "bar", lastVersion := some lastVersion }]
  now := 1000
  agentMeta := none
  asset :=
    { targetVersion := "1.2.0", assetUrl := "https://a"
      assetSha256 := "2cf24dba5fb0a30e26e83b2ac5b9e29e1b161e5c1fa7425e73043362938b9824"
      assetSize := .finite 1000 }
  opts := {}
  ctx := ⟨1, 3⟩
  allowStaging := false

/-- With ordinary versions the push is all or nothing. -/
theorem bulkOf_ordinary_allOrNothing :
    validatePush (bulkOf "1.1.0").asset (bulkOf "1.1.0").opts.merged = .ok () ∧
      (bulkOf "1.1.0").AllOrNothing waitingTable := by
  have accepted : validatePush (bulkOf "1.1.0").asset (bulkOf "1.1.0").opts.merged = .ok () := by
    decide +kernel
  refine ⟨accepted, (pushBulk_allOrNothing_iff _ _ accepted).mpr (.inr (.inl ?_))⟩
  rw [← @insertBulk_isSome _ waitingTable (accepted_of_validatePush accepted) 1]
  decide +kernel

/-- A store that reports a version of ten digits makes the push throw after it cancelled what
the other store waited for. -/
theorem bulkOf_overflow_cancels :
    validatePush (bulkOf "1.0.9999999999").asset (bulkOf "1.0.9999999999").opts.merged = .ok () ∧
      ((bulkOf "1.0.9999999999").run waitingTable).2 = .error .database ∧
      ((bulkOf "1.0.9999999999").run waitingTable).1.rows.map PendingUpdate.cancelledAt =
        [some 1000] ∧
      ¬ (bulkOf "1.0.9999999999").AllOrNothing waitingTable := by
  have throws : ((bulkOf "1.0.9999999999").run waitingTable).2 = .error .database := by
    decide +kernel
  have marked : ((bulkOf "1.0.9999999999").run waitingTable).1.rows.map PendingUpdate.cancelledAt =
      [some 1000] := by
    decide +kernel
  refine ⟨by decide +kernel, throws, marked, ?_⟩
  intro atomic
  have same := atomic.1 _ throws
  rw [same] at marked
  revert marked
  decide

end BulkCall

end ChainRemote.Panel
