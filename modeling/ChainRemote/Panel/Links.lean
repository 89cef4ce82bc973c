import ChainRemote.Panel.Operations

/-!
# The link between favourites and customers

A favourite stores the device id and, once the device is registered, the customer. The
two agree where the customer has the favourite's tenant and device id (`Consistent`).
Each operation is taken statement by statement; what breaks the link is an edit of the
device id, a link to a customer of something else, and an enrollment that takes a row
over together with the favourites of its old device.
-/

namespace ChainRemote.Panel

open Lib

/-- A favourite agrees with the row it is linked to. -/
def Linked (rows : List Customer) (f : Favorite) : Prop :=
  ∀ id ∈ f.customerId, ∀ c ∈ rows, c.id = id →
    c.tenantId = f.tenantId ∧ c.remoteId = some f.remoteId

/-- Every favourite agrees with the row it is linked to. -/
def Consistent (db : Db) : Prop := ∀ f ∈ db.favorites, Linked db.customers f

instance (rows : List Customer) (f : Favorite) : Decidable (Linked rows f) :=
  inferInstanceAs (Decidable (∀ id ∈ f.customerId, ∀ c ∈ rows, c.id = id → _ ∧ _))

instance (db : Db) : Decidable (Consistent db) :=
  inferInstanceAs (Decidable (∀ f ∈ db.favorites, Linked db.customers f))

section Statements

variable {db after : Db} {out : List Customer}

/-- Rows that keep id, tenant and device id keep the links. -/
theorem Linked.of_rows {rows later : List Customer} {f : Favorite} (linked : Linked rows f)
    (kept : ∀ c ∈ later, ∃ old ∈ rows, old.id = c.id ∧ old.tenantId = c.tenantId ∧
      old.remoteId = c.remoteId) : Linked later f := by
  intro id link c inside same
  obtain ⟨old, before, oldId, oldTenant, oldRemote⟩ := kept c inside
  have agrees := linked id link old before (oldId.trans same)
  exact ⟨oldTenant.symm.trans agrees.1, oldRemote.symm.trans agrees.2⟩

/-- An update of other columns keeps the links. -/
theorem Consistent.of_update (consistent : Consistent db) {here : Customer → Bool}
    {set : Customer → Customer} (favorites : after.favorites = db.favorites)
    (customers : after.customers = updateWhere here set db.customers)
    (keys : ∀ c, (set c).id = c.id ∧ (set c).tenantId = c.tenantId ∧
      (set c).remoteId = c.remoteId) : Consistent after := by
  intro f inside
  rw [favorites] at inside
  apply (consistent f inside).of_rows
  intro c there
  rw [customers] at there
  rcases mem_updateWhere.mp there with ⟨old, before, _, rfl⟩ | ⟨before, _⟩
  · exact ⟨old, before, (keys old).1.symm, (keys old).2.1.symm, (keys old).2.2.symm⟩
  · exact ⟨c, before, rfl, rfl, rfl⟩

theorem Consistent.of_same (consistent : Consistent db) (favorites : after.favorites = db.favorites)
    (customers : after.customers = db.customers) : Consistent after := by
  intro f inside
  rw [favorites] at inside
  rw [customers]
  exact consistent f inside

/-- A link never names a row that is still to come. -/
theorem Db.link_below (db : Db) {f : Favorite} (inside : f ∈ db.favorites) {id : Nat}
    (link : id ∈ f.customerId) : id < db.nextId := by
  have there := db.valid.favoriteLinks f inside id link
  obtain ⟨c, old, rfl⟩ := List.mem_map.mp there
  exact db.valid.customersBelow c old

theorem consistent_rotateToken {id : Nat} {tokenHash : String} (consistent : Consistent db)
    (done : act (.rotateToken id tokenHash) db = .ok (out, after)) : Consistent after := by
  have tables := rotateToken_ok done
  have customers := congrArg Tables.customers tables
  apply consistent.of_update (by rw [tables]) customers
  exact fun _ => ⟨rfl, rfl, rfl⟩

theorem consistent_claimCustomer {id userId now : Nat} (consistent : Consistent db)
    (done : act (.claimCustomer id userId now) db = .ok (out, after)) : Consistent after := by
  have tables := claimCustomer_ok done
  have customers := congrArg Tables.customers tables
  apply consistent.of_update (by rw [tables]) customers
  exact fun _ => ⟨rfl, rfl, rfl⟩

theorem consistent_insertAlert {values : Alert} (consistent : Consistent db)
    (done : act (.insertAlert values) db = .ok (out, after)) : Consistent after := by
  have tables := insertAlert_ok done
  exact consistent.of_same (by rw [tables]) (by rw [tables])

/-- A new row is linked to nothing. -/
theorem consistent_insertCustomer {values : Customer} (consistent : Consistent db)
    (done : act (.insertCustomer values) db = .ok (out, after)) : Consistent after := by
  have tables := (insertCustomer_ok done).2
  intro f inside id link c there same
  rw [tables] at inside there
  rcases List.mem_append.mp there with old | new
  · exact consistent f inside id link c old same
  · rw [List.mem_singleton.mp new, Customer.withId_id] at same
    have below := db.link_below inside link
    omega

/-- Links of orphan favourites are consistent exactly where the customer is of their device and
tenant. -/
theorem consistent_linkFavorites_iff {remoteId : String} {customerId tenantId : Nat}
    (consistent : Consistent db)
    (done : act (.linkFavorites remoteId customerId tenantId) db = .ok (out, after)) :
    Consistent after ↔ ∀ f ∈ db.favorites, ofDevice remoteId tenantId f = true →
      f.customerId = none → ∀ c ∈ db.customers, c.id = customerId →
        c.tenantId = tenantId ∧ c.remoteId = some remoteId := by
  have tables := linkFavorites_ok done
  have favorites := congrArg Tables.favorites tables
  have customers : after.customers = db.customers := by rw [tables]
  constructor
  · intro linked f inside device orphan c there same
    have hit : (ofDevice remoteId tenantId f && f.customerId.isNone) = true := by
      rw [device, orphan]
      rfl
    have now := linked (linkTo customerId f)
      (by rw [favorites]; exact mem_updateWhere_of_hit inside hit) customerId rfl c
      (by rw [customers]; exact there) same
    obtain ⟨sameDevice, sameTenant⟩ := ofDevice_iff.mp device
    exact ⟨now.1.trans sameTenant, now.2.trans (congrArg some sameDevice)⟩
  · intro matching f inside
    rw [favorites] at inside
    rw [customers]
    rcases mem_updateWhere.mp inside with ⟨old, before, hit, rfl⟩ | ⟨before, _⟩
    · simp only [Bool.and_eq_true, Option.isNone_iff_eq_none] at hit
      intro id link c there same
      cases link
      have agrees := matching old before hit.1 hit.2 c there same
      obtain ⟨sameDevice, sameTenant⟩ := ofDevice_iff.mp hit.1
      exact ⟨agrees.1.trans sameTenant.symm, agrees.2.trans (congrArg some sameDevice.symm)⟩
    · exact consistent f before

/-- The favourites of a moved device go to its new row. -/
theorem consistent_moveToNew {source : Customer} {stamp : Option Nat} {remoteId : String}
    {values : Customer} {resolves : Option (Nat × Nat)} {alert : Alert}
    (consistent : Consistent db) (held : source ∈ db.customers)
    (device : source.remoteId = some remoteId) (tenant : source.tenantId = values.tenantId)
    (carried : values.remoteId = some remoteId)
    (done : act (.moveToNew source.id stamp remoteId values resolves alert) db = .ok (out, after)) :
    Consistent after := by
  obtain ⟨-, customers, favorites, -⟩ := moveToNew_ok done
  intro f inside id link c there same
  rw [favorites] at inside
  rw [customers] at there
  rcases mem_updateWhere.mp inside with ⟨old, before, hit, rfl⟩ | ⟨before, miss⟩
  · -- the new row is the only one with the new id
    cases link
    obtain ⟨sameDevice, sameTenant⟩ := ofDevice_iff.mp hit
    rcases List.mem_append.mp there with updated | new
    · have below : c.id < db.nextId := by
        rcases mem_updateWhere.mp updated with ⟨x, xOld, _, rfl⟩ | ⟨cOld, _⟩
        · exact db.valid.customersBelow x xOld
        · exact db.valid.customersBelow c cOld
      omega
    · rw [List.mem_singleton.mp new]
      exact ⟨sameTenant.symm, carried.trans (congrArg some sameDevice.symm)⟩
  · rcases List.mem_append.mp there with updated | new
    · rcases mem_updateWhere.mp updated with ⟨x, xOld, xHit, rfl⟩ | ⟨cOld, _⟩
      · -- a favourite of the old row is a favourite of the device
        have equal : x = source := db.eq_of_id xOld held (beq_iff_eq.mp xHit)
        have agrees := consistent f before id link x xOld same
        rw [equal, device] at agrees
        have selected : ofDevice remoteId values.tenantId f = true :=
          ofDevice_iff.mpr ⟨(Option.some.inj agrees.2).symm, agrees.1.symm.trans tenant⟩
        rw [selected] at miss
        cases miss
      · exact consistent f before id link c cOld same
    · rw [List.mem_singleton.mp new, Customer.withId_id] at same
      have below := db.link_below before link
      omega

/-- The rows after a move: the two rows of the move and the untouched ones. -/
theorem mem_moveDevice {own target c : Customer} {remoteId tokenHash : String} {now : Nat}
    (held : own ∈ db.customers) (found : target ∈ db.customers)
    (inside : c ∈ updateWhere (isRow target.id) (attach remoteId tokenHash now)
      (updateWhere (isRow own.id) (detach none) db.customers)) :
    (∃ x, x.id = target.id ∧ x.tenantId = target.tenantId ∧ c = attach remoteId tokenHash now x) ∨
      c = detach none own ∨ c ∈ db.customers ∧ c.id ≠ own.id ∧ c.id ≠ target.id := by
  rcases mem_updateWhere.mp inside with ⟨x, xInside, xHit, rfl⟩ | ⟨detached, miss⟩
  · left
    have id : x.id = target.id := beq_iff_eq.mp xHit
    refine ⟨x, id, ?_, rfl⟩
    rcases mem_updateWhere.mp xInside with ⟨y, yOld, _, rfl⟩ | ⟨xOld, _⟩
    · rw [← db.eq_of_id yOld found id]
      rfl
    · rw [db.eq_of_id xOld found id]
  · have notTarget : c.id ≠ target.id := by simpa [isRow] using miss
    rcases mem_updateWhere.mp detached with ⟨y, yOld, yHit, rfl⟩ | ⟨cOld, notOwn⟩
    · right
      left
      rw [db.eq_of_id yOld held (beq_iff_eq.mp yHit)]
    · exact .inr (.inr ⟨cOld, by simpa [isRow] using notOwn, notTarget⟩)

/-- A move to another row is consistent exactly where the target has no favourites of another
device. -/
theorem consistent_moveDevice_iff {own target : Customer} {remoteId tokenHash : String}
    {tenantId now : Nat} {alert : Alert} (consistent : Consistent db) (held : own ∈ db.customers)
    (device : own.remoteId = some remoteId) (tenant : own.tenantId = tenantId)
    (found : target ∈ db.customers) (targetTenant : target.tenantId = tenantId)
    (apart : target.id ≠ own.id)
    (done : act (.moveDevice own.id target.id remoteId tokenHash tenantId now alert) db =
      .ok (out, after)) :
    Consistent after ↔
      ∀ f ∈ db.favorites, f.customerId = some target.id → f.remoteId = remoteId := by
  obtain ⟨customers, favorites, -⟩ := moveDevice_ok done
  constructor
  · intro linked f inside link
    by_cases selected : ofDevice remoteId tenantId f = true
    · exact (ofDevice_iff.mp selected).1
    · have miss : isRow own.id target = false := by simpa [isRow] using apart
      have there : attach remoteId tokenHash now target ∈ after.customers := by
        rw [customers]
        exact mem_updateWhere_of_hit (mem_updateWhere_of_miss found miss) (beq_iff_eq.mpr rfl)
      have stays : f ∈ after.favorites := by
        rw [favorites]
        exact mem_updateWhere_of_miss inside (by simpa using selected)
      have agrees := linked f stays target.id link _ there rfl
      exact (Option.some.inj agrees.2).symm
  · intro sameDevice f inside id link c there same
    rw [favorites] at inside
    rw [customers] at there
    have rows := mem_moveDevice held found there
    rcases mem_updateWhere.mp inside with ⟨old, before, hit, rfl⟩ | ⟨before, miss⟩
    · -- a favourite of the device: only the target has its id
      cases link
      obtain ⟨oldDevice, oldTenant⟩ := ofDevice_iff.mp hit
      rcases rows with ⟨x, _, xTenant, rfl⟩ | rfl | ⟨_, _, other⟩
      · exact ⟨xTenant.trans (targetTenant.trans oldTenant.symm), congrArg some oldDevice.symm⟩
      · exact absurd same.symm apart
      · exact absurd same other
    · -- any other favourite: neither row of the move can be its row
      rcases rows with ⟨x, xId, _, rfl⟩ | rfl | ⟨old, _, _⟩
      · have toTarget : f.customerId = some target.id := by
          rw [Option.mem_def.mp link, ← same]
          exact congrArg some xId
        have agrees := consistent f before target.id toTarget target found rfl
        have selected : ofDevice remoteId tenantId f = true :=
          ofDevice_iff.mpr ⟨sameDevice f before toTarget, agrees.1.symm.trans targetTenant⟩
        rw [selected] at miss
        cases miss
      · have agrees := consistent f before id link own held same
        rw [device] at agrees
        have selected : ofDevice remoteId tenantId f = true :=
          ofDevice_iff.mpr ⟨(Option.some.inj agrees.2).symm, agrees.1.symm.trans tenant⟩
        rw [selected] at miss
        cases miss
      · exact consistent f before id link c old same

/-- A replacement is consistent exactly where no favourite of the row has an empty device id:
those of any other id follow. -/
theorem consistent_replaceDevice_iff {target : Customer} {remoteId tokenHash : String}
    {tenantId now : Nat} {alert : Alert} (consistent : Consistent db)
    (free : ∀ row ∈ db.customers, row.remoteId ≠ some remoteId) (found : target ∈ db.customers)
    (targetTenant : target.tenantId = tenantId)
    (done : act (.replaceDevice target.id target.remoteId remoteId tokenHash tenantId now alert)
      db = .ok (out, after)) :
    Consistent after ↔ ∀ f ∈ db.favorites, f.customerId = some target.id → f.remoteId ≠ "" := by
  obtain ⟨customers, favorites, -⟩ := replaceDevice_ok done
  constructor
  · intro linked f inside link blank
    have agrees := consistent f inside target.id link target found rfl
    have miss : followsReplaced target.remoteId remoteId tenantId f = false := by
      simp [followsReplaced, agrees.2, blank]
    have there : attach remoteId tokenHash now target ∈ after.customers := by
      rw [customers]
      exact mem_updateWhere_of_hit found (beq_iff_eq.mpr rfl)
    have stays : f ∈ after.favorites := by
      rw [favorites]
      exact mem_updateWhere_of_miss inside miss
    have now := (linked f stays target.id link _ there rfl).2
    exact free target found (agrees.2.trans now.symm)
  · intro named f inside id link c there same
    rw [favorites] at inside
    rw [customers] at there
    rcases mem_updateWhere.mp inside with ⟨old, before, hit, rfl⟩ | ⟨before, miss⟩
    · -- a favourite that follows the device
      unfold followsReplaced at hit
      split at hit
      · rename_i oldId heldBefore
        simp only [Bool.and_eq_true, bne_iff_ne, ne_eq] at hit
        obtain ⟨⟨given, _⟩, device⟩ := hit
        obtain ⟨oldDevice, oldTenant⟩ := ofDevice_iff.mp device
        rcases mem_updateWhere.mp there with ⟨x, xOld, xHit, rfl⟩ | ⟨cOld, other⟩
        · rw [db.eq_of_id xOld found (beq_iff_eq.mp xHit)]
          exact ⟨targetTenant.trans oldTenant.symm, rfl⟩
        · have agrees := consistent old before id link c cOld same
          rw [oldDevice] at agrees
          have equal := db.eq_of_remoteId given cOld found agrees.2 heldBefore
          simp [isRow, equal] at other
      · cases hit
    · rcases mem_updateWhere.mp there with ⟨x, xOld, xHit, rfl⟩ | ⟨cOld, _⟩
      · have equal : x = target := db.eq_of_id xOld found (beq_iff_eq.mp xHit)
        subst equal
        have agrees := consistent f before id link x xOld same
        have toTarget : f.customerId = some x.id := (Option.mem_def.mp link).trans
          (congrArg some same.symm)
        have given := named f before toTarget
        have moved : f.remoteId ≠ remoteId :=
          fun same => free x found (same ▸ agrees.2)
        have selected : followsReplaced x.remoteId remoteId tenantId f = true := by
          rw [agrees.2]
          simp only [followsReplaced, Bool.and_eq_true, bne_iff_ne, ne_eq]
          exact ⟨⟨given, moved⟩, ofDevice_iff.mpr ⟨rfl, agrees.1.symm.trans targetTenant⟩⟩
        rw [selected] at miss
        cases miss
      · exact consistent f before id link c cOld same

/-- Another row has the device id, and the index knows it. -/
def Taken (db : Db) (id : Nat) (remoteId : Option String) : Prop :=
  ¬ unindexed remoteId ∧ ∃ c ∈ db.customers, c.id ≠ id ∧ c.remoteId = remoteId

/-- An edit is consistent exactly where it keeps the device id or the row has no favourites. -/
theorem consistent_updateCustomer_iff {id tenantId now : Nat} {fields : CustomerFields}
    (consistent : Consistent db)
    (done : act (.updateCustomer id tenantId fields now) db = .ok (out, after)) :
    Consistent after ↔ ∀ row ∈ db.customers, ownRow id tenantId row = true →
      fields.remoteId = row.remoteId ∨ ∀ f ∈ db.favorites, f.customerId ≠ some id := by
  have tables := updateCustomer_ok done
  have customers := congrArg Tables.customers tables
  have favorites : after.favorites = db.favorites := by rw [tables]
  constructor
  · intro linked row inside hit
    have rowId : row.id = id := (ownRow_iff.mp hit).1
    by_cases none : ∀ f ∈ db.favorites, f.customerId ≠ some id
    · exact .inr none
    · left
      simp only [not_forall, not_not] at none
      obtain ⟨f, there, link⟩ := none
      have before := consistent f there id link row inside rowId
      have edited : fields.set now row ∈ after.customers := by
        rw [customers]
        exact mem_updateWhere_of_hit inside hit
      have agrees := linked f (favorites ▸ there) id link _ edited rowId
      exact agrees.2.trans before.2.symm
  · intro kept f inside link isLinked c there same
    rw [favorites] at inside
    rw [customers] at there
    rcases mem_updateWhere.mp there with ⟨old, before, hit, rfl⟩ | ⟨before, _⟩
    · have oldId : old.id = id := (ownRow_iff.mp hit).1
      rcases kept old before hit with keeps | none
      · have agrees := consistent f inside link isLinked old before same
        exact ⟨agrees.1, keeps.trans agrees.2⟩
      · refine absurd ?_ (none f inside)
        rw [Option.mem_def.mp isLinked, ← same]
        exact congrArg some oldId
    · exact consistent f inside link isLinked c before same

/-- An edit is refused exactly where another row has the device id. -/
theorem updateCustomer_refused_iff {id tenantId now : Nat} {fields : CustomerFields} {row : Customer}
    (inside : row ∈ db.customers) (hit : ownRow id tenantId row = true) :
    (∀ out after, act (.updateCustomer id tenantId fields now) db ≠ .ok (out, after)) ↔
      Taken db id fields.remoteId := by
  have only : ∀ c, ownRow id tenantId c = true → c.id = id := fun c own => (ownRow_iff.mp own).1
  constructor
  · intro refused
    by_contra free
    have admitted : unindexed fields.remoteId ∨
        ∀ c ∈ db.customers, c.id ≠ id → c.remoteId ≠ fields.remoteId := by
      by_cases out : unindexed fields.remoteId
      · exact .inl out
      · exact .inr fun c there differ shared => free ⟨out, c, there, differ, shared⟩
    obtain ⟨after, done⟩ := db.updateCustomers_succeeds (ownRow id tenantId) (fields.set now) only
      (fun _ => ⟨rfl, rfl, rfl, rfl⟩) admitted
    exact refused _ after (bind_of_ok done rfl)
  · rintro ⟨indexed, other, there, differ, shared⟩ out after done
    have customers := congrArg Tables.customers (updateCustomer_ok done)
    have edited : fields.set now row ∈ after.customers := by
      rw [customers]
      exact mem_updateWhere_of_hit inside hit
    have stays : other ∈ after.customers := by
      rw [customers]
      apply mem_updateWhere_of_miss there
      simpa [ownRow] using fun same => absurd same differ
    exact indexed (after.valid.unindexed_of_shared edited stays
      (fun same => differ (same.symm.trans (only row hit))) shared.symm)

/-- What `deleteCustomer` leaves of favourites and rows was there before. -/
theorem consistent_deleteCustomer {id tenantId : Nat} (consistent : Consistent db)
    (done : act (.deleteCustomer id tenantId) db = .ok (out, after)) : Consistent after := by
  rcases deleteCustomer_ok done with ⟨-, same⟩ | ⟨target, _, _, _, customers, favorites⟩
  · rw [same]
    exact consistent
  · intro f inside
    rw [favorites] at inside
    rcases mem_updateWhere.mp inside with ⟨old, _, _, rfl⟩ | ⟨kept, _⟩
    · exact nofun
    · apply (consistent f (List.mem_filter.mp kept).1).of_rows
      intro c there
      rw [customers] at there
      exact ⟨c, (List.mem_filter.mp there).1, rfl, rfl, rfl⟩

/-- A favourite that is added agrees with its row. -/
theorem consistent_upsertFavorite {values : Favorite} (consistent : Consistent db)
    (agrees : Linked db.customers values)
    (done : act (.upsertFavorite values) db = .ok (out, after)) : Consistent after := by
  obtain ⟨customers, favorites | ⟨here, set, favorites, keys⟩⟩ := upsertFavorite_ok done
  · intro f inside
    rw [favorites] at inside
    rw [customers]
    rcases List.mem_append.mp inside with old | new
    · exact consistent f old
    · rw [List.mem_singleton.mp new]
      exact agrees
  · intro f inside
    rw [favorites] at inside
    rw [customers]
    rcases mem_updateWhere.mp inside with ⟨old, before, _, rfl⟩ | ⟨before, _⟩
    · have linked := consistent old before
      unfold Linked at linked ⊢
      rw [(keys old).1, (keys old).2.1, (keys old).2.2]
      exact linked
    · exact consistent f before

/-- Nothing refuses a move between two rows, one of which holds the device id. -/
theorem moveDevice_succeeds {own target : Customer} {remoteId tokenHash : String}
    {tenantId now : Nat} {alert : Alert} (held : own ∈ db.customers)
    (device : own.remoteId = some remoteId) (found : target ∈ db.customers) :
    ∃ out after, act (.moveDevice own.id target.id remoteId tokenHash tenantId now alert) db =
      .ok (out, after) := by
  obtain ⟨detached, first⟩ := db.updateCustomers_succeeds (isRow own.id) (detach none)
    (fun _ hit => beq_iff_eq.mp hit) (fun _ => ⟨rfl, rfl, rfl, rfl⟩) (.inl (.inl rfl))
  have t1 := congrArg Tables.customers (commit_ok first)
  have free : unindexed (some remoteId) ∨
      ∀ c ∈ detached.customers, c.id ≠ target.id → c.remoteId ≠ some remoteId := by
    by_cases blank : remoteId = ""
    · exact .inl (.inr (congrArg some blank))
    · right
      intro c inside _ shared
      rw [t1] at inside
      rcases mem_updateWhere.mp inside with ⟨old, _, _, rfl⟩ | ⟨before, other⟩
      · cases shared
      · rw [db.eq_of_remoteId blank before held shared device] at other
        simp [isRow] at other
  obtain ⟨attached, second⟩ := detached.updateCustomers_succeeds (isRow target.id)
    (attach remoteId tokenHash now) (fun _ hit => beq_iff_eq.mp hit)
    (fun _ => ⟨rfl, rfl, rfl, rfl⟩) free
  have t2 := congrArg Tables.customers (commit_ok second)
  have ids : attached.customers.map Customer.id = db.customers.map Customer.id := by
    rw [t2]
    refine (map_updateWhere Customer.id ?_).trans ?_
    · exact fun _ => rfl
    · rw [t1]
      exact map_updateWhere Customer.id fun _ => rfl
  have there : target.id ∈ attached.customers.map Customer.id :=
    ids.symm ▸ List.mem_map_of_mem found
  obtain ⟨linked, third⟩ := attached.updateFavorites_succeeds (ofDevice remoteId tenantId)
    (linkTo target.id) (fun _ => ⟨rfl, rfl⟩) (fun _ _ _ id link => Option.some.inj link ▸ there)
  have t3 : linked.customers = attached.customers := by rw [commit_ok third]
  obtain ⟨alerted, fourth⟩ := linked.insertAlert_succeeds (alert.about target.id)
    (fun id link => by rw [t3]; exact Option.some.inj link ▸ there)
  exact ⟨_, _, bind_of_ok first (bind_of_ok second (bind_of_ok third (bind_of_ok fourth rfl)))⟩

/-- Nothing refuses the replacement of an empty device id by one that no row has. -/
theorem replaceDevice_succeeds {target : Customer} {remoteId tokenHash : String}
    {tenantId now : Nat} {alert : Alert}
    (free : ∀ row ∈ db.customers, row.remoteId ≠ some remoteId) (found : target ∈ db.customers) :
    ∃ out after, act (.replaceDevice target.id (some "") remoteId tokenHash tenantId now alert) db =
      .ok (out, after) := by
  obtain ⟨attached, first⟩ := db.updateCustomers_succeeds (isRow target.id)
    (attach remoteId tokenHash now) (fun _ hit => beq_iff_eq.mp hit)
    (fun _ => ⟨rfl, rfl, rfl, rfl⟩) (.inr fun c inside _ => free c inside)
  have t1 := congrArg Tables.customers (commit_ok first)
  have placed : attach remoteId tokenHash now target ∈ attached.customers := by
    rw [t1]
    exact mem_updateWhere_of_hit found (beq_iff_eq.mpr rfl)
  have there : target.id ∈ attached.customers.map Customer.id :=
    List.mem_map.mpr ⟨_, placed, rfl⟩
  have none : updateWhere (followsReplaced (some "") remoteId tenantId) (redirect remoteId)
      attached.favorites = attached.favorites :=
    updateWhere_of_miss fun f _ => by simp [followsReplaced]
  have second : attached.updateFavorites (followsReplaced (some "") remoteId tenantId)
      (redirect remoteId) = .ok attached := by
    unfold Db.updateFavorites
    rw [none]
    exact commit_of_valid attached.valid
  obtain ⟨alerted, third⟩ := attached.insertAlert_succeeds (alert.about target.id)
    (fun id link => Option.some.inj link ▸ there)
  exact ⟨_, _, bind_of_ok first (bind_of_ok second (bind_of_ok third rfl))⟩

end Statements

section Runs

variable {db : Db} {α : Type}

/-- A write keeps the links where both of its outcomes do. -/
theorem consistent_write {stmt : Stmt} {next : List Customer → Client α}
    {fail : DbError → Client α}
    (onward : ∀ out t, act stmt db = .ok (out, t) → Consistent ((next out).run act t).1)
    (failed : ∀ error, Consistent ((fail error).run act db).1) :
    Consistent ((Prog.write stmt next fail).run act db).1 := by
  unfold Prog.run
  split
  · rename_i out t done
    exact onward out t done
  · exact failed _

/-- A single write that keeps the links. -/
theorem consistent_single {stmt : Stmt} {result : List Customer → α} (consistent : Consistent db)
    (kept : ∀ out t, act stmt db = .ok (out, t) → Consistent t) :
    Consistent ((Prog.write stmt (fun out => .ret (result out)) .throw : Client α).run act db).1 :=
  consistent_write kept fun _ => consistent

/-- Links to a row of the device and tenant. -/
theorem consistent_link {remoteId : String} {tenantId : Nat} {row : Customer} {next : Client α}
    {fail : DbError → Client α} (consistent : Consistent db) (inside : row ∈ db.customers)
    (device : row.remoteId = some remoteId) (tenant : row.tenantId = tenantId)
    (onward : ∀ t, Consistent t → Consistent (next.run act t).1)
    (failed : ∀ error, Consistent ((fail error).run act db).1) :
    Consistent ((Prog.write (.linkFavorites remoteId row.id tenantId) (fun _ => next) fail :
      Client α).run act db).1 := by
  apply consistent_write _ failed
  intro out t done
  apply onward
  apply (consistent_linkFavorites_iff consistent done).mpr
  intro f _ _ _ c there same
  rw [db.eq_of_id there inside same]
  exact ⟨tenant, device⟩

theorem consistent_createCustomer (fields : CustomerFields) (tenantId assignedUserId now : Nat)
    (consistent : Consistent db) :
    Consistent ((createCustomer fields tenantId assignedUserId now).run act db).1 := by
  apply consistent_write
  · intro out t done
    have returned := (insertCustomer_ok done).1
    have inserted := consistent_insertCustomer consistent done
    rw [returned]
    dsimp only
    split
    · rename_i remoteId there
      apply consistent_link inserted _ (given_some there).1 rfl
      · exact fun _ kept => kept
      · exact fun _ => inserted
      · exact mem_insertCustomer done
    · exact inserted
  · exact fun _ => consistent

theorem consistent_importPeer (input : PeerInput) (tenantId assignedUserId now : Nat)
    (consistent : Consistent db) :
    Consistent ((importPeer input tenantId assignedUserId now).run act db).1 := by
  apply consistent_write
  · intro out t done
    have returned := (insertCustomer_ok done).1
    have inserted := consistent_insertCustomer consistent done
    rw [returned]
    dsimp only
    apply consistent_link inserted _ rfl rfl
    · exact fun _ kept => kept
    · exact fun _ => inserted
    · exact mem_insertCustomer done
  · intro error
    unfold Prog.run
    dsimp only
    split
    · exact consistent
    · rename_i existing found
      have device : existing.remoteId = some input.remoteId := by simpa using List.find?_some found
      split
      · exact consistent
      · rename_i tenant
        apply consistent_link consistent (List.mem_of_find?_eq_some found) device
          (not_not.mp tenant)
        · exact fun _ kept => kept
        · exact fun _ => consistent

theorem consistent_addFavoriteByRemoteId (userId : Nat) (remoteId : String) (tenantId : Nat)
    (hostname aliasName : Option String) (now : Nat) (consistent : Consistent db) :
    Consistent ((addFavoriteByRemoteId userId remoteId tenantId hostname aliasName now).run act
      db).1 := by
  unfold addFavoriteByRemoteId Prog.run
  dsimp only
  apply consistent_write
  · intro out t done
    have added : Consistent t := by
      apply consistent_upsertFavorite consistent _ done
      intro id link c there same
      obtain ⟨row, found, rfl⟩ := Option.map_eq_some_iff.mp link
      have facts := List.find?_some found
      simp only [Bool.and_eq_true, beq_iff_eq] at facts
      rw [db.eq_of_id there (List.mem_of_find?_eq_some found) same]
      exact ⟨facts.2, facts.1⟩
    split
    · exact consistent_single added fun _ _ claimed => consistent_claimCustomer added claimed
    · exact added
  · exact fun _ => consistent

theorem consistent_moveDeviceToNewCustomer (env : Runtime) (customerId : Nat) (newName : String)
    (tenantId now : Nat) (consistent : Consistent db) :
    Consistent ((moveDeviceToNewCustomer env customerId newName tenantId now).run act db).1 := by
  unfold moveDeviceToNewCustomer
  dsimp only
  split
  · exact consistent
  · unfold Prog.run
    dsimp only
    split
    · exact consistent
    · rename_i src found
      split
      · exact consistent
      · rename_i remoteId there
        split
        · exact consistent
        · have own := ownRow_iff.mp (List.find?_some found)
          apply consistent_write
          · intro out t done
            have moved := consistent_moveToNew consistent (List.mem_of_find?_eq_some found)
              (given_some there).1 own.2 rfl done
            split
            · exact moved
            · exact moved
          · exact fun _ => consistent

theorem consistent_applyAlertMoveToNew (id tenantId now : Nat) (consistent : Consistent db) :
    Consistent ((applyAlertMoveToNew id tenantId now).run act db).1 := by
  unfold applyAlertMoveToNew Prog.run
  dsimp only
  split
  · exact consistent
  · split
    · split
      · exact consistent
      · unfold Prog.run
        dsimp only
        split
        · exact consistent
        · rename_i src found
          split
          · exact consistent
          · rename_i device
            have own := ownRow_iff.mp (List.find?_some found)
            exact consistent_single consistent fun _ _ done => consistent_moveToNew consistent
              (List.mem_of_find?_eq_some found) (not_not.mp device) own.2 rfl done
    · exact consistent

section Enroll

variable {env : Runtime} {call : EnrollCall}

theorem consistent_settle (error : DbError) (consistent : Consistent db) :
    Consistent ((call.settle env error).run act db).1 := by
  unfold EnrollCall.settle Prog.run
  dsimp only
  split
  · exact consistent
  · split
    · exact consistent
    · exact consistent_single consistent fun _ _ done => consistent_rotateToken consistent done

theorem consistent_register (count : Nat) (consistent : Consistent db) :
    Consistent ((call.register env count).run act db).1 := by
  apply consistent_write
  · intro out t done
    have returned := (insertCustomer_ok done).1
    have inserted := consistent_insertCustomer consistent done
    rw [returned]
    dsimp only
    apply consistent_link inserted _ rfl rfl
    · intro u linked
      split
      · apply consistent_write
        · exact fun _ _ alerted => consistent_insertAlert linked alerted
        · exact fun _ => consistent_settle _ linked
      · exact linked
    · exact fun _ => consistent_settle _ inserted
    · exact mem_insertCustomer done
  · exact fun _ => consistent_settle _ consistent

theorem consistent_leaveToPanel (own : Customer) (found : List Customer)
    (consistent : Consistent db) :
    Consistent ((call.leaveToPanel env own found).run act db).1 := by
  apply consistent_write
  · intro out t done
    have rotated := consistent_rotateToken consistent done
    unfold Prog.run
    dsimp only
    split
    · exact rotated
    · exact consistent_single rotated fun _ _ alerted => consistent_insertAlert rotated alerted
  · exact fun _ => consistent

/-- An enrollment runs its judgement on what it reads, unless the device is another tenant's. -/
theorem run_enrollCustomer (env : Runtime) (call : EnrollCall) (db : Db) :
    (call.enrollCustomer env).run act db =
      if (call.byId db.customers).any (fun row => row.tenantId != call.tenantId) then
        (db, .ok .crossTenant)
      else (call.judge env (call.byId db.customers)
        (call.nameMatches env (call.byId db.customers) db.customers)).run act db := by
  unfold EnrollCall.enrollCustomer
  rw [Prog.run_read]
  dsimp only
  split
  · rfl
  · split
    · rename_i blank
      unfold EnrollCall.nameMatches
      rw [if_pos blank]
    · rw [Prog.run_read]

/-- A displaced row is the target of a move or of a replacement. -/
theorem judge_of_displaces {rows : List Customer} {row : Customer}
    (displaced : call.Displaces env rows row) :
    call.judge env (call.byId rows) (call.nameMatches env (call.byId rows) rows) =
      match call.byId rows with
      | some own => call.moveToStore env own row
      | none => call.replaceDead env row 1 := by
  obtain ⟨⟨sole, others⟩, dead⟩ := displaced
  have keyed : call.nameKey env ≠ "" := by
    intro blank
    unfold EnrollCall.nameMatches at sole
    rw [if_pos blank] at sole
    cases sole
  rw [sole]
  unfold EnrollCall.judge
  cases held : call.byId rows with
  | none => simp [dead]
  | some own =>
    obtain ⟨flag, named⟩ := others own held
    simp [flag, named, keyed, dead]

/-- Without a displaced row every branch keeps the links. -/
theorem consistent_judge (consistent : Consistent db)
    (mine : ∀ own ∈ call.byId db.customers, own.tenantId = call.tenantId)
    (none : ∀ row, ¬ call.Displaces env db.customers row) :
    Consistent ((call.judge env (call.byId db.customers)
      (call.nameMatches env (call.byId db.customers) db.customers)).run act db).1 := by
  apply EnrollCall.judge_cases fun p => Consistent (p.run act db).1
  · intro own held
    obtain ⟨inside, device⟩ := EnrollCall.byId_some held
    exact consistent_single consistent fun _ _ done =>
      consistent_moveToNew consistent inside device (mine own held) rfl done
  · intro own _
    exact consistent_single consistent fun _ _ done => consistent_rotateToken consistent done
  · intro own held target sole dead flag named
    refine absurd ⟨⟨sole, ?_⟩, dead⟩ (none target)
    intro other same
    rw [Option.mem_unique same held]
    exact ⟨flag, named⟩
  · exact fun own _ => consistent_leaveToPanel own _ consistent
  · intro free target sole dead
    refine absurd ⟨⟨sole, ?_⟩, dead⟩ (none target)
    intro other same
    rw [free] at same
    cases same
  · exact fun _ => consistent_register _ consistent

/-- The move branch, from the row it takes over. -/
theorem consistent_moveToStore_iff {own target : Customer} (consistent : Consistent db)
    (held : call.byId db.customers = some own) (mine : own.tenantId = call.tenantId)
    (sole : call.nameMatches env (call.byId db.customers) db.customers = [target]) :
    Consistent ((call.moveToStore env own target).run act db).1 ↔
      ∀ f ∈ db.favorites, f.customerId = some target.id → f.remoteId = call.remoteId := by
  obtain ⟨inside, device⟩ := EnrollCall.byId_some held
  have found := EnrollCall.mem_nameMatches (sole ▸ List.mem_singleton_self target)
  obtain ⟨out, after, done⟩ := moveDevice_succeeds inside device found.1
  unfold EnrollCall.moveToStore Prog.run
  rw [done]
  exact consistent_moveDevice_iff consistent inside device mine found.1 found.2.1
    (found.2.2.1 own held) done

/-- The replacement branch, from the row it takes over. -/
theorem consistent_replaceDead_iff {target : Customer} (consistent : Consistent db)
    (free : call.byId db.customers = none)
    (sole : call.nameMatches env (call.byId db.customers) db.customers = [target]) :
    Consistent ((call.replaceDead env target 1).run act db).1 ↔
      ∀ f ∈ db.favorites, f.customerId = some target.id → f.remoteId ≠ "" := by
  have unknown := EnrollCall.byId_none free
  have found := EnrollCall.mem_nameMatches (sole ▸ List.mem_singleton_self target)
  by_cases blank : ∃ f ∈ db.favorites, f.customerId = some target.id ∧ f.remoteId = ""
  · -- the transaction is carried out, and the favourites of the empty id stay behind
    obtain ⟨f, inside, link, empty⟩ := blank
    have old : target.remoteId = some "" :=
      (consistent f inside target.id link target found.1 rfl).2.trans (congrArg some empty)
    obtain ⟨out, after, done⟩ := replaceDevice_succeeds unknown found.1
    rw [← old] at done
    unfold EnrollCall.replaceDead Prog.run
    rw [done]
    exact consistent_replaceDevice_iff consistent unknown found.1 found.2.1 done
  · have named : ∀ f ∈ db.favorites, f.customerId = some target.id → f.remoteId ≠ "" :=
      fun f inside link empty => blank ⟨f, inside, link, empty⟩
    apply iff_of_true _ named
    apply consistent_write
    · exact fun _ _ done =>
        (consistent_replaceDevice_iff consistent unknown found.1 found.2.1 done).mpr named
    · exact fun _ => consistent_register _ consistent

end Enroll

end Runs

/-- When an operation keeps favourites and customers in agreement. An edit must keep the device
id of a row with favourites, unless another row has the new id and the edit is refused; a link
must be to the customer of the device and tenant, if there is a favourite to link; an
enrollment that takes a row over must find no favourite of another device on it when it
moves, and none of an empty device id when it replaces. -/
def PreservesLinks (env : Runtime) (db : Db) : Operation → Prop
  | .updateCustomer id fields tenantId _ =>
    ∀ row ∈ db.customers, ownRow id tenantId row = true →
      fields.remoteId = row.remoteId ∨ (∀ f ∈ db.favorites, f.customerId ≠ some id) ∨
        Taken db id fields.remoteId
  | .linkFavoritesToCustomer remoteId customerId tenantId =>
    ∀ f ∈ db.favorites, ofDevice remoteId tenantId f = true → f.customerId = none →
      ∀ c ∈ db.customers, c.id = customerId →
        c.tenantId = tenantId ∧ c.remoteId = some remoteId
  | .enrollCustomer call =>
    (∀ own ∈ call.byId db.customers, own.tenantId = call.tenantId) →
      ∀ row, call.Displaces env db.customers row →
        ∀ f ∈ db.favorites, f.customerId = some row.id →
          if (call.byId db.customers).isSome then f.remoteId = call.remoteId
          else f.remoteId ≠ ""
  | _ => True

section Operations

variable {env : Runtime} {db : Db}

theorem consistent_updateCustomer_run (id : Nat) (fields : CustomerFields) (tenantId now : Nat)
    (consistent : Consistent db) :
    Consistent ((updateCustomer id fields tenantId now).run act db).1 ↔
      PreservesLinks env db (.updateCustomer id fields tenantId now) := by
  unfold updateCustomer Prog.run
  cases outcome : act (.updateCustomer id tenantId fields now) db with
  | ok done =>
    have accepted : act (.updateCustomer id tenantId fields now) db = .ok (done.1, done.2) := outcome
    apply (consistent_updateCustomer_iff consistent accepted).trans
    constructor
    · intro kept row inside hit
      rcases kept row inside hit with same | none
      · exact .inl same
      · exact .inr (.inl none)
    · intro kept row inside hit
      rcases kept row inside hit with same | none | taken
      · exact .inl same
      · exact .inr none
      · exact absurd accepted ((updateCustomer_refused_iff inside hit).mpr taken _ _)
  | error error =>
    apply iff_of_true consistent
    intro row inside hit
    right
    right
    apply (updateCustomer_refused_iff inside hit).mp
    intro out after done
    rw [outcome] at done
    cases done

theorem consistent_linkFavorites_run (remoteId : String) (customerId tenantId : Nat)
    (consistent : Consistent db) :
    Consistent ((linkFavoritesToCustomer remoteId customerId tenantId).run act db).1 ↔
      PreservesLinks env db (.linkFavoritesToCustomer remoteId customerId tenantId) := by
  unfold linkFavoritesToCustomer Prog.run
  cases outcome : act (.linkFavorites remoteId customerId tenantId) db with
  | ok done => exact consistent_linkFavorites_iff consistent outcome
  | error error =>
    apply iff_of_true consistent
    intro f _ _ _ c inside same
    -- where the customer is there the statement is accepted
    have there : customerId ∈ db.customers.map Customer.id := same ▸ List.mem_map_of_mem inside
    obtain ⟨after, accepted⟩ := db.updateFavorites_succeeds
      (fun f => ofDevice remoteId tenantId f && f.customerId.isNone) (linkTo customerId)
      (fun _ => ⟨rfl, rfl⟩) (fun _ _ _ id link => Option.some.inj link ▸ there)
    have done : act (.linkFavorites remoteId customerId tenantId) db = .ok ([], after) :=
      bind_of_ok accepted rfl
    rw [outcome] at done
    cases done

theorem consistent_enrollCustomer_run (call : EnrollCall) (consistent : Consistent db) :
    Consistent ((call.enrollCustomer env).run act db).1 ↔
      PreservesLinks env db (.enrollCustomer call) := by
  rw [run_enrollCustomer]
  split
  · rename_i foreign
    apply iff_of_true consistent
    intro mine
    obtain ⟨own, held, other⟩ := (Option.any_eq_true _ _).mp foreign
    exact absurd (mine own held) (by simpa using other)
  · rename_i notForeign
    have mine : ∀ own ∈ call.byId db.customers, own.tenantId = call.tenantId := by
      intro own held
      rw [Option.mem_def.mp held] at notForeign
      simpa using notForeign
    by_cases taken : ∃ row, call.Displaces env db.customers row
    · obtain ⟨row, displaced⟩ := taken
      have only : ∀ other, call.Displaces env db.customers other → other = row := by
        intro other also
        have same := also.1.1.symm.trans displaced.1.1
        exact List.singleton_injective same
      rw [judge_of_displaces displaced]
      have condition : PreservesLinks env db (.enrollCustomer call) ↔
          ∀ f ∈ db.favorites, f.customerId = some row.id →
            if (call.byId db.customers).isSome then f.remoteId = call.remoteId
            else f.remoteId ≠ "" := by
        constructor
        · exact fun kept => kept mine row displaced
        · intro kept _ other also
          rw [only other also]
          exact kept
      rw [condition]
      cases held : call.byId db.customers with
      | some own => exact consistent_moveToStore_iff consistent held (mine own held) displaced.1.1
      | none => exact consistent_replaceDead_iff consistent held displaced.1.1
    · have none : ∀ row, ¬ call.Displaces env db.customers row := not_exists.mp taken
      apply iff_of_true (consistent_judge consistent mine none)
      intro _ row displaced
      exact absurd displaced (none row)

end Operations

/-- From a consistent database, an operation keeps it consistent exactly under its condition. -/
theorem links_preserved_iff (env : Runtime) (db : Db) (op : Operation)
    (consistent : Consistent db) : Consistent (op.after env db) ↔ PreservesLinks env db op := by
  cases op with
  | createCustomer fields tenantId assignedUserId now =>
    exact iff_of_true (consistent_createCustomer _ _ _ _ consistent) trivial
  | updateCustomer id fields tenantId now =>
    exact consistent_updateCustomer_run id fields tenantId now consistent
  | importPeer input tenantId assignedUserId now =>
    exact iff_of_true (consistent_importPeer _ _ _ _ consistent) trivial
  | deleteCustomer id tenantId =>
    apply iff_of_true _ trivial
    exact consistent_single consistent fun _ _ done => consistent_deleteCustomer consistent done
  | addFavoriteByRemoteId userId remoteId tenantId hostname aliasName now =>
    exact iff_of_true (consistent_addFavoriteByRemoteId _ _ _ _ _ _ consistent) trivial
  | linkFavoritesToCustomer remoteId customerId tenantId =>
    exact consistent_linkFavorites_run remoteId customerId tenantId consistent
  | enrollCustomer call => exact consistent_enrollCustomer_run call consistent
  | applyAlertMoveToNew id tenantId now =>
    exact iff_of_true (consistent_applyAlertMoveToNew _ _ _ consistent) trivial
  | moveDeviceToNewCustomer customerId newName tenantId now =>
    exact iff_of_true (consistent_moveDeviceToNewCustomer _ _ _ _ _ consistent) trivial

/-- Two stores, each with its device and a favourite of it. -/
def twoStores : Db where
  customers :=
    [{ id := 0, tenantId := 1, name := "cafe", remoteId := some "100" },
     { id := 1, tenantId := 1, name := "bar", remoteId := some "200" }]
  favorites :=
    [{ userId := 7, remoteId := "100", customerId := some 0, tenantId := 1 },
     { userId := 8, remoteId := "200", customerId := some 1, tenantId := 1 }]
  alerts := []
  nextId := 2
  valid := by decide

/-- An edit of the first store that keeps its device. -/
theorem links_preserved_iff_rename : Consistent twoStores ∧
    (Consistent ((Operation.updateCustomer 0 { name := "diner", remoteId := some "100" } 1 5).after
        plainRuntime twoStores) ↔
      PreservesLinks plainRuntime twoStores
        (.updateCustomer 0 { name := "diner", remoteId := some "100" } 1 5)) := by
  have consistent : Consistent twoStores := by decide
  exact ⟨consistent, links_preserved_iff _ _ _ consistent⟩

/-- An edit of the device id leaves the favourite of the old device linked, and so does an
enrollment of the first device under the name of the second store. -/
theorem links_broken_by_edit_and_move : Consistent twoStores ∧
    ¬ Consistent ((Operation.updateCustomer 0 { name := "cafe", remoteId := some "300" } 1 5).after
      plainRuntime twoStores) ∧
    ¬ Consistent ((Operation.enrollCustomer
      ⟨{ remoteId := "100", name := some "bar" }, 1, "t1", 5⟩).after plainRuntime twoStores) := by
  decide +kernel

end ChainRemote.Panel
