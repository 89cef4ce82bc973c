import ChainRemote.Panel.Links

/-!
# The replacement of a store's device

An unknown device that is installed under the name of one store of the tenant takes the place of
that store's device, if there is none or it is dead. `enrollCustomer` asks for the last heartbeat
of the row, which stays when a device is moved away, and the transaction gives the favourites of
the old device the new id, which is part of their key. Where one of the two says no, the call goes
on as a registration, and the store has a second row.
-/

namespace ChainRemote.Panel

open Lib

variable {env : Runtime} {call : EnrollCall} {db : Db} {row : Customer}

/-- The primary key of a favourite. -/
def Favorite.key (f : Favorite) : Nat × String := (f.userId, f.remoteId)

/-- A favourite of the user for the device. -/
def favours (userId : Nat) (remoteId : String) (f : Favorite) : Bool :=
  decide (f.key = (userId, remoteId))

/-- The device takes its place on the row: the row has the device and the new token, there is no
new row and no other row changes, and whoever had the old device as a favourite has the new one. -/
structure Replaces (env : Runtime) (call : EnrollCall) (row : Customer) (db : Db)
    (result : Db × Except DbError EnrollResult) : Prop where
  returned : result.2 = .ok (.token call.plaintext false)
  rows : result.1.customers = updateWhere (isRow row.id)
    (attach call.remoteId (call.tokenHash env) call.now) db.customers
  follow : ∀ old, row.remoteId = some old → old ≠ "" → ∀ f ∈ db.favorites, f.remoteId = old →
    result.1.favorites.countP (favours f.userId call.remoteId) = 1

/-- Where the code replaces the device: a row without a device does not carry a recent heartbeat,
and a user whose favourite is to follow does not have the new device yet. The favourites of another
tenant do not follow. -/
structure Replaceable (call : EnrollCall) (row : Customer) (db : Db) : Prop where
  dead : row.remoteId = none → deviceAlive call.now row.lastHeartbeatAt = false
  free : ∀ old, row.remoteId = some old → old ≠ "" → ∀ f ∈ db.favorites, f.remoteId = old →
    (db.favorites.any (favours f.userId call.remoteId) = true ↔ f.tenantId ≠ call.tenantId)

/-- A user has a device as a favourite once or not at all. -/
theorem countP_favours (db : Db) (userId : Nat) (remoteId : String) :
    db.favorites.countP (favours userId remoteId) = 1 ↔
      db.favorites.any (favours userId remoteId) = true := by
  have unique : (db.favorites.map Favorite.key).Nodup := db.valid.favoriteKeys
  have same : db.favorites.countP (favours userId remoteId) =
      (db.favorites.map Favorite.key).count (userId, remoteId) := by
    rw [List.count, List.countP_map]
    apply List.countP_congr
    intro f _
    simp [favours]
  have most := List.nodup_iff_count_le_one.mp unique (userId, remoteId)
  rw [← same] at most
  have some' : 0 < db.favorites.countP (favours userId remoteId) ↔
      db.favorites.any (favours userId remoteId) = true := by
    rw [List.countP_pos_iff, List.any_eq_true]
  rw [← some']
  omega

theorem favours_iff {userId : Nat} {remoteId : String} {f : Favorite} :
    favours userId remoteId f = true ↔ f.userId = userId ∧ f.remoteId = remoteId := by
  unfold favours Favorite.key
  rw [decide_eq_true_eq, Prod.mk.injEq]

theorem followsReplaced_iff {oldId : Option String} {remoteId : String} {tenantId : Nat}
    {f : Favorite} :
    followsReplaced oldId remoteId tenantId f = true ↔
      ∃ old, oldId = some old ∧ old ≠ "" ∧ old ≠ remoteId ∧ f.remoteId = old ∧
        f.tenantId = tenantId := by
  cases oldId with
  | none => simp [followsReplaced]
  | some old =>
    simp only [followsReplaced, ofDevice_iff, Bool.and_eq_true, bne_iff_ne, Option.some.injEq,
      exists_eq_left', and_assoc]

/-- No user has both the device that goes and the one that comes. -/
def Unclashed (oldId : Option String) (remoteId : String) (tenantId : Nat)
    (favorites : List Favorite) : Prop :=
  ∀ f ∈ favorites, followsReplaced oldId remoteId tenantId f = true →
    ∀ g ∈ favorites, g.key ≠ (f.userId, remoteId)

/-- The keys of the favourites stay unique exactly where no user has both devices. -/
theorem favoriteKeys_redirect_iff {favorites : List Favorite} {oldId : Option String}
    {remoteId : String} {tenantId : Nat} (unique : (favorites.map Favorite.key).Nodup) :
    ((updateWhere (followsReplaced oldId remoteId tenantId) (redirect remoteId) favorites).map
      Favorite.key).Nodup ↔ Unclashed oldId remoteId tenantId favorites := by
  let here := followsReplaced oldId remoteId tenantId
  have column : (updateWhere here (redirect remoteId) favorites).map Favorite.key =
      favorites.map fun f => (if here f then redirect remoteId f else f).key := by
    unfold updateWhere
    rw [List.map_map]
    rfl
  rw [column]
  constructor
  · intro nodup f inside follows g there clash
    have stays : here g = false := by
      by_contra moved
      obtain ⟨old, -, -, differ, device, -⟩ :=
        followsReplaced_iff.mp (Bool.not_eq_false _ ▸ moved)
      exact differ (device.symm.trans (congrArg Prod.snd clash))
    have equal : f = g := by
      apply List.inj_on_of_nodup_map nodup inside there
      rw [if_pos follows, stays]
      exact clash.symm
    subst equal
    exact Bool.false_ne_true (stays.symm.trans follows)
  · intro unclashed
    apply (List.Nodup.of_map _ unique).map_on
    intro f inside g there same
    by_cases follows : here f = true
    · by_cases also : here g = true
      · -- both come from the one old device
        obtain ⟨old, known, -, -, device, -⟩ := followsReplaced_iff.mp follows
        obtain ⟨old', known', -, -, device', -⟩ := followsReplaced_iff.mp also
        rw [if_pos follows, if_pos also] at same
        have user : f.userId = g.userId := congrArg Prod.fst same
        have equal : old = old' := Option.some.inj (known.symm.trans known')
        apply eq_of_key unique inside there
        unfold Favorite.key
        rw [user, device, device', equal]
      · rw [if_pos follows, if_neg also] at same
        exact absurd same.symm (unclashed f inside follows g there)
    · by_cases also : here g = true
      · rw [if_neg follows, if_pos also] at same
        exact absurd same (unclashed g there also f inside)
      · rw [if_neg follows, if_neg also] at same
        exact eq_of_key unique inside there same

/-- The transaction is carried out exactly where no user has both devices. -/
theorem replaceDevice_accepted_iff {target : Customer} {remoteId tokenHash : String}
    {tenantId now : Nat} {alert : Alert}
    (free : ∀ c ∈ db.customers, c.remoteId ≠ some remoteId) (found : target ∈ db.customers) :
    (∃ out after,
        act (.replaceDevice target.id target.remoteId remoteId tokenHash tenantId now alert) db =
          .ok (out, after)) ↔
      Unclashed target.remoteId remoteId tenantId db.favorites := by
  have unique : (db.favorites.map Favorite.key).Nodup := db.valid.favoriteKeys
  rw [← favoriteKeys_redirect_iff unique]
  constructor
  · rintro ⟨out, after, done⟩
    have keys : (after.favorites.map Favorite.key).Nodup := after.valid.favoriteKeys
    rw [(replaceDevice_ok done).2.1] at keys
    exact keys
  · intro keys
    obtain ⟨attached, first⟩ := db.updateCustomers_succeeds (isRow target.id)
      (attach remoteId tokenHash now) (fun _ hit => beq_iff_eq.mp hit)
      (fun _ => ⟨rfl, rfl, rfl, rfl⟩) (.inr fun c inside _ => free c inside)
    have t1 := commit_ok first
    have favorites : attached.favorites = db.favorites := by rw [t1]
    have there : target.id ∈ attached.customers.map Customer.id := by
      have customers := congrArg Tables.customers t1
      have placed : attach remoteId tokenHash now target ∈ attached.customers := by
        rw [customers]
        exact mem_updateWhere_of_hit found (beq_iff_eq.mpr rfl)
      exact List.mem_map.mpr ⟨_, placed, rfl⟩
    have valid : Tables.Valid { attached.toTables with
        favorites := updateWhere (followsReplaced target.remoteId remoteId tenantId)
          (redirect remoteId) attached.favorites } := by
      rw [← favorites] at keys
      refine { attached.valid with favoriteKeys := keys, favoriteLinks := ?_ }
      intro f inside id linked
      rcases mem_updateWhere.mp inside with ⟨old, before, -, rfl⟩ | ⟨before, -⟩
      · exact attached.valid.favoriteLinks old before id linked
      · exact attached.valid.favoriteLinks f before id linked
    have second : attached.updateFavorites (followsReplaced target.remoteId remoteId tenantId)
        (redirect remoteId) = .ok ⟨_, valid⟩ := commit_of_valid valid
    obtain ⟨alerted, third⟩ := Db.insertAlert_succeeds ⟨_, valid⟩ (alert.about target.id)
      (fun id link => Option.some.inj link ▸ there)
    exact ⟨_, _, bind_of_ok first (bind_of_ok second (bind_of_ok third rfl))⟩

/-- A settlement adds no row. -/
theorem settle_rows (error : DbError) :
    ((call.settle env error).run act db).1.customers.length = db.customers.length := by
  unfold EnrollCall.settle
  rw [Prog.run_read]
  split
  · rfl
  · split
    · rfl
    · unfold Prog.run
      split
      · rename_i rotated
        unfold EnrollCall.handOut Prog.run
        rw [rotateToken_ok rotated]
        exact List.length_map _
      · rfl

/-- A registration that comes to a result has added a row. -/
theorem register_rows (count : Nat) (unknown : call.byId db.customers = none)
    {result : EnrollResult} (returned : ((call.register env count).run act db).2 = .ok result) :
    ((call.register env count).run act db).1.customers.length = db.customers.length + 1 := by
  unfold EnrollCall.register Prog.run at returned ⊢
  split at returned
  · rename_i out t inserted
    obtain ⟨rfl, tables⟩ := insertCustomer_ok inserted
    have grown : t.customers.length = db.customers.length + 1 := by
      rw [tables]
      exact List.length_append
    dsimp only
    unfold Prog.run
    split
    · rename_i linked
      have kept := congrArg Tables.customers (linkFavorites_ok linked)
      split
      · unfold Prog.run
        split
        · rename_i alerted
          unfold EnrollCall.handOut Prog.run
          rw [insertAlert_ok alerted, kept]
          exact grown
        · rw [settle_rows, kept]
          exact grown
      · unfold EnrollCall.handOut Prog.run
        rw [kept]
        exact grown
    · rw [settle_rows]
      exact grown
  · -- no row has the device, so the settlement throws
    rename_i error refused
    unfold EnrollCall.settle at returned
    rw [Prog.run_read, unknown] at returned
    cases returned

/-- A registration does not replace a device. -/
theorem not_replaces_register (count : Nat) (unknown : call.byId db.customers = none) :
    ¬ Replaces env call row db ((call.register env count).run act db) := by
  intro replaces
  have more := register_rows count unknown replaces.returned
  rw [replaces.rows] at more
  unfold updateWhere at more
  rw [List.length_map] at more
  omega

/-- The favourites after the transaction: the user has the new device once, unless the favourite is
another tenant's and its user does not have the new device. -/
theorem follow_iff {after : Db} {out : List Customer} {target : Customer}
    {remoteId tokenHash : String} {tenantId now : Nat} {alert : Alert}
    (unknown : ∀ c ∈ db.customers, c.remoteId ≠ some remoteId) (found : target ∈ db.customers)
    (done : act (.replaceDevice target.id target.remoteId remoteId tokenHash tenantId now alert)
      db = .ok (out, after)) {old : String} (device : target.remoteId = some old) (named : old ≠ "")
    {f : Favorite} (inside : f ∈ db.favorites) (held : f.remoteId = old) :
    after.favorites.countP (favours f.userId remoteId) = 1 ↔
      (db.favorites.any (favours f.userId remoteId) = true ↔ f.tenantId ≠ tenantId) := by
  have apart : old ≠ remoteId := fun same => unknown target found (same ▸ device)
  have unclashed := (replaceDevice_accepted_iff unknown found).mp ⟨out, after, done⟩
  have favorites := (replaceDevice_ok done).2.1
  rw [countP_favours, List.any_eq_true, List.any_eq_true]
  by_cases own : f.tenantId = tenantId
  · have follows : followsReplaced target.remoteId remoteId tenantId f = true :=
      followsReplaced_iff.mpr ⟨old, device, named, apart, held, own⟩
    have moved : redirect remoteId f ∈ after.favorites := by
      rw [favorites]
      exact mem_updateWhere_of_hit inside follows
    have absent : ¬ ∃ g ∈ db.favorites, favours f.userId remoteId g = true := by
      rintro ⟨g, there, favoured⟩
      exact unclashed f inside follows g there (of_decide_eq_true favoured)
    apply iff_of_true ⟨_, moved, favours_iff.mpr ⟨rfl, rfl⟩⟩
    exact iff_of_false absent (not_not_intro own)
  · -- what the user has of the new device was there before
    have same : (∃ g ∈ after.favorites, favours f.userId remoteId g = true) ↔
        ∃ g ∈ db.favorites, favours f.userId remoteId g = true := by
      rw [favorites]
      constructor
      · rintro ⟨g, there, favoured⟩
        rcases mem_updateWhere.mp there with ⟨h, before, follows, rfl⟩ | ⟨before, -⟩
        · obtain ⟨old', device', -, -, heldToo, tenant⟩ := followsReplaced_iff.mp follows
          have user : h.userId = f.userId := (favours_iff.mp favoured).1
          have equal : h = f := by
            have keys : (db.favorites.map Favorite.key).Nodup := db.valid.favoriteKeys
            apply eq_of_key keys before inside
            unfold Favorite.key
            rw [user, heldToo, held, Option.some.inj (device'.symm.trans device)]
          exact absurd (equal ▸ tenant) own
        · exact ⟨g, before, favoured⟩
      · rintro ⟨g, before, favoured⟩
        refine ⟨g, mem_updateWhere_of_miss before ?_, favoured⟩
        by_contra moved
        obtain ⟨old', device', -, differ, heldToo, -⟩ :=
          followsReplaced_iff.mp (Bool.not_eq_false _ ▸ moved)
        exact differ (heldToo.symm.trans (favours_iff.mp favoured).2)
    rw [same, iff_true_right own]

/-- Where exactly one store of the tenant has the name and it has no device or a dead one, an
unknown device takes its place exactly where a row without a device was not heard lately and no
user of the tenant has both devices as favourites, and the favourites of other tenants have the new
device already. -/
theorem store_replaced_iff (env : Runtime) (call : EnrollCall) (db : Db) (row : Customer)
    (unknown : call.byId db.customers = none)
    (sole : call.nameMatches env none db.customers = [row])
    (lost : row.remoteId = none ∨
      ∃ last, row.lastHeartbeatAt = some last ∧ last + deviceAliveMs ≤ call.now) :
    Replaces env call row db ((call.enrollCustomer env).run act db) ↔
      Replaceable call row db := by
  have free := EnrollCall.byId_none unknown
  have found := (EnrollCall.mem_nameMatches (sole ▸ List.mem_singleton_self row)).1
  have judged : (call.enrollCustomer env).run act db =
      (call.judge env none [row]).run act db := by
    rw [run_enrollCustomer, unknown, sole]
    rfl
  rw [judged]
  unfold EnrollCall.judge
  dsimp only
  by_cases dead : deviceAlive call.now row.lastHeartbeatAt = false
  · rw [if_neg (Bool.eq_false_iff.mp dead)]
    unfold EnrollCall.replaceDead Prog.run
    split
    · rename_i out after done
      obtain ⟨customers, -, -⟩ := replaceDevice_ok done
      constructor
      · intro replaces
        refine ⟨fun _ => dead, fun old device named f inside held => ?_⟩
        exact (follow_iff free found done device named inside held).mp
          (replaces.follow old device named f inside held)
      · intro replaceable
        refine ⟨rfl, customers, fun old device named f inside held => ?_⟩
        exact (follow_iff free found done device named inside held).mpr
          (replaceable.free old device named f inside held)
    · rename_i error refused
      apply iff_of_false (not_replaces_register _ unknown)
      intro replaceable
      have unclashed : Unclashed row.remoteId call.remoteId call.tenantId db.favorites := by
        intro f inside follows g there clash
        obtain ⟨old, device, named, -, held, tenant⟩ := followsReplaced_iff.mp follows
        apply (replaceable.free old device named f inside held).mp _ tenant
        exact List.any_eq_true.mpr ⟨g, there, decide_eq_true clash⟩
      obtain ⟨out, after, done⟩ := (replaceDevice_accepted_iff free found).mpr unclashed
      rw [refused] at done
      cases done
  · rw [if_pos (Bool.not_eq_false _ ▸ dead)]
    apply iff_of_false (not_replaces_register _ unknown)
    intro replaceable
    apply dead
    rcases lost with without | ⟨last, heard, long⟩
    · exact replaceable.dead without
    · rw [heard, deviceAlive_some]
      exact decide_eq_false (Nat.not_lt.mpr long)

/-- A store whose device was not heard for an hour. -/
def deadCafe : Customer :=
  { id := 0, tenantId := 1, name := "cafe", remoteId := some "100", lastHeartbeatAt := some 0 }

/-- A store whose device was moved away a second after its last heartbeat. -/
def emptyCafe : Customer :=
  { id := 0, tenantId := 1, name := "cafe", lastHeartbeatAt := some 3599000 }

/-- One store, and the devices that a user has as favourites. -/
def favoured (cafe : Customer) (devices : List String) : Tables where
  customers := [cafe]
  favorites := devices.map fun device =>
    { userId := 7, remoteId := device, customerId := none, tenantId := 1 }
  alerts := []
  nextId := 1

/-- A user has the dead device as a favourite. -/
def deadStore : Db := ⟨favoured deadCafe ["100"], by decide⟩

/-- The user has the new device as well. -/
def deadStoreTwice : Db := ⟨favoured deadCafe ["100", "200"], by decide⟩

/-- No device, and no favourites. -/
def emptyStore : Db := ⟨favoured emptyCafe [], by decide⟩

/-- A new device is installed under the name of the store. -/
def installCall : EnrollCall := ⟨{ remoteId := "200", name := some "cafe" }, 1, "t1", 3600000⟩

theorem store_replaced_dead :
    Replaces plainRuntime installCall deadCafe deadStore
      ((installCall.enrollCustomer plainRuntime).run act deadStore) := by
  apply (store_replaced_iff plainRuntime installCall deadStore deadCafe rfl rfl
    (.inr ⟨0, rfl, by decide⟩)).mpr
  refine ⟨nofun, fun old device _ => ?_⟩
  obtain rfl : "100" = old := Option.some.inj device
  decide +kernel

/-- The favourite of the new device makes the transaction fail, and the row without a device was
heard a second ago: both stores have a second row then. -/
theorem store_duplicated :
    ¬ (∀ (env : Runtime) (call : EnrollCall) (db : Db) (row : Customer),
      call.byId db.customers = none → call.nameMatches env none db.customers = [row] →
      (∃ last, row.lastHeartbeatAt = some last ∧ last + deviceAliveMs ≤ call.now) →
      Replaces env call row db ((call.enrollCustomer env).run act db)) ∧
    ¬ ∀ (env : Runtime) (call : EnrollCall) (db : Db) (row : Customer),
      call.byId db.customers = none → call.nameMatches env none db.customers = [row] →
      row.remoteId = none →
      Replaces env call row db ((call.enrollCustomer env).run act db) := by
  constructor
  · intro claimed
    have replaces := claimed plainRuntime installCall deadStoreTwice deadCafe rfl rfl
      ⟨0, rfl, by decide⟩
    have rows := congrArg List.length replaces.rows
    revert rows
    decide +kernel
  · intro claimed
    have replaces := claimed plainRuntime installCall emptyStore emptyCafe rfl rfl rfl
    have rows := congrArg List.length replaces.rows
    revert rows
    decide +kernel

end ChainRemote.Panel
