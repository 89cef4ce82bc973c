import ChainRemote.Lib.Query
import ChainRemote.Panel.Links

/-!
# Candidates for new customers

`listOrphanFavorites` groups the favourites without a customer by their device; the panel shows the
groups as candidates. The database takes the link out of a favourite whose customer is deleted,
which would make a candidate of it, so `deleteCustomer` deletes the favourites of the customer and
of its device first. A blank device id counts as none there, while a candidate may have one.
-/

namespace ChainRemote.Panel.OrphanFavorites

open Lib

/-- A row of `users`, as far as it is joined here. -/
structure Member where
  id : Nat
  displayName : String
deriving DecidableEq, Repr

/-- `OrphanFavorite`. -/
structure OrphanFavorite where
  remoteId : String
  favoritedBy : List String
  favoritedAt : Nat
  hostname : Option String
  aliasName : Option String
deriving DecidableEq, Repr

/-- A text that is kept if it is there and not blank, and else filled in. -/
def backfill (kept found : Option String) : Option String :=
  match given kept, given found with
  | none, some text => some text
  | _, _ => kept

/-- A row of the query: a favourite and the member it belongs to. -/
abbrev Row := Favorite × Option Member

/-- The name of a row, if it is there and not blank. -/
def shownName (row : Row) : Option String := given (row.2.map Member.displayName)

/-- The candidate that the first row of a device makes. -/
def fresh (row : Row) : OrphanFavorite where
  remoteId := row.1.remoteId
  favoritedBy := (shownName row).toList
  favoritedAt := row.1.createdAt
  hostname := row.1.hostname
  aliasName := row.1.aliasName

/-- What another row of a device adds to its candidate. -/
def extend (row : Row) (existing : OrphanFavorite) : OrphanFavorite :=
  { existing with
    favoritedBy :=
      match shownName row with
      | some name =>
        if name ∈ existing.favoritedBy then existing.favoritedBy
        else existing.favoritedBy ++ [name]
      | none => existing.favoritedBy
    hostname := backfill existing.hostname row.1.hostname
    aliasName := backfill existing.aliasName row.1.aliasName }

/-- One round of the loop over the rows; the map keeps the order in which keys were set. -/
def addRow (byRemote : List OrphanFavorite) (row : Row) : List OrphanFavorite :=
  if byRemote.any fun g => g.remoteId == row.1.remoteId then
    updateWhere (fun g => g.remoteId == row.1.remoteId) (extend row) byRemote
  else byRemote ++ [fresh row]

/-- The rows of the query. -/
def orphanRows (users : List Member) (tenantId : Nat) (favorites : List Favorite) : List Row :=
  orderDesc (fun row => row.1.createdAt)
    (leftJoin (fun f user => user.id == f.userId)
      (favorites.filter fun f => f.tenantId == tenantId && f.customerId.isNone) users)

/-- `listOrphanFavorites`. -/
def listOrphanFavorites (users : List Member) (tenantId : Nat) (db : Db) : List OrphanFavorite :=
  (orphanRows users tenantId db.favorites).foldl addRow []

/-- Favourites only link to customers of their own company. -/
def OwnLinks (db : Db) : Prop :=
  ∀ f ∈ db.favorites, ∀ id ∈ f.customerId, ∀ c ∈ db.customers, c.id = id → c.tenantId = f.tenantId

instance (db : Db) : Decidable (OwnLinks db) :=
  inferInstanceAs (Decidable (∀ f ∈ _, ∀ id ∈ _, ∀ c ∈ _, _ → _))

section Groups

variable {byRemote : List OrphanFavorite} {row : Row}

/-- The candidates of other devices than a given one. -/
def apart (device : String) (g : OrphanFavorite) : Bool := g.remoteId != device

@[simp] theorem extend_remoteId (row : Row) (g : OrphanFavorite) :
    (extend row g).remoteId = g.remoteId := rfl

/-- A row of a device touches no candidate of another device. -/
theorem apart_addRow_of_device {device : String} (same : row.1.remoteId = device) :
    (addRow byRemote row).filter (apart device) = byRemote.filter (apart device) := by
  unfold addRow
  split
  · apply filter_updateWhere
    intro g _ hit
    have named : g.remoteId = device := (beq_iff_eq.mp hit).trans same
    simp [apart, named]
  · have gone : apart device (fresh row) = false := by simp [apart, fresh, same]
    rw [List.filter_append, List.filter_cons, gone]
    simp

/-- A row of another device does the same with or without the candidate of a device. -/
theorem apart_addRow_of_other {device : String} (other : row.1.remoteId ≠ device) :
    (addRow byRemote row).filter (apart device) = addRow (byRemote.filter (apart device)) row := by
  have kept : ∀ g : OrphanFavorite, g.remoteId = row.1.remoteId → apart device g = true := by
    intro g same
    simp [apart, same, other]
  have known : (byRemote.filter (apart device)).any (fun g => g.remoteId == row.1.remoteId) =
      byRemote.any fun g => g.remoteId == row.1.remoteId := by
    rw [List.any_filter]
    congr 1
    funext g
    by_cases same : g.remoteId = row.1.remoteId
    · rw [kept g same, Bool.true_and]
    · simp [same]
  unfold addRow
  rw [known]
  split
  · unfold updateWhere
    rw [List.filter_map]
    have column : apart device ∘ (fun g => if g.remoteId == row.1.remoteId then extend row g else g) =
        apart device := by
      funext g
      simp only [Function.comp_apply]
      split
      · rfl
      · rfl
    rw [column]
  · rw [List.filter_append, List.filter_singleton, kept (fresh row) rfl]
    rfl

/-- The candidates without a device are the candidates of the rows without it. -/
theorem apart_foldl (device : String) (rows : List Row) (byRemote : List OrphanFavorite) :
    (rows.foldl addRow byRemote).filter (apart device) =
      (rows.filter fun row => row.1.remoteId != device).foldl addRow
        (byRemote.filter (apart device)) := by
  induction rows generalizing byRemote with
  | nil => rfl
  | cons row rows ih =>
    rw [List.foldl_cons, ih, List.filter_cons]
    by_cases same : row.1.remoteId = device
    · have out : (row.1.remoteId != device) = false := by simp [same]
      rw [apart_addRow_of_device same, out]
      rfl
    · have stays : (row.1.remoteId != device) = true := by simp [same]
      rw [apart_addRow_of_other same, stays]
      rfl

/-- Favourites may be left out by their device before the query. -/
theorem orphanRows_filter (users : List Member) (tenantId : Nat) (favorites : List Favorite)
    (keep : Favorite → Bool) :
    orphanRows users tenantId (favorites.filter keep) =
      (orphanRows users tenantId favorites).filter fun row => keep row.1 := by
  unfold orphanRows
  rw [filter_orderDesc, filter_leftJoin, List.filter_filter, List.filter_filter]
  congr 2
  apply List.filter_congr
  intro f _
  exact Bool.and_comm _ _

end Groups

section Deletion

variable {db after : Db} {out : List Customer} {id tenantId : Nat}

/-- A deletion returns what its transaction returns, and one that fails changes nothing. -/
theorem deleteCustomer_cases (db : Db) (id tenantId : Nat) :
    ((deleteCustomer id tenantId).run act db).2 ≠ .ok true ∧
        ((deleteCustomer id tenantId).run act db).1 = db ∨
      ∃ out, act (.deleteCustomer id tenantId) db =
          .ok (out, ((deleteCustomer id tenantId).run act db).1) ∧ out ≠ [] := by
  unfold deleteCustomer
  simp only [Prog.run]
  cases done : act (.deleteCustomer id tenantId) db with
  | error e => exact .inl ⟨by simp, rfl⟩
  | ok result =>
    obtain ⟨out, after⟩ := result
    cases out with
    | nil =>
      have nothing : after = db := by
        rcases deleteCustomer_ok done with ⟨-, same⟩ | ⟨target, inside, own, rows, -, -⟩
        · exact same
        · have listed : target ∈ ([] : List Customer) := by
            rw [rows]
            exact List.mem_filter.mpr ⟨inside, own⟩
          cases listed
      exact .inl ⟨by simp, nothing⟩
    | cons row rest => exact .inr ⟨row :: rest, rfl, List.cons_ne_nil row rest⟩

/-- Where favourites keep to their company, a deletion takes no link out of a favourite that it
leaves. -/
theorem favorites_of_deleted (own : OwnLinks db)
    (done : act (.deleteCustomer id tenantId) db = .ok (out, after)) (some : out ≠ []) :
    ∃ target ∈ db.customers, ownRow id tenantId target = true ∧
      after.favorites = db.favorites.filter fun f => !fallsWith target tenantId f := by
  rcases deleteCustomer_ok done with ⟨nothing, -⟩ | ⟨target, inside, hit, rows, -, favorites⟩
  · exact absurd nothing some
  · refine ⟨target, inside, hit, ?_⟩
    rw [favorites]
    apply updateWhere_of_miss
    intro f left
    obtain ⟨old, stays⟩ := List.mem_filter.mp left
    by_contra linked
    rw [Bool.not_eq_false, Option.any_eq_true] at linked
    obtain ⟨link, there, gone⟩ := linked
    -- a favourite that is linked to a deleted row is of its company, and falls with it
    have deleted : ∃ c ∈ db.customers, ownRow id tenantId c = true ∧ c.id = link := by
      simpa [rows, and_assoc] using gone
    obtain ⟨c, held, hitToo, same⟩ := deleted
    have tenant := own f old link there c held same
    have first := ownRow_iff.mp hit
    have second := ownRow_iff.mp hitToo
    have falls : fallsWith target tenantId f = true := by
      have named : f.customerId = Option.some target.id := by
        rw [Option.mem_def.mp there, first.1, ← same, second.1]
      simp [fallsWith, named, ← tenant, second.2]
    rw [falls] at stays
    cases stays

end Deletion

/-- A deletion leaves the candidates of its company but for the device of the row, and leaves the
favourites of the other companies. -/
structure Cleared (users : List Member) (tenantId : Nat) (target : Customer) (db after : Db) :
    Prop where
  candidates : (listOrphanFavorites users tenantId after).Sublist
    (listOrphanFavorites users tenantId db)
  device : ∀ remoteId, given target.remoteId = some remoteId →
    remoteId ∉ (listOrphanFavorites users tenantId after).map OrphanFavorite.remoteId
  others : after.favorites.filter (fun f => f.tenantId != tenantId) =
    db.favorites.filter fun f => f.tenantId != tenantId

/-- The rows are favourites of the company without a customer. -/
theorem unlinked_of_orphan {users : List Member} {tenantId : Nat} {favorites : List Favorite}
    {row : Row} (inside : row ∈ orphanRows users tenantId favorites) :
    row.1.tenantId = tenantId ∧ row.1.customerId = none := by
  have listed := fst_mem_of_mem_leftJoin (mem_orderDesc.mp inside)
  simpa using (List.mem_filter.mp listed).2

/-- No candidate falls with a row without a device. -/
theorem fallsWith_unnamed {users : List Member} {tenantId : Nat} {target : Customer}
    (named : given target.remoteId = none) {favorites : List Favorite}
    {row : Row} (inside : row ∈ orphanRows users tenantId favorites) :
    fallsWith target tenantId row.1 = false := by
  obtain ⟨tenant, unlinked⟩ := unlinked_of_orphan inside
  cases held : target.remoteId with
  | none => simp [fallsWith, unlinked, held]
  | some remoteId =>
    have blank : remoteId = "" := by
      by_contra real
      rw [given, held, Option.filter_some, if_pos (by simpa using real)] at named
      cases named
    simp [fallsWith, unlinked, held, blank]

/-- With one that has a device those fall that are on it. -/
theorem fallsWith_named {users : List Member} {tenantId : Nat} {target : Customer}
    {device : String} (named : given target.remoteId = some device) {favorites : List Favorite}
    {row : Row} (inside : row ∈ orphanRows users tenantId favorites) :
    (!fallsWith target tenantId row.1) = (row.1.remoteId != device) := by
  obtain ⟨held, real⟩ := given_some named
  obtain ⟨tenant, unlinked⟩ := unlinked_of_orphan inside
  simp [fallsWith, tenant, unlinked, held, real, bne]

/-- The favourites that a deletion leaves clear its candidates. -/
theorem cleared_of_favorites {db after : Db} (users : List Member) {tenantId : Nat}
    {target : Customer}
    (favorites : after.favorites = db.favorites.filter fun f => !fallsWith target tenantId f) :
    Cleared users tenantId target db after := by
  have rows : orphanRows users tenantId after.favorites =
      (orphanRows users tenantId db.favorites).filter
        fun row => !fallsWith target tenantId row.1 := by
    rw [favorites]
    exact orphanRows_filter users tenantId db.favorites fun f => !fallsWith target tenantId f
  have others : after.favorites.filter (fun f => f.tenantId != tenantId) =
      db.favorites.filter fun f => f.tenantId != tenantId := by
    rw [favorites, List.filter_filter]
    apply List.filter_congr
    intro f _
    by_cases same : f.tenantId = tenantId
    · simp [same]
    · simp [same, fallsWith]
  cases named : given target.remoteId with
  | none =>
    have same : orphanRows users tenantId after.favorites =
        orphanRows users tenantId db.favorites := by
      rw [rows, List.filter_eq_self]
      intro row inside
      rw [fallsWith_unnamed named inside, Bool.not_false]
    refine ⟨?_, ?_, others⟩
    · unfold listOrphanFavorites
      rw [same]
    · intro remoteId there
      rw [named] at there
      cases there
  | some device =>
    have without : orphanRows users tenantId after.favorites =
        (orphanRows users tenantId db.favorites).filter fun row => row.1.remoteId != device := by
      rw [rows]
      apply List.filter_congr
      intro row inside
      exact fallsWith_named named inside
    have listed : listOrphanFavorites users tenantId after =
        (listOrphanFavorites users tenantId db).filter (apart device) := by
      unfold listOrphanFavorites
      rw [without, apart_foldl]
      rfl
    refine ⟨?_, ?_, others⟩
    · rw [listed]
      exact List.filter_sublist
    · intro remoteId same
      obtain rfl := Option.some.inj (named.symm.trans same)
      rw [listed]
      intro again
      obtain ⟨g, kept, sameDevice⟩ := List.mem_map.mp again
      have other := (List.mem_filter.mp kept).2
      simp [apart, sameDevice] at other

/-- A deleted customer does not come back as a candidate, and a deletion that returns false or
throws changes nothing. -/
theorem deleted_stays_away (users : List Member) (db : Db) (id tenantId : Nat)
    (own : OwnLinks db) :
    let (after, result) := (deleteCustomer id tenantId).run act db
    (result = .ok true → ∃ target ∈ db.customers, target.id = id ∧ target.tenantId = tenantId ∧
      Cleared users tenantId target db after) ∧
    (result ≠ .ok true → after = db) := by
  have both := deleteCustomer_cases db id tenantId
  rcases both with ⟨refused, same⟩ | ⟨out, done, rows⟩
  · exact ⟨fun succeeded => absurd succeeded refused, fun _ => same⟩
  · obtain ⟨target, inside, hit, favorites⟩ := favorites_of_deleted own done rows
    obtain ⟨sameId, sameTenant⟩ := ownRow_iff.mp hit
    have cleared := cleared_of_favorites users favorites
    refine ⟨fun _ => ⟨target, inside, sameId, sameTenant, cleared⟩, fun failed => ?_⟩
    exfalso
    apply failed
    unfold deleteCustomer
    simp only [Prog.run, done]
    cases out with
    | nil => exact absurd rfl rows
    | cons row rest => rfl

/-- A customer whose device two members know, one of them without the link, beside a candidate. -/
def closedShop : Db where
  customers := [{ id := 0, tenantId := 1, name := "cafe", remoteId := some "100" }]
  favorites :=
    [{ userId := 1, remoteId := "100", customerId := some 0, tenantId := 1, createdAt := 5 },
     { userId := 2, remoteId := "100", customerId := none, tenantId := 1, createdAt := 6 },
     { userId := 2, remoteId := "200", customerId := none, tenantId := 1, createdAt := 7 }]
  alerts := []
  nextId := 1
  valid := by decide

/-- Only the candidate that was there before is left. -/
theorem closedShop_stays_away :
    ((deleteCustomer 0 1).run act closedShop).2 = .ok true ∧
      (listOrphanFavorites [] 1 ((deleteCustomer 0 1).run act closedShop).1).map
        OrphanFavorite.remoteId = ["200"] ∧
      ∃ target ∈ closedShop.customers, target.id = 0 ∧ target.tenantId = 1 ∧
        Cleared [] 1 target closedShop ((deleteCustomer 0 1).run act closedShop).1 := by
  have deleted : ((deleteCustomer 0 1).run act closedShop).2 = .ok true := by decide +kernel
  exact ⟨deleted, by decide +kernel, (deleted_stays_away [] closedShop 0 1 (by decide)).1 deleted⟩

/-- A customer with a blank device id, and a favourite of a blank device. -/
def blankDevice : Db where
  customers := [{ id := 0, tenantId := 1, name := "cafe", remoteId := some "" }]
  favorites := [{ userId := 1, remoteId := "", customerId := none, tenantId := 1 }]
  alerts := []
  nextId := 1
  valid := by decide

/-- The favourite of the blank device id is still a candidate after the customer is deleted. -/
theorem blank_device_left :
    OwnLinks blankDevice ∧ ((deleteCustomer 0 1).run act blankDevice).2 = .ok true ∧
      blankDevice.customers.map (fun c => (c.id, c.tenantId, c.remoteId)) = [(0, 1, some "")] ∧
      "" ∈ (listOrphanFavorites [] 1 ((deleteCustomer 0 1).run act blankDevice).1).map
        OrphanFavorite.remoteId := by
  decide +kernel

end ChainRemote.Panel.OrphanFavorites
