import ChainRemote.Lib.Query
import ChainRemote.Panel.Database
import ChainRemote.Panel.Seats
import ChainRemote.Panel.UpnpDoor

/-!
# The routes that return customer rows

Three routes return `customers` rows to the HQ app: the list of a company, one row of it, and the
favourites of an account. The list hides the address of a door that is not verified; the other two
return the row as it is stored, so they leak such an address exactly when the row they read has one.
-/

namespace ChainRemote.Panel.UpnpRoutes

open Lib UpnpDoor

/-- A `folders` row. -/
structure Folder where
  id : Nat
  name : String
deriving DecidableEq, Repr

/-- The tables that the routes read. The customers with their doors are the rows of the database. -/
structure Store where
  db : Db
  customers : List DoorRow
  same : customers.map DoorRow.toCustomer = db.customers
  folders : List Folder

/-- A `customers` row with the name of its folder. -/
structure CustomerJson extends DoorRow where
  folderName : Option String := none

/-- One entry of the favourites. -/
structure FavoriteJson where
  remoteId : String
  customer : Option CustomerJson
  favoritedAt : Nat

/-- `listCustomers`. -/
def listCustomers (now tenantId : Nat) (store : Store) : List CustomerJson :=
  let rows := leftJoin (fun c f => c.folderId == some f.id) store.customers store.folders
  let mine := rows.filter fun row => row.1.tenantId == tenantId
  (orderDesc (fun row => row.1.updatedAt) mine).map fun row =>
    { toDoorRow := maskUnverifiedDoor now row.1, folderName := row.2.map Folder.name }

/-- `getCustomer`. -/
def getCustomer (id tenantId : Nat) (store : Store) : Option DoorRow :=
  store.customers.find? fun row => row.id == id && row.tenantId == tenantId

/-- `listMyFavorites`. -/
def listMyFavorites (userId tenantId : Nat) (store : Store) : List FavoriteJson :=
  let linked := leftJoin (fun f c => f.customerId == some c.id) store.db.favorites store.customers
  let rows := leftJoin (fun row folder => row.2.bind (fun c => c.folderId) == some folder.id) linked
    store.folders
  let mine := rows.filter fun row => row.1.1.userId == userId && row.1.1.tenantId == tenantId
  (orderDesc (fun row => row.1.1.createdAt) mine).map fun row =>
    { remoteId := row.1.1.remoteId
      customer := row.1.2.map fun c => { toDoorRow := c, folderName := row.2.map Folder.name }
      favoritedAt := row.1.1.createdAt }

/-- The routes; an id is the row id that its text stands for, if it is one. -/
inductive Route
  | customers
  | customer (id : Option Nat)
  | favorites

/-- What a route answers. -/
inductive Response
  | customers (rows : List CustomerJson)
  | customer (row : DoorRow)
  | favorites (rows : List FavoriteJson)
  | error (error : Seats.ApiAuthError)

/-- `GET` of a route; `me` is what `requireApiAuth` gave. -/
def get (now : Nat) (store : Store) (me : Except Seats.ApiAuthError Seats.Token) (route : Route) :
    Response :=
  match me with
  | .error error => .error error
  | .ok me =>
    match route with
    | .customers => .customers (listCustomers now me.tenantId store)
    | .customer none => .error Seats.databaseError
    | .customer (some id) =>
      match getCustomer id me.tenantId store with
      | none => .error { status := 404, message := "not found" }
      | some row => .customer row
    | .favorites => .favorites (listMyFavorites me.uid me.tenantId store)

/-- The customer rows in an answer. -/
def Response.rows : Response → List DoorRow
  | .customers rows => rows.map CustomerJson.toDoorRow
  | .customer row => [row]
  | .favorites rows => rows.filterMap fun row => row.customer.map CustomerJson.toDoorRow
  | .error _ => []

/-- A row has no address, or its door is open. -/
def Shown (now : Nat) (row : DoorRow) : Prop :=
  row.upnpEndpoint = none ∨ doorIsOpen now row = true

/-- Each address in an answer is that of a stored row whose door is open. -/
def Verified (now : Nat) (store : Store) (response : Response) : Prop :=
  ∀ row ∈ response.rows, row.upnpEndpoint = none ∨
    ∃ stored ∈ store.customers, stored.id = row.id ∧ stored.upnpEndpoint = row.upnpEndpoint ∧
      doorIsOpen now stored = true

/-- The rows that a route returns as they are stored have no address, or their doors are open. -/
def Safe (now : Nat) (store : Store) (me : Except Seats.ApiAuthError Seats.Token)
    (route : Route) : Prop :=
  match me, route with
  | .ok me, .customer (some id) =>
    ∀ row ∈ store.customers, row.id = id → row.tenantId = me.tenantId → Shown now row
  | .ok me, .favorites =>
    ∀ f ∈ store.db.favorites, f.userId = me.uid → f.tenantId = me.tenantId →
      ∀ row ∈ store.customers, f.customerId = some row.id → Shown now row
  | _, _ => True

variable {now : Nat} {store : Store}

/-- Rows of the database with one id are one row. -/
theorem Store.eq_of_id (store : Store) {a b : DoorRow} (left : a ∈ store.customers)
    (right : b ∈ store.customers) (same : a.id = b.id) : a = b := by
  have unique : (store.customers.map fun row => row.id).Nodup := by
    have ids := store.db.valid.customerIds
    rw [← store.same, List.map_map] at ids
    exact ids
  exact Lib.eq_of_key unique left right same

/-- An answer that repeats stored rows is verified exactly when each of them may be shown. -/
theorem verified_iff_of_stored {response : Response}
    (stored : ∀ row ∈ response.rows, row ∈ store.customers) :
    Verified now store response ↔ ∀ row ∈ response.rows, Shown now row := by
  constructor
  · intro verified row inside
    obtain hidden | ⟨other, old, sameId, _, opened⟩ := verified row inside
    · exact .inl hidden
    · have one : other = row := store.eq_of_id old (stored row inside) sameId
      exact .inr (one ▸ opened)
  · intro shown row inside
    obtain hidden | opened := shown row inside
    · exact .inl hidden
    · exact .inr ⟨row, stored row inside, rfl, rfl, opened⟩

/-- The list of a company hides every door that is not verified. -/
theorem verified_listCustomers (tenantId : Nat) :
    Verified now store (.customers (listCustomers now tenantId store)) := by
  intro row inside
  simp only [Response.rows, listCustomers, List.map_map, List.mem_map, mem_orderDesc,
    List.mem_filter] at inside
  obtain ⟨pair, ⟨paired, _⟩, rfl⟩ := inside
  have old : pair.1 ∈ store.customers := fst_mem_of_mem_leftJoin paired
  by_cases opened : doorIsOpen now pair.1 = true
  · right
    refine ⟨pair.1, old, ?_, ?_, opened⟩ <;> simp [maskUnverifiedDoor, opened]
  · left
    simp [maskUnverifiedDoor, opened]

/-- The row of a lookup is the row of the company with that id. -/
theorem getCustomer_eq_some_iff {id tenantId : Nat} {row : DoorRow} :
    getCustomer id tenantId store = some row ↔
      row ∈ store.customers ∧ row.id = id ∧ row.tenantId = tenantId := by
  unfold getCustomer
  constructor
  · intro found
    have selected := List.find?_some found
    simp only [Bool.and_eq_true, beq_iff_eq] at selected
    exact ⟨List.mem_of_find?_eq_some found, selected.1, selected.2⟩
  · rintro ⟨old, sameId, sameTenant⟩
    cases found : store.customers.find? fun row => row.id == id && row.tenantId == tenantId with
    | none =>
      have missed := List.find?_eq_none.mp found row old
      simp [sameId, sameTenant] at missed
    | some other =>
      have selected := List.find?_some found
      simp only [Bool.and_eq_true, beq_iff_eq] at selected
      rw [store.eq_of_id (List.mem_of_find?_eq_some found) old (selected.1.trans sameId.symm)]

/-- The favourites return exactly the rows that the favourites of the account link to. -/
theorem mem_rows_favorites {userId tenantId : Nat} {row : DoorRow} :
    row ∈ (Response.favorites (listMyFavorites userId tenantId store)).rows ↔
      ∃ f ∈ store.db.favorites, f.userId = userId ∧ f.tenantId = tenantId ∧
        row ∈ store.customers ∧ f.customerId = some row.id := by
  simp only [Response.rows, listMyFavorites, List.mem_filterMap, List.mem_map, mem_orderDesc,
    List.mem_filter, Bool.and_eq_true, beq_iff_eq]
  constructor
  · rintro ⟨_, ⟨⟨⟨f, linked⟩, folder⟩, ⟨paired, user, tenant⟩, rfl⟩, shown⟩
    obtain rfl : linked = some row := by simpa using shown
    have matched := mem_leftJoin_some.mp (fst_mem_of_mem_leftJoin paired)
    exact ⟨f, matched.1, user, tenant, matched.2.1, by simpa using matched.2.2⟩
  · rintro ⟨f, old, user, tenant, stored, link⟩
    have matched : (f, some row) ∈ leftJoin (fun f c => f.customerId == some c.id)
        store.db.favorites store.customers :=
      mem_leftJoin_some.mpr ⟨old, stored, by simpa using link⟩
    obtain ⟨folder, paired⟩ := exists_mem_leftJoin
      (fun row folder => row.2.bind (fun c => c.folderId) == some folder.id) store.folders matched
    exact ⟨_, ⟨_, ⟨paired, user, tenant⟩, rfl⟩, rfl⟩

/-- Every address that a route returns belongs to a row whose door is open, exactly when the rows
that it returns as they are stored have no address or an open door. -/
theorem routes_verified_iff (now : Nat) (store : Store)
    (me : Except Seats.ApiAuthError Seats.Token) (route : Route) :
    Verified now store (get now store me route) ↔ Safe now store me route := by
  have refused : ∀ error, Verified now store (.error error) := fun _ _ inside => nomatch inside
  cases me with
  | error error => exact iff_of_true (refused error) trivial
  | ok me =>
    match route with
    | .customers => exact iff_of_true (verified_listCustomers me.tenantId) trivial
    | .customer none => exact iff_of_true (refused _) trivial
    | .customer (some id) =>
      simp only [get, Safe]
      cases found : getCustomer id me.tenantId store with
      | none =>
        refine iff_of_true (refused _) fun row old sameId sameTenant => ?_
        rw [getCustomer_eq_some_iff.mpr ⟨old, sameId, sameTenant⟩] at found
        cases found
      | some row =>
        have mine := getCustomer_eq_some_iff.mp found
        rw [verified_iff_of_stored (by simpa [Response.rows] using mine.1)]
        constructor
        · intro shown other old sameId _
          rw [store.eq_of_id old mine.1 (sameId.trans mine.2.1.symm)]
          exact shown row (by simp [Response.rows])
        · intro safe other inside
          obtain rfl : other = row := by simpa [Response.rows] using inside
          exact safe other mine.1 mine.2.1 mine.2.2
    | .favorites =>
      have stored : ∀ row ∈ (Response.favorites (listMyFavorites me.uid me.tenantId store)).rows,
          row ∈ store.customers := by
        intro row inside
        obtain ⟨_, _, _, _, old, _⟩ := mem_rows_favorites.mp inside
        exact old
      simp only [get, Safe]
      rw [verified_iff_of_stored stored]
      constructor
      · intro shown f old user tenant row stored link
        exact shown row (mem_rows_favorites.mpr ⟨f, old, user, tenant, stored, link⟩)
      · intro safe row inside
        obtain ⟨f, old, user, tenant, stored, link⟩ := mem_rows_favorites.mp inside
        exact safe f old user tenant row stored link

/-- A company with one customer whose door was never verified, and a favourite of it. -/
def oneDoor : Store where
  db :=
    { customers :=
        [{ id := 0, tenantId := 1, name := "cafe", remoteId := some "100",
           upnpEndpoint := some "1.2.3.4:21118" }]
      favorites := [{ userId := 7, remoteId := "100", customerId := some 0, tenantId := 1 }]
      alerts := []
      nextId := 1
      valid := by decide }
  customers :=
    [{ id := 0, tenantId := 1, name := "cafe", remoteId := some "100",
       upnpEndpoint := some "1.2.3.4:21118", upnpEnabled := true }]
  same := rfl
  folders := []

/-- The claims of an account of that company. -/
def someone : Seats.Token := { uid := 7, role := .operator, tenantId := 1, jti := none, exp := 100 }

/-- The row of the customer and the favourites return an address that was never verified. -/
theorem routes_leak_unverified :
    ¬ Verified 5 oneDoor (get 5 oneDoor (.ok someone) (.customer (some 0))) ∧
      ¬ Verified 5 oneDoor (get 5 oneDoor (.ok someone) .favorites) := by
  have leaks : ∀ response : Response, response.rows = oneDoor.customers →
      ¬ Verified 5 oneDoor response := by
    intro response same verified
    rw [verified_iff_of_stored (fun row inside => same ▸ inside), same] at verified
    have shown := verified _ List.mem_cons_self
    unfold Shown at shown
    revert shown
    decide
  exact ⟨leaks _ rfl, leaks _ rfl⟩

end ChainRemote.Panel.UpnpRoutes
