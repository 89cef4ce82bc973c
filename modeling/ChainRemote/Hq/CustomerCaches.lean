import ChainRemote.Lib.Maps

/-!
# What the headquarters program remembers of its customers

Two fetches fill three caches. The list of all customers and the list of the favourites each replace
the map of the customer ids and the map of the open doors, and add to the map of the names. The
favourites are a part of the customers, so that after a refresh of the favourites the two replaced
maps know the favourites only.
-/

namespace ChainRemote.Hq.CustomerCaches

open Lib

/-- `CustomerRow`. -/
structure CustomerRow where
  id : String
  remoteId : Option String := none
  name : String
  contactName : Option String := none
  address : Option String := none
  notes : Option String := none
  enrollStatus : Option String := none
  assignedUserId : Option String := none
  arch : Option String := none
  os : Option String := none
  osBits : Option String := none
  diskTotalBytes : Option Int := none
  diskFreeBytes : Option Int := none
  tempBytes : Option Int := none
  firewallControl : Option Bool := none
  vanWatch : Option String := none
  vanOk : Option Bool := none
  vanGaveUp : Option Bool := none
  vanMissing : Option Bool := none
  upnpEndpoint : Option String := none
  folderName : Option String := none
  schedOpenUntil : Option String := none
  schedCloseRequestedAt : Option String := none
deriving DecidableEq, Repr

/-- `FavoriteRow`; a machine that is no customer has none. -/
structure FavoriteRow where
  remoteId : String
  customer : Option CustomerRow
deriving DecidableEq, Repr

/-- `char::is_whitespace`. -/
def isWhitespace (c : Char) : Bool :=
  let n := c.toNat
  (9 ≤ n && n ≤ 13) || n == 32 || n == 0x85 || n == 0xa0 || n == 0x1680 ||
    (0x2000 ≤ n && n ≤ 0x200a) || n == 0x2028 || n == 0x2029 || n == 0x202f || n == 0x205f ||
    n == 0x3000

/-- `text.trim().is_empty()`. -/
def isBlank (text : String) : Bool := text.toList.all isWhitespace

/-- The caches; one that no fetch has filled is none. -/
structure Caches where
  /-- `REMOTE_TO_UUID`. -/
  remoteToUuid : Option (String → Option String) := none
  /-- `MY_FAV_REMOTE_IDS`. -/
  myFavRemoteIds : Option (List String) := none
  /-- `REMOTE_TO_NAME`. -/
  remoteToName : Option (String → Option String) := none
  /-- `UPNP_ENDPOINTS`. -/
  upnpEndpoints : Option (String → Option String) := none

/-- A new map with the given entries. -/
def mapOf (pairs : List (String × String)) : String → Option String :=
  insertAll pairs fun _ => none

/-- What `update_remote_to_uuid` inserts for a row. -/
def uuidEntry (c : CustomerRow) : Option (String × String) :=
  (c.remoteId.filter fun rid => rid ≠ "").map fun rid => (rid, c.id)

/-- `update_remote_to_uuid`. -/
def updateRemoteToUuid (rows : List CustomerRow) (caches : Caches) : Caches :=
  { caches with remoteToUuid := some (mapOf (rows.filterMap uuidEntry)) }

/-- `remote_to_uuid`. -/
def remoteToUuid (caches : Caches) (remoteId : String) : Option String :=
  caches.remoteToUuid.bind fun map => map remoteId

/-- What `merge_remote_names` inserts for a row. -/
def nameEntry (c : CustomerRow) : Option (String × String) :=
  (c.remoteId.filter fun rid => rid ≠ "" && !isBlank c.name).map fun rid => (rid, c.name)

/-- `merge_remote_names`. -/
def mergeRemoteNames (rows : List CustomerRow) (caches : Caches) : Caches :=
  let map := caches.remoteToName.getD fun _ => none
  { caches with remoteToName := some (insertAll (rows.filterMap nameEntry) map) }

/-- `get_remote_name`. -/
def getRemoteName (caches : Caches) (remoteId : String) : Option String :=
  caches.remoteToName.bind fun map => map remoteId

/-- What `remember_upnp_endpoints` inserts for a row. -/
def endpointEntry (c : CustomerRow) : Option (String × String) :=
  c.remoteId.bind fun id => (c.upnpEndpoint.filter fun ep => ep ≠ "").map fun ep => (id, ep)

/-- `remember_upnp_endpoints`. -/
def rememberUpnpEndpoints (rows : List CustomerRow) (caches : Caches) : Caches :=
  { caches with upnpEndpoints := some (mapOf (rows.filterMap endpointEntry)) }

/-- `upnp_endpoint_of`. -/
def upnpEndpointOf (caches : Caches) (remoteId : String) : String :=
  (caches.upnpEndpoints.bind fun map => map remoteId).getD ""

/-- The object for a row of a list of peers, with the fields that are not the same for all. -/
structure PeerJson where
  id : String
  hostname : String := ""
  /-- `alias`. -/
  peerAlias : String := ""
  deviceGroupName : String := ""
  note : String := ""
  enrollStatus : String := ""
  arch : String := ""
  os : String := ""
  osBits : String := ""
  schedOpenUntil : String := ""
  schedCloseRequestedAt : String := ""
  diskTotal : String := ""
  diskFree : String := ""
  tempBytes : String := ""
  firewallControl : String := ""
  vanWatch : String := ""
  vanOk : String := ""
  vanGaveUp : String := ""
  vanMissing : String := ""
deriving DecidableEq, Repr

/-- A flag as a text. -/
def flag (value : Option Bool) : String := if value.getD false then "Y" else ""

/-- `customer_to_peer_json`; a row without a device id has none. -/
def customerToPeerJson (c : CustomerRow) (withMarker : Bool) : Option PeerJson :=
  match c.remoteId with
  | none => none
  | some id =>
    if isBlank id then none
    else
      let isPending := c.enrollStatus == some "pending"
      let isUnassigned := isBlank (c.assignedUserId.getD "")
      let peerAlias :=
        if withMarker && isPending then "⏳ " ++ c.name
        else if withMarker && isUnassigned then "🆕 " ++ c.name
        else c.name
      some
        { id, peerAlias
          hostname := (c.contactName.or c.address).getD ""
          deviceGroupName := c.folderName.getD ""
          note := c.notes.getD ""
          enrollStatus := c.enrollStatus.getD ""
          arch := c.arch.getD ""
          os := c.os.getD ""
          osBits := c.osBits.getD ""
          schedOpenUntil := c.schedOpenUntil.getD ""
          schedCloseRequestedAt := c.schedCloseRequestedAt.getD ""
          diskTotal := (c.diskTotalBytes.map toString).getD ""
          diskFree := (c.diskFreeBytes.map toString).getD ""
          tempBytes := (c.tempBytes.map toString).getD ""
          firewallControl := flag c.firewallControl
          vanWatch := c.vanWatch.getD ""
          vanOk := match c.vanOk with
            | some true => "Y"
            | some false => "N"
            | none => ""
          vanGaveUp := flag c.vanGaveUp
          vanMissing := flag c.vanMissing }

/-- `orphan_peer_json`; the alias is the one this machine keeps for the peer. -/
def orphanPeerJson (localAlias : String → String) (remoteId : String) : PeerJson :=
  { id := remoteId, peerAlias := localAlias remoteId }

/-- What comes of a request to the panel. -/
inductive Fetched (α : Type)
  /-- `authed_get` fails. -/
  | failed (reason : String)
  /-- The answer is not of the expected form. -/
  | unreadable (inner : String)
  | parsed (response : α)

/-- What a fetch tells the user interface. -/
inductive Push
  | loadAllCustomers (peers : List PeerJson)
  | loadFavPeers (peers : List PeerJson)
  /-- `main_load_recent_peers`. -/
  | loadRecentPeers

/-- `fetch_customers_blocking`: the caches, what is told, and what is returned. -/
def fetchCustomersBlocking (fetched : Fetched (List CustomerRow)) (caches : Caches) :
    Caches × List Push × Bool :=
  match fetched with
  | .parsed rows =>
    let caches :=
      mergeRemoteNames rows (rememberUpnpEndpoints rows (updateRemoteToUuid rows caches))
    let peers := rows.filterMap fun c => customerToPeerJson c true
    (caches, [.loadAllCustomers peers, .loadRecentPeers], true)
  | .unreadable _ => (caches, [], false)
  | .failed _ => (caches, [], false)

/-- The customers of a list of favourites. -/
def mappedCustomers (favorites : List FavoriteRow) : List CustomerRow :=
  favorites.filterMap FavoriteRow.customer

/-- The device ids of a list of favourites, those of machines that are no customers as well. -/
def favRemoteIds (favorites : List FavoriteRow) : List String :=
  (favorites.map FavoriteRow.remoteId).filter fun id => id ≠ ""

/-- `fetch_favorites_blocking`. -/
def fetchFavoritesBlocking (localAlias : String → String) (fetched : Fetched (List FavoriteRow))
    (caches : Caches) : Caches × List Push × Bool :=
  match fetched with
  | .parsed favorites =>
    let caches := { caches with myFavRemoteIds := some (favRemoteIds favorites) }
    let mapped := mappedCustomers favorites
    let caches :=
      mergeRemoteNames mapped (rememberUpnpEndpoints mapped (updateRemoteToUuid mapped caches))
    let peers := favorites.filterMap fun f =>
      match f.customer with
      | some c => customerToPeerJson c false
      | none => some (orphanPeerJson localAlias f.remoteId)
    (caches, [.loadFavPeers peers], true)
  | .unreadable _ => (caches, [], false)
  | .failed _ => (caches, [], false)

/-- A call of one of the two fetches and what comes of its request. -/
inductive Call
  | customers (fetched : Fetched (List CustomerRow))
  | favorites (fetched : Fetched (List FavoriteRow))

/-- The caches and what was heard. -/
structure State where
  caches : Caches := {}
  /-- The rows of the latest list of all customers that was read. -/
  latest : Option (List CustomerRow) := none
  /-- The customers of every list that was read, the newest list first. -/
  heard : List (List CustomerRow) := []

/-- The state after a call. -/
def next (localAlias : String → String) (s : State) : Call → State
  | .customers fetched =>
    let caches := (fetchCustomersBlocking fetched s.caches).1
    match fetched with
    | .parsed rows => { caches, latest := some rows, heard := rows :: s.heard }
    | _ => { s with caches }
  | .favorites fetched =>
    let caches := (fetchFavoritesBlocking localAlias fetched s.caches).1
    match fetched with
    | .parsed favorites => { s with caches, heard := mappedCustomers favorites :: s.heard }
    | _ => { s with caches }

section Values

variable (remoteId : String) (rows : List CustomerRow)

/-- The list has a customer with the device id. -/
def Mentions : Prop := ∃ c ∈ rows, c.remoteId = some remoteId

instance : Decidable (Mentions remoteId rows) := inferInstanceAs (Decidable (∃ c ∈ rows, _))

/-- The id a list gives the customer of a device. -/
def uuidIn : Option String :=
  (rows.filter fun c => c.remoteId = some remoteId).getLast?.map CustomerRow.id

/-- The name a list gives the customer of a device; a blank text is no name. -/
def nameIn : Option String :=
  (rows.filter fun c => c.remoteId = some remoteId ∧ isBlank c.name = false).getLast?.map
    CustomerRow.name

/-- The door of a customer; none is empty. -/
def doorOf (c : CustomerRow) : String := c.upnpEndpoint.getD ""

/-- The door a list gives the customer of a device: empty where there is none, and nothing where the
list does not have the customer. -/
def endpointIn : Option String :=
  if Mentions remoteId rows then
    some (((rows.filter fun c => c.remoteId = some remoteId ∧ doorOf c ≠ "").getLast?.map
      doorOf).getD "")
  else none

end Values

/-- The caches answer for every customer of the latest list what the newest list that mentions the
customer says. -/
def Current (s : State) : Prop :=
  ∀ rows ∈ s.latest, ∀ remoteId, remoteId ≠ "" → Mentions remoteId rows →
    remoteToUuid s.caches remoteId = s.heard.findSome? (uuidIn remoteId) ∧
      getRemoteName s.caches remoteId = s.heard.findSome? (nameIn remoteId) ∧
      upnpEndpointOf s.caches remoteId = (s.heard.findSome? (endpointIn remoteId)).getD ""

/-- What was known about a customer that is no favourite is still known. -/
def Retains (before after : Caches) (favorites : List FavoriteRow) : Prop :=
  ∀ remoteId, remoteId ≠ "" → remoteId ∉ favRemoteIds favorites →
    ¬ Mentions remoteId (mappedCustomers favorites) →
    ((remoteToUuid before remoteId).isSome = true → (remoteToUuid after remoteId).isSome = true) ∧
    ((getRemoteName before remoteId).isSome = true →
      (getRemoteName after remoteId).isSome = true) ∧
    (upnpEndpointOf before remoteId ≠ "" → upnpEndpointOf after remoteId ≠ "")

/-- The caches are current after the call, and a refresh of the favourites makes no customer
unknown. -/
def Keeps (localAlias : String → String) (s : State) (call : Call) : Prop :=
  Current (next localAlias s call) ∧
    match call with
    | .favorites (.parsed favorites) =>
      Retains s.caches (next localAlias s call).caches favorites
    | _ => True

/-- A list of favourites has every customer of the latest list of all customers, and every customer
that `remote_to_uuid` knows apart from favourites without customer data. -/
def Covers (s : State) : Call → Prop
  | .favorites (.parsed favorites) =>
    (∀ rows ∈ s.latest, ∀ remoteId, remoteId ≠ "" → Mentions remoteId rows →
      Mentions remoteId (mappedCustomers favorites)) ∧
    ∀ remoteId, remoteId ≠ "" → (remoteToUuid s.caches remoteId).isSome = true →
      remoteId ∉ favRemoteIds favorites → Mentions remoteId (mappedCustomers favorites)
  | _ => True

section Lookups

variable {remoteId : String} (rows : List CustomerRow) (caches : Caches)

theorem lookup_uuid (named : remoteId ≠ "") :
    remoteToUuid (updateRemoteToUuid rows caches) remoteId = uuidIn remoteId rows := by
  show mapOf (rows.filterMap uuidEntry) remoteId = _
  rw [mapOf, insertAll_apply, Option.or_none]
  apply lastValue_filterMap
  · intro c picked
    have same : c.remoteId = some remoteId := of_decide_eq_true picked
    simp [uuidEntry, same, named]
  · intro c passed found made equal
    apply of_decide_eq_false passed
    obtain ⟨rid, kept, rfl⟩ := Option.map_eq_some_iff.mp made
    rw [← equal]
    exact (Option.filter_eq_some_iff.mp kept).1

theorem lookup_name (named : remoteId ≠ "") :
    getRemoteName (mergeRemoteNames rows caches) remoteId =
      (nameIn remoteId rows).or (getRemoteName caches remoteId) := by
  have known : (caches.remoteToName.getD fun _ => none) remoteId =
      getRemoteName caches remoteId := by
    unfold getRemoteName
    cases caches.remoteToName <;> rfl
  show insertAll (rows.filterMap nameEntry) _ remoteId = _
  rw [insertAll_apply, known]
  congr 1
  apply lastValue_filterMap
  · intro c picked
    obtain ⟨same, filled⟩ := of_decide_eq_true picked
    simp [nameEntry, same, named, filled]
  · intro c passed found made equal
    apply of_decide_eq_false passed
    obtain ⟨rid, kept, rfl⟩ := Option.map_eq_some_iff.mp made
    obtain ⟨same, admitted⟩ := Option.filter_eq_some_iff.mp kept
    rw [← equal]
    exact ⟨same, by simpa using (Bool.and_eq_true_iff.mp admitted).2⟩

theorem lookup_endpoint :
    upnpEndpointOf (rememberUpnpEndpoints rows caches) remoteId =
      (endpointIn remoteId rows).getD "" := by
  show (mapOf (rows.filterMap endpointEntry) remoteId).getD "" = _
  have found : mapOf (rows.filterMap endpointEntry) remoteId =
      (rows.filter fun c => c.remoteId = some remoteId ∧ doorOf c ≠ "").getLast?.map doorOf := by
    rw [mapOf, insertAll_apply, Option.or_none]
    apply lastValue_filterMap
    · intro c picked
      obtain ⟨same, door⟩ := of_decide_eq_true picked
      cases there : c.upnpEndpoint with
      | none =>
        rw [doorOf, there] at door
        exact absurd rfl door
      | some ep =>
        rw [doorOf, there] at door
        have filled : ep ≠ "" := door
        simp [endpointEntry, doorOf, same, there, filled]
    · intro c passed found made equal
      apply of_decide_eq_false passed
      obtain ⟨id, same, rest⟩ := Option.bind_eq_some_iff.mp made
      obtain ⟨ep, kept, rfl⟩ := Option.map_eq_some_iff.mp rest
      obtain ⟨there, door⟩ := Option.filter_eq_some_iff.mp kept
      rw [← equal, doorOf, there]
      exact ⟨same, of_decide_eq_true door⟩
  rw [found]
  unfold endpointIn
  by_cases mentioned : Mentions remoteId rows
  · rw [if_pos mentioned]
    rfl
  · have none : (rows.filter fun c => c.remoteId = some remoteId ∧ doorOf c ≠ "") = [] := by
      apply List.filter_eq_nil_iff.mpr
      intro c inside picked
      exact mentioned ⟨c, inside, (of_decide_eq_true picked).1⟩
    rw [if_neg mentioned, none]
    rfl

end Lookups

section Calls

variable {localAlias : String → String} {s t : State} {remoteId : String}
  {rows : List CustomerRow}

theorem uuidIn_isSome : (uuidIn remoteId rows).isSome = true ↔ Mentions remoteId rows := by
  unfold uuidIn
  rw [Option.isSome_map, List.getLast?_isSome]
  constructor
  · intro nonempty
    obtain ⟨c, picked⟩ := List.exists_mem_of_ne_nil _ nonempty
    obtain ⟨inside, same⟩ := List.mem_filter.mp picked
    exact ⟨c, inside, of_decide_eq_true same⟩
  · rintro ⟨c, inside, same⟩
    exact List.ne_nil_of_mem (List.mem_filter.mpr ⟨inside, decide_eq_true same⟩)

theorem endpointIn_isSome : (endpointIn remoteId rows).isSome = true ↔ Mentions remoteId rows := by
  unfold endpointIn
  by_cases mentioned : Mentions remoteId rows
  · rw [if_pos mentioned]
    exact ⟨fun _ => mentioned, fun _ => rfl⟩
  · rw [if_neg mentioned]
    exact ⟨nofun, fun found => absurd found mentioned⟩

/-- A list was read: the two replaced maps have its customers, the names are added. -/
structure Read (rows : List CustomerRow) (s t : State) : Prop where
  heard : t.heard = rows :: s.heard
  uuid : ∀ remoteId, remoteId ≠ "" → remoteToUuid t.caches remoteId = uuidIn remoteId rows
  name : ∀ remoteId, remoteId ≠ "" → getRemoteName t.caches remoteId =
    (nameIn remoteId rows).or (getRemoteName s.caches remoteId)
  endpoint : ∀ remoteId, upnpEndpointOf t.caches remoteId = (endpointIn remoteId rows).getD ""

theorem read_customers : Read rows s (next localAlias s (.customers (.parsed rows))) where
  heard := rfl
  uuid _ named := lookup_uuid rows s.caches named
  name _ named := lookup_name rows (rememberUpnpEndpoints rows (updateRemoteToUuid rows s.caches))
    named
  endpoint _ := lookup_endpoint rows (updateRemoteToUuid rows s.caches)

theorem read_favorites {favorites : List FavoriteRow} :
    Read (mappedCustomers favorites) s (next localAlias s (.favorites (.parsed favorites))) where
  heard := rfl
  uuid _ named := lookup_uuid (mappedCustomers favorites) s.caches named
  name _ named :=
    let mapped := mappedCustomers favorites
    lookup_name mapped (rememberUpnpEndpoints mapped (updateRemoteToUuid mapped s.caches)) named
  endpoint _ :=
    let mapped := mappedCustomers favorites
    lookup_endpoint mapped (updateRemoteToUuid mapped s.caches)

/-- The replaced maps are those of the newest list, and a name is the newest one heard. -/
structure Tracks (s : State) : Prop where
  uuid : ∀ remoteId, remoteId ≠ "" →
    remoteToUuid s.caches remoteId = s.heard.head?.bind (uuidIn remoteId)
  name : ∀ remoteId, remoteId ≠ "" →
    getRemoteName s.caches remoteId = s.heard.findSome? (nameIn remoteId)
  endpoint : ∀ remoteId,
    upnpEndpointOf s.caches remoteId = (s.heard.head?.bind (endpointIn remoteId)).getD ""
  latest : ∀ rows ∈ s.latest, rows ∈ s.heard

theorem Tracks.read (tracks : Tracks s) (read : Read rows s t)
    (latest : ∀ rows ∈ t.latest, rows ∈ t.heard) : Tracks t where
  uuid remoteId named := by
    rw [read.heard]
    exact read.uuid remoteId named
  name remoteId named := by
    rw [read.name remoteId named, tracks.name remoteId named, read.heard, List.findSome?_cons]
    cases nameIn remoteId rows <;> rfl
  endpoint remoteId := by
    rw [read.heard]
    exact read.endpoint remoteId
  latest := latest

/-- After a list was read the caches are current exactly if it has every customer of the latest list
of all customers. -/
theorem current_iff (tracks : Tracks t) {older : List (List CustomerRow)}
    (heard : t.heard = rows :: older) :
    Current t ↔ ∀ list ∈ t.latest, ∀ remoteId, remoteId ≠ "" → Mentions remoteId list →
      Mentions remoteId rows := by
  constructor
  · intro current list isLatest remoteId named mentioned
    by_contra missing
    have unknown : uuidIn remoteId rows = none :=
      Option.not_isSome_iff_eq_none.mp fun found => missing (uuidIn_isSome.mp found)
    have answer := (current list isLatest remoteId named mentioned).1
    rw [tracks.uuid remoteId named, heard, List.head?_cons, Option.bind_some, unknown] at answer
    -- the latest list is among those heard, so that the newest mention exists
    have silent := List.findSome?_eq_none_iff.mp answer.symm list
      (heard ▸ tracks.latest list isLatest)
    have spoken := uuidIn_isSome.mpr mentioned
    rw [silent] at spoken
    cases spoken
  · intro covered list isLatest remoteId named mentioned
    have here := covered list isLatest remoteId named mentioned
    obtain ⟨uuid, uuidFound⟩ := Option.isSome_iff_exists.mp (uuidIn_isSome.mpr here)
    obtain ⟨door, doorFound⟩ := Option.isSome_iff_exists.mp (endpointIn_isSome.mpr here)
    refine ⟨?_, tracks.name remoteId named, ?_⟩
    · rw [tracks.uuid remoteId named, heard, List.head?_cons, Option.bind_some,
        List.findSome?_cons, uuidFound]
    · rw [tracks.endpoint remoteId, heard, List.head?_cons, Option.bind_some,
        List.findSome?_cons, doorFound]

/-- A refresh of the favourites keeps what is known exactly if it has every known customer that is
not listed without customer data. -/
theorem retains_iff {favorites : List FavoriteRow} (tracks : Tracks s)
    (read : Read (mappedCustomers favorites) s t) :
    Retains s.caches t.caches favorites ↔
      ∀ remoteId, remoteId ≠ "" → (remoteToUuid s.caches remoteId).isSome = true →
        remoteId ∉ favRemoteIds favorites → Mentions remoteId (mappedCustomers favorites) := by
  constructor
  · intro retains remoteId named known stranger
    by_contra missing
    have still := (retains remoteId named stranger missing).1 known
    rw [read.uuid remoteId named] at still
    exact missing (uuidIn_isSome.mp still)
  · intro covered remoteId named stranger missing
    have unknown : (remoteToUuid s.caches remoteId).isSome ≠ true := fun known =>
      missing (covered remoteId named known stranger)
    refine ⟨fun known => absurd known unknown, ?_, ?_⟩
    · intro known
      rw [read.name remoteId named, Option.isSome_or, known, Bool.or_true]
    · -- a door comes from the list that the ids come from
      intro door
      rw [tracks.endpoint remoteId] at door
      rw [tracks.uuid remoteId named] at unknown
      cases newest : s.heard.head? with
      | none =>
        rw [newest] at door
        exact absurd rfl door
      | some list =>
        rw [newest, Option.bind_some] at door unknown
        have silent : endpointIn remoteId list = none :=
          Option.not_isSome_iff_eq_none.mp fun found =>
            unknown (uuidIn_isSome.mpr (endpointIn_isSome.mp found))
        rw [silent] at door
        exact absurd rfl door

/-- A state in which the caches are as the lists heard say, and current. -/
structure Sound (s : State) : Prop where
  tracks : Tracks s
  current : Current s

theorem Tracks.next (tracks : Tracks s) (call : Call) : Tracks (next localAlias s call) := by
  match call with
  | .customers (.failed _) => exact tracks
  | .customers (.unreadable _) => exact tracks
  | .customers (.parsed rows) =>
    apply tracks.read read_customers
    intro list isLatest
    obtain rfl : rows = list := Option.some.inj isLatest
    exact List.mem_cons_self
  | .favorites (.failed _) => exact tracks
  | .favorites (.unreadable _) => exact tracks
  | .favorites (.parsed favorites) =>
    apply tracks.read read_favorites
    intro list isLatest
    exact List.mem_cons_of_mem _ (tracks.latest list isLatest)

/-- A call keeps what is known exactly if it covers it. -/
theorem keeps_iff (sound : Sound s) (call : Call) :
    Keeps localAlias s call ↔ Covers s call := by
  have after : Tracks (next localAlias s call) := sound.tracks.next call
  match call with
  | .customers (.failed _) => exact ⟨fun _ => trivial, fun _ => ⟨sound.current, trivial⟩⟩
  | .customers (.unreadable _) => exact ⟨fun _ => trivial, fun _ => ⟨sound.current, trivial⟩⟩
  | .customers (.parsed rows) =>
    refine ⟨fun _ => trivial, fun _ => ⟨?_, trivial⟩⟩
    apply (current_iff after rfl).mpr
    intro list isLatest remoteId _ mentioned
    obtain rfl : rows = list := Option.some.inj isLatest
    exact mentioned
  | .favorites (.failed _) => exact ⟨fun _ => trivial, fun _ => ⟨sound.current, trivial⟩⟩
  | .favorites (.unreadable _) => exact ⟨fun _ => trivial, fun _ => ⟨sound.current, trivial⟩⟩
  | .favorites (.parsed favorites) =>
    exact and_congr (current_iff after rfl) (retains_iff sound.tracks read_favorites)

theorem Sound.next (sound : Sound s) {call : Call} (covers : Covers s call) :
    Sound (next localAlias s call) :=
  ⟨sound.tracks.next call, ((keeps_iff sound call).mpr covers).1⟩

end Calls

/-- In every sequence of calls the caches keep what they know exactly if every list of favourites
that is read has all customers of the latest list of all customers and all customers that
`remote_to_uuid` knows, favourites without customer data apart. -/
theorem caches_keep_iff (localAlias : String → String) (calls : List Call) :
    Throughout (next localAlias) (Keeps localAlias) {} calls ↔
      Throughout (next localAlias) Covers {} calls := by
  have fresh : Sound {} :=
    { tracks :=
        { uuid := fun _ _ => rfl
          name := fun _ _ => rfl
          endpoint := fun _ => rfl
          latest := nofun }
      current := nofun }
  exact throughout_iff Sound (fun _ call sound => keeps_iff sound call)
    (fun _ _ sound covers => sound.next covers) fresh calls

/-- Two customers are read, and then one of them as the only favourite. -/
def oneFavorite : List Call :=
  let cafe : CustomerRow :=
    { id := "c1", remoteId := some "100", name := "cafe", upnpEndpoint := some "1.2.3.4:21118" }
  let bakery : CustomerRow :=
    { id := "c2", remoteId := some "200", name := "bakery", upnpEndpoint := some "5.6.7.8:21118" }
  [.customers (.parsed [cafe, bakery]), .favorites (.parsed [⟨"100", some cafe⟩])]

/-- The other customer is gone from the ids and the doors. -/
theorem favorites_forget :
    let caches := (oneFavorite.foldl (next fun _ => "") {}).caches
    remoteToUuid caches "200" = none ∧ upnpEndpointOf caches "200" = "" ∧
      ¬ Throughout (next fun _ => "") (Keeps fun _ => "") {} oneFavorite := by
  refine ⟨by decide +kernel, by decide +kernel, ?_⟩
  rintro ⟨-, ⟨current, -⟩, -⟩
  have mentioned := current _ rfl "200" (by decide) (by decide)
  have known := mentioned.1
  revert known
  decide +kernel

end ChainRemote.Hq.CustomerCaches
