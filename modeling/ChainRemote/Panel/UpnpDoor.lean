import ChainRemote.Lib.Decimal
import ChainRemote.Lib.Machine
import ChainRemote.Panel.Heartbeat

/-!
# The door that a router opened

A row holds the address that its router opened, and apart from it the time at which a knock on the
door was answered. Heartbeats report the address, a switch turns the feature on and off, and a probe
reads the address, stamps the row, knocks, and writes the time. Between the steps of a probe other
steps may come, so the time may end up beside an address that never answered, or in a row that is
switched off.
-/

namespace ChainRemote.Panel.UpnpDoor

open Lib

/-- A `customers` row with the columns of its door. -/
structure DoorRow extends Customer where
  upnpEnabled : Bool := false
  upnpVerifiedAt : Option Nat := none
  upnpProbeAt : Option Nat := none

/-- `PROBE_EVERY_MS`. -/
def probeEveryMs : Nat := 60 * 60 * 1000

/-- `DOOR_FRESH_MS`. -/
def doorFreshMs : Nat := 6 * 60 * 60 * 1000

/-- `Date.now() - ms < DOOR_FRESH_MS`. -/
def Fresh (now time : Nat) : Prop := (now : Int) - time < doorFreshMs

instance (now time : Nat) : Decidable (Fresh now time) :=
  inferInstanceAs (Decidable ((now : Int) - time < doorFreshMs))

/-- The address of a row, if it has one that is not empty. -/
def DoorRow.endpoint (row : DoorRow) : Option String := row.upnpEndpoint.filter fun e => e ≠ ""

/-- `doorIsOpen`. -/
def doorIsOpen (now : Nat) (row : DoorRow) : Bool :=
  row.endpoint.isSome && row.upnpVerifiedAt.any fun time => decide (Fresh now time)

/-- `maskUnverifiedDoor`. -/
def maskUnverifiedDoor (now : Nat) (row : DoorRow) : DoorRow :=
  if doorIsOpen now row then row else { row with upnpEndpoint := none }

/-- The port of an address. -/
def portOf (endpoint : String) : Nat := digitsValue ((endpoint.toList.dropWhile (· ≠ ':')).drop 1)

/-- `knockDoor`; `greets` says whether the door sends something in time. -/
def knockDoor (endpoint : String) (greets : Bool) : Bool :=
  let text := jsTrim endpoint
  isEndpoint text && decide (1 ≤ portOf text) && decide (portOf text ≤ 65535) && greets

/-- What `recordHeartbeat` does to the row of a door. -/
def beatDoor (now : Nat) (beat : Beat) (row : DoorRow) : DoorRow where
  toCustomer := beatSet now beat row.toCustomer
  upnpEnabled := row.upnpEnabled
  upnpVerifiedAt := row.upnpVerifiedAt
  upnpProbeAt := row.upnpProbeAt

/-- What `setUpnpEnabled` sets. -/
def enabledSet (on : Bool) (row : DoorRow) : DoorRow :=
  if on then { row with upnpEnabled := true }
  else { row with
    upnpEnabled := false
    upnpEndpoint := none
    upnpVerifiedAt := none
    upnpProbeAt := none }

/-- `setUpnpEnabled`: whether a row was selected, and the rows. -/
def setUpnpEnabled (remoteId : String) (on : Bool) (tenantId : Nat) (rows : List DoorRow) :
    Bool × List DoorRow :=
  let here := fun row : DoorRow => row.remoteId == some remoteId && row.tenantId == tenantId
  (rows.any here, updateWhere here (enabledSet on) rows)

/-- What `probeUpnpDoor` returns. -/
inductive ProbeResult
  | skipped
  | opened
  | closed
deriving DecidableEq, Repr

/-- Where a run of `probeUpnpDoor` stands. -/
inductive Probe
  /-- It read the address. -/
  | selected (remoteId endpoint : String)
  /-- It stamped the row, and its knock is on the way. -/
  | knocking (remoteId endpoint : String)
  /-- The knock is over; the time is that of a door that is open. -/
  | writing (remoteId endpoint : String) (verifiedAt : Option Nat)
  | done (result : ProbeResult)
deriving DecidableEq, Repr

/-- The row that `probeUpnpDoor` reads. -/
def probed (remoteId : String) (rows : List DoorRow) : Option DoorRow :=
  rows.find? fun row =>
    row.remoteId == some remoteId && row.upnpEnabled && row.upnpEndpoint.isSome

/-- The first part of `probeUpnpDoor`; `asked` is its clock before the query. -/
def probeUpnpDoor (asked : Nat) (remoteId : String) (rows : List DoorRow) : Probe :=
  match probed remoteId rows with
  | none => .done .skipped
  | some row =>
    match row.endpoint with
    | none => .done .skipped
    | some endpoint =>
      if row.upnpProbeAt.any fun time => decide ((asked : Int) - probeEveryMs < time) then
        .done .skipped
      else .selected remoteId endpoint

/-- `WHERE remote_id = …`. -/
def ofDevice (remoteId : String) (row : DoorRow) : Bool := row.remoteId == some remoteId

/-- The rows with the doors, the clock, the runs of `probeUpnpDoor`, and every knock that was
answered, with its time. -/
structure State where
  rows : List DoorRow
  now : Nat
  probes : List Probe
  answered : List (String × Nat)

/-- What happens to the doors; a probe is its place in the list. -/
inductive Op
  | recordHeartbeat (remoteId token : String) (beat : Beat)
  | setUpnpEnabled (remoteId : String) (on : Bool) (tenantId : Nat)
  | probeUpnpDoor (remoteId : String) (asked : Nat)
  /-- A probe sets `upnpProbeAt`. -/
  | stamp (place : Nat)
  /-- The knock of a probe is over. -/
  | knock (place : Nat) (greets : Bool)
  /-- A probe writes its result. -/
  | write (place : Nat)

/-- An operation and its time. -/
structure Event where
  now : Nat
  op : Op

/-- The state after a probe set `upnpProbeAt`. -/
def State.stamped (s : State) (now place : Nat) (remoteId endpoint : String) : State :=
  { s with
    rows := updateWhere (ofDevice remoteId) (fun row => { row with upnpProbeAt := some now }) s.rows
    now := now
    probes := s.probes.set place (.knocking remoteId endpoint) }

/-- The state after the knock of a probe. -/
def State.knocked (s : State) (now place : Nat) (remoteId endpoint : String) (greets : Bool) :
    State :=
  if knockDoor endpoint greets then
    { s with
      now := now
      probes := s.probes.set place (.writing remoteId endpoint (some now))
      answered := (endpoint, now) :: s.answered }
  else { s with now := now, probes := s.probes.set place (.writing remoteId endpoint none) }

/-- The state after a probe wrote its result. -/
def State.written (s : State) (now place : Nat) (remoteId : String) (verifiedAt : Option Nat) :
    State :=
  { s with
    rows := updateWhere (ofDevice remoteId) (fun row => { row with upnpVerifiedAt := verifiedAt })
      s.rows
    now := now
    probes := s.probes.set place (.done (if verifiedAt.isSome then .opened else .closed)) }

/-- The state after an operation, if it can happen. -/
def State.after (hash : String → String) (s : State) (now : Nat) : Op → Option State
  | .recordHeartbeat remoteId token beat =>
    some { s with
      rows := updateWhere (fun row => selects hash remoteId token row.toCustomer)
        (beatDoor now beat) s.rows
      now := now }
  | .setUpnpEnabled remoteId on tenantId =>
    some { s with rows := (setUpnpEnabled remoteId on tenantId s.rows).2, now := now }
  | .probeUpnpDoor remoteId asked =>
    some { s with probes := s.probes ++ [probeUpnpDoor asked remoteId s.rows], now := now }
  | .stamp place =>
    match s.probes[place]? with
    | some (.selected remoteId endpoint) => some (s.stamped now place remoteId endpoint)
    | _ => none
  | .knock place greets =>
    match s.probes[place]? with
    | some (.knocking remoteId endpoint) => some (s.knocked now place remoteId endpoint greets)
    | _ => none
  | .write place =>
    match s.probes[place]? with
    | some (.writing remoteId _ verifiedAt) => some (s.written now place remoteId verifiedAt)
    | _ => none

/-- The doors, from rows that were never verified. -/
def doors (hash : String → String) : Machine State Event where
  start s :=
    (∀ row ∈ s.rows, row.upnpVerifiedAt = none ∧
      (row.upnpEnabled = false → row.upnpEndpoint = none)) ∧ s.probes = [] ∧ s.answered = []
  step s event := if s.now ≤ event.now then s.after hash event.now event.op else none

/-- Whenever a door is open, now or before the next step, its address answered a knock within six
hours, and a row that is switched off has no address and no verification. -/
def Sound (s : State) : Prop :=
  ∀ row ∈ s.rows,
    (∀ now, s.now ≤ now → doorIsOpen now row = true →
      ∃ endpoint time, row.upnpEndpoint = some endpoint ∧ (endpoint, time) ∈ s.answered ∧
        time ≤ now ∧ Fresh now time) ∧
    (row.upnpEnabled = false → row.upnpEndpoint = none ∧ row.upnpVerifiedAt = none)

/-- The address that a heartbeat stores. -/
def Beat.endpoint (beat : Beat) : Option String :=
  beat.extras.upnpEndpoint.filter isEndpoint

/-- A heartbeat stores an address only in a row that is switched on, and beside a verification that
still counts only one that answered since. A probe that found the door open writes to rows that are
switched on and have the address it knocked on, or none. -/
def Current (hash : String → String) (s : State) (event : Event) : Prop :=
  match event.op with
  | .recordHeartbeat remoteId token beat =>
    ∀ row ∈ s.rows, selects hash remoteId token row.toCustomer = true →
      ∀ endpoint, Beat.endpoint beat = some endpoint → row.upnpEnabled = true ∧
        ∀ verified, row.upnpVerifiedAt = some verified → Fresh event.now verified →
          ∃ time, (endpoint, time) ∈ s.answered ∧ verified ≤ time
  | .write place =>
    ∀ remoteId endpoint time, s.probes[place]? = some (.writing remoteId endpoint (some time)) →
      ∀ row ∈ s.rows, row.remoteId = some remoteId → row.upnpEnabled = true ∧
        (row.upnpEndpoint = none ∨ row.upnpEndpoint = some endpoint)
  | _ => True

/-- A row that is sound, in terms of its columns. -/
structure Good (answered : List (String × Nat)) (now : Nat) (row : DoorRow) : Prop where
  off : row.upnpEnabled = false → row.upnpEndpoint = none ∧ row.upnpVerifiedAt = none
  greeted : ∀ endpoint verified, row.upnpEndpoint = some endpoint →
    row.upnpVerifiedAt = some verified → Fresh now verified →
      ∃ time, (endpoint, time) ∈ answered ∧ verified ≤ time

/-- What guarded runs keep. -/
structure Kept (s : State) : Prop where
  past : ∀ knock ∈ s.answered, knock.2 ≤ s.now
  held : ∀ remoteId endpoint time, Probe.writing remoteId endpoint (some time) ∈ s.probes →
    (endpoint, time) ∈ s.answered
  rows : ∀ row ∈ s.rows, Good s.answered s.now row

section Rows

variable {answered known : List (String × Nat)} {now next : Nat} {row : DoorRow}

theorem Fresh.earlier {time : Nat} (order : now ≤ next) (fresh : Fresh next time) :
    Fresh now time := by
  unfold Fresh at fresh ⊢
  omega

/-- An open door has an address and a verification that still counts. -/
theorem doorIsOpen_address (isOpen : doorIsOpen now row = true) :
    ∃ endpoint verified, row.upnpEndpoint = some endpoint ∧
      row.upnpVerifiedAt = some verified ∧ Fresh now verified := by
  unfold doorIsOpen DoorRow.endpoint at isOpen
  rw [Bool.and_eq_true, Option.isSome_iff_exists, Option.any_eq_true] at isOpen
  obtain ⟨⟨endpoint, address⟩, verified, set, fresh⟩ := isOpen
  exact ⟨endpoint, verified, Option.eq_some_of_filter_eq_some address, set, of_decide_eq_true fresh⟩

/-- A row stays good as time passes and knocks are answered. -/
theorem Good.later (good : Good answered now row) (order : now ≤ next)
    (more : ∀ knock ∈ answered, knock ∈ known) : Good known next row where
  off := good.off
  greeted := by
    intro endpoint verified address set fresh
    obtain ⟨time, inside, since⟩ := good.greeted endpoint verified address set (fresh.earlier order)
    exact ⟨time, more _ inside, since⟩

/-- An update that leaves good rows good. -/
theorem good_updateWhere {here : DoorRow → Bool} {set : DoorRow → DoorRow} {rows : List DoorRow}
    (good : ∀ row ∈ rows, Good answered now row) (order : now ≤ next)
    (changed : ∀ row ∈ rows, here row = true → Good answered next (set row)) :
    ∀ row ∈ updateWhere here set rows, Good answered next row := by
  intro row inside
  rcases mem_updateWhere.mp inside with ⟨old, member, hit, rfl⟩ | ⟨member, -⟩
  · exact changed old member hit
  · exact (good row member).later order fun _ inside => inside

/-- A heartbeat leaves the address, clears it, or stores the one it reports. -/
theorem beatDoor_cases (now : Nat) (beat : Beat) (row : DoorRow) :
    (beatDoor now beat row).upnpEndpoint = row.upnpEndpoint ∨
      (beatDoor now beat row).upnpEndpoint = none ∨
        ∃ endpoint, Beat.endpoint beat = some endpoint ∧
          (beatDoor now beat row).upnpEndpoint = some endpoint := by
  have column : (beatDoor now beat row).upnpEndpoint =
      (networkSet beat.extras row.toCustomer).upnpEndpoint :=
    beatSet_upnpEndpoint now beat row.toCustomer
  rw [column]
  unfold Beat.endpoint networkSet
  cases beat.extras.upnpEndpoint with
  | none => exact .inl rfl
  | some endpoint =>
    by_cases form : isEndpoint endpoint = true
    · refine .inr (.inr ⟨endpoint, ?_, if_pos form⟩)
      simp only [Option.filter_some, form, if_true]
    · exact .inr (.inl (if_neg form))

/-- A heartbeat that stores an address in a row that is switched on, and beside a verification
that counts one that answered since. -/
theorem good_beatDoor {beat : Beat} (good : Good answered now row) (order : now ≤ next)
    (guard : ∀ endpoint, Beat.endpoint beat = some endpoint → row.upnpEnabled = true ∧
      ∀ verified, row.upnpVerifiedAt = some verified → Fresh next verified →
        ∃ time, (endpoint, time) ∈ answered ∧ verified ≤ time) :
    Good answered next (beatDoor next beat row) := by
  have good := good.later order fun _ inside => inside
  have enabled : (beatDoor next beat row).upnpEnabled = row.upnpEnabled := by
    simp only [beatDoor]
  have verification : (beatDoor next beat row).upnpVerifiedAt = row.upnpVerifiedAt := by
    simp only [beatDoor]
  have cases' := beatDoor_cases next beat row
  generalize beatDoor next beat row = after at enabled verification cases'
  rcases cases' with same | cleared | ⟨endpoint, reported, stored⟩
  · constructor
    · rw [enabled, same, verification]
      exact good.off
    · rw [same, verification]
      exact good.greeted
  · constructor
    · rw [enabled, cleared, verification]
      exact fun disabled => ⟨rfl, (good.off disabled).2⟩
    · intro endpoint verified address
      rw [cleared] at address
      cases address
  · obtain ⟨on, since⟩ := guard endpoint reported
    constructor
    · intro disabled
      rw [enabled, on] at disabled
      cases disabled
    · intro address verified here set fresh
      rw [stored] at here
      rw [verification] at set
      obtain rfl := Option.some.inj here
      exact since verified set fresh

theorem good_enabledSet (good : Good answered now row) (order : now ≤ next) (on : Bool) :
    Good answered next (enabledSet on row) := by
  have good := good.later order fun _ inside => inside
  cases on with
  | true =>
    constructor
    · intro never
      cases never
    · exact good.greeted
  | false =>
    constructor
    · exact fun _ => ⟨rfl, rfl⟩
    · intro _ _ never
      cases never

end Rows

section Steps

variable {hash : String → String} {s t : State} {event : Event}

/-- A probe that begins writes nothing yet. -/
theorem probeUpnpDoor_ne_writing (asked : Nat) (remoteId : String) (rows : List DoorRow)
    {device endpoint : String} {verifiedAt : Option Nat} :
    probeUpnpDoor asked remoteId rows ≠ .writing device endpoint verifiedAt := by
  unfold probeUpnpDoor
  split
  · exact nofun
  · split
    · exact nofun
    · split
      · exact nofun
      · exact nofun

/-- Probes after one of them moved on. -/
theorem mem_moved {probes : List Probe} {place : Nat} {moved probe : Probe}
    (inside : probe ∈ probes.set place moved) : probe = moved ∨ probe ∈ probes :=
  (List.mem_or_eq_of_mem_set inside).symm

theorem kept_heartbeat (kept : Kept s) {now : Nat} (order : s.now ≤ now)
    {remoteId token : String} {beat : Beat}
    (guard : Current hash s ⟨now, .recordHeartbeat remoteId token beat⟩) :
    Kept { s with
      rows := updateWhere (fun row => selects hash remoteId token row.toCustomer)
        (beatDoor now beat) s.rows
      now := now } where
  past := fun knock inside => Nat.le_trans (kept.past knock inside) order
  held := kept.held
  rows := good_updateWhere kept.rows order fun row member hit =>
    good_beatDoor (kept.rows row member) order (guard row member hit)

theorem kept_stamped (kept : Kept s) {now place : Nat} (order : s.now ≤ now)
    (remoteId endpoint : String) : Kept (s.stamped now place remoteId endpoint) where
  past := fun knock inside => Nat.le_trans (kept.past knock inside) order
  held := by
    intro remoteId endpoint time inside
    rcases mem_moved inside with never | old
    · cases never
    · exact kept.held remoteId endpoint time old
  rows := good_updateWhere kept.rows order fun row member _ => by
    have good := (kept.rows row member).later order fun _ inside => inside
    exact ⟨good.off, good.greeted⟩

theorem kept_knocked (kept : Kept s) {now place : Nat} (order : s.now ≤ now)
    (remoteId endpoint : String) (greets : Bool) :
    Kept (s.knocked now place remoteId endpoint greets) := by
  unfold State.knocked
  split
  · constructor
    · intro knock inside
      rcases List.mem_cons.mp inside with rfl | old
      · exact Nat.le_refl now
      · exact Nat.le_trans (kept.past knock old) order
    · intro device address time inside
      rcases mem_moved inside with new | old
      · cases new
        exact List.mem_cons_self
      · exact List.mem_cons_of_mem _ (kept.held device address time old)
    · intro row member
      exact (kept.rows row member).later order fun _ inside => List.mem_cons_of_mem _ inside
  · constructor
    · intro knock inside
      exact Nat.le_trans (kept.past knock inside) order
    · intro device address time inside
      rcases mem_moved inside with never | old
      · cases never
      · exact kept.held device address time old
    · intro row member
      exact (kept.rows row member).later order fun _ inside => inside

theorem kept_written (kept : Kept s) {now place : Nat} (order : s.now ≤ now)
    {remoteId endpoint : String} {verifiedAt : Option Nat}
    (found : s.probes[place]? = some (.writing remoteId endpoint verifiedAt))
    (guard : ∀ time, verifiedAt = some time → ∀ row ∈ s.rows, row.remoteId = some remoteId →
      row.upnpEnabled = true ∧ (row.upnpEndpoint = none ∨ row.upnpEndpoint = some endpoint)) :
    Kept (s.written now place remoteId verifiedAt) where
  past := fun knock inside => Nat.le_trans (kept.past knock inside) order
  held := by
    intro device address time inside
    rcases mem_moved inside with never | old
    · cases never
    · exact kept.held device address time old
  rows := good_updateWhere kept.rows order fun row member hit => by
    cases verifiedAt with
    | none =>
      constructor
      · exact fun disabled => ⟨((kept.rows row member).off disabled).1, rfl⟩
      · intro _ _ _ never
        cases never
    | some time =>
      obtain ⟨enabled, address⟩ := guard time rfl row member (beq_iff_eq.mp hit)
      constructor
      · intro disabled
        exact absurd (enabled.symm.trans disabled) (by decide)
      · intro own verified here set _
        obtain rfl := Option.some.inj set
        have own' : row.upnpEndpoint = some own := here
        rcases address with none' | knocked
        · rw [none'] at own'
          cases own'
        · rw [knocked] at own'
          obtain rfl := Option.some.inj own'
          exact ⟨time, kept.held remoteId endpoint time (List.mem_of_getElem? found), Nat.le_refl _⟩

/-- A guarded step keeps the invariant. -/
theorem kept_step (kept : Kept s) (guard : Current hash s event)
    (next : (doors hash).step s event = some t) : Kept t := by
  simp only [doors, Option.ite_none_right_eq_some] at next
  obtain ⟨order, next⟩ := next
  obtain ⟨now, op⟩ := event
  cases op with
  | recordHeartbeat remoteId token beat =>
    simp only [State.after, Option.some.injEq] at next
    subst next
    exact kept_heartbeat kept order guard
  | setUpnpEnabled remoteId on tenantId =>
    simp only [State.after, Option.some.injEq] at next
    subst next
    exact
      { past := fun knock inside => Nat.le_trans (kept.past knock inside) order
        held := kept.held
        rows := good_updateWhere kept.rows order fun row member _ =>
          good_enabledSet (kept.rows row member) order on }
  | probeUpnpDoor remoteId asked =>
    simp only [State.after, Option.some.injEq] at next
    subst next
    refine ⟨fun knock inside => Nat.le_trans (kept.past knock inside) order, ?_, fun row member =>
      (kept.rows row member).later order fun _ inside => inside⟩
    intro device address time inside
    rcases List.mem_append.mp inside with old | new
    · exact kept.held device address time old
    · exact absurd (List.mem_singleton.mp new).symm (probeUpnpDoor_ne_writing asked remoteId s.rows)
  | stamp place =>
    simp only [State.after] at next
    split at next
    · obtain rfl := Option.some.inj next
      exact kept_stamped kept order _ _
    · cases next
  | knock place greets =>
    simp only [State.after] at next
    split at next
    · obtain rfl := Option.some.inj next
      exact kept_knocked kept order _ _ greets
    · cases next
  | write place =>
    simp only [State.after] at next
    split at next
    · rename_i remoteId endpoint verifiedAt found
      obtain rfl := Option.some.inj next
      refine kept_written kept order found ?_
      rintro time rfl
      exact guard remoteId endpoint time found
    · cases next

theorem kept_start (start : (doors hash).start s) : Kept s := by
  obtain ⟨rows, probes, answered⟩ := start
  constructor
  · rw [answered]
    exact List.forall_mem_nil _
  · intro remoteId endpoint time inside
    rw [probes] at inside
    cases inside
  · intro row member
    obtain ⟨never, off⟩ := rows row member
    constructor
    · exact fun disabled => ⟨off disabled, never⟩
    · intro endpoint verified _ set
      rw [never] at set
      cases set

/-- The invariant makes every row sound. -/
theorem Kept.sound (kept : Kept s) : Sound s := by
  intro row member
  have good := kept.rows row member
  refine ⟨?_, good.off⟩
  intro now order isOpen
  obtain ⟨endpoint, verified, address, set, fresh⟩ := doorIsOpen_address isOpen
  obtain ⟨time, inside, since⟩ :=
    good.greeted endpoint verified address set (fresh.earlier order)
  have past : time ≤ s.now := kept.past (endpoint, time) inside
  refine ⟨endpoint, time, address, inside, Nat.le_trans past order, ?_⟩
  unfold Fresh at fresh ⊢
  omega

end Steps

/-- In runs in which every step is current, an open door is one that answered, and a row that is
switched off has none. -/
theorem openDoor_answered (hash : String → String) (s : State)
    (reached : (doors hash).Reaches (Current hash) s) : Sound s :=
  (reached.invariant Kept (fun _ start => kept_start start)
    fun _ _ _ kept guard next => kept_step kept guard next).sound

/-- In those runs the list shows only addresses that answered. -/
theorem maskUnverifiedDoor_answered {hash : String → String} {s : State}
    (reached : (doors hash).Reaches (Current hash) s) {row : DoorRow} (member : row ∈ s.rows)
    {now : Nat} (later : s.now ≤ now) {endpoint : String}
    (shown : (maskUnverifiedDoor now row).upnpEndpoint = some endpoint) :
    ∃ time, (endpoint, time) ∈ s.answered ∧ time ≤ now ∧ Fresh now time := by
  have kept : Kept s := reached.invariant Kept (fun _ start => kept_start start)
    fun _ _ _ kept guard next => kept_step kept guard next
  unfold maskUnverifiedDoor at shown
  split at shown
  · rename_i isOpen
    obtain ⟨own, time, address, inside, past⟩ := (kept.sound row member).1 now later isOpen
    rw [address] at shown
    obtain rfl := Option.some.inj shown
    exact ⟨time, inside, past⟩
  · cases shown

/-- A store whose device sends heartbeats. -/
def store : State where
  rows := [{ id := 1, tenantId := 1, name := "store", remoteId := some "100",
             heartbeatToken := some "token" }]
  now := 0
  probes := []
  answered := []

theorem store_starts : (doors id).start store := by
  refine ⟨?_, rfl, rfl⟩
  intro row member
  rw [List.mem_singleton.mp member]
  exact ⟨rfl, fun _ => rfl⟩

/-- A heartbeat of the store with an address. -/
def reports (now : Nat) (endpoint : String) : Event :=
  ⟨now, .recordHeartbeat "100" "token" { extras := { upnpEndpoint := some endpoint } }⟩

/-- The store is switched on, its address is reported, and a probe knocks. -/
def probing : List Event :=
  [⟨1, .setUpnpEnabled "100" true 1⟩, reports 2 "1.2.3.4:21118", ⟨3, .probeUpnpDoor "100" 3⟩,
    ⟨4, .stamp 0⟩, ⟨5, .knock 0 true⟩]

/-- A state that the doors reach. -/
def seen (events : List Event) : State := (doors id).play Machine.free store events

theorem seen_reached (events : List Event) : (doors id).Reaches Machine.free (seen events) :=
  ⟨store, store_starts, Machine.runs_play (doors id) Machine.free store events⟩

/-- A probe with no step between its own is current. -/
theorem probed_current : (doors id).Reaches (Current id) (seen (probing ++ [⟨6, .write 0⟩])) := by
  refine ⟨store, store_starts, .step (t := seen probing) ⟨6, .write 0⟩ ?_ ?_ (by rfl)⟩
  · refine .step (t := seen (probing.take 4)) ⟨5, .knock 0 true⟩ ?_ trivial rfl
    refine .step (t := seen (probing.take 3)) ⟨4, .stamp 0⟩ ?_ trivial rfl
    refine .step (t := seen (probing.take 2)) ⟨3, .probeUpnpDoor "100" 3⟩ ?_ trivial rfl
    refine .step (t := seen (probing.take 1)) (reports 2 "1.2.3.4:21118") ?_ ?_ rfl
    · exact .step ⟨1, .setUpnpEnabled "100" true 1⟩ .refl trivial rfl
    · intro row member _ endpoint _
      have fresh : ∀ row ∈ (seen (probing.take 1)).rows,
          row.upnpEnabled = true ∧ row.upnpVerifiedAt = none := by
        decide +kernel
      obtain ⟨enabled, never⟩ := fresh row member
      refine ⟨enabled, fun verified set => ?_⟩
      rw [never] at set
      cases set
  · intro remoteId endpoint time found row member _
    have place : (seen probing).probes[0]? =
        some (.writing "100" "1.2.3.4:21118" (some 5)) := by
      decide +kernel
    rw [place] at found
    cases found
    have own : ∀ row ∈ (seen probing).rows,
        row.upnpEnabled = true ∧ row.upnpEndpoint = some "1.2.3.4:21118" := by
      decide +kernel
    exact ⟨(own row member).1, .inr (own row member).2⟩

/-- The probed door is open for six hours, and it answered. -/
theorem probed_answered :
    Sound (seen (probing ++ [⟨6, .write 0⟩])) ∧
      ∃ row ∈ (seen (probing ++ [⟨6, .write 0⟩])).rows, doorIsOpen 21600004 row = true :=
  ⟨openDoor_answered id _ probed_current, by decide +kernel⟩

/-- A heartbeat moves the verification to another address, before or after the probe writes; a
late heartbeat or probe fills a row that is switched off. -/
theorem door_strays :
    (¬ ∀ s, (doors id).Reaches Machine.free s → Sound s) ∧
      (∀ events ∈ [probing ++ [⟨6, .write 0⟩, reports 7 "5.6.7.8:21118"],
          probing ++ [reports 6 "5.6.7.8:21118", ⟨7, .write 0⟩]],
        ∃ row ∈ (seen events).rows, doorIsOpen (seen events).now row = true ∧
          row.upnpEndpoint = some "5.6.7.8:21118" ∧
            (seen events).answered = [("1.2.3.4:21118", 5)]) ∧
      (∃ row ∈ (seen (probing ++ [⟨6, .setUpnpEnabled "100" false 1⟩,
          reports 7 "1.2.3.4:21118"])).rows,
        row.upnpEnabled = false ∧ row.upnpEndpoint = some "1.2.3.4:21118") ∧
      ∃ row ∈ (seen (probing ++ [⟨6, .setUpnpEnabled "100" false 1⟩, ⟨7, .write 0⟩])).rows,
        row.upnpEnabled = false ∧ row.upnpVerifiedAt = some 5 := by
  have off : ∃ row ∈ (seen (probing ++ [⟨6, .setUpnpEnabled "100" false 1⟩, ⟨7, .write 0⟩])).rows,
      row.upnpEnabled = false ∧ row.upnpVerifiedAt = some 5 := by
    decide +kernel
  refine ⟨?_, by decide +kernel, by decide +kernel, off⟩
  intro sound
  obtain ⟨row, member, disabled, verified⟩ := off
  have none' := ((sound _ (seen_reached _) row member).2 disabled).2
  rw [verified] at none'
  cases none'

end ChainRemote.Panel.UpnpDoor
