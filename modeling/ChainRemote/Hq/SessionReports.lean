import ChainRemote.Agent.PushChecks
import ChainRemote.Lib.Machine
import ChainRemote.Panel.SupportSessions

/-!
# What the HQ app reports about a session

The app keeps three maps for the reports of its remote sessions: whether a peer was reached
directly, whether the peer announced that the connection passed by its window, and the peer of each
session. An end report takes the values of the session's peer out of the maps before it is posted.

The announcements are kept per peer. A session that is discarded or that never starts leaves its
announcement for the next one with that peer, and a post that fails has used it up.
-/

namespace ChainRemote.Hq.SessionReports

open Agent (rustTrim)
open Lib
open Panel.SupportSessions (EndBody)

/-- The maps of the app. -/
structure Maps where
  /-- `CONN_DIRECT`. -/
  connDirect : String → Option Bool
  /-- `SCHED_SESSION`. -/
  schedSession : String → Option Bool
  /-- `SID_TO_PEER`. -/
  sidToPeer : String → Option String

/-- The maps of an app that just started. -/
def Maps.empty : Maps := ⟨fun _ => none, fun _ => none, fun _ => none⟩

/-- `note_conn_direct`. -/
def Maps.noteConnDirect (maps : Maps) (peer : String) (direct : Bool) : Maps :=
  { maps with connDirect := Function.update maps.connDirect peer (some direct) }

/-- `take_conn_direct`. -/
def Maps.takeConnDirect (maps : Maps) (peer : String) : Option Bool × Maps :=
  (maps.connDirect peer, { maps with connDirect := Function.update maps.connDirect peer none })

/-- `note_sched_session`. -/
def Maps.noteSchedSession (maps : Maps) (peer : String) : Maps :=
  { maps with schedSession := Function.update maps.schedSession peer (some true) }

/-- `take_sched_session`. -/
def Maps.takeSchedSession (maps : Maps) (peer : String) : Option Bool × Maps :=
  (maps.schedSession peer,
    { maps with schedSession := Function.update maps.schedSession peer none })

/-- `remember_session_peer`. -/
def Maps.rememberSessionPeer (maps : Maps) (sid peer : String) : Maps :=
  { maps with sidToPeer := Function.update maps.sidToPeer sid (some peer) }

/-- `take_session_peer`. -/
def Maps.takeSessionPeer (maps : Maps) (sid : String) : Option String × Maps :=
  (maps.sidToPeer sid, { maps with sidToPeer := Function.update maps.sidToPeer sid none })

/-- A start report: what it posts, the session it returns, and the maps. -/
structure Started where
  remoteId : String
  connDirect : Option Bool
  sid : String
  maps : Maps

/-- `session_start_blocking`; a reply is the text `sessionId` of an answer that says success. -/
def Maps.sessionStart (maps : Maps) (remoteId : String) (reply : Option (Option String)) :
    Started :=
  let (direct, maps) := maps.takeConnDirect remoteId
  match reply with
  | none => ⟨remoteId, direct, "", maps⟩
  | some answer =>
    let sid := answer.getD ""
    ⟨remoteId, direct, sid, if sid = "" then maps else maps.rememberSessionPeer sid remoteId⟩

/-- The texts of an end report. -/
structure Texts where
  categories : String := ""
  description : String := ""
  contactName : String := ""
  resolution : String := ""

/-- A text that goes into the body: one that is not blank. -/
def given (text : String) : Option String := if rustTrim text = [] then none else some text

/-- An end report: what it returns, what it posts, and the maps. -/
structure Ended where
  result : Bool
  body : Option EndBody
  maps : Maps

/-- The body with its texts. -/
def Texts.body (texts : Texts) : EndBody where
  categories := given texts.categories
  description := given texts.description
  contactName := given texts.contactName
  resolution := given texts.resolution

/-- `session_end_blocking`; `posted` says whether the post succeeds. -/
def Maps.sessionEnd (maps : Maps) (sid : String) (texts : Texts) (posted : Bool) : Ended :=
  if rustTrim sid = [] then ⟨false, none, maps⟩
  else
    match maps.takeSessionPeer sid with
    | (none, maps) => ⟨posted, some texts.body, maps⟩
    | (some peer, maps) =>
      let (direct, maps) := maps.takeConnDirect peer
      let (sched, maps) := maps.takeSchedSession peer
      ⟨posted,
        some { texts.body with connDirect := direct, viaSchedWindow := sched == some true }, maps⟩

/-- `session_discard_blocking`: it posts, and leaves the maps. -/
def sessionDiscard (sid : String) (posted : Bool) : Bool :=
  if rustTrim sid = [] then false else posted

/-- A connection of a remote window. -/
structure Conn where
  peer : String
  live : Bool := true
  /-- The agent announced on it that it passed by the window. -/
  announced : Bool := false
  /-- The session that its start report returned. -/
  session : Option String := none
deriving DecidableEq, Repr

/-- A connection that just opened. -/
def Conn.opened (peer : String) : Conn := { peer }

/-- It closes. -/
def Conn.close (conn : Conn) : Conn := { conn with live := false }

/-- The agent announces on it. -/
def Conn.announce (conn : Conn) : Conn := { conn with announced := true }

/-- Its start report returns a session. -/
def Conn.start (sid : String) (conn : Conn) : Conn := { conn with session := some sid }

/-- The maps, the connections in the order they were opened, and the sessions with an end report
that was accepted. -/
structure State where
  maps : Maps
  conns : List Conn
  accepted : List String

/-- What happens at the app; a connection is its place in the list. -/
inductive Event
  /-- A remote window opens. -/
  | connect (peer : String)
  | close (conn : Nat)
  | noteConnDirect (conn : Nat) (direct : Bool)
  | noteSchedSession (conn : Nat)
  | sessionStart (conn : Nat) (reply : Option (Option String))
  | sessionEnd (sid : String) (texts : Texts) (posted : Bool)
  | sessionDiscard (sid : String) (posted : Bool)

/-- The connection in a place, as long as it is open. -/
def State.openConn (s : State) (place : Nat) : Option Conn :=
  s.conns[place]?.filter fun conn => conn.live

/-- The state after a start report for a connection. -/
def State.started (s : State) (place : Nat) (started : Started) : State where
  maps := started.maps
  conns :=
    if started.sid = "" then s.conns
    else s.conns.modify place (Conn.start started.sid)
  accepted := s.accepted

/-- The state after an end report. -/
def State.ended (s : State) (sid : String) (ended : Ended) : State where
  maps := ended.maps
  conns := s.conns
  accepted := if ended.result then sid :: s.accepted else s.accepted

/-- The app. A connection has at most one session; its start report may return after it closed. -/
def reports : Machine State Event where
  start s := s.maps = Maps.empty ∧ s.conns = [] ∧ s.accepted = []
  step s
    | .connect peer => some { s with conns := s.conns ++ [.opened peer] }
    | .close place => (s.openConn place).map fun _ =>
      { s with conns := s.conns.modify place Conn.close }
    | .noteConnDirect place direct => (s.openConn place).map fun conn =>
      { s with maps := s.maps.noteConnDirect conn.peer direct }
    | .noteSchedSession place => (s.openConn place).map fun conn =>
      { s with
        maps := s.maps.noteSchedSession conn.peer
        conns := s.conns.modify place Conn.announce }
    | .sessionStart place reply => (s.conns[place]?.filter fun conn => conn.session.isNone).map
      fun conn => s.started place (s.maps.sessionStart conn.peer reply)
    | .sessionEnd sid texts posted => some (s.ended sid (s.maps.sessionEnd sid texts posted))
    | .sessionDiscard _ _ => some s

/-- The agent announced a window on a connection of the session. -/
def State.Announced (s : State) (sid : String) : Prop :=
  ∃ conn ∈ s.conns, conn.session = some sid ∧ conn.announced = true

instance (s : State) (sid : String) : Decidable (s.Announced sid) :=
  inferInstanceAs (Decidable (∃ conn ∈ s.conns, conn.session = some sid ∧ conn.announced = true))

/-- An end report carries the flag only if the agent announced it during that session, and does
carry it then, unless an earlier report of the session was accepted. -/
def Attributed (s : State) (event : Event) (_ : State) : Prop :=
  match event with
  | .sessionEnd sid texts posted =>
    ∀ body, (s.maps.sessionEnd sid texts posted).body = some body →
      (body.viaSchedWindow = true → s.Announced sid) ∧
        (s.Announced sid → sid ∉ s.accepted → body.viaSchedWindow = true)
  | _ => True

/-- The newest connection to a peer. -/
structure Newest (conns : List Conn) (place : Nat) (conn : Conn) : Prop where
  here : conns[place]? = some conn
  last : ∀ other there, conns[other]? = some there → there.peer = conn.peer → other ≤ place

/-- No window opens to a peer whose announcement is still kept, announcements arrive on the newest
connection to their peer before its session ends, a session has one peer, and while an
announcement is kept, only the session of the newest connection ends, with a post that succeeds. -/
def Settled (s : State) : Event → Prop
  | .connect peer => s.maps.schedSession peer = none
  | .noteSchedSession place => ∀ conn, s.conns[place]? = some conn → Newest s.conns place conn ∧
    ∀ sid, conn.session = some sid → s.maps.sidToPeer sid = some conn.peer
  | .sessionStart place reply => ∀ conn, s.conns[place]? = some conn → ∀ sid,
    reply = some (some sid) → ∀ other ∈ s.conns, other.session = some sid → other.peer = conn.peer
  | .sessionEnd sid _ posted => ∀ peer, s.maps.sidToPeer sid = some peer →
    s.maps.schedSession peer = some true → posted = true ∧
      ∀ place conn, Newest s.conns place conn → conn.peer = peer → conn.session = some sid
  | _ => True

/-- What guarded runs keep: a flag in the map was announced on the newest connection to its peer,
and what was announced and not reported yet is in the maps. -/
structure Kept (s : State) : Prop where
  flag : ∀ peer, s.maps.schedSession peer = some true →
    ∃ place conn, Newest s.conns place conn ∧ conn.peer = peer ∧ conn.announced = true
  pending : ∀ place conn, s.conns[place]? = some conn → conn.announced = true →
    (∀ sid, conn.session = some sid → sid ∉ s.accepted) →
      Newest s.conns place conn ∧ s.maps.schedSession conn.peer = some true ∧
        ∀ sid, conn.session = some sid → s.maps.sidToPeer sid = some conn.peer

section Connections

variable {conns : List Conn} {place : Nat} {conn : Conn}

/-- A change that keeps the peer keeps which connections are the newest. -/
theorem Newest.change (set : Conn → Conn) (keeps : ∀ conn, (set conn).peer = conn.peer)
    (changed : Nat) (newest : Newest conns place conn) :
    Newest (conns.modify changed set) place (if place = changed then set conn else conn) := by
  have peer : (if place = changed then set conn else conn).peer = conn.peer := by
    split
    · exact keeps conn
    · rfl
  constructor
  · by_cases same : place = changed
    · subst same
      rw [if_pos rfl, List.getElem?_modify_eq, newest.here]
      rfl
    · rw [if_neg same, List.getElem?_modify_ne _ _ (Ne.symm same)]
      exact newest.here
  · intro other there found same
    rw [peer] at same
    rcases getElem?_modify_eq_some found with ⟨-, old, inside, rfl⟩ | ⟨-, inside⟩
    · rw [keeps] at same
      exact newest.last other old inside same
    · exact newest.last other there inside same

/-- What stands in a place after a connection opens. -/
theorem getElem?_connected {peer : String} {other : Nat} {there : Conn}
    (found : (conns ++ [.opened peer])[other]? = some there) :
    conns[other]? = some there ∨ there = .opened peer := by
  rw [List.getElem?_append] at found
  split at found
  · exact .inl found
  · exact .inr (List.mem_singleton.mp (List.mem_of_getElem? found))

/-- A connection to another peer keeps which connections are the newest. -/
theorem Newest.connect (newest : Newest conns place conn) {peer : String}
    (other : conn.peer ≠ peer) : Newest (conns ++ [.opened peer]) place conn where
  here := by
    rw [List.getElem?_append_left (List.getElem?_eq_some_iff.mp newest.here).1]
    exact newest.here
  last := by
    intro there found inside same
    rcases getElem?_connected inside with old | rfl
    · exact newest.last there found old same
    · exact absurd same.symm other

end Connections

section Maps

variable {maps : Maps} {sid : String} (texts : Texts) (posted : Bool)

/-- A start report remembers the peer of the session it returns. -/
theorem sessionStart_maps (maps : Maps) (remoteId : String) (reply : Option (Option String)) :
    (maps.sessionStart remoteId reply).maps =
      if (maps.sessionStart remoteId reply).sid = "" then (maps.takeConnDirect remoteId).2
      else (maps.takeConnDirect remoteId).2.rememberSessionPeer
        (maps.sessionStart remoteId reply).sid remoteId := by
  cases reply with
  | none => rfl
  | some answer => rfl

/-- A session that a start report returns is what the server replied. -/
theorem sessionStart_sid (maps : Maps) (remoteId : String) (reply : Option (Option String))
    (named : (maps.sessionStart remoteId reply).sid ≠ "") :
    reply = some (some (maps.sessionStart remoteId reply).sid) := by
  cases reply with
  | none => exact absurd rfl named
  | some answer =>
    cases answer with
    | none => exact absurd rfl named
    | some text => rfl

/-- An end report for a session without a peer leaves the maps. -/
theorem sessionEnd_unknown (unknown : maps.sidToPeer sid = none) :
    (maps.sessionEnd sid texts posted).maps.sidToPeer = maps.sidToPeer ∧
      (maps.sessionEnd sid texts posted).maps.schedSession = maps.schedSession ∧
        ∀ body, (maps.sessionEnd sid texts posted).body = some body →
          body.viaSchedWindow = false := by
  have same : Function.update maps.sidToPeer sid none = maps.sidToPeer := by
    rw [← unknown]
    exact Function.update_eq_self sid maps.sidToPeer
  unfold Maps.sessionEnd
  split
  · exact ⟨rfl, rfl, fun _ never => nomatch never⟩
  · simp only [Maps.takeSessionPeer, unknown]
    refine ⟨same, trivial, ?_⟩
    intro body sent
    cases sent
    rfl

/-- An end report takes the peer of its session and the flag of that peer. -/
theorem sessionEnd_known {peer : String} (solid : rustTrim sid ≠ [])
    (known : maps.sidToPeer sid = some peer) :
    (maps.sessionEnd sid texts posted).maps.sidToPeer =
        Function.update maps.sidToPeer sid none ∧
      (maps.sessionEnd sid texts posted).maps.schedSession =
          Function.update maps.schedSession peer none ∧
        (maps.sessionEnd sid texts posted).result = posted ∧
          ∀ body, (maps.sessionEnd sid texts posted).body = some body →
            (body.viaSchedWindow = true ↔ maps.schedSession peer = some true) := by
  unfold Maps.sessionEnd
  rw [if_neg solid]
  simp only [Maps.takeSessionPeer, known]
  refine ⟨rfl, rfl, trivial, ?_⟩
  intro body sent
  cases sent
  exact beq_iff_eq

/-- An end report for a blank session posts nothing. -/
theorem sessionEnd_blank (blank : rustTrim sid = []) :
    maps.sessionEnd sid texts posted = ⟨false, none, maps⟩ := by
  unfold Maps.sessionEnd
  rw [if_pos blank]

end Maps

section Steps

variable {s : State}

/-- A window to a peer without a flag. -/
theorem kept_connect (kept : Kept s) {peer : String} (clear : s.maps.schedSession peer = none) :
    Kept { s with conns := s.conns ++ [.opened peer] } where
  flag := by
    intro flagged set
    obtain ⟨place, conn, newest, rfl, announced⟩ := kept.flag flagged set
    have other : conn.peer ≠ peer := by
      intro same
      rw [← same, set] at clear
      cases clear
    exact ⟨place, conn, newest.connect other, rfl, announced⟩
  pending := by
    intro place conn found announced silent
    rcases getElem?_connected found with old | rfl
    · obtain ⟨newest, set, known⟩ := kept.pending place conn old announced silent
      have other : conn.peer ≠ peer := by
        intro same
        rw [← same, set] at clear
        cases clear
      exact ⟨newest.connect other, set, known⟩
    · cases announced

/-- A change of a connection that keeps what it announced and its session. -/
theorem kept_change (kept : Kept s) (set : Conn → Conn) (place : Nat)
    (peer : ∀ conn, (set conn).peer = conn.peer)
    (announced : ∀ conn, (set conn).announced = conn.announced)
    (session : ∀ conn, (set conn).session = conn.session) :
    Kept { s with conns := s.conns.modify place set } where
  flag := by
    intro flagged up
    obtain ⟨there, conn, newest, rfl, said⟩ := kept.flag flagged up
    refine ⟨there, _, newest.change set peer place, ?_⟩
    split
    · exact ⟨peer conn, (announced conn).trans said⟩
    · exact ⟨rfl, said⟩
  pending := by
    intro there conn found said silent
    rcases getElem?_modify_eq_some found with ⟨here, old, inside, rfl⟩ | ⟨away, inside⟩
    · rw [announced] at said
      rw [session] at silent ⊢
      rw [peer]
      obtain ⟨newest, up, known⟩ := kept.pending there old inside said silent
      have moved := newest.change set peer place
      rw [if_pos here] at moved
      exact ⟨moved, up, known⟩
    · obtain ⟨newest, up, known⟩ := kept.pending there conn inside said silent
      have moved := newest.change set peer place
      rw [if_neg away] at moved
      exact ⟨moved, up, known⟩

/-- An announcement on the newest connection to its peer, before its session ends. -/
theorem kept_announce (kept : Kept s) {place : Nat} {conn : Conn}
    (newest : Newest s.conns place conn)
    (held : ∀ sid, conn.session = some sid → s.maps.sidToPeer sid = some conn.peer) :
    Kept { s with
      maps := s.maps.noteSchedSession conn.peer
      conns := s.conns.modify place Conn.announce } where
  flag := by
    intro flagged up
    by_cases same : flagged = conn.peer
    · subst same
      refine ⟨place, _, newest.change Conn.announce (fun _ => rfl) place, ?_⟩
      rw [if_pos rfl]
      exact ⟨rfl, rfl⟩
    · have old : s.maps.schedSession flagged = some true := by
        rw [← up]
        exact (Function.update_of_ne same _ _).symm
      obtain ⟨there, other, newest, rfl, said⟩ := kept.flag flagged old
      refine ⟨there, _, newest.change Conn.announce (fun _ => rfl) place, ?_⟩
      split
      · exact ⟨rfl, rfl⟩
      · exact ⟨rfl, said⟩
  pending := by
    intro there other found said silent
    rcases getElem?_modify_eq_some found with ⟨rfl, old, inside, rfl⟩ | ⟨away, inside⟩
    · rw [newest.here] at inside
      obtain rfl := Option.some.inj inside
      have moved := newest.change Conn.announce (fun _ => rfl) there
      rw [if_pos rfl] at moved
      exact ⟨moved, Function.update_self _ _ _, held⟩
    · obtain ⟨newest, up, known⟩ := kept.pending there other inside said silent
      have moved := newest.change Conn.announce (fun _ => rfl) place
      rw [if_neg away] at moved
      refine ⟨moved, ?_, known⟩
      show Function.update s.maps.schedSession conn.peer (some true) other.peer = some true
      rw [Function.update_apply, up, ite_self]

/-- Only the flags and the peers of sessions count. -/
theorem kept_maps (kept : Kept s) {maps : Maps}
    (flags : maps.schedSession = s.maps.schedSession)
    (peers : maps.sidToPeer = s.maps.sidToPeer) : Kept { s with maps := maps } where
  flag := by
    rw [flags]
    exact kept.flag
  pending := by
    rw [flags, peers]
    exact kept.pending

/-- A start report that returns a session of no other peer. -/
theorem kept_started (kept : Kept s) {place : Nat} {conn : Conn} {reply : Option (Option String)}
    (found : s.conns[place]? = some conn) (fresh : conn.session = none)
    (own : ∀ sid, reply = some (some sid) →
      ∀ other ∈ s.conns, other.session = some sid → other.peer = conn.peer) :
    Kept (s.started place (s.maps.sessionStart conn.peer reply)) := by
  have remembers := sessionStart_maps s.maps conn.peer reply
  have own := fun named => own _ (sessionStart_sid s.maps conn.peer reply named)
  unfold State.started
  generalize s.maps.sessionStart conn.peer reply = started at remembers own ⊢
  by_cases named : started.sid = ""
  · rw [if_pos named] at remembers ⊢
    rw [remembers]
    exact kept_maps kept rfl rfl
  rw [if_neg named] at remembers ⊢
  have own := own named
  have flags : started.maps.schedSession = s.maps.schedSession := by rw [remembers]; rfl
  have peers : started.maps.sidToPeer =
      Function.update s.maps.sidToPeer started.sid (some conn.peer) := by rw [remembers]; rfl
  constructor
  · intro flagged up
    rw [flags] at up
    obtain ⟨there, other, newest, rfl, said⟩ := kept.flag flagged up
    refine ⟨there, _, newest.change (Conn.start started.sid) (fun _ => rfl) place, ?_⟩
    split
    · exact ⟨rfl, said⟩
    · exact ⟨rfl, said⟩
  · intro there other inside said silent
    rw [flags, peers]
    rcases getElem?_modify_eq_some inside with ⟨rfl, old, old', rfl⟩ | ⟨away, old⟩
    · rw [found] at old'
      obtain rfl := Option.some.inj old'
      obtain ⟨newest, up, -⟩ := kept.pending there conn found said fun sid session => by
        rw [fresh] at session
        cases session
      have moved := newest.change (Conn.start started.sid) (fun _ => rfl) there
      rw [if_pos rfl] at moved
      refine ⟨moved, up, fun sid session => ?_⟩
      obtain rfl := Option.some.inj session
      exact Function.update_self _ _ _
    · obtain ⟨newest, up, known⟩ := kept.pending there other old said silent
      have moved := newest.change (Conn.start started.sid) (fun _ => rfl) place
      rw [if_neg away] at moved
      refine ⟨moved, up, fun sid session => ?_⟩
      rw [Function.update_apply]
      split
      · rename_i same
        subst same
        rw [own other (List.mem_of_getElem? old) session]
      · exact known sid session

/-- An end report that finds no flag, or that the server accepts for the newest connection. -/
theorem kept_ended (kept : Kept s) {sid : String} {texts : Texts} {posted : Bool}
    (guard : Settled s (.sessionEnd sid texts posted)) :
    Kept (s.ended sid (s.maps.sessionEnd sid texts posted)) := by
  -- An earlier silence about the accepted sessions is a later one.
  have earlier : ∀ {other : String} {ended : Ended},
      other ∉ (s.ended sid ended).accepted → other ∉ s.accepted := by
    intro other ended out inside
    apply out
    unfold State.ended
    split
    · exact List.mem_cons_of_mem sid inside
    · exact inside
  by_cases blank : rustTrim sid = []
  · rw [sessionEnd_blank texts posted blank]
    exact kept
  cases known : s.maps.sidToPeer sid with
  | none =>
    obtain ⟨peers, flags, -⟩ := sessionEnd_unknown texts posted known
    generalize s.maps.sessionEnd sid texts posted = ended at peers flags
    constructor
    · intro flagged up
      exact kept.flag flagged (flags ▸ up)
    · intro place conn found said silent
      have pending := kept.pending place conn found said fun sid session =>
        earlier (silent sid session)
      show _ ∧ ended.maps.schedSession conn.peer = _ ∧ ∀ sid, _ → ended.maps.sidToPeer sid = _
      rw [flags, peers]
      exact pending
  | some peer =>
    have taken := guard peer known
    obtain ⟨peers, flags, result, -⟩ := sessionEnd_known texts posted blank known
    generalize s.maps.sessionEnd sid texts posted = ended at peers flags result earlier
    constructor
    · intro flagged up
      have up : Function.update s.maps.schedSession peer none flagged = some true := flags ▸ up
      rw [Function.update_apply] at up
      split at up
      · cases up
      · exact kept.flag flagged up
    · intro place conn found said silent
      obtain ⟨newest, up, held⟩ := kept.pending place conn found said fun sid session =>
        earlier (silent sid session)
      -- The flag that the report takes belongs to its session, which it settles.
      have other : conn.peer ≠ peer := by
        intro same
        obtain ⟨sent, last⟩ := taken (same ▸ up)
        have session := last place conn newest same
        apply silent sid session
        show sid ∈ if ended.result then sid :: s.accepted else s.accepted
        rw [result, if_pos sent]
        exact List.mem_cons_self
      show _ ∧ ended.maps.schedSession conn.peer = _ ∧ ∀ sid, _ → ended.maps.sidToPeer sid = _
      rw [flags, peers]
      refine ⟨newest, ?_, fun other' session => ?_⟩
      · rw [Function.update_of_ne other]
        exact up
      · have there := held other' session
        rw [Function.update_of_ne]
        · exact there
        · intro same
          rw [same, known] at there
          exact other (Option.some.inj there).symm

/-- A guarded step keeps the invariant. -/
theorem kept_step {event : Event} {t : State} (kept : Kept s) (guard : Settled s event)
    (next : reports.step s event = some t) : Kept t := by
  cases event with
  | connect peer =>
    cases next
    exact kept_connect kept guard
  | close place =>
    obtain ⟨conn, -, rfl⟩ := Option.map_eq_some_iff.mp next
    exact kept_change kept Conn.close place (fun _ => rfl) (fun _ => rfl) fun _ => rfl
  | noteConnDirect place direct =>
    obtain ⟨conn, -, rfl⟩ := Option.map_eq_some_iff.mp next
    exact kept_maps kept rfl rfl
  | noteSchedSession place =>
    obtain ⟨conn, found, rfl⟩ := Option.map_eq_some_iff.mp next
    obtain ⟨newest, held⟩ := guard conn (Option.eq_some_of_filter_eq_some found)
    exact kept_announce kept newest held
  | sessionStart place reply =>
    obtain ⟨conn, found, rfl⟩ := Option.map_eq_some_iff.mp next
    obtain ⟨here, fresh⟩ := Option.filter_eq_some_iff.mp found
    exact kept_started kept here (Option.isNone_iff_eq_none.mp fresh) (guard conn here)
  | sessionEnd sid texts posted =>
    cases next
    exact kept_ended kept guard
  | sessionDiscard sid posted =>
    cases next
    exact kept

/-- An announcement that no accepted report carried is in the maps. -/
theorem Kept.held (kept : Kept s) {sid : String} (announced : s.Announced sid)
    (fresh : sid ∉ s.accepted) :
    ∃ peer, s.maps.sidToPeer sid = some peer ∧ s.maps.schedSession peer = some true := by
  obtain ⟨conn, inside, session, said⟩ := announced
  obtain ⟨place, found⟩ := List.getElem?_of_mem inside
  have silent : ∀ other, conn.session = some other → other ∉ s.accepted := by
    intro other same
    rw [session] at same
    exact Option.some.inj same ▸ fresh
  obtain ⟨-, up, held⟩ := kept.pending place conn found said silent
  exact ⟨conn.peer, held sid session, up⟩

/-- What an end report carries in a state that guarded runs reach. -/
theorem attributed_of_kept {event : Event} {t : State} (kept : Kept s) (guard : Settled s event) :
    Attributed s event t := by
  cases event with
  | sessionEnd sid texts posted =>
    intro body sent
    by_cases blank : rustTrim sid = []
    · rw [sessionEnd_blank texts posted blank] at sent
      cases sent
    cases known : s.maps.sidToPeer sid with
    | none =>
      have unset := (sessionEnd_unknown texts posted known).2.2 body sent
      rw [unset]
      constructor
      · intro never
        cases never
      · intro announced fresh
        obtain ⟨peer, held, -⟩ := kept.held announced fresh
        rw [known] at held
        cases held
    | some peer =>
      rw [(sessionEnd_known texts posted blank known).2.2.2 body sent]
      constructor
      · intro up
        obtain ⟨place, conn, newest, same, announced⟩ := kept.flag peer up
        have session := (guard peer known up).2 place conn newest same
        exact ⟨conn, List.mem_of_getElem? newest.here, session, announced⟩
      · intro announced fresh
        obtain ⟨other, held, up⟩ := kept.held announced fresh
        rw [known] at held
        rw [Option.some.inj held]
        exact up
  | connect peer => trivial
  | close place => trivial
  | noteConnDirect place direct => trivial
  | noteSchedSession place => trivial
  | sessionStart place reply => trivial
  | sessionDiscard sid posted => trivial

theorem kept_start (start : reports.start s) : Kept s := by
  obtain ⟨maps, conns, -⟩ := start
  constructor
  · intro peer up
    rw [maps] at up
    cases up
  · intro place conn found
    rw [conns] at found
    cases found

end Steps

/-- In every run whose announcements are settled, each end report carries the flag of its own
session. -/
theorem flag_attributed (s t : State) (event : Event) (reached : reports.Reaches Settled s)
    (guard : Settled s event) (next : reports.step s event = some t) : Attributed s event t := by
  have always : reports.Always Settled Attributed :=
    Machine.Always.of_invariant Kept (fun _ start => kept_start start)
      (fun _ _ _ kept guard next => kept_step kept guard next)
      fun _ _ _ kept guard _ => attributed_of_kept kept guard
  exact always s event t reached guard next

/-- The app after its start. -/
def fresh : State := ⟨Maps.empty, [], []⟩

theorem fresh_starts : reports.start fresh := ⟨rfl, rfl, rfl⟩

/-- A window to a store whose agent announces, and its start report. -/
def visit (sid : String) : List Event :=
  [.connect "100", .sessionStart 0 (some (some sid)), .noteSchedSession 0, .close 0]

/-- The flag of an end report of a session. -/
def State.carries (s : State) (sid : String) : Option Bool :=
  (s.maps.sessionEnd sid {} true).body.map EndBody.viaSchedWindow

/-- The state after the visit. -/
def visited : State := reports.play Machine.free fresh (visit "a")

theorem visited_settled : reports.Reaches Settled visited := by
  refine ⟨fresh, fresh_starts, .step (.close 0) (.step (.noteSchedSession 0) (.step (.sessionStart 0
    (some (some "a"))) (.step (.connect "100") .refl rfl rfl) ?_ rfl) ?_ rfl) trivial ?_⟩
  · intro conn _ sid _ other inside session
    rw [List.mem_singleton.mp inside] at session
    cases session
  · intro conn found
    obtain rfl := Option.some.inj found
    refine ⟨⟨rfl, ?_⟩, ?_⟩
    · intro place other inside _
      have bound := (List.getElem?_eq_some_iff.mp inside).1
      exact Nat.le_of_lt_succ bound
    · intro sid session
      obtain rfl := Option.some.inj session
      rfl
  · rfl

/-- The end report of the visit carries its flag. -/
theorem visited_attributed :
    visited.Announced "a" ∧ visited.carries "a" = some true ∧
      Settled visited (.sessionEnd "a" {} true) := by
  have guard : Settled visited (.sessionEnd "a" {} true) := by
    intro peer known _
    obtain rfl : "100" = peer := Option.some.inj known
    refine ⟨rfl, ?_⟩
    intro place conn newest _
    have inside : conn ∈ visited.conns := List.mem_of_getElem? newest.here
    have all : ∀ conn ∈ visited.conns, conn.session = some "a" := by decide +kernel
    exact all conn inside
  have announced : visited.Announced "a" := by decide +kernel
  refine ⟨announced, ?_, guard⟩
  cases sent : (visited.maps.sessionEnd "a" {} true).body with
  | none => exact absurd sent (by decide +kernel)
  | some body =>
    have carried := (flag_attributed visited _ (.sessionEnd "a" {} true) visited_settled guard rfl
      body sent).2 announced (by decide +kernel)
    simp only [State.carries, sent, Option.map_some, carried]

/-- A discarded visit leaves its flag for the next one, and a failed post has lost it. -/
theorem flag_strays :
    ¬ reports.Always Machine.free Attributed ∧
      (∃ s, reports.Reaches Machine.free s ∧ ¬ s.Announced "b" ∧ s.carries "b" = some true) ∧
      ∃ s, reports.Reaches Machine.free s ∧ s.Announced "a" ∧ "a" ∉ s.accepted ∧
        s.carries "a" = some false := by
  have left : ∃ s, reports.Reaches Machine.free s ∧ ¬ s.Announced "b" ∧
      s.carries "b" = some true := by
    refine ⟨_, ⟨fresh, fresh_starts, Machine.runs_play reports Machine.free fresh
      (visit "a" ++ [.sessionDiscard "a" true, .connect "100",
        .sessionStart 1 (some (some "b")), .close 1])⟩, ?_⟩
    decide +kernel
  have lost : ∃ s, reports.Reaches Machine.free s ∧ s.Announced "a" ∧ "a" ∉ s.accepted ∧
      s.carries "a" = some false := by
    refine ⟨_, ⟨fresh, fresh_starts, Machine.runs_play reports Machine.free fresh
      (visit "a" ++ [.sessionEnd "a" {} false])⟩, ?_⟩
    decide +kernel
  refine ⟨?_, left, lost⟩
  intro always
  obtain ⟨s, reached, silent, carried⟩ := left
  obtain ⟨body, sent, set⟩ := Option.map_eq_some_iff.mp carried
  exact silent ((always s (.sessionEnd "b" {} true) _ reached trivial rfl body sent).1 set)

end ChainRemote.Hq.SessionReports
