import ChainRemote.Server.TerminalService

/-!
# No session is lost when a client connects again

The ids of a service are distinct by its map; that no two of them have one session is an invariant
of every operation. What an open does to the map is one case list, and every result about opens
follows from it.
-/

namespace ChainRemote.Server.TerminalService

open Lib
open TerminalReplay (Compression)

namespace PersistentTerminalService

variable {service : PersistentTerminalService} {terminalId : Int}

@[simp] theorem modify_sessions (object : Nat) (change : Session → Session) :
    (service.modify object change).sessions = service.sessions := rfl

@[simp] theorem modify_heap_self (object : Nat) (change : Session → Session) :
    (service.modify object change).heap object = change (service.heap object) :=
  Function.update_self ..

theorem modify_heap_of_ne {object other : Nat} (different : other ≠ object)
    (change : Session → Session) :
    (service.modify object change).heap other = service.heap other :=
  Function.update_of_ne different ..

@[simp] theorem modify_allocated (object : Nat) (change : Session → Session) :
    (service.modify object change).allocated = service.allocated := rfl

/-- No two ids share a session, and every session exists. -/
structure Sound (service : PersistentTerminalService) : Prop where
  distinct : ∀ i j object, service.sessions.lookup i = some object →
    service.sessions.lookup j = some object → i = j
  exists_ : ∀ i object, service.sessions.lookup i = some object → object < service.allocated

/-- The sessions after one of them got another id. -/
theorem lookup_moved (sessions : Sessions) (lowestId : Int) (object : Nat) (i : Int) :
    ((sessions.erase lowestId).insert terminalId object).lookup i =
      if i = terminalId then some object
      else if i = lowestId then none else sessions.lookup i := by
  by_cases own : i = terminalId
  · rw [if_pos own, own, AList.lookup_insert]
  · rw [if_neg own, AList.lookup_insert_ne own]
    by_cases low : i = lowestId
    · rw [if_pos low, low, AList.lookup_erase]
    · rw [if_neg low, AList.lookup_erase_ne low]

/-- An entry after that is an entry before, with the id that moved renamed. -/
theorem moved_back {sessions : Sessions} {lowestId i : Int} {moved object : Nat}
    (found : ((sessions.erase lowestId).insert terminalId moved).lookup i = some object) :
    (i = terminalId ∧ object = moved) ∨ (i ≠ lowestId ∧ sessions.lookup i = some object) := by
  rw [lookup_moved] at found
  by_cases own : i = terminalId
  · rw [if_pos own] at found
    exact .inl ⟨own, (Option.some.inj found).symm⟩
  · rw [if_neg own] at found
    by_cases low : i = lowestId
    · rw [if_pos low] at found
      cases found
    · rw [if_neg low] at found
      exact .inr ⟨low, found⟩

/-- What the first part of an open does: nothing, or a session gets the requested id. -/
theorem remap_cases (service : PersistentTerminalService) (terminalId : Int) :
    service.remap terminalId = service ∨
      ∃ lowestId object, terminalId ∉ service.sessions ∧
        service.sessions.lookup lowestId = some object ∧
        service.remap terminalId =
          { service with
            sessions := (service.sessions.erase lowestId).insert terminalId object } := by
  unfold remap
  split
  · rename_i missing
    split
    · rename_i lowestId lowest
      split
      · rename_i object found
        exact .inr ⟨lowestId, object, missing.1, found, rfl⟩
      · exact .inl rfl
    · exact .inl rfl
  · exact .inl rfl

/-- An open that finds no session changed nothing so far, and none was to be synchronised. -/
theorem remap_of_absent (absent : (service.remap terminalId).sessions.lookup terminalId = none) :
    service.remap terminalId = service ∧
      (service.needsSessionSync = true → service.sessions.keys = []) := by
  have same : service.remap terminalId = service := by
    rcases remap_cases service terminalId with same | ⟨lowestId, object, _, _, moved⟩
    · exact same
    · rw [moved, AList.lookup_insert] at absent
      cases absent
  refine ⟨same, fun sync => ?_⟩
  by_contra some
  rw [same] at absent
  obtain ⟨lowestId, lowest⟩ : ∃ lowestId, service.sessions.keys.min? = .some lowestId :=
    Option.isSome_iff_exists.mp (List.isSome_min?_of_ne_nil some)
  have inside : lowestId ∈ service.sessions := List.min?_mem lowest
  obtain ⟨object, found⟩ := Option.isSome_iff_exists.mp (AList.lookup_isSome.mpr inside)
  have moved : (service.remap terminalId).sessions.lookup terminalId = .some object := by
    unfold remap
    rw [if_pos ⟨AList.lookup_eq_none.mp absent, sync, some⟩, lowest]
    simp only [found]
    exact AList.lookup_insert _
  rw [same, absent] at moved
  cases moved

theorem remap_heap (service : PersistentTerminalService) (terminalId : Int) :
    (service.remap terminalId).heap = service.heap ∧
      (service.remap terminalId).allocated = service.allocated ∧
      (service.remap terminalId).needsSessionSync = service.needsSessionSync := by
  rcases remap_cases service terminalId with same | ⟨lowestId, object, _, _, moved⟩
  · rw [same]
    exact ⟨rfl, rfl, rfl⟩
  · rw [moved]
    exact ⟨rfl, rfl, rfl⟩

/-- A session that gets another id is still there. -/
theorem remap_keeps {i : Int} {object : Nat} (found : service.sessions.lookup i = some object) :
    ∃ j, (service.remap terminalId).sessions.lookup j = some object := by
  rcases remap_cases service terminalId with same | ⟨lowestId, moved, absent, lowest, eq⟩
  · exact ⟨i, by rw [same, found]⟩
  · rw [eq]
    by_cases low : i = lowestId
    · rw [low, lowest] at found
      exact ⟨terminalId, by rw [AList.lookup_insert, found]⟩
    · have other : i ≠ terminalId := by
        rintro rfl
        exact absent (AList.lookup_isSome.mp (by rw [found]; rfl))
      exact ⟨i, by rw [lookup_moved, if_neg other, if_neg low, found]⟩

theorem Sound.remap (sound : service.Sound) (terminalId : Int) :
    (service.remap terminalId).Sound := by
  rcases remap_cases service terminalId with same | ⟨lowestId, moved, absent, lowest, eq⟩
  · rwa [same]
  · rw [eq]
    constructor
    · intro i j object first second
      rcases moved_back first with ⟨rfl, rfl⟩ | ⟨notLow, old⟩
      · rcases moved_back second with ⟨rfl, -⟩ | ⟨notLow, old⟩
        · rfl
        · exact absurd (sound.distinct j lowestId object old lowest) notLow
      · rcases moved_back second with ⟨rfl, rfl⟩ | ⟨_, older⟩
        · exact absurd (sound.distinct i lowestId object old lowest) notLow
        · exact sound.distinct i j object old older
    · intro i object found
      rcases moved_back found with ⟨-, rfl⟩ | ⟨-, found⟩
      · exact sound.exists_ lowestId object lowest
      · exact sound.exists_ i object found

/-- How an open can end. -/
inductive Opens (service : PersistentTerminalService) (terminalId : Int) :
    Option TerminalOpened × PersistentTerminalService → Prop
  | reopened (object : Nat)
      (found : (service.remap terminalId).sessions.lookup terminalId = some object) :
      Opens service terminalId
        (some ((service.remap terminalId).reopen terminalId object).1,
          ((service.remap terminalId).reopen terminalId object).2)
  | failed (absent : service.sessions.lookup terminalId = none) :
      Opens service terminalId (none, service)
  | created (message : String) (pid : Nat) (child : Bool)
      (absent : service.sessions.lookup terminalId = none)
      (nothing : service.needsSessionSync = true → service.sessions.keys = []) :
      Opens service terminalId
        (some (service.create terminalId message pid child).1,
          (service.create terminalId message pid child).2)

theorem handleOpen_opens (service : PersistentTerminalService) (terminalId : Int)
    (launch : Launch) : service.Opens terminalId (service.handleOpen terminalId launch) := by
  unfold handleOpen
  simp only
  split
  · rename_i object found
    exact .reopened object found
  · rename_i absent
    obtain ⟨same, nothing⟩ := remap_of_absent absent
    rw [same] at absent ⊢
    cases launch with
    | failed => exact .failed absent
    | shell pid => exact .created _ pid true absent nothing
    | helper pid => exact .created _ pid false absent nothing

theorem Sound.create (sound : service.Sound) (terminalId : Int) (message : String) (pid : Nat)
    (child : Bool) : (service.create terminalId message pid child).2.Sound := by
  have back : ∀ i object,
      (service.sessions.insert terminalId service.allocated).lookup i = some object →
      (i = terminalId ∧ object = service.allocated) ∨
        (service.sessions.lookup i = some object ∧ object < service.allocated) := by
    intro i object found
    by_cases own : i = terminalId
    · rw [own, AList.lookup_insert] at found
      exact .inl ⟨own, (Option.some.inj found).symm⟩
    · rw [AList.lookup_insert_ne own] at found
      exact .inr ⟨found, sound.exists_ i object found⟩
  constructor
  · intro i j object first second
    rcases back i object first with ⟨rfl, new⟩ | ⟨old, before⟩
    · rcases back j object second with ⟨rfl, -⟩ | ⟨_, before⟩
      · rfl
      · omega
    · rcases back j object second with ⟨rfl, new⟩ | ⟨older, _⟩
      · omega
      · exact sound.distinct i j object old older
  · intro i object found
    show object < service.allocated + 1
    rcases back i object found with ⟨-, new⟩ | ⟨-, before⟩
    · omega
    · omega

theorem Sound.handleOpen (sound : service.Sound) (terminalId : Int) (launch : Launch) :
    (service.handleOpen terminalId launch).2.Sound := by
  have opens := handleOpen_opens service terminalId launch
  generalize service.handleOpen terminalId launch = outcome at opens ⊢
  cases opens with
  | reopened object found => exact ⟨(sound.remap terminalId).1, (sound.remap terminalId).2⟩
  | failed absent => exact sound
  | created message pid child absent nothing => exact sound.create terminalId message pid child

/-- An open removes no session. -/
theorem handleOpen_keeps (launch : Launch) {i : Int} {object : Nat}
    (found : service.sessions.lookup i = some object) :
    ∃ j, (service.handleOpen terminalId launch).2.sessions.lookup j = some object := by
  have opens := handleOpen_opens service terminalId launch
  generalize service.handleOpen terminalId launch = outcome at opens ⊢
  cases opens with
  | reopened => exact remap_keeps found
  | failed absent => exact ⟨i, found⟩
  | created message pid child absent nothing =>
    have other : i ≠ terminalId := by
      rintro rfl
      rw [absent] at found
      cases found
    exact ⟨i, by rw [← found]; exact AList.lookup_insert_ne other⟩

/-- The ids of a map other than one of them, in any order of its entries. -/
theorem count_others (terminalId : Int) (sessions : Sessions) {i : Int} (inside : i ∈ sessions) :
    (sessions.keys.filter (· ≠ terminalId)).count i = if i = terminalId then 0 else 1 := by
  by_cases own : i = terminalId
  · rw [if_pos own, List.count_eq_zero]
    intro listed
    have other := (List.mem_filter.mp listed).2
    rw [own, decide_eq_true_eq] at other
    exact other rfl
  · rw [if_neg own]
    apply List.count_eq_one_of_mem (sessions.keys_nodup.filter _)
    exact List.mem_filter.mpr ⟨inside, by rw [decide_eq_true_eq]; exact own⟩

/-- The first open after a `reset_status` lists every session but its own. -/
theorem handleOpen_lists (launch : Launch) (sync : service.needsSessionSync = true)
    {opened : TerminalOpened} (answer : (service.handleOpen terminalId launch).1 = some opened)
    {i : Int} (inside : i ∈ (service.handleOpen terminalId launch).2.sessions) :
    opened.persistentSessions.count i = if i = terminalId then 0 else 1 := by
  have opens := handleOpen_opens service terminalId launch
  generalize service.handleOpen terminalId launch = outcome at opens answer inside
  cases opens with
  | reopened object found =>
    obtain rfl := Option.some.inj answer
    have still : (service.remap terminalId).needsSessionSync = true := by
      rw [(remap_heap service terminalId).2.2, sync]
    have present : i ∈ (service.remap terminalId).sessions := inside
    have listed := count_others terminalId _ present
    unfold reopen
    simp only
    split
    · exact listed
    · rename_i single
      -- the opened session is the only one
      have own : i = terminalId := by
        by_contra other
        have self : terminalId ∈ (service.remap terminalId).sessions :=
          AList.lookup_isSome.mp (by rw [found]; rfl)
        have two : [i, terminalId].length ≤ (service.remap terminalId).sessions.keys.length :=
          List.Subperm.length_le (List.subperm_of_subset (by simpa using other) (by
            intro j listed
            rcases List.mem_pair.mp listed with rfl | rfl
            · exact present
            · exact self))
        exact single ⟨still, two⟩
      rw [if_pos own]
      rfl
  | failed absent => cases answer
  | created message pid child absent nothing =>
    obtain rfl := Option.some.inj answer
    have none : service.sessions.keys = [] := nothing sync
    have own : i = terminalId := by
      rcases (AList.mem_insert _).mp inside with own | old
      · exact own
      · rw [AList.mem_keys, none] at old
        cases old
    rw [if_pos own]
    simp only [create, sync, if_true, none, List.count_nil]

/-- An open that fails changes nothing; one that succeeds leaves a session under its id. -/
theorem handleOpen_outcome (service : PersistentTerminalService) (terminalId : Int)
    (launch : Launch) :
    service.handleOpen terminalId launch = (none, service) ∨
      ∃ opened object, (service.handleOpen terminalId launch).1 = some opened ∧
        (service.handleOpen terminalId launch).2.sessions.lookup terminalId = some object := by
  have opens := handleOpen_opens service terminalId launch
  generalize service.handleOpen terminalId launch = outcome at opens ⊢
  cases opens with
  | reopened object found => exact .inr ⟨_, object, rfl, found⟩
  | failed absent => exact .inl rfl
  | created message pid child absent nothing =>
    exact .inr ⟨_, service.allocated, rfl, AList.lookup_insert _⟩

theorem remap_back {i : Int} {object : Nat}
    (found : (service.remap terminalId).sessions.lookup i = some object) :
    ∃ j, service.sessions.lookup j = some object := by
  rcases remap_cases service terminalId with same | ⟨lowestId, moved, absent, lowest, eq⟩
  · exact ⟨i, by rw [← found, same]⟩
  · rw [eq] at found
    rcases moved_back found with ⟨-, rfl⟩ | ⟨-, old⟩
    · exact ⟨lowestId, lowest⟩
    · exact ⟨i, old⟩

/-- What an open leaves of the sessions: each was there or is new, and those that were there keep
their notice and their reader. -/
structure Opened (before after : PersistentTerminalService) : Prop where
  back : ∀ i object, after.sessions.lookup i = some object →
    object = before.allocated ∨ ∃ j, before.sessions.lookup j = some object
  allocated : before.allocated ≤ after.allocated
  sent : ∀ object < before.allocated,
    (after.heap object).closedMessageSent = (before.heap object).closedMessageSent
  finished : ∀ object < before.allocated,
    (after.heap object).readerFinished = (before.heap object).readerFinished

theorem handleOpen_opened (service : PersistentTerminalService) (terminalId : Int)
    (launch : Launch) : Opened service (service.handleOpen terminalId launch).2 := by
  have opens := handleOpen_opens service terminalId launch
  obtain ⟨heap, allocated, -⟩ := remap_heap service terminalId
  generalize service.handleOpen terminalId launch = outcome at opens ⊢
  cases opens with
  | reopened object found =>
    have change : ∀ other,
        let session := ((service.remap terminalId).reopen terminalId object).2.heap other
        session.closedMessageSent = (service.heap other).closedMessageSent ∧
          session.readerFinished = (service.heap other).readerFinished := by
      intro other
      rw [← heap]
      by_cases own : other = object
      · simp only [reopen, own, modify_heap_self, and_self]
      · simp only [reopen, modify_heap_of_ne own, and_self]
    exact ⟨fun i object found => .inr (remap_back found), allocated.ge,
      fun other _ => (change other).1, fun other _ => (change other).2⟩
  | failed absent =>
    exact ⟨fun i object found => .inr ⟨i, found⟩, Nat.le_refl _, fun _ _ => rfl, fun _ _ => rfl⟩
  | created message pid child absent nothing =>
    have change : ∀ other < service.allocated,
        (service.create terminalId message pid child).2.heap other = service.heap other := by
      intro other old
      exact Function.update_of_ne (Nat.ne_of_lt old) _ _
    refine ⟨?_, Nat.le_succ _, ?_, ?_⟩
    · intro i object found
      by_cases own : i = terminalId
      · rw [own] at found
        exact .inl (Option.some.inj ((AList.lookup_insert _).symm.trans found)).symm
      · exact .inr ⟨i, by rw [← found]; exact (AList.lookup_insert_ne own).symm⟩
    · exact fun other old => by rw [change other old]
    · exact fun other old => by rw [change other old]

/-- A session whose notice was sent when an open gives it was there before. -/
theorem handleOpen_sent {launch : Launch} {object : Nat}
    (found : (service.handleOpen terminalId launch).2.sessions.lookup terminalId = some object)
    (sent : ((service.handleOpen terminalId launch).2.heap object).closedMessageSent = true) :
    (service.remap terminalId).sessions.lookup terminalId = some object := by
  have opens := handleOpen_opens service terminalId launch
  generalize service.handleOpen terminalId launch = outcome at opens found sent
  cases opens with
  | reopened => exact found
  | failed absent =>
    rw [absent] at found
    cases found
  | created message pid child absent nothing =>
    obtain rfl := Option.some.inj ((AList.lookup_insert _).symm.trans found)
    simp only [create, Function.update_self] at sent
    cases sent

theorem lookup_of_erase {sessions : Sessions} {i j : Int} {object : Nat}
    (found : (sessions.erase i).lookup j = some object) : sessions.lookup j = some object := by
  by_cases own : j = i
  · rw [own, AList.lookup_erase] at found
    cases found
  · rwa [AList.lookup_erase_ne own] at found

/-- What taking shells and removing sessions leaves as it was. -/
structure Reaped (before after : PersistentTerminalService) : Prop where
  fewer : ∀ i object, after.sessions.lookup i = some object →
    before.sessions.lookup i = some object
  allocated : after.allocated = before.allocated
  sync : after.needsSessionSync = before.needsSessionSync
  sent : ∀ object, (after.heap object).closedMessageSent = (before.heap object).closedMessageSent
  finished : ∀ object, (after.heap object).readerFinished = (before.heap object).readerFinished

theorem Reaped.refl (service : PersistentTerminalService) : Reaped service service :=
  ⟨fun _ _ found => found, rfl, rfl, fun _ => rfl, fun _ => rfl⟩

theorem Reaped.trans {a b c : PersistentTerminalService} (first : Reaped a b)
    (second : Reaped b c) : Reaped a c where
  fewer i object found := first.fewer i object (second.fewer i object found)
  allocated := second.allocated.trans first.allocated
  sync := second.sync.trans first.sync
  sent object := (second.sent object).trans (first.sent object)
  finished object := (second.finished object).trans (first.finished object)

theorem Sound.reaped {after : PersistentTerminalService} (sound : service.Sound)
    (reaped : Reaped service after) : after.Sound := by
  constructor
  · intro i j object first second
    exact sound.distinct i j object (reaped.fewer i object first) (reaped.fewer j object second)
  · intro i object found
    rw [reaped.allocated]
    exact sound.exists_ i object (reaped.fewer i object found)

theorem reaped_child (service : PersistentTerminalService) (object : Nat) :
    Reaped service (service.modify object fun session => { session with child := false }) := by
  refine ⟨fun _ _ found => found, rfl, rfl, ?_, ?_⟩
  all_goals
    intro other
    by_cases own : other = object
    · rw [own, modify_heap_self]
    · rw [modify_heap_of_ne own]

theorem reaped_erase (service : PersistentTerminalService) (terminalId : Int) :
    Reaped service { service with sessions := service.sessions.erase terminalId } :=
  ⟨fun _ _ => lookup_of_erase, rfl, rfl, fun _ => rfl, fun _ => rfl⟩

theorem handleClose_reaped (service : PersistentTerminalService) (terminalId : Int)
    (killed : Bool) : Reaped service (service.handleClose terminalId killed).2 := by
  unfold handleClose
  split
  · simp only
    split
    · exact (reaped_erase service terminalId).trans (reaped_child _ _)
    · exact reaped_erase service terminalId
  · exact Reaped.refl service

theorem closeTerminal_reaped (service : PersistentTerminalService) (tryWait : Nat → Option Int)
    (isPersistent : Bool) (sessions : Sessions) (terminalId : Int) :
    Reaped service (service.closeTerminal tryWait isPersistent sessions terminalId).2.1 ∧
      (service.closeTerminal tryWait isPersistent sessions terminalId).1.terminalId =
        terminalId := by
  unfold closeTerminal
  split
  · simp only
    split
    · exact ⟨reaped_child service _, rfl⟩
    · exact ⟨(reaped_child service _).trans (reaped_erase _ terminalId), rfl⟩
  · exact ⟨Reaped.refl service, rfl⟩

/-- The last loop of `read_outputs` answers for every terminal of its list. -/
theorem closeTerminals_reaped (tryWait : Nat → Option Int) (isPersistent : Bool)
    (service : PersistentTerminalService) (sessions : Sessions) (terminals : List Int) :
    Reaped service (closeTerminals tryWait isPersistent service sessions terminals).2 ∧
      (closeTerminals tryWait isPersistent service sessions terminals).1.map
        TerminalClosed.terminalId = terminals := by
  induction terminals generalizing service sessions with
  | nil => exact ⟨Reaped.refl service, rfl⟩
  | cons terminalId rest ih =>
    obtain ⟨first, own⟩ :=
      closeTerminal_reaped service tryWait isPersistent sessions terminalId
    obtain ⟨others, ids⟩ :=
      ih (service.closeTerminal tryWait isPersistent sessions terminalId).2.1
        (service.closeTerminal tryWait isPersistent sessions terminalId).2.2
    refine ⟨first.trans others, ?_⟩
    simp only [closeTerminals, List.map_cons, own, ids]

end PersistentTerminalService

/-- A failed open changes nothing; a successful one is the last of the openings. -/
theorem opened_cases (s : State) (terminalId : Int) (launch : Launch) :
    (s.service.handleOpen terminalId launch = (none, s.service) ∧ opened s terminalId launch = s) ∨
      ∃ object,
        (s.service.handleOpen terminalId launch).2.sessions.lookup terminalId = some object ∧
        opened s terminalId launch =
          { s with
            service := (s.service.handleOpen terminalId launch).2
            reconnecting := false
            openings := { terminalId, object } ::
              known (s.service.handleOpen terminalId launch).2 s.openings } := by
  rcases s.service.handleOpen_outcome terminalId launch with failed | ⟨answer, object, some, found⟩
  · refine .inl ⟨failed, ?_⟩
    unfold opened
    rw [failed]
  · refine .inr ⟨object, found, ?_⟩
    unfold opened
    generalize s.service.handleOpen terminalId launch = outcome at some found ⊢
    obtain ⟨response, service⟩ := outcome
    simp only at some found ⊢
    rw [some, found]

theorem opened_service (s : State) (terminalId : Int) (launch : Launch) :
    (opened s terminalId launch).service = (s.service.handleOpen terminalId launch).2 := by
  rcases opened_cases s terminalId launch with ⟨failed, same⟩ | ⟨object, _, eq⟩
  · rw [same, failed]
  · rw [eq]

/-- What the first loop of `read_outputs` does at a terminal. -/
theorem visit_cases {zstd : Compression} {s t : State} {tick : Tick} {terminalId : Int}
    {object : Nat} {locked resizeOk : Bool}
    (visited : visit zstd s tick terminalId object locked resizeOk = some t) :
    (locked = false ∧
        t = { s with tick := some { tick with left := tick.left.erase terminalId } }) ∨
      ∃ responses output, locked = true ∧ t = { s with
        service := s.service.modify object fun session =>
          { session with
            output
            closedMessageSent := session.closedMessageSent || session.readerFinished }
        tick := some { tick with
          left := tick.left.erase terminalId
          closedTerminals :=
            if !(s.service.heap object).closedMessageSent &&
                (s.service.heap object).readerFinished then
              tick.closedTerminals ++ [terminalId]
            else tick.closedTerminals
          responses } } := by
  unfold visit at visited
  cases locked with
  | false => exact .inl ⟨rfl, (Option.some.inj visited).symm⟩
  | true =>
    simp only [if_true] at visited
    split at visited
    · rename_i shouldSendClosed responses session read
      obtain rfl := Option.some.inj visited
      obtain ⟨⟨answers, output⟩, _, rest⟩ := Option.bind_eq_some_iff.mp read
      obtain ⟨rfl, others⟩ := Prod.mk.inj (Option.some.inj rest)
      obtain ⟨rfl, rfl⟩ := Prod.mk.inj others
      refine .inr ⟨tick.responses ++ answers.map .data, output, rfl, ?_⟩
      have sent : ∀ session : Session,
          (session.closedMessageSent || !session.closedMessageSent && session.readerFinished) =
            (session.closedMessageSent || session.readerFinished) := by
        intro session
        cases session.closedMessageSent
        · rfl
        · rfl
      simp only [PersistentTerminalService.modify, sent]
    · cases visited

/-- The sessions of a service are sound, and the first open after a reset will synchronise. -/
structure Connected (s : State) : Prop where
  sound : s.service.Sound
  sync : s.reconnecting = true → s.service.needsSessionSync = true

theorem Connected.start {zstd : Compression} {s : State} (started : (service zstd).start s) :
    Connected s := by
  obtain ⟨serviceId, rfl⟩ := started
  exact ⟨⟨nofun, nofun⟩, nofun⟩

theorem Connected.reaped {s : State} (connected : Connected s)
    {after : PersistentTerminalService} (reaped : s.service.Reaped after) (tick : Option Tick)
    (openings : List Opening) : Connected { s with service := after, tick, openings } :=
  ⟨connected.sound.reaped reaped, fun waiting => reaped.sync.trans (connected.sync waiting)⟩

theorem Connected.modify {s : State} (connected : Connected s) (object : Nat)
    (change : Session → Session) (tick : Option Tick) :
    Connected { s with service := s.service.modify object change, tick } :=
  ⟨⟨connected.sound.distinct, connected.sound.exists_⟩, connected.sync⟩

/-- A tick comes to a terminal of its copy. -/
theorem step_visit {zstd : Compression} {s t : State} {terminalId : Int} {locked resizeOk : Bool}
    (stepped : step zstd s (.visit terminalId locked resizeOk) = some t) :
    ∃ tick object, s.tick = some tick ∧ tick.left.lookup terminalId = some object ∧
      visit zstd s tick terminalId object locked resizeOk = some t := by
  simp only [step] at stepped
  split at stepped
  · rename_i tick running
    split at stepped
    · rename_i object here
      exact ⟨tick, object, running, here, stepped⟩
    · cases stepped
  · cases stepped

/-- A tick ends once it has been to every terminal of its copy. -/
theorem step_finish {zstd : Compression} {s t : State} {tryWait : Nat → Option Int}
    (stepped : step zstd s (.finish tryWait) = some t) :
    ∃ tick, s.tick = some tick ∧ tick.left.keys = [] ∧ (finish s tick tryWait).2 = t := by
  simp only [step] at stepped
  split at stepped
  · rename_i tick running
    split at stepped
    · rename_i done
      exact ⟨tick, running, done, Option.some.inj stepped⟩
    · cases stepped
  · cases stepped

theorem Connected.step {zstd : Compression} {s t : State} {e : Event} (connected : Connected s)
    (stepped : step zstd s e = some t) : Connected t := by
  cases e with
  | output object data =>
    obtain rfl := Option.some.inj stepped
    exact connected.modify object _ s.tick
  | exit object =>
    obtain rfl := Option.some.inj stepped
    exact connected.modify object _ s.tick
  | snapshot =>
    simp only [TerminalService.step] at stepped
    split at stepped
    · obtain rfl := Option.some.inj stepped
      exact ⟨connected.sound, connected.sync⟩
    · cases stepped
  | visit terminalId locked resizeOk =>
    obtain ⟨tick, object, -, -, visited⟩ := step_visit stepped
    rcases visit_cases visited with ⟨-, rfl⟩ | ⟨responses, output, -, rfl⟩
    · exact ⟨connected.sound, connected.sync⟩
    · exact connected.modify _ _ _
  | finish tryWait =>
    obtain ⟨tick, -, -, rfl⟩ := step_finish stepped
    exact connected.reaped (PersistentTerminalService.closeTerminals_reaped ..).1 _ _
  | reset =>
    obtain rfl := Option.some.inj stepped
    exact ⟨⟨connected.sound.distinct, connected.sound.exists_⟩, fun _ => rfl⟩
  | handleOpen terminalId launch =>
    obtain rfl := Option.some.inj stepped
    refine ⟨?_, ?_⟩
    · rw [opened_service]
      exact connected.sound.handleOpen terminalId launch
    · rcases opened_cases s terminalId launch with ⟨_, same⟩ | ⟨object, _, eq⟩
      · rw [same]
        exact connected.sync
      · rw [eq]
        exact nofun
  | handleClose terminalId killed =>
    obtain rfl := Option.some.inj stepped
    exact connected.reaped (PersistentTerminalService.handleClose_reaped ..) _ _

/-- An open removes no session and makes no two ids share one; and the first successful one since a
`reset_status` lists every session but its own once, by the id it has then. -/
def KeepsSessions (s : State) (e : Event) (t : State) : Prop :=
  match e with
  | .handleOpen terminalId launch =>
    (∀ i object, s.service.sessions.lookup i = some object →
        ∃ j, t.service.sessions.lookup j = some object) ∧
      (∀ i j object, t.service.sessions.lookup i = some object →
        t.service.sessions.lookup j = some object → i = j) ∧
      (s.reconnecting = true → ∀ opened ∈ (s.service.handleOpen terminalId launch).1,
        ∀ i ∈ t.service.sessions,
          opened.persistentSessions.count i = if i = terminalId then 0 else 1)
  | _ => True

/-- No session is lost when a client connects again. -/
theorem sessions_kept (zstd : Compression) :
    (service zstd).Always Machine.free KeepsSessions := by
  refine Machine.Always.of_invariant Connected ?_ ?_ ?_
  · exact fun s started => Connected.start started
  · exact fun s e t connected _ stepped => connected.step stepped
  · intro s e t connected _ stepped
    cases e with
    | handleOpen terminalId launch =>
      obtain rfl := Option.some.inj stepped
      simp only [KeepsSessions, opened_service]
      refine ⟨?_, (connected.sound.handleOpen terminalId launch).distinct, ?_⟩
      · intro i object found
        exact PersistentTerminalService.handleOpen_keeps launch found
      · intro waiting answer some i inside
        have sync := connected.sync waiting
        exact PersistentTerminalService.handleOpen_lists launch sync some inside
    | _ => trivial

-- of two shells of an earlier client, the first open gets one and lists the other
example :
    let events : List Event :=
      [.reset, .handleOpen 2 (.shell 7), .handleOpen 3 (.shell 8), .exit 1, .reset]
    let s := (service TerminalReplay.plain).play Machine.free
      { service := .new "ts" true } events
    (s.service.handleOpen 1 .failed).1 =
      some ⟨1, true, "Reconnected to existing terminal", 7, "ts", [3]⟩ := by
  decide +kernel

end ChainRemote.Server.TerminalService
