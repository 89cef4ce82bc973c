import ChainRemote.Server.TerminalSessions

/-!
# Notices of closed terminals

`read_outputs` answers once for each session object that its terminal is closed. A session of a
persistent service outlives its shell, and a later client that opens it is told nothing more.
-/

namespace ChainRemote.Server.TerminalService

open Lib
open TerminalReplay (Compression)

/-- When a tick completes, there was a `TerminalClosed` since every open of a session whose reader
had finished before the tick. -/
def ReportsClosed (s : State) (e : Event) (t : State) : Prop :=
  match e, s.tick with
  | .finish _, some tick =>
    ∀ opening ∈ t.openings, tick.finished opening.object = true → opening.reported = true
  | _, _ => True

/-- An open finds a session whose notice was not sent yet, or is about to be by the running tick;
and a session with a notice to send is found unlocked and by the id of the tick's copy. -/
def Timely (s : State) : Event → Prop
  | .handleOpen terminalId _ =>
    ∀ object ∈ (s.service.remap terminalId).sessions.lookup terminalId,
      (s.service.heap object).closedMessageSent = false ∨
        ∃ tick ∈ s.tick, terminalId ∈ tick.closedTerminals
  | .visit terminalId locked _ =>
    ∀ tick ∈ s.tick, ∀ object ∈ tick.left.lookup terminalId,
      (s.service.heap object).readerFinished = true →
      (s.service.heap object).closedMessageSent = false →
      ∀ i ∈ s.service.sessions.keys, s.service.sessions.lookup i = some object →
        if locked then i = terminalId else tick.finished object = false
  | _ => True

/-- What an open still waits for: its session is known, the notice is not sent or in the list of
the running tick, and the tick has still to come to every session that had finished before it. -/
structure Told (s : State) : Prop where
  connected : Connected s
  known : ∀ opening ∈ s.openings,
    s.service.sessions.lookup opening.terminalId = some opening.object
  unsent : ∀ opening ∈ s.openings, opening.reported = false →
    (s.service.heap opening.object).closedMessageSent = true →
    ∃ tick ∈ s.tick, opening.terminalId ∈ tick.closedTerminals
  finished : ∀ tick ∈ s.tick, ∀ object, tick.finished object = true →
    object < s.service.allocated ∧ (s.service.heap object).readerFinished = true
  reaches : ∀ tick ∈ s.tick, ∀ i object, s.service.sessions.lookup i = some object →
    tick.finished object = true →
    (∃ j, tick.left.lookup j = some object) ∨
      (s.service.heap object).closedMessageSent = true

section Steps

variable {zstd : Compression} {s t : State}

theorem mem_known {service : PersistentTerminalService} {openings : List Opening}
    {opening : Opening} :
    opening ∈ known service openings ↔ opening ∈ openings ∧
      service.sessions.lookup opening.terminalId = some opening.object := by
  unfold TerminalService.known
  rw [List.mem_filter, decide_eq_true_eq]

/-- What was not reported was there before and is not among the terminals. -/
theorem unreported_of_report {terminals : List Int} {openings : List Opening} {opening : Opening}
    (inside : opening ∈ report terminals openings) (unreported : opening.reported = false) :
    opening ∈ openings ∧ opening.terminalId ∉ terminals := by
  obtain ⟨old, there, rfl⟩ := List.mem_map.mp inside
  by_cases listed : old.terminalId ∈ terminals
  · rw [if_pos listed] at unreported
    cases unreported
  · rw [if_neg listed]
    exact ⟨there, listed⟩

theorem Told.start (started : (service zstd).start s) : Told s := by
  have connected := Connected.start started
  obtain ⟨serviceId, rfl⟩ := started
  exact ⟨connected, nofun, nofun, nofun, nofun⟩

/-- A session may change as long as its notice does not and its reader stays finished. -/
theorem Told.modify (told : Told s) (object : Nat) {change : Session → Session}
    (sent : ∀ session, (change session).closedMessageSent = session.closedMessageSent)
    (finished : ∀ session, session.readerFinished = true →
      (change session).readerFinished = true) :
    Told { s with service := s.service.modify object change } := by
  have sentSame : ∀ other, ((s.service.modify object change).heap other).closedMessageSent =
      (s.service.heap other).closedMessageSent := by
    intro other
    by_cases own : other = object
    · rw [own, PersistentTerminalService.modify_heap_self, sent]
    · rw [PersistentTerminalService.modify_heap_of_ne own]
  have finishedKept : ∀ other, (s.service.heap other).readerFinished = true →
      ((s.service.modify object change).heap other).readerFinished = true := by
    intro other done
    by_cases own : other = object
    · rw [own] at done ⊢
      rw [PersistentTerminalService.modify_heap_self]
      exact finished _ done
    · rwa [PersistentTerminalService.modify_heap_of_ne own]
  refine ⟨told.connected.modify object change s.tick, told.known, ?_, ?_, ?_⟩
  · intro opening inside unreported marked
    rw [sentSame] at marked
    exact told.unsent opening inside unreported marked
  · intro tick running other done
    obtain ⟨old, still⟩ := told.finished tick running other done
    exact ⟨old, finishedKept other still⟩
  · intro tick running i other found done
    rw [sentSame]
    exact told.reaches tick running i other found done

/-- A tick begins with the sessions there are. -/
theorem Told.snapshot (told : Told s) (idle : s.tick = none) {tick : Tick}
    (left : tick.left = s.service.sessions)
    (finished : ∀ object, tick.finished object = true →
      object < s.service.allocated ∧ (s.service.heap object).readerFinished = true) :
    Told { s with tick := some tick } := by
  refine ⟨⟨told.connected.sound, told.connected.sync⟩, told.known, ?_, ?_, ?_⟩
  · intro opening inside unreported marked
    obtain ⟨running, present, _⟩ := told.unsent opening inside unreported marked
    rw [idle] at present
    cases present
  · intro other is object done
    obtain rfl := Option.some.inj is
    exact finished object done
  · intro other is i object found done
    obtain rfl := Option.some.inj is
    exact .inl ⟨i, by rw [left, found]⟩

/-- The copy without the terminal that was visited. -/
theorem left_of_visit {left : Sessions} {terminalId i : Int} {object visited : Nat}
    (here : left.lookup terminalId = some visited) (found : left.lookup i = some object)
    (other : object ≠ visited) : (left.erase terminalId).lookup i = some object := by
  have different : i ≠ terminalId := by
    rintro rfl
    rw [here] at found
    exact other (Option.some.inj found).symm
  rw [AList.lookup_erase_ne different, found]

/-- A tick that does not get the lock of a session. -/
theorem Told.missed (told : Told s) {tick : Tick} (running : s.tick = some tick)
    {terminalId : Int} {object : Nat} (here : tick.left.lookup terminalId = some object)
    (timely : ∀ i, s.service.sessions.lookup i = some object →
      tick.finished object = true → (s.service.heap object).closedMessageSent = true) :
    Told { s with tick := some { tick with left := tick.left.erase terminalId } } := by
  refine ⟨⟨told.connected.sound, told.connected.sync⟩, told.known, ?_, ?_, ?_⟩
  · intro opening inside unreported marked
    obtain ⟨same, present, listed⟩ := told.unsent opening inside unreported marked
    obtain rfl := Option.some.inj (running.symm.trans present)
    exact ⟨_, rfl, listed⟩
  · intro other is
    obtain rfl := Option.some.inj is
    exact told.finished tick running
  · intro other is i another found done
    obtain rfl := Option.some.inj is
    by_cases own : another = object
    · rw [own] at found done ⊢
      exact .inr (timely i found done)
    · rcases told.reaches tick running i another found done with ⟨j, later⟩ | sent
      · exact .inl ⟨j, left_of_visit here later own⟩
      · exact .inr sent

/-- A tick that gets the lock of a session. -/
theorem Told.visited (told : Told s) {tick : Tick} (running : s.tick = some tick)
    {terminalId : Int} {object : Nat} (here : tick.left.lookup terminalId = some object)
    {change : Session → Session}
    (sent : (change (s.service.heap object)).closedMessageSent =
      ((s.service.heap object).closedMessageSent || (s.service.heap object).readerFinished))
    (finished : (change (s.service.heap object)).readerFinished =
      (s.service.heap object).readerFinished)
    {closedTerminals : List Int}
    (before : ∀ i ∈ tick.closedTerminals, i ∈ closedTerminals)
    (timely : (s.service.heap object).readerFinished = true →
      (s.service.heap object).closedMessageSent = false →
      ∀ i, s.service.sessions.lookup i = some object → i ∈ closedTerminals)
    (responses : List TerminalResponse) :
    Told { s with
      service := s.service.modify object change
      tick := some { tick with
        left := tick.left.erase terminalId, closedTerminals, responses } } := by
  refine ⟨told.connected.modify object change _, told.known, ?_, ?_, ?_⟩
  · intro opening inside unreported marked
    refine ⟨_, rfl, ?_⟩
    have old : (s.service.heap opening.object).closedMessageSent = true →
        opening.terminalId ∈ closedTerminals := by
      intro marked
      obtain ⟨same, present, listed⟩ := told.unsent opening inside unreported marked
      obtain rfl := Option.some.inj (running.symm.trans present)
      exact before _ listed
    by_cases own : opening.object = object
    · have found := told.known opening inside
      cases was : (s.service.heap object).closedMessageSent with
      | true => exact old (by rw [own, was])
      | false =>
        have done : (s.service.heap object).readerFinished = true := by
          rw [own, PersistentTerminalService.modify_heap_self, sent, was] at marked
          exact marked
        exact timely done was opening.terminalId (by rw [found, own])
    · rw [PersistentTerminalService.modify_heap_of_ne own] at marked
      exact old marked
  · intro other is another done
    obtain rfl := Option.some.inj is
    obtain ⟨bound, still⟩ := told.finished tick running another done
    refine ⟨bound, ?_⟩
    by_cases own : another = object
    · rw [own] at still ⊢
      rw [PersistentTerminalService.modify_heap_self, finished, still]
    · rw [PersistentTerminalService.modify_heap_of_ne own, still]
  · intro other is i another found done
    obtain rfl := Option.some.inj is
    by_cases own : another = object
    · obtain ⟨_, still⟩ := told.finished tick running another done
      rw [own] at still ⊢
      refine .inr ?_
      rw [PersistentTerminalService.modify_heap_self, sent, still, Bool.or_true]
    · rw [PersistentTerminalService.modify_heap_of_ne own]
      rcases told.reaches tick running i another found done with ⟨j, later⟩ | marked
      · exact .inl ⟨j, left_of_visit here later own⟩
      · exact .inr marked

/-- Shells are taken and sessions removed, and the opens of these sessions with them; what the
running tick has to do is not less than before. -/
theorem Told.reaped (told : Told s) {after : PersistentTerminalService}
    (reaped : s.service.Reaped after) (terminals : List Int) :
    Told { s with
      service := after
      openings := TerminalService.known after (report terminals s.openings) } := by
  refine ⟨told.connected.reaped reaped _ _, ?_, ?_, ?_, ?_⟩
  · intro opening inside
    exact (mem_known.mp inside).2
  · intro opening inside unreported marked
    obtain ⟨old, _⟩ := unreported_of_report (mem_known.mp inside).1 unreported
    rw [reaped.sent] at marked
    exact told.unsent opening old unreported marked
  · intro tick running object done
    rw [reaped.allocated, reaped.finished]
    exact told.finished tick running object done
  · intro tick running i object found done
    rw [reaped.sent]
    exact told.reaches tick running i object (reaped.fewer i object found) done

/-- At the end of a tick every open of a session that had finished before it is reported. -/
theorem Told.reports (told : Told s) {tick : Tick} (running : s.tick = some tick)
    (done : tick.left.keys = []) {opening : Opening} (inside : opening ∈ s.openings)
    (finished : tick.finished opening.object = true) (unreported : opening.reported = false) :
    opening.terminalId ∈ tick.closedTerminals := by
  have found := told.known opening inside
  rcases told.reaches tick running _ _ found finished with ⟨j, later⟩ | sent
  · have listed : j ∈ tick.left.keys := AList.lookup_isSome.mp (by rw [later]; rfl)
    rw [done] at listed
    cases listed
  · obtain ⟨same, present, listed⟩ := told.unsent opening inside unreported sent
    obtain rfl := Option.some.inj (running.symm.trans present)
    exact listed

theorem Told.finish (told : Told s) {tick : Tick} (running : s.tick = some tick)
    (tryWait : Nat → Option Int) : Told (finish s tick tryWait).2 := by
  obtain ⟨reaped, ids⟩ := PersistentTerminalService.closeTerminals_reaped tryWait
    tick.isPersistent s.service s.service.sessions tick.closedTerminals
  have rest := told.reaped reaped tick.closedTerminals
  refine ⟨⟨rest.connected.sound, rest.connected.sync⟩, ?_, ?_, nofun, nofun⟩
  · intro opening inside
    exact (mem_known.mp inside).2
  · intro opening inside unreported marked
    have listed := (mem_known.mp inside).1
    rw [ids] at listed
    obtain ⟨old, absent⟩ := unreported_of_report listed unreported
    have sent : (s.service.heap opening.object).closedMessageSent = true := by
      rw [← reaped.sent]
      exact marked
    obtain ⟨same, present, among⟩ := told.unsent opening old unreported sent
    obtain rfl := Option.some.inj (running.symm.trans present)
    exact absurd among absent

theorem Told.reset (told : Told s) (isPersistent : Bool) :
    Told { s with service := s.service.resetStatus isPersistent, reconnecting := true } := by
  have sent : ∀ object, ((s.service.resetStatus isPersistent).heap object).closedMessageSent =
      (s.service.heap object).closedMessageSent := by
    intro object
    simp only [PersistentTerminalService.resetStatus]
    split
    · rfl
    · rfl
  have finished : ∀ object, ((s.service.resetStatus isPersistent).heap object).readerFinished =
      (s.service.heap object).readerFinished := by
    intro object
    simp only [PersistentTerminalService.resetStatus]
    split
    · rfl
    · rfl
  have sound := told.connected.sound
  refine ⟨⟨⟨sound.distinct, sound.exists_⟩, fun _ => rfl⟩, told.known, ?_, ?_, ?_⟩
  · intro opening inside unreported marked
    rw [sent] at marked
    exact told.unsent opening inside unreported marked
  · intro tick running object done
    rw [finished]
    exact told.finished tick running object done
  · intro tick running i object found done
    rw [sent]
    exact told.reaches tick running i object found done

theorem Told.opened (told : Told s) {terminalId : Int} {launch : Launch}
    (timely : Timely s (.handleOpen terminalId launch)) :
    Told (opened s terminalId launch) := by
  rcases opened_cases s terminalId launch with ⟨_, same⟩ | ⟨object, found, eq⟩
  · rwa [same]
  have sound := told.connected.sound
  have kept := s.service.handleOpen_opened terminalId launch
  rw [eq]
  refine ⟨⟨sound.handleOpen terminalId launch, nofun⟩, ?_, ?_, ?_, ?_⟩
  · intro opening inside
    rcases List.mem_cons.mp inside with rfl | old
    · exact found
    · exact (mem_known.mp old).2
  · intro opening inside unreported marked
    rcases List.mem_cons.mp inside with rfl | old
    · -- a new session has no notice, so this one was there
      have there := PersistentTerminalService.handleOpen_sent found marked
      obtain ⟨j, before⟩ := PersistentTerminalService.remap_back there
      have bound := sound.exists_ j object before
      rcases timely object there with unsent | listed
      · rw [kept.sent object bound, unsent] at marked
        cases marked
      · exact listed
    · have before := (mem_known.mp old).1
      have bound := sound.exists_ _ _ (told.known opening before)
      rw [kept.sent opening.object bound] at marked
      exact told.unsent opening before unreported marked
  · intro tick running other done
    obtain ⟨bound, still⟩ := told.finished tick running other done
    exact ⟨Nat.lt_of_lt_of_le bound kept.allocated, by rw [kept.finished other bound, still]⟩
  · intro tick running i other known done
    obtain ⟨bound, _⟩ := told.finished tick running other done
    rcases kept.back i other known with new | ⟨j, before⟩
    · omega
    · rw [kept.sent other bound]
      exact told.reaches tick running j other before done

theorem Told.step {e : Event} (told : Told s) (timely : Timely s e)
    (stepped : step zstd s e = some t) : Told t := by
  cases e with
  | output object data =>
    obtain rfl := Option.some.inj stepped
    exact told.modify object (fun _ => rfl) fun _ done => done
  | exit object =>
    obtain rfl := Option.some.inj stepped
    exact told.modify object (fun _ => rfl) fun _ _ => rfl
  | snapshot =>
    simp only [TerminalService.step] at stepped
    split at stepped
    · rename_i idle
      obtain rfl := Option.some.inj stepped
      refine told.snapshot idle rfl ?_
      intro object done
      rw [Bool.and_eq_true, decide_eq_true_eq] at done
      exact done
    · cases stepped
  | visit terminalId locked resizeOk =>
    obtain ⟨tick, object, running, here, visited⟩ := step_visit stepped
    have due := timely tick running object here
    rcases visit_cases visited with ⟨rfl, rfl⟩ | ⟨responses, output, rfl, rfl⟩
    · refine told.missed running here ?_
      intro i found done
      by_contra unsent
      rw [Bool.not_eq_true] at unsent
      have finished := (told.finished tick running object done).2
      have inside : i ∈ s.service.sessions.keys :=
        AList.lookup_isSome.mp (by rw [found]; rfl)
      have late := due finished unsent i inside found
      rw [if_neg Bool.false_ne_true, done] at late
      cases late
    · refine told.visited running here rfl rfl ?_ ?_ responses
      · intro i listed
        split
        · exact List.mem_append_left _ listed
        · exact listed
      · intro finished unsent i found
        have inside : i ∈ s.service.sessions.keys :=
          AList.lookup_isSome.mp (by rw [found]; rfl)
        have own : i = terminalId := due finished unsent i inside found
        rw [finished, unsent, own]
        exact List.mem_append_right _ List.mem_cons_self
  | finish tryWait =>
    obtain ⟨tick, running, -, rfl⟩ := step_finish stepped
    exact told.finish running tryWait
  | reset =>
    obtain rfl := Option.some.inj stepped
    exact told.reset true
  | handleOpen terminalId launch =>
    obtain rfl := Option.some.inj stepped
    exact told.opened timely
  | handleClose terminalId killed =>
    obtain rfl := Option.some.inj stepped
    exact told.reaped (PersistentTerminalService.handleClose_reaped ..) _

end Steps

/-- In every run in which each open finds a session whose notice is still to be sent, and each
notice finds its session unlocked and by the id of the tick's copy, no tick leaves a dead terminal
unreported. -/
theorem closed_reported (zstd : Compression) :
    (service zstd).Always Timely ReportsClosed := by
  refine Machine.Always.of_invariant Told ?_ ?_ ?_
  · exact fun s started => Told.start started
  · exact fun s e t told timely stepped => told.step timely stepped
  · intro s e t told timely stepped
    cases e with
    | finish tryWait =>
      have finishing : step zstd s (.finish tryWait) = some t := stepped
      obtain ⟨tick, running, done, rfl⟩ := step_finish finishing
      simp only [ReportsClosed, running]
      intro opening inside finished
      by_contra unreported
      rw [Bool.not_eq_true] at unreported
      obtain ⟨_, ids⟩ := PersistentTerminalService.closeTerminals_reaped tryWait
        tick.isPersistent s.service s.service.sessions tick.closedTerminals
      have listed := (mem_known.mp inside).1
      rw [ids] at listed
      obtain ⟨old, absent⟩ := unreported_of_report listed unreported
      exact absent (told.reports running done old finished unreported)
    | _ => trivial

instance (s : State) (e : Event) : Decidable (Timely s e) :=
  match e with
  | .handleOpen terminalId _ =>
    inferInstanceAs (Decidable
      (∀ object ∈ (s.service.remap terminalId).sessions.lookup terminalId,
        (s.service.heap object).closedMessageSent = false ∨
          ∃ tick ∈ s.tick, terminalId ∈ tick.closedTerminals))
  | .visit terminalId locked _ =>
    inferInstanceAs (Decidable
      (∀ tick ∈ s.tick, ∀ object ∈ tick.left.lookup terminalId,
        (s.service.heap object).readerFinished = true →
        (s.service.heap object).closedMessageSent = false →
        ∀ i ∈ s.service.sessions.keys, s.service.sessions.lookup i = some object →
          if locked then i = terminalId else tick.finished object = false))
  | .output _ _ => isTrue trivial
  | .exit _ => isTrue trivial
  | .snapshot => isTrue trivial
  | .finish _ => isTrue trivial
  | .reset => isTrue trivial
  | .handleClose _ _ => isTrue trivial

-- a shell that exits while nobody is connected is reported to the next client
example :
    ((service TerminalReplay.plain).play Timely { service := .new "ts" true }
      [.reset, .handleOpen 1 (.shell 7), .reset, .exit 0, .handleOpen 1 .failed, .snapshot,
        .visit 1 true true, .finish fun _ => some 0]).openings =
      [⟨1, 0, true⟩, ⟨1, 0, true⟩] := by
  decide +kernel

/-- A shell exits, its terminal is reported as closed, and a client connects again and opens it. -/
def reopenedDead : List Event :=
  [.reset, .handleOpen 1 (.shell 7), .exit 0, .snapshot, .visit 1 true true,
    .finish fun _ => some 0, .reset, .handleOpen 1 .failed, .snapshot, .visit 1 true true]

/-- The second client is never told that the terminal is closed. -/
theorem dead_terminal_unreported :
    ¬ (service TerminalReplay.plain).Always Machine.free ReportsClosed := by
  intro always
  let s := (service TerminalReplay.plain).play Machine.free { service := .new "ts" true }
    reopenedDead
  let finish : Event := .finish fun _ => some 0
  have reached : (service TerminalReplay.plain).Reaches Machine.free s :=
    ⟨_, ⟨"ts", rfl⟩, Machine.runs_play _ _ _ _⟩
  have ends : ((step TerminalReplay.plain s finish).any fun t =>
      decide ((⟨1, 0, false⟩ : Opening) ∈ t.openings)) = true := by decide +kernel
  have dead : (s.tick.any fun tick => tick.finished 0) = true := by decide +kernel
  obtain ⟨t, stepped, listed⟩ := (Option.any_eq_true _ _).mp ends
  obtain ⟨tick, running, finished⟩ := (Option.any_eq_true _ _).mp dead
  have reports := always s finish t reached trivial stepped
  simp only [ReportsClosed, finish, running] at reports
  have reported := reports ⟨1, 0, false⟩ (of_decide_eq_true listed) finished
  cases reported

end ChainRemote.Server.TerminalService
