import ChainRemote.Link.PushAgent

/-!
# Launches and reports over whole runs

`finish_report` removes the marker of a launched push before the server has acknowledged the
result, and one slot holds the result that could not be sent. The first part of the module
says when an installer is launched at most once all the same, the second when no result is
lost.
-/

namespace ChainRemote.Link.PushAgent

open Lib Agent Panel PushAccepted

variable {hash : String → String} {delayHash : Nat → Nat} {s t : State} {e : Event}

section Queue

/-- A row with a mark keeps it. -/
theorem inactive_of_persists {row later : PendingUpdate}
    (persists : PushLifecycle.Persists row later) (marked : row.active = false) :
    later.active = false := by
  cases active : later.active with
  | false => rfl
  | true =>
    simp only [PendingUpdate.active, Bool.and_eq_true, Option.isNone_iff_eq_none] at active
    have unmarked : row.appliedAt = none ∧ row.cancelledAt = none ∧ row.failedAt = none := by
      refine ⟨?_, ?_, ?_⟩
      · cases set : row.appliedAt with
        | none => rfl
        | some time => cases active.1.1.symm.trans (persists.applied time set)
      · cases set : row.cancelledAt with
        | none => rfl
        | some time => cases active.1.2.symm.trans (persists.cancelled time set)
      · cases set : row.failedAt with
        | none => rfl
        | some time => cases active.2.symm.trans (persists.failed time set)
    simp [PendingUpdate.active, unmarked] at marked

/-- A push with a result or a cancellation is in the queue and not served. -/
def Settled (table : PushTable) (id : Nat) : Prop :=
  ∃ row ∈ table.rows, row.id = id ∧ row.active = false

theorem Settled.persists {before after : PushTable} {id : Nat} (settled : Settled before id)
    (kept : ∀ row ∈ before.rows, ∃ later ∈ after.rows, PushLifecycle.Persists row later) :
    Settled after id := by
  obtain ⟨row, inside, same, marked⟩ := settled
  obtain ⟨later, there, persists⟩ := kept row inside
  exact ⟨later, there, persists.id.trans same, inactive_of_persists persists marked⟩

/-- Rows of one id are one row. -/
theorem eq_of_id {table : PushTable} {a b : PendingUpdate} (left : a ∈ table.rows)
    (right : b ∈ table.rows) (same : a.id = b.id) : a = b :=
  List.inj_on_of_nodup_map table.valid.ids left right same

/-- A served push is not settled. -/
theorem not_settled_of_served {customers : List Customer} {response : PendingResponse Nat}
    (served : s.served hash customers = some response) : ¬ Settled s.table response.id := by
  unfold State.served at served
  split at served
  · cases served
  · obtain ⟨row, found, decoded⟩ := Option.bind_eq_some_iff.mp served
    obtain ⟨inside, active⟩ := PushLifecycle.served_active found
    have id : row.id = response.id := by
      unfold decode at decoded
      obtain ⟨_, _, decoded⟩ := Option.bind_eq_some_iff.mp decoded
      obtain ⟨_, _, decoded⟩ := Option.bind_eq_some_iff.mp decoded
      obtain ⟨_, _, decoded⟩ := Option.bind_eq_some_iff.mp decoded
      obtain ⟨_, _, decoded⟩ := Option.bind_eq_some_iff.mp decoded
      obtain rfl := Option.some.inj decoded
      rfl
    rintro ⟨other, there, same, marked⟩
    rw [eq_of_id there inside (same.trans id.symm), active] at marked
    cases marked

/-- An update of one mark that reports success has marked the row. -/
theorem settled_of_mark {table : PushTable} {id : Nat} {set : PendingUpdate → PendingUpdate}
    {column : PendingUpdate → Option Nat} (marks : Marks set)
    (sets : ∀ row, (set row).active = false)
    (blocks : ∀ row, (column row).isSome = true → row.active = false)
    (success : (table.rows.any (fun row => row.id == id && (column row).isNone) ||
      table.rows.any fun row => row.id == id && (column row).isSome) = true) :
    Settled (table.mark (fun row => row.id == id && (column row).isNone) set marks) id := by
  rcases Bool.or_eq_true_iff.mp success with hit | already
  · obtain ⟨row, inside, here⟩ := List.any_eq_true.mp hit
    refine ⟨set row, mem_updateWhere_of_hit inside here, ?_, sets row⟩
    rw [marks.id]
    simp only [Bool.and_eq_true, beq_iff_eq] at here
    exact here.1
  · obtain ⟨row, inside, here⟩ := List.any_eq_true.mp already
    simp only [Bool.and_eq_true, beq_iff_eq] at here
    refine ⟨row, mem_updateWhere_of_miss inside ?_, here.1, blocks row here.2⟩
    have present : (column row).isNone = false := by
      rw [← Option.not_isSome, here.2]
      rfl
    rw [present, Bool.and_false]

/-- An acknowledged push is settled. -/
theorem settled_of_reportStatus {r : Report} {delivery : Delivery} {done : PushTable}
    (reported : s.reportStatus hash r delivery = (done, true)) : Settled done r.id := by
  cases delivery with
  | lost => cases (Prod.ext_iff.mp reported).2
  | arrives customers now answered =>
    rw [State.reportStatus, Prod.mk.injEq, Bool.and_eq_true] at reported
    obtain ⟨rfl, accepted, -⟩ := reported
    dsimp only [postReport] at accepted ⊢
    split at accepted
    · cases accepted
    · rename_i named
      rw [if_neg named]
      cases status : r.status with
      | applied =>
        rw [status] at accepted
        dsimp only [markApplied] at accepted ⊢
        split at accepted
        · rename_i owned
          rw [if_pos owned]
          refine settled_of_mark (marks_applySet now) (active_applySet now) ?_ accepted
          intro row set
          simp [PendingUpdate.active, ← Option.not_isSome, set]
        · cases accepted
      | failed =>
        rw [status] at accepted
        dsimp only [markFailed] at accepted ⊢
        split at accepted
        · rename_i owned
          rw [if_pos owned]
          refine settled_of_mark (marks_failSet now _) (active_failSet now _) ?_ accepted
          intro row set
          simp [PendingUpdate.active, ← Option.not_isSome, set]
        · cases accepted

end Queue

section Launches

/-- The push was launched and a call of `finish_report` for it has removed the marker, no
report of it is acknowledged, and an older version still runs. -/
structure State.Exposed (s : State) (response : PendingResponse Nat) : Prop where
  launched : response.id ∈ s.launches
  reported : ∃ b ∈ s.begun, b.report.id = response.id
  unmarked : s.verify response.id = none
  unacked : ∀ p ∈ s.acked, p.1 ≠ response.id
  newer : isNewerStr response.targetVersion s.version = some true

instance (s : State) (response : PendingResponse Nat) : Decidable (s.Exposed response) :=
  decidable_of_iff
    (response.id ∈ s.launches ∧ (∃ b ∈ s.begun, b.report.id = response.id) ∧
      s.verify response.id = none ∧ (∀ p ∈ s.acked, p.1 ≠ response.id) ∧
      isNewerStr response.targetVersion s.version = some true)
    ⟨fun ⟨a, b, c, d, e⟩ => ⟨a, b, c, d, e⟩, fun ⟨a, b, c, d, e⟩ => ⟨a, b, c, d, e⟩⟩

/-- The service does not stop between a launch and its marker. -/
def Unbroken (s : State) : Event → Prop
  | .restart _ =>
    match s.phase with
    | .launched _ => False
    | _ => True
  | _ => True

instance (s : State) (e : Event) : Decidable (Unbroken s e) := by
  unfold Unbroken
  split
  · split
    · exact isFalse id
    · exact isTrue trivial
  · exact isTrue trivial

/-- No exposed push is served. -/
def Unexposed (hash : String → String) (s : State) : Event → Prop
  | .fetch customers => ∀ response ∈ s.served hash customers, ¬ s.Exposed response
  | _ => True

instance (hash : String → String) (s : State) (e : Event) : Decidable (Unexposed hash s e) := by
  unfold Unexposed
  split
  · infer_instance
  · exact isTrue trivial

/-- The steps of the first theorem. -/
def LaunchGuard (hash : String → String) (s : State) (e : Event) : Prop :=
  Unbroken s e ∧ Unexposed hash s e

instance (hash : String → String) (s : State) (e : Event) : Decidable (LaunchGuard hash s e) :=
  inferInstanceAs (Decidable (_ ∧ _))

/-- A launched push has its marker, or a report of it was begun, or the marker comes next. -/
structure LaunchInv (s : State) : Prop where
  once : s.launches.Nodup
  marked : ∀ id ∈ s.launches, s.verify id ≠ none ∨ (∃ b ∈ s.begun, b.report.id = id) ∨
    ∃ response, s.phase = .launched response ∧ response.id = id
  /-- A launched push in judgement will not pass. -/
  judged : ∀ response, s.phase = .judging response → response.id ∈ s.launches →
    s.verify response.id ≠ none ∨ isNewerStr response.targetVersion s.version ≠ some true
  /-- A push that passed was not launched. -/
  fresh : ∀ response, s.phase = .ready response ∨ s.phase = .launching response →
    response.id ∉ s.launches
  /-- The report in hand was begun. -/
  begun : ∀ r stage, s.phase = .finishing r stage → ∃ b ∈ s.begun, b.report.id = r.id
  settled : ∀ p ∈ s.acked, Settled s.table p.1

theorem launchInv_start (started : Start s) : LaunchInv s where
  once := by
    rw [started.launches]
    exact List.nodup_nil
  marked := by
    rw [started.launches]
    exact List.forall_mem_nil _
  judged response phase := by
    rw [started.phase] at phase
    cases phase
  fresh response := by
    rw [started.launches]
    exact fun _ => List.not_mem_nil
  begun r stage phase := by
    rw [started.phase] at phase
    cases phase
  settled := by
    rw [started.acked]
    exact List.forall_mem_nil _

/-- A launched push keeps its marker through a step, or a report of it is begun, unless the
marker was still to come. -/
theorem LaunchInv.marked_after (inv : LaunchInv s) (launches : t.launches = s.launches)
    (begun : ∀ b ∈ s.begun, b ∈ t.begun)
    (verify : ∀ id, t.verify id = s.verify id ∨ ∃ b ∈ t.begun, b.report.id = id)
    (before : ∀ response, s.phase ≠ .launched response) :
    ∀ id ∈ t.launches, t.verify id ≠ none ∨ (∃ b ∈ t.begun, b.report.id = id) ∨
      ∃ response, t.phase = .launched response ∧ response.id = id := by
  rw [launches]
  intro id inside
  rcases inv.marked id inside with marker | ⟨b, own, same⟩ | ⟨response, phase, -⟩
  · rcases verify id with kept | reported
    · exact .inl (kept ▸ marker)
    · exact .inr (.inl reported)
  · exact .inr (.inl ⟨b, begun b own, same⟩)
  · exact absurd phase (before response)

/-- The same, through a step that leaves markers and reports. -/
theorem LaunchInv.marked_kept (inv : LaunchInv s) (launches : t.launches = s.launches)
    (begun : t.begun = s.begun) (verify : t.verify = s.verify)
    (before : ∀ response, s.phase ≠ .launched response) :
    ∀ id ∈ t.launches, t.verify id ≠ none ∨ (∃ b ∈ t.begun, b.report.id = id) ∨
      ∃ response, t.phase = .launched response ∧ response.id = id :=
  inv.marked_after launches (fun _ inside => begun ▸ inside) (fun id => .inl (congrFun verify id))
    before

theorem LaunchInv.settled_of_same (inv : LaunchInv s) (same : Same s t) :
    ∀ p ∈ t.acked, Settled t.table p.1 := by
  rw [same.acked]
  exact fun p inside => (inv.settled p inside).persists same.table

theorem not_launched_of_settled {phase : Phase} (settled : phase.settled = true)
    (response : PendingResponse Nat) : phase ≠ .launched response := by
  rintro rfl
  cases settled

/-- A step into a phase without a push in hand. -/
theorem LaunchInv.of_idle (inv : LaunchInv s) (same : Same s t) (verify : t.verify = s.verify)
    (before : ∀ response, s.phase ≠ .launched response)
    (judging : ∀ response, t.phase ≠ .judging response)
    (ready : ∀ response, t.phase ≠ .ready response ∧ t.phase ≠ .launching response)
    (finishing : ∀ r stage, t.phase ≠ .finishing r stage) : LaunchInv t where
  once := same.launches ▸ inv.once
  marked := inv.marked_kept same.launches same.begun verify before
  judged response phase := absurd phase (judging response)
  fresh response phase :=
    phase.elim (fun here => absurd here (ready response).1)
      (fun here => absurd here (ready response).2)
  begun r stage phase := absurd phase (finishing r stage)
  settled := inv.settled_of_same same

/-- A served push that was launched has its marker or is not newer: where it is exposed, the
guard refuses it. -/
theorem LaunchInv.serve {customers : List Customer} {response : PendingResponse Nat}
    (inv : LaunchInv s) (guard : Unexposed hash s (.fetch customers)) (before : s.phase = .fetching)
    (served : s.served hash customers = some response) (launched : response.id ∈ s.launches) :
    s.verify response.id ≠ none ∨ isNewerStr response.targetVersion s.version ≠ some true := by
  by_contra passes
  simp only [not_or, not_not] at passes
  apply guard response served
  refine ⟨launched, ?_, passes.1, ?_, passes.2⟩
  · rcases inv.marked response.id launched with marker | reported | ⟨other, phase, -⟩
    · exact absurd passes.1 marker
    · exact reported
    · cases before.symm.trans phase
  · intro p acked own
    exact not_settled_of_served served (own ▸ inv.settled p acked)

/-- The launch of a push that passed. -/
theorem LaunchInv.launch (inv : LaunchInv s) {response : PendingResponse Nat}
    (before : s.phase = .launching response) :
    LaunchInv { s with launches := response.id :: s.launches, phase := .launched response } := by
  refine ⟨?_, ?_, by simp, by simp, by simp, inv.settled⟩
  · exact List.nodup_cons.mpr ⟨inv.fresh response (.inr before), inv.once⟩
  · intro id inside
    rcases List.mem_cons.mp inside with rfl | old
    · exact .inr (.inr ⟨response, rfl, rfl⟩)
    · rcases inv.marked id old with marker | reported | ⟨other, phase, -⟩
      · exact .inl marker
      · exact .inr (.inl reported)
      · cases before.symm.trans phase

/-- The marker of the push that was just launched. -/
theorem LaunchInv.mark (inv : LaunchInv s) {response : PendingResponse Nat}
    (before : s.phase = .launched response) (deadline : Nat) :
    LaunchInv { s with
      verify := Function.update s.verify response.id (some deadline), phase := .idle } := by
  refine ⟨inv.once, ?_, by simp, by simp, by simp, inv.settled⟩
  intro id inside
  by_cases own : id = response.id
  · subst own
    exact .inl (by simp)
  · rcases inv.marked id inside with marker | reported | ⟨other, phase, same⟩
    · exact .inl (by simpa [own] using marker)
    · exact .inr (.inl reported)
    · obtain rfl := Phase.launched.inj (before.symm.trans phase)
      exact absurd same.symm own

/-- A report in hand goes on: its marker may go, since it was begun. -/
theorem LaunchInv.advance (inv : LaunchInv s) {r : Report} {stage next : Stage} (same : Same s t)
    (verify : t.verify = s.verify ∨ t.verify = Function.update s.verify r.id none)
    (before : s.phase = .finishing r stage) (phase : t.phase = .finishing r next) :
    LaunchInv t := by
  have reported : ∃ b ∈ t.begun, b.report.id = r.id := by
    rw [same.begun]
    exact inv.begun r stage before
  refine ⟨same.launches ▸ inv.once, ?_, by simp [phase], by simp [phase], ?_,
    inv.settled_of_same same⟩
  · apply inv.marked_after same.launches
    · exact fun b inside => same.begun ▸ inside
    · intro id
      rcases verify with kept | cleared
      · exact .inl (congrFun kept id)
      · by_cases own : id = r.id
        · rw [own]
          exact .inr reported
        · rw [cleared]
          exact .inl (Function.update_of_ne own _ _)
    · simp [before]
  · intro other later here
    obtain ⟨rfl, -⟩ := Phase.finishing.inj (phase.symm.trans here)
    exact reported

/-- Every admitted step keeps the invariant. -/
theorem LaunchInv.step (inv : LaunchInv s) (guard : LaunchGuard hash s e)
    (effect : Effect hash s e t) : LaunchInv t := by
  cases effect with
  | rest same verify before phase =>
    apply inv.of_idle same verify (not_launched_of_settled before)
    · rcases phase with phase | phase <;> simp [phase]
    · rcases phase with phase | phase <;> simp [phase]
    · rcases phase with phase | phase <;> simp [phase]
  | flush r same verify before held phase =>
    apply inv.of_idle same verify
    · simp [before]
    · simp [phase]
    · simp [phase]
    · simp [phase]
  | serve customers response same verify before event served phase =>
    subst event
    refine ⟨same.launches ▸ inv.once,
      inv.marked_kept same.launches same.begun verify (by simp [before]), ?_, by simp [phase],
      by simp [phase], inv.settled_of_same same⟩
    intro other here launched
    obtain rfl : response = other := Phase.judging.inj (phase.symm.trans here)
    rw [same.launches] at launched
    rw [verify, same.version]
    exact inv.serve guard.2 before served launched
  | pass response same verify before newer unmarked phase =>
    refine ⟨same.launches ▸ inv.once,
      inv.marked_kept same.launches same.begun verify (by simp [before]), by simp [phase], ?_,
      by simp [phase], inv.settled_of_same same⟩
    intro other here
    rw [phase] at here
    rcases here with here | here
    · obtain rfl := Phase.ready.inj here
      rw [same.launches]
      intro launched
      rcases inv.judged response before launched with marker | old
      · exact marker unmarked
      · exact old newer
    · cases here
  | obtained response same verify before phase =>
    refine ⟨same.launches ▸ inv.once,
      inv.marked_kept same.launches same.begun verify (by simp [before]), by simp [phase], ?_,
      by simp [phase], inv.settled_of_same same⟩
    intro other here
    rw [phase] at here
    rcases here with here | here
    · cases here
    · obtain rfl := Phase.launching.inj here
      rw [same.launches]
      exact inv.fresh response (.inl before)
  | launch response before after =>
    subst after
    exact inv.launch before
  | mark response deadline before after =>
    subst after
    exact inv.mark before deadline
  | start response status reason bumped before begins grounded same verify after =>
    have settled := inv.settled_of_same same
    subst after
    refine ⟨same.launches ▸ inv.once, ?_, by simp [State.finishReport],
      by simp [State.finishReport], ?_, settled⟩
    · refine inv.marked_after ?_ ?_ ?_ (not_launched_of_settled before)
      · exact same.launches
      · exact fun b inside => List.mem_cons_of_mem _ (same.begun ▸ inside)
      · exact fun id => .inl (congrFun verify id)
    · intro r stage phase
      obtain ⟨rfl, -⟩ := Phase.finishing.inj phase
      exact ⟨_, List.mem_cons_self, rfl⟩
  | advance r stage next same verify before phase unacked =>
    exact inv.advance same verify before phase
  | acknowledge r done delivery reported next phases after =>
    subst after
    have kept := @persists_reportStatus hash s r delivery
    rw [reported] at kept
    have settled : ∀ p ∈ r.pair :: s.acked, Settled done p.1 := by
      intro p inside
      rcases List.mem_cons.mp inside with rfl | old
      · exact settled_of_reportStatus reported
      · exact (inv.settled p old).persists kept
    rcases phases with ⟨before, rfl⟩ | ⟨⟨attempt, before⟩, rfl⟩
    · exact ⟨inv.once, inv.marked_kept rfl rfl rfl (by simp [before]),
        by simp, by simp, by simp, settled⟩
    · refine ⟨inv.once, inv.marked_kept rfl rfl rfl (by simp [before]),
        by simp, by simp, ?_, settled⟩
      intro other stage phase
      obtain ⟨rfl, -⟩ := Phase.finishing.inj phase
      exact inv.begun r _ before
  | clear next phases after =>
    subst after
    rcases phases with ⟨before, rfl⟩ | ⟨⟨r, before⟩, rfl⟩
    · exact ⟨inv.once, inv.marked_kept rfl rfl rfl (by simp [before]),
        by simp, by simp, by simp, inv.settled⟩
    · exact ⟨inv.once, inv.marked_kept rfl rfl rfl (by simp [before]),
        by simp, by simp, by simp, inv.settled⟩
  | save r before after =>
    subst after
    exact ⟨inv.once, inv.marked_kept rfl rfl rfl (by simp [before]), by simp, by simp, by simp,
      inv.settled⟩
  | restart version event after =>
    subst event after
    have notLaunched : ∀ response, s.phase ≠ .launched response := by
      intro response launched
      have unbroken := guard.1
      simp only [Unbroken, launched] at unbroken
    exact ⟨inv.once, inv.marked_kept rfl rfl rfl notLaunched,
      by simp, by simp, by simp, inv.settled⟩
  | panel call after =>
    subst after
    obtain ⟨batch, tenantId, evolves, -⟩ := @PushLifecycle.evolves_after hash call s.table
    exact { inv with settled := fun p inside => (inv.settled p inside).persists evolves.kept }

/-- In every run in which no exposed push is served, and the service does not stop between a
launch and its marker, an installer is launched at most once for a push. -/
theorem launches_at_most_once (hash : String → String) (delayHash : Nat → Nat) (s : State)
    (reached : (system hash delayHash).Reaches (LaunchGuard hash) s) : s.launches.Nodup := by
  have inv : LaunchInv s := by
    apply reached.invariant LaunchInv fun _ started => launchInv_start started
    intro before e after inv guard next
    exact inv.step guard (effect_of_step next)
  exact inv.once

/-- The store 7 with its device. -/
def store : Customer :=
  { id := 7, tenantId := 1, name := "cafe", remoteId := some "123456789"
    heartbeatToken := some "token" }

/-- Version 1.1.0 waits for the store 7, which runs 1.0.0. -/
def waiting : State where
  version := "1.0.0"
  remoteId := ""
  token := ""
  phase := .idle
  firstSeen := fun _ => none
  dlAttempt := fun _ => none
  verify := fun _ => none
  slot := none
  table := { rows := [rowOf "1.1.0" 0 24], nextId := 1, valid := ⟨by decide, by decide, by decide⟩ }
  launches := []
  begun := []
  acked := []

theorem start_waiting : Start waiting :=
  ⟨rfl, fun _ => rfl, fun _ => rfl, fun _ => rfl, rfl, rfl, rfl, rfl⟩

/-- A tick that asks for a push and judges it at a time. -/
def poll (now : Nat) : List Event :=
  [.tick "123456789" "token", .fetch [store], .judge ⟨now, 12, now, 0⟩]

/-- The installer is launched, and does not do its work. -/
def launchAt (now : Nat) : List Event :=
  poll now ++ [.prepare .verified, .launch, .setVerify now]

/-- The three writes of `finish_report` before its first attempt. -/
def clears : List Event := [.write, .write, .write]

/-- The store's push fails its verification; the report arrives. -/
def failsOnce : State :=
  (system id fun _ => 0).play (LaunchGuard id) waiting
    (launchAt 10000 ++ poll 12000 ++ clears ++
      [.post (.arrives [store] 12 true), .write, .tick "123456789" "token", .fetch [store]])

/-- The report of a failed installation arrives, and the push is not launched again. -/
theorem failsOnce_launches :
    failsOnce.launches = [0] ∧ failsOnce.acked = [(0, .failed)] ∧ failsOnce.launches.Nodup := by
  have reached : (system id fun _ => 0).Reaches (LaunchGuard id) failsOnce :=
    ⟨waiting, start_waiting, Machine.runs_play _ _ _ _⟩
  have ends : failsOnce.launches = [0] ∧ failsOnce.acked = [(0, .failed)] := by decide +kernel
  exact ⟨ends.1, ends.2, launches_at_most_once _ _ _ reached⟩

/-- No attempt to report the failure arrives, and the next poll does. -/
def failsTwice : State :=
  (system id fun _ => 0).play Unbroken waiting
    (launchAt 10000 ++ poll 12000 ++ clears ++
      [.post .lost, .post .lost, .post .lost, .write, .tick "123456789" "token", .post .lost,
       .fetch [store], .judge ⟨12300, 12, 12300, 0⟩, .prepare .reused, .launch])

/-- An installer that did not work is launched again where its report does not arrive. -/
theorem failsTwice_launches :
    (system id fun _ => 0).Reaches Unbroken failsTwice ∧ failsTwice.launches = [0, 0] ∧
      ¬ failsTwice.launches.Nodup := by
  have launches : failsTwice.launches = [0, 0] := by decide +kernel
  refine ⟨⟨waiting, start_waiting, Machine.runs_play _ _ _ _⟩, launches, ?_⟩
  rw [launches]
  decide

end Launches

section Reports

/-- What the slot holds. -/
def State.held (s : State) : Option (Nat × Status) := s.slot.map Report.pair

/-- A report that was begun is acknowledged, in the slot, or still in the hands of
`finish_report`. -/
def State.Keeps (s : State) (b : Begun) : Prop :=
  b.report.pair ∈ s.acked ∨ s.held = some b.report.pair ∨
    ∃ r stage, s.phase = .finishing r stage ∧ r.pair = b.report.pair

/-- A report may be begun: the slot is empty, or holds the same result, or one that is
acknowledged. -/
def State.SlotFree (s : State) (pair : Nat × Status) : Prop :=
  ∀ p ∈ s.held, p = pair ∨ p ∈ s.acked

/-- The service may stop: no report is in hand, or its result is acknowledged or in the slot. -/
def State.MayStop (s : State) : Prop :=
  match s.phase with
  | .finishing r _ => r.pair ∈ s.acked ∨ s.held = some r.pair
  | _ => True

/-- The steps of the second theorem. -/
def ReportGuard (s : State) (e : Event) : Prop :=
  (∀ pair ∈ s.begins e, s.SlotFree pair) ∧
    match e with
    | .restart _ => s.MayStop
    | _ => True

instance (s : State) (pair : Nat × Status) : Decidable (s.SlotFree pair) :=
  inferInstanceAs (Decidable (∀ p ∈ s.held, _))

instance (s : State) : Decidable s.MayStop := by
  unfold State.MayStop
  split
  · infer_instance
  · exact isTrue trivial

instance (s : State) (e : Event) : Decidable (ReportGuard s e) := by
  unfold ReportGuard
  split
  · infer_instance
  · infer_instance

/-- Every begun report is kept, and what the next clearing of the slot drops is acknowledged
or is the report in hand. -/
structure ReportInv (s : State) : Prop where
  kept : ∀ b ∈ s.begun, s.Keeps b
  flushing : ∀ r, s.phase = .flushing r → s.slot = some r
  flushed : s.phase = .flushed → ∀ p ∈ s.held, p ∈ s.acked
  spare : ∀ r stage, s.phase = .finishing r stage → s.SlotFree r.pair
  acked : ∀ r, s.phase = .finishing r .acked → r.pair ∈ s.acked

theorem reportInv_start (started : Start s) : ReportInv s where
  kept := by
    rw [started.begun]
    exact List.forall_mem_nil _
  flushing r phase := by
    rw [started.phase] at phase
    cases phase
  flushed phase := by
    rw [started.phase] at phase
    cases phase
  spare r stage phase := by
    rw [started.phase] at phase
    cases phase
  acked r phase := by
    rw [started.phase] at phase
    cases phase

/-- Reports stay kept through a step from a phase without one in hand that keeps the slot and
the acknowledgements. -/
theorem ReportInv.kept_of_unfinished (inv : ReportInv s) (acked : ∀ p ∈ s.acked, p ∈ t.acked)
    (held : t.held = s.held) (before : ∀ r stage, s.phase ≠ .finishing r stage) :
    ∀ b ∈ s.begun, t.Keeps b := by
  intro b inside
  rcases inv.kept b inside with done | slot | ⟨r, stage, phase, -⟩
  · exact .inl (acked _ done)
  · exact .inr (.inl (held.trans slot))
  · exact absurd phase (before r stage)

theorem Same.held (same : Same s t) : t.held = s.held := congrArg (Option.map Report.pair) same.slot

theorem not_finishing_of_settled {phase : Phase} (settled : phase.settled = true) (r : Report)
    (stage : Stage) : phase ≠ .finishing r stage := by
  rintro rfl
  cases settled

/-- A step between phases without a report in hand. -/
theorem ReportInv.of_same (inv : ReportInv s) (same : Same s t)
    (before : ∀ r stage, s.phase ≠ .finishing r stage) (flushing : ∀ r, t.phase ≠ .flushing r)
    (flushed : t.phase ≠ .flushed) (finishing : ∀ r stage, t.phase ≠ .finishing r stage) :
    ReportInv t where
  kept := by
    rw [same.begun]
    exact inv.kept_of_unfinished (fun _ inside => same.acked ▸ inside) same.held before
  flushing r phase := absurd phase (flushing r)
  flushed phase := absurd phase flushed
  spare r stage phase := absurd phase (finishing r stage)
  acked r phase := absurd phase (finishing r .acked)

/-- With a report in hand, every other one is acknowledged or in the slot. -/
theorem ReportInv.kept_of_finishing (inv : ReportInv s) {r : Report} {stage : Stage}
    (before : s.phase = .finishing r stage) :
    ∀ b ∈ s.begun, b.report.pair ∈ s.acked ∨ s.held = some b.report.pair ∨
      r.pair = b.report.pair := by
  intro b inside
  rcases inv.kept b inside with done | slot | ⟨other, later, here, own⟩
  · exact .inl done
  · exact .inr (.inl slot)
  · obtain ⟨rfl, -⟩ := Phase.finishing.inj (before.symm.trans here)
    exact .inr (.inr own)

/-- The slot is only cleared where what it holds is acknowledged. -/
theorem ReportInv.dropped (inv : ReportInv s)
    (before : s.phase = .flushed ∨ ∃ r, s.phase = .finishing r .acked) :
    ∀ p ∈ s.held, p ∈ s.acked := by
  rcases before with before | ⟨r, before⟩
  · exact inv.flushed before
  · intro p held
    rcases inv.spare r _ before p held with own | old
    · exact own ▸ inv.acked r before
    · exact old

/-- Where the slot is cleared every report that was begun is acknowledged. -/
theorem ReportInv.acked_of_clear (inv : ReportInv s)
    (before : s.phase = .flushed ∨ ∃ r, s.phase = .finishing r .acked) :
    ∀ b ∈ s.begun, b.report.pair ∈ s.acked := by
  intro b inside
  have dropped := inv.dropped before
  rcases before with before | ⟨r, before⟩
  · rcases inv.kept b inside with done | slot | ⟨other, stage, here, -⟩
    · exact done
    · exact dropped _ slot
    · cases before.symm.trans here
  · rcases inv.kept_of_finishing before b inside with done | slot | own
    · exact done
    · exact dropped _ slot
    · exact own ▸ inv.acked r before

/-- The server acknowledges the report in hand. -/
theorem ReportInv.acknowledge (inv : ReportInv s) {r : Report} {stage : Stage}
    (before : s.phase = .finishing r stage) (done : PushTable) :
    ReportInv { s with
      table := done, acked := r.pair :: s.acked, phase := .finishing r .acked } := by
  refine ⟨?_, by simp, by simp, ?_, ?_⟩
  · intro b inside
    rcases inv.kept_of_finishing before b inside with old | slot | own
    · exact .inl (List.mem_cons_of_mem _ old)
    · exact .inr (.inl slot)
    · exact .inl (own ▸ List.mem_cons_self)
  · intro other stage' here
    obtain ⟨rfl, -⟩ := Phase.finishing.inj here
    intro p held
    rcases inv.spare r _ before p held with own | old
    · exact .inl own
    · exact .inr (List.mem_cons_of_mem _ old)
  · intro other here
    obtain ⟨rfl, -⟩ := Phase.finishing.inj here
    exact List.mem_cons_self

/-- Every admitted step keeps the invariant. -/
theorem ReportInv.step (inv : ReportInv s) (guard : ReportGuard s e)
    (effect : Effect hash s e t) : ReportInv t := by
  cases effect with
  | rest same verify before phase =>
    apply inv.of_same same (not_finishing_of_settled before)
    · rcases phase with phase | phase <;> simp [phase]
    · rcases phase with phase | phase <;> simp [phase]
    · rcases phase with phase | phase <;> simp [phase]
  | flush r same verify before held phase =>
    refine ⟨?_, ?_, by simp [phase], by simp [phase], by simp [phase]⟩
    · rw [same.begun]
      exact inv.kept_of_unfinished (fun _ inside => same.acked ▸ inside) same.held
        (by simp [before])
    · intro other here
      obtain rfl := Phase.flushing.inj (phase.symm.trans here)
      exact same.slot.trans held
  | serve customers response same verify before event served phase =>
    apply inv.of_same same
    · simp [before]
    · simp [phase]
    · simp [phase]
    · simp [phase]
  | pass response same verify before newer unmarked phase =>
    apply inv.of_same same
    · simp [before]
    · simp [phase]
    · simp [phase]
    · simp [phase]
  | obtained response same verify before phase =>
    apply inv.of_same same
    · simp [before]
    · simp [phase]
    · simp [phase]
    · simp [phase]
  | launch response before after =>
    subst after
    exact ⟨inv.kept_of_unfinished (fun _ inside => inside) rfl (by simp [before]), by simp, by simp,
      by simp, by simp⟩
  | mark response deadline before after =>
    subst after
    exact ⟨inv.kept_of_unfinished (fun _ inside => inside) rfl (by simp [before]), by simp, by simp,
      by simp, by simp⟩
  | start response status reason bumped before begins grounded same verify after =>
    subst after
    refine ⟨?_, by simp [State.finishReport], by simp [State.finishReport], ?_,
      by simp [State.finishReport]⟩
    · intro b inside
      rcases List.mem_cons.mp inside with rfl | old
      · exact .inr (.inr ⟨_, _, rfl, rfl⟩)
      · refine inv.kept_of_unfinished ?_ ?_ (not_finishing_of_settled before) b (same.begun ▸ old)
        · exact fun _ inside => same.acked ▸ inside
        · exact same.held
    · intro r stage phase
      obtain ⟨rfl, -⟩ := Phase.finishing.inj phase
      intro p held
      have free := guard.1 _ begins p (same.held ▸ held)
      rw [← same.acked] at free
      exact free
  | advance r stage next same verify before phase unacked =>
    refine ⟨?_, by simp [phase], by simp [phase], ?_, ?_⟩
    · rw [same.begun]
      intro b inside
      rcases inv.kept_of_finishing before b inside with done | slot | own
      · exact .inl (same.acked ▸ done)
      · exact .inr (.inl (same.held.trans slot))
      · exact .inr (.inr ⟨r, next, phase, own⟩)
    · intro other later here
      obtain ⟨rfl, -⟩ := Phase.finishing.inj (phase.symm.trans here)
      intro p held
      rw [same.acked]
      exact inv.spare r stage before p (same.held ▸ held)
    · intro other here
      obtain ⟨-, last⟩ := Phase.finishing.inj (phase.symm.trans here)
      exact absurd last unacked.2
  | acknowledge r done delivery reported next phases after =>
    subst after
    rcases phases with ⟨before, rfl⟩ | ⟨⟨attempt, before⟩, rfl⟩
    · refine ⟨?_, by simp, ?_, by simp, by simp⟩
      · exact inv.kept_of_unfinished (fun _ inside => List.mem_cons_of_mem _ inside) rfl
          (by simp [before])
      · rintro - p held
        have slot := inv.flushing r before
        simp only [State.held, slot, Option.map_some, Option.mem_def, Option.some.injEq] at held
        exact held ▸ List.mem_cons_self
    · exact inv.acknowledge before done
  | clear next phases after =>
    subst after
    have kept : ∀ b ∈ s.begun, b.report.pair ∈ s.acked :=
      inv.acked_of_clear (phases.imp And.left And.left)
    refine ⟨fun b inside => .inl (kept b inside), ?_, ?_, ?_, ?_⟩
    all_goals rcases phases with ⟨-, rfl⟩ | ⟨-, rfl⟩ <;> simp
  | save r before after =>
    subst after
    refine ⟨?_, by simp, by simp, by simp, by simp⟩
    intro b inside
    rcases inv.kept_of_finishing before b inside with done | slot | own
    · exact .inl done
    · rcases inv.spare r _ before _ slot with own | old
      · exact .inr (.inl (own ▸ rfl))
      · exact .inl old
    · exact .inr (.inl (own ▸ rfl))
  | restart version event after =>
    subst event after
    refine ⟨?_, by simp, by simp, by simp, by simp⟩
    intro b inside
    rcases inv.kept b inside with done | slot | ⟨r, stage, here, own⟩
    · exact .inl done
    · exact .inr (.inl slot)
    · have stops : s.MayStop := guard.2
      simp only [State.MayStop, here] at stops
      rcases stops with done | slot
      · exact .inl (own ▸ done)
      · exact .inr (.inl (own ▸ slot))
  | panel call after =>
    subst after
    exact ⟨inv.kept, inv.flushing, inv.flushed, inv.spare, inv.acked⟩

/-- A version is at least another one: both can be read, and their places compare so. -/
def AtLeast (version target : String) : Prop :=
  ∃ v t, parseVersion version = some v ∧ parseVersion target = some t ∧
    (t.1 < v.1 ∨ t.1 = v.1 ∧ (t.2.1 < v.2.1 ∨ t.2.1 = v.2.1 ∧ t.2.2 ≤ v.2.2))

theorem atLeast_of_isNewerStr {version target : String}
    (current : isNewerStr target version = some false) : AtLeast version target := by
  unfold isNewerStr at current
  obtain ⟨t, target', current⟩ := Option.bind_eq_some_iff.mp current
  obtain ⟨v, version', current⟩ := Option.bind_eq_some_iff.mp current
  refine ⟨v, t, version', target', ?_⟩
  have compare := Option.some.inj current
  simp only [isNewer, Bool.or_eq_false_iff, Bool.and_eq_false_iff, decide_eq_false_iff_not,
    beq_eq_false_iff_ne] at compare
  omega

/-- A report of success was begun while at least the target was running. -/
def Grounded (s : State) : Prop :=
  ∀ b ∈ s.begun, b.report.status = .applied → AtLeast b.version b.targetVersion

theorem Grounded.step (grounded : Grounded s) (effect : Effect hash s e t) : Grounded t := by
  have same : t.begun = s.begun → Grounded t := by
    intro begun b inside
    exact grounded b (begun ▸ inside)
  cases effect with
  | rest kept | flush _ kept | serve _ _ kept | pass _ kept | obtained _ kept =>
    exact same kept.begun
  | advance _ _ _ kept => exact same kept.begun
  | launch _ _ after => exact same (after ▸ rfl)
  | mark _ _ _ after => exact same (after ▸ rfl)
  | acknowledge _ _ _ _ _ _ after => exact same (after ▸ rfl)
  | clear _ _ after => exact same (after ▸ rfl)
  | save _ _ after => exact same (after ▸ rfl)
  | restart _ _ after => exact same (after ▸ rfl)
  | panel _ after => exact same (after ▸ rfl)
  | start response status reason bumped before begins current kept verify after =>
    subst after
    intro b inside applied
    rcases List.mem_cons.mp inside with rfl | old
    · have version : bumped.version = s.version := kept.version
      dsimp only
      rw [version]
      exact atLeast_of_isNewerStr (current applied)
    · exact grounded b (kept.begun ▸ old) applied

/-- In every run in which a report is begun only while the slot is free for it, and the
service does not stop while a report is in hand that is neither acknowledged nor in the slot,
every begun report is kept. In every run at all, success is reported only of a version that
runs. -/
theorem reports_kept (hash : String → String) (delayHash : Nat → Nat) :
    (∀ s, (system hash delayHash).Reaches ReportGuard s → ∀ b ∈ s.begun, s.Keeps b) ∧
      ∀ s, (system hash delayHash).Reaches Machine.free s → Grounded s := by
  constructor
  · intro s reached
    have inv : ReportInv s := by
      apply reached.invariant ReportInv fun _ started => reportInv_start started
      intro before e after inv guard next
      exact inv.step guard (effect_of_step next)
    exact inv.kept
  · intro s reached
    apply reached.invariant Grounded
    · intro before started b inside
      rw [started.begun] at inside
      cases inside
    · intro before e after grounded _ next
      exact grounded.step (effect_of_step next)

/-- A second push, of version 1.2.0, to the store 7. -/
def secondPush : Event :=
  .panel (.pushToCustomer [store] 2000 7
    { targetVersion := "1.2.0", assetUrl := "https://b"
      assetSha256 := "2cf24dba5fb0a30e26e83b2ac5b9e29e1b161e5c1fa7425e73043362938b9824"
      assetSize := .finite 1000 }
    {} ⟨1, 3⟩)

/-- The installer of the first push cannot be launched, and no attempt to report that
arrives; then there is a second push. -/
def firstFails : List Event :=
  poll 3000 ++ [.prepare .verified, .launchFails "denied"] ++ clears ++
    [.post .lost, .post .lost, .post .lost, .write, secondPush]

/-- A tick whose flush fares as given, with a second push that cannot be launched either; its
report arrives. -/
def secondFails (flush : List Event) : List Event :=
  [.tick "123456789" "token"] ++ flush ++
    [.fetch [store], .judge ⟨3300, 3, 3300, 0⟩, .prepare .verified, .launchFails "denied"] ++
    clears ++ [.post (.arrives [store] 4 true), .write]

/-- The first report is flushed before the second push is judged. -/
def bothReported : State :=
  (system id fun _ => 0).play ReportGuard waiting
    (firstFails ++ secondFails [.post (.arrives [store] 3 true), .write])

theorem bothReported_kept :
    bothReported.begun.map (fun b => b.report.pair) = [(1, .failed), (0, .failed)] ∧
      (∀ b ∈ bothReported.begun, bothReported.Keeps b) ∧ Grounded bothReported := by
  have guarded : (system id fun _ => 0).Runs ReportGuard waiting bothReported :=
    Machine.runs_play _ _ _ _
  have free := guarded.mono fun _ _ _ => trivial
  have both := reports_kept id fun _ => 0
  exact ⟨by decide +kernel, both.1 _ ⟨waiting, start_waiting, guarded⟩,
    both.2 _ ⟨waiting, start_waiting, free⟩⟩

/-- The flush does not arrive. -/
def firstLost : State :=
  (system id fun _ => 0).play Machine.free waiting (firstFails ++ secondFails [.post .lost])

/-- The success of the second report empties the slot of the first result, which the server
never got. -/
theorem firstLost_not_kept :
    (system id fun _ => 0).Reaches Machine.free firstLost ∧
      (∃ b ∈ firstLost.begun, b.report.pair = (0, .failed) ∧ ¬ firstLost.Keeps b) ∧
      ∀ row ∈ firstLost.table.rows, row.id = 0 → row.failedAt = none := by
  have ends : firstLost.phase = .idle ∧ firstLost.held = none ∧
      (0, .failed) ∉ firstLost.acked ∧ (∃ b ∈ firstLost.begun, b.report.pair = (0, .failed)) ∧
      ∀ row ∈ firstLost.table.rows, row.id = 0 → row.failedAt = none := by
    decide +kernel
  obtain ⟨phase, slot, acked, ⟨b, inside, pair⟩, unmarked⟩ := ends
  refine ⟨⟨waiting, start_waiting, Machine.runs_play _ _ _ _⟩, ⟨b, inside, pair, ?_⟩, unmarked⟩
  rintro (done | held | ⟨r, stage, here, -⟩)
  · exact acked (pair ▸ done)
  · cases slot.symm.trans held
  · cases phase.symm.trans here

end Reports

end ChainRemote.Link.PushAgent
