import ChainRemote.Hq.Updater
import ChainRemote.Link.PushAgent

/-!
# The installer that the push agent launches

The pending file lies in a directory of its own between two ticks, and anything may replace it. A
tick verifies the file that is there, downloads another one unless it has the digest of the push,
verifies that one too, and launches it. The steps of the agent are those of `PushAgent`, with what
becomes of the file; a file that is replaced between its check and its launch is left out.

`spawned` and `misses` are history: the calls of `spawn_silent_install` with the file that each
found, and the failed attempts at a push since it was reported last.
-/

namespace ChainRemote.Link.PushInstall

open Lib Agent PushAgent
open Hq.Updater (Installer)

/-- What the machine computes and prints. -/
structure Platform where
  /-- `hex::encode` of the SHA-256 digest. -/
  digest : Installer → String
  /-- `{:?}` of a text. -/
  debug : String → String

/-- How the file system answers a call of `verify_sha256`. -/
structure FileIo where
  /-- The file can be opened and read. -/
  reads : Bool
  error : String
  /-- `remove_file` succeeds. -/
  removes : Bool

/-- What becomes of `download_to`. -/
inductive Download
  /-- It fails, before or after it removed the old file. -/
  | failed (error : String) (removed : Bool)
  /-- It stores what it received. -/
  | stored (content : Installer)

/-- What a tick meets between its guards and the launch. -/
structure ObtainIo where
  /-- `ensure_pending_dir` succeeds. -/
  directory : Bool
  first : FileIo
  download : Download
  second : FileIo

variable (platform : Platform)

/-- The digest that `verify_sha256` looks for. -/
def wanted (expected : String) : String := String.ofList ((rustTrim expected).map Char.toLower)

/-- `verify_sha256`: its result, and the file afterwards. -/
def verifySha256 (expected : String) (io : FileIo) (file : Option Installer) :
    Except String Unit × Option Installer :=
  if !isValidSha256Hex expected then
    let trimmed := String.ofList (rustTrim expected)
    (.error ("invalid expected sha256 (need 64 hex chars, got " ++ platform.debug trimmed ++
      " len=" ++ toString trimmed.utf8ByteSize ++ ")"), file)
  else
    match file, io.reads with
    | some content, true =>
      let got := platform.digest content
      if got ≠ wanted expected then
        (.error ("SHA256 mismatch: expected " ++ wanted expected ++ ", got " ++ got),
          if io.removes then none else file)
      else (.ok (), file)
    | _, _ => (.error io.error, file)

/-- The download and the checks of a tick: what it comes to, and the file afterwards. -/
def obtain (expected : String) (io : ObtainIo) (file : Option Installer) :
    Obtained × Option Installer :=
  if !io.directory then (.noDirectory, file)
  else
    -- a file that does not exist is not verified either
    match verifySha256 platform expected io.first file with
    | (.ok _, file) => (.reused, file)
    | (.error _, file) =>
      match io.download with
      | .failed error removed => (.downloadFailed error, if removed then none else file)
      | .stored content =>
        match verifySha256 platform expected io.second (some content) with
        | (.ok _, file) => (.verified, file)
        | (.error error, file) => (.shaMismatch error, file)

/-- A call of `spawn_silent_install`: the file that it found, and the digest of the push. -/
structure Spawn where
  file : Option Installer
  assetSha256 : String

/-- The agent with the pending file. -/
structure World where
  agent : State
  file : Option Installer
  spawned : List Spawn
  misses : Nat → Nat

/-- A step of the agent, of anything around it, or of anything that touches the file. -/
inductive Event
  /-- A step that needs no file. -/
  | agent (e : PushAgent.Event)
  | obtain (io : ObtainIo)
  /-- `spawn_silent_install` is called; its error. -/
  | spawn (error : Option String)
  /-- The file is replaced from outside. -/
  | replace (file : Option Installer)

/-- Steps that need no file. -/
def Plain : PushAgent.Event → Prop
  | .prepare _ | .launch | .launchFails _ => False
  | _ => True

instance (e : PushAgent.Event) : Decidable (Plain e) := by
  unfold Plain
  split <;> infer_instance

/-- The attempt at a push failed. -/
def failing : Obtained → Bool
  | .downloadFailed _ | .shaMismatch _ => true
  | _ => false

section Steps

variable (hash : String → String) (delayHash : Nat → Nat)

/-- A report about a push ends the count of its failed attempts. -/
def World.counted (w : World) (e : PushAgent.Event) : Nat → Nat :=
  match w.agent.begins e with
  | some (id, _) => Function.update w.misses id 0
  | none =>
    match w.agent.phase, e with
    | .ready response, .prepare outcome =>
      if failing outcome then Function.update w.misses response.id (w.misses response.id + 1)
      else w.misses
    | _, _ => w.misses

/-- The world after a step of the agent. -/
def World.stepped (w : World) (e : PushAgent.Event) (file : Option Installer)
    (spawned : List Spawn) : Option World :=
  (PushAgent.step hash delayHash w.agent e).map fun agent =>
    { agent, file, spawned, misses := w.counted e }

/-- One step; `none` where the event cannot happen. -/
def step (w : World) : Event → Option World
  | .agent e => if Plain e then w.stepped hash delayHash e w.file w.spawned else none
  | .obtain io =>
    match w.agent.phase with
    | .ready response =>
      let got := obtain platform response.assetSha256 io w.file
      w.stepped hash delayHash (.prepare got.1) got.2 w.spawned
    | _ => none
  | .spawn error =>
    match w.agent.phase with
    | .launching response =>
      let call : Spawn := { file := w.file, assetSha256 := response.assetSha256 }
      match error with
      | none => w.stepped hash delayHash .launch w.file (call :: w.spawned)
      | some error => w.stepped hash delayHash (.launchFails error) w.file (call :: w.spawned)
    | _ => none
  | .replace file =>
    match w.agent.phase with
    | .launching _ => none
    | _ => some { w with file := file }

/-- A fresh agent beside any file. -/
structure Start (w : World) : Prop where
  agent : PushAgent.Start w.agent
  spawned : w.spawned = []
  misses : ∀ id, w.misses id = 0

/-- The agent and its pending file. -/
def system : Machine World Event where
  start := Start
  step := step platform hash delayHash

/-- The steps of `PushAgent` are those of the agent in any surroundings. -/
theorem runs_agent {w t : World} (run : (system platform hash delayHash).Runs Machine.free w t) :
    (PushAgent.system hash delayHash).Runs Machine.free w.agent t.agent := by
  have stepped : ∀ {w t : World} {e file spawned},
      w.stepped hash delayHash e file spawned = some t →
        (PushAgent.system hash delayHash).Runs Machine.free w.agent t.agent := by
    intro w t e file spawned next
    obtain ⟨agent, done, rfl⟩ := Option.map_eq_some_iff.mp next
    exact .step e .refl trivial done
  refine run.simulates World.agent ?_
  intro w e t _ next
  cases e with
  | agent e =>
    simp only [system, step] at next
    split at next
    · exact stepped next
    · cases next
  | obtain io =>
    simp only [system, step] at next
    split at next
    · exact stepped next
    · cases next
  | spawn error =>
    simp only [system, step] at next
    split at next
    · split at next
      · exact stepped next
      · exact stepped next
    · cases next
  | replace file =>
    simp only [system, step] at next
    split at next
    · cases next
    · obtain rfl := Option.some.inj next
      exact .refl

end Steps

/-- The file is there with the digest of a push, and the digest is well formed. -/
def Verified (file : Option Installer) (expected : String) : Prop :=
  isValidSha256Hex expected = true ∧
    ∃ content, file = some content ∧ platform.digest content = wanted expected

section Files

variable {platform} {expected : String} {io : FileIo} {file after : Option Installer}

/-- A file that passes is the one that was there, with its digest. -/
theorem verifySha256_ok {done : Unit}
    (passed : verifySha256 platform expected io file = (.ok done, after)) :
    after = file ∧ Verified platform file expected := by
  unfold verifySha256 at passed
  split at passed
  · cases passed
  · rename_i valid
    split at passed
    · rename_i content reads
      dsimp only at passed
      split at passed
      · cases passed
      · rename_i same
        have digest : platform.digest content = wanted expected := not_not.mp same
        exact ⟨(Prod.ext_iff.mp passed).2.symm, by simpa using valid, content, rfl, digest⟩
    · cases passed

/-- Where the file can be read and removed, this is the check of the updater. -/
theorem verifySha256_updater (current expected error : String) (content : Installer) :
    let got :=
      verifySha256 platform expected { reads := true, error, removes := true } (some content)
    Hq.Updater.verifySha256 { current, digest := platform.digest } expected content =
      (got.1.isOk, got.2) := by
  unfold Hq.Updater.verifySha256 verifySha256 wanted
  by_cases valid : isValidSha256Hex expected = true
  · by_cases same : platform.digest content =
        String.ofList ((rustTrim expected).map Char.toLower)
    · simp [valid, same, Except.isOk, Except.toBool]
    · simp [valid, same, Except.isOk, Except.toBool]
  · simp [valid, Except.isOk, Except.toBool]

/-- An installer that is reused or downloaded is verified. -/
theorem obtain_verified {io : ObtainIo} {outcome : Obtained}
    (got : obtain platform expected io file = (outcome, after))
    (usable : outcome = .reused ∨ outcome = .verified) : Verified platform after expected := by
  unfold obtain at got
  split at got
  · cases got
    simp at usable
  · split at got
    · rename_i kept passed
      cases got
      have checked := verifySha256_ok passed
      rw [checked.1]
      exact checked.2
    · split at got
      · cases got
        simp at usable
      · split at got
        · rename_i passed
          cases got
          have checked := verifySha256_ok passed
          rw [checked.1]
          exact checked.2
        · cases got
          simp at usable

end Files

section Agent

variable {hash : String → String} {delayHash : Nat → Nat} {s t : State} {e : PushAgent.Event}
  {response : PendingResponse Nat}

/-- A push passes its guards only with a well-formed digest. -/
theorem valid_of_proceed {reading : Reading} (proceeds : s.verdict response reading = .proceed) :
    isValidSha256Hex response.assetSha256 = true := by
  unfold State.verdict at proceeds
  split at proceeds
  · cases proceeds
  · cases proceeds
  · split at proceeds
    · split at proceeds
      · cases proceeds
      · cases proceeds
    · split at proceeds
      · cases proceeds
      · rename_i valid
        simpa using valid

/-- Only a judgement passes a push on. -/
theorem judged (next : PushAgent.step hash delayHash s e = some t)
    (before : s.phase = .judging response) (phase : t.phase = .ready response) :
    isValidSha256Hex response.assetSha256 = true := by
  cases e with
  | judge reading =>
    simp only [PushAgent.step, before] at next
    split at next
    · obtain rfl := Option.some.inj next
      cases phase
    · obtain rfl := Option.some.inj next
      cases phase
    · rename_i proceeds
      exact valid_of_proceed proceeds
  | restart version =>
    obtain rfl := Option.some.inj next
    cases phase
  | panel call =>
    obtain rfl := Option.some.inj next
    rw [before] at phase
    cases phase
  | _ => simp [PushAgent.step, State.posted, State.written, before] at next

/-- A plain step ends with a push in hand that was in hand before, or that has just passed its
guards. -/
theorem inHand_of_step (plain : Plain e) (next : PushAgent.step hash delayHash s e = some t)
    (phase : t.phase = .ready response ∨ t.phase = .launching response) :
    t.phase = s.phase ∧ t.verify = s.verify ∨
      t.phase = .ready response ∧ isValidSha256Hex response.assetSha256 = true ∧
        t.verify response.id = none := by
  cases effect_of_step next with
  | pass other same verify before newer unmarked passed =>
    rw [passed] at phase
    obtain rfl : other = response := by simpa using phase
    rw [verify]
    exact .inr ⟨passed, judged next before passed, unmarked⟩
  | obtained other same verify before launching =>
    cases e with
    | prepare outcome => exact False.elim plain
    | restart version =>
      obtain rfl := Option.some.inj next
      cases launching
    | panel call =>
      obtain rfl := Option.some.inj next
      exact .inl ⟨rfl, rfl⟩
    | _ => simp [PushAgent.step, State.posted, State.written, before] at next
  | panel call after =>
    rw [after]
    exact .inl ⟨rfl, rfl⟩
  | rest same verify before idle => rcases idle with idle | idle <;> simp [idle] at phase
  | acknowledge r done delivery reported later phases after =>
    rcases phases with ⟨-, rfl⟩ | ⟨-, rfl⟩ <;> simp [after] at phase
  | clear later phases after => rcases phases with ⟨-, rfl⟩ | ⟨-, rfl⟩ <;> simp [after] at phase
  | start other status reason bumped before begins grounded same verify after =>
    simp [after, State.finishReport] at phase
  | launch other before after => simp [after] at phase
  | mark other deadline before after => simp [after] at phase
  | save r before after => simp [after] at phase
  | restart version event after => simp [after] at phase
  | flush r same verify before held flushing => simp [flushing] at phase
  | serve customers other same verify before event served judging => simp [judging] at phase
  | advance r stage later same verify before finishing unacked => simp [finishing] at phase

/-- A plain step that is no restart leaves a push before its marker in hand, or marks it. -/
theorem launch_of_step (plain : Plain e) (next : PushAgent.step hash delayHash s e = some t)
    (before : s.phase = .launching response ∨ s.phase = .launched response) :
    (∃ version, e = .restart version) ∨ t.phase = s.phase ∨ t.verify response.id ≠ none := by
  cases e with
  | prepare outcome => exact False.elim plain
  | launch => exact False.elim plain
  | launchFails error => exact False.elim plain
  | restart version => exact .inl ⟨version, rfl⟩
  | panel call =>
    obtain rfl := Option.some.inj next
    exact .inr (.inl rfl)
  | setVerify now =>
    rcases before with before | before
    · simp [PushAgent.step, before] at next
    · simp only [PushAgent.step, before] at next
      obtain rfl := Option.some.inj next
      simp
  | _ =>
    rcases before with before | before <;>
      simp [PushAgent.step, State.posted, State.written, before] at next

/-- A marker is only removed by a report about its push. -/
theorem verify_of_step {id : Nat} (next : PushAgent.step hash delayHash s e = some t)
    (unmarked : t.verify id = none) :
    s.verify id = none ∨ ∃ r stage, s.phase = .finishing r stage ∧ r.id = id := by
  cases effect_of_step next with
  | advance r stage later same verify before finishing unacked =>
    rcases verify with verify | verify
    · exact .inl (verify ▸ unmarked)
    · by_cases own : id = r.id
      · exact .inr ⟨r, stage, before, own.symm⟩
      · rw [verify, Function.update_of_ne own] at unmarked
        exact .inl unmarked
  | mark other deadline before after =>
    rw [after] at unmarked
    by_cases own : id = other.id
    · simp [own] at unmarked
    · exact .inl ((Function.update_of_ne own _ _).symm.trans unmarked)
  | start other status reason bumped before begins grounded same verify after =>
    rw [after] at unmarked
    exact .inl (verify ▸ unmarked)
  | rest same verify => exact .inl (verify ▸ unmarked)
  | flush r same verify => exact .inl (verify ▸ unmarked)
  | serve customers other same verify => exact .inl (verify ▸ unmarked)
  | pass other same verify => exact .inl (verify ▸ unmarked)
  | obtained other same verify => exact .inl (verify ▸ unmarked)
  | launch other before after => exact .inl (by rw [after] at unmarked; exact unmarked)
  | acknowledge r done delivery reported later phases after =>
    exact .inl (by rw [after] at unmarked; exact unmarked)
  | clear later phases after => exact .inl (by rw [after] at unmarked; exact unmarked)
  | save r before after => exact .inl (by rw [after] at unmarked; exact unmarked)
  | restart version event after => exact .inl (by rw [after] at unmarked; exact unmarked)
  | panel call after => exact .inl (by rw [after] at unmarked; exact unmarked)

/-- A write forgets the attempts of the push that is reported, or none. -/
theorem written_dlAttempt (next : s.written = some t) (push : Nat) :
    t.dlAttempt push = s.dlAttempt push ∨
      ∃ r stage, s.phase = .finishing r stage ∧ r.id = push := by
  unfold State.written at next
  split at next
  · obtain rfl := Option.some.inj next
    exact .inl rfl
  · obtain rfl := Option.some.inj next
    exact .inl rfl
  · rename_i r before
    obtain rfl := Option.some.inj next
    by_cases own : push = r.id
    · exact .inr ⟨r, _, before, own.symm⟩
    · exact .inl (Function.update_of_ne own _ _)
  · obtain rfl := Option.some.inj next
    exact .inl rfl
  · obtain rfl := Option.some.inj next
    exact .inl rfl
  · obtain rfl := Option.some.inj next
    exact .inl rfl
  · cases next

/-- Waiting for the delay leaves the attempts. -/
theorem delayed_dlAttempt (s : State) (response : PendingResponse Nat) (reading : Reading) :
    (s.delayed delayHash response reading).dlAttempt = s.dlAttempt := by
  unfold State.delayed
  dsimp only
  split
  · rfl
  · split
    · rfl
    · rfl

/-- Sending a report leaves the attempts. -/
theorem posted_dlAttempt {delivery : Delivery} (next : s.posted hash delivery = some t) :
    t.dlAttempt = s.dlAttempt := by
  unfold State.posted at next
  split at next
  · dsimp only at next
    split at next
    · obtain rfl := Option.some.inj next
      rfl
    · obtain rfl := Option.some.inj next
      rfl
  · dsimp only at next
    split at next
    · obtain rfl := Option.some.inj next
      rfl
    · split at next
      · obtain rfl := Option.some.inj next
        rfl
      · obtain rfl := Option.some.inj next
        rfl
  · cases next

/-- Outside an attempt, the attempts are only forgotten by a report about their push. -/
theorem dlAttempt_of_step (plain : Plain e) (next : PushAgent.step hash delayHash s e = some t)
    (push : Nat) :
    t.dlAttempt push = s.dlAttempt push ∨
      ∃ r stage, s.phase = .finishing r stage ∧ r.id = push := by
  cases e with
  | prepare outcome => exact False.elim plain
  | launch => exact False.elim plain
  | launchFails error => exact False.elim plain
  | write => exact written_dlAttempt next push
  | judge reading =>
    simp only [PushAgent.step] at next
    split at next
    · split at next
      · obtain rfl := Option.some.inj next
        exact .inl rfl
      · obtain rfl := Option.some.inj next
        exact .inl rfl
      · obtain rfl := Option.some.inj next
        exact .inl (congrFun (delayed_dlAttempt s _ _) push)
    · cases next
  | post delivery => exact .inl (congrFun (posted_dlAttempt next) push)
  | tick remoteId token =>
    simp only [PushAgent.step] at next
    split at next
    · split at next
      · obtain rfl := Option.some.inj next
        exact .inl rfl
      · split at next
        · obtain rfl := Option.some.inj next
          exact .inl rfl
        · obtain rfl := Option.some.inj next
          exact .inl rfl
    · cases next
  | fetch customers =>
    simp only [PushAgent.step] at next
    split at next
    · split at next
      · obtain rfl := Option.some.inj next
        exact .inl rfl
      · obtain rfl := Option.some.inj next
        exact .inl rfl
    · cases next
  | fetchFails =>
    simp only [PushAgent.step] at next
    split at next
    · obtain rfl := Option.some.inj next
      exact .inl rfl
    · cases next
  | setVerify now =>
    simp only [PushAgent.step] at next
    split at next
    · obtain rfl := Option.some.inj next
      exact .inl rfl
    · cases next
  | restart version =>
    obtain rfl := Option.some.inj next
    exact .inl rfl
  | panel call =>
    obtain rfl := Option.some.inj next
    exact .inl rfl

/-- A report in hand was in hand before, or has just begun. -/
theorem finishing_of_step {r : Report} {stage : Stage}
    (next : PushAgent.step hash delayHash s e = some t) (phase : t.phase = .finishing r stage) :
    (∃ earlier, s.phase = .finishing r earlier) ∨ ∃ status, s.begins e = some (r.id, status) := by
  cases effect_of_step next with
  | advance report earlier later same verify before finishing unacked =>
    rw [finishing] at phase
    cases phase
    exact .inl ⟨earlier, before⟩
  | acknowledge report done delivery reported later phases after =>
    rcases phases with ⟨-, rfl⟩ | ⟨⟨attempt, before⟩, rfl⟩
    · simp [after] at phase
    · rw [after] at phase
      cases phase
      exact .inl ⟨_, before⟩
  | start other status reason bumped before begins grounded same verify after =>
    rw [after] at phase
    cases phase
    exact .inr ⟨status, begins⟩
  | panel call after =>
    rw [after] at phase
    exact .inl ⟨stage, phase⟩
  | rest same verify before idle => rcases idle with idle | idle <;> simp [idle] at phase
  | clear later phases after => rcases phases with ⟨-, rfl⟩ | ⟨-, rfl⟩ <;> simp [after] at phase
  | launch other before after => simp [after] at phase
  | mark other deadline before after => simp [after] at phase
  | save r before after => simp [after] at phase
  | restart version event after => simp [after] at phase
  | flush r same verify before held flushing => simp [flushing] at phase
  | serve customers other same verify before event served judging => simp [judging] at phase
  | pass other same verify before newer unmarked passed => simp [passed] at phase
  | obtained other same verify before launching => simp [launching] at phase

end Agent

/-- The call of `spawn_silent_install` for a push. -/
def World.call (w : World) (response : PendingResponse Nat) : Spawn where
  file := w.file
  assetSha256 := response.assetSha256

/-- Everything a step can do. -/
inductive Move (hash : String → String) (delayHash : Nat → Nat) (w : World) (e : Event)
    (t : World) : Prop
  | agent (a : PushAgent.Event) (agent : State) (event : e = .agent a) (plain : Plain a)
      (done : PushAgent.step hash delayHash w.agent a = some agent)
      (after : t = { w with agent := agent, misses := w.counted a })
  | obtain (io : ObtainIo) (response : PendingResponse Nat) (outcome : Obtained)
      (file : Option Installer) (event : e = .obtain io) (before : w.agent.phase = .ready response)
      (got : obtain platform response.assetSha256 io w.file = (outcome, file))
      (after : t =
        { w with
          agent := w.agent.obtained response outcome
          file := file
          misses := w.counted (.prepare outcome) })
  | launch (response : PendingResponse Nat) (before : w.agent.phase = .launching response)
      (after : t =
        { w with
          agent := { w.agent with
            launches := response.id :: w.agent.launches
            phase := .launched response }
          spawned := w.call response :: w.spawned })
  | refuse (response : PendingResponse Nat) (error : String)
      (before : w.agent.phase = .launching response)
      (after : t =
        { w with
          agent := w.agent.finishReport response .failed error
          spawned := w.call response :: w.spawned
          misses := Function.update w.misses response.id 0 })
  | replace (file : Option Installer) (event : e = .replace file)
      (free : ∀ response, w.agent.phase ≠ .launching response) (after : t = { w with file := file })

section Runs

variable {platform} {hash : String → String} {delayHash : Nat → Nat} {w t : World} {e : Event}
  {response : PendingResponse Nat}

/-- An attempt ends before the launch, or with no push in hand. -/
theorem phase_obtained (s : State) (response : PendingResponse Nat) (outcome : Obtained) :
    (s.obtained response outcome).phase = .launching response ∧
        (outcome = .reused ∨ outcome = .verified) ∨
      ∀ other, (s.obtained response outcome).phase ≠ .ready other ∧
        (s.obtained response outcome).phase ≠ .launching other := by
  have failed : ∀ msg other, (s.attemptFailed response msg).phase ≠ .ready other ∧
      (s.attemptFailed response msg).phase ≠ .launching other := by
    intro msg other
    unfold State.attemptFailed
    dsimp only
    split
    · exact ⟨nofun, nofun⟩
    · exact ⟨nofun, nofun⟩
  cases outcome with
  | noDirectory => exact .inr fun other => ⟨nofun, nofun⟩
  | reused => exact .inl ⟨rfl, .inl rfl⟩
  | downloadFailed error => exact .inr (failed _)
  | shaMismatch error => exact .inr (failed _)
  | verified => exact .inl ⟨rfl, .inr rfl⟩

/-- A push past its guards is well formed and unmarked, an installer about to be launched is
verified, and so was every one that was launched. -/
structure Sound (platform : Platform) (w : World) : Prop where
  ready : ∀ response, w.agent.phase = .ready response →
    isValidSha256Hex response.assetSha256 = true ∧ w.agent.verify response.id = none
  launching : ∀ response, w.agent.phase = .launching response →
    Verified platform w.file response.assetSha256
  spawned : ∀ call ∈ w.spawned, Verified platform call.file call.assetSha256

/-- An installer that is launched is verified. -/
theorem Sound.spawn (sound : Sound platform w) (before : w.agent.phase = .launching response) :
    ∀ call ∈ w.call response :: w.spawned, Verified platform call.file call.assetSha256 := by
  intro call inside
  rcases List.mem_cons.mp inside with rfl | old
  · exact sound.launching response before
  · exact sound.spawned call old

theorem Sound.step (sound : Sound platform w) (move : Move platform hash delayHash w e t) :
    Sound platform t := by
  cases move with
  | agent a agent event plain done after =>
    subst after
    refine ⟨?_, ?_, sound.spawned⟩
    · intro response phase
      rcases inHand_of_step plain done (.inl phase) with ⟨same, verify⟩ | ⟨-, valid, unmarked⟩
      · have old := sound.ready response (same.symm.trans phase)
        exact ⟨old.1, verify ▸ old.2⟩
      · exact ⟨valid, unmarked⟩
    · intro response phase
      rcases inHand_of_step plain done (.inr phase) with ⟨same, -⟩ | ⟨ready, -⟩
      · exact sound.launching response (same.symm.trans phase)
      · rw [phase] at ready
        cases ready
  | obtain io other outcome file event before got after =>
    subst after
    rcases phase_obtained w.agent other outcome with ⟨launching, usable⟩ | free
    · refine ⟨?_, ?_, sound.spawned⟩
      · intro response phase
        rw [launching] at phase
        cases phase
      · intro response phase
        obtain rfl := Phase.launching.inj (launching.symm.trans phase)
        exact obtain_verified got usable
    · exact ⟨fun response phase => absurd phase (free response).1,
        fun response phase => absurd phase (free response).2, sound.spawned⟩
  | launch response before after =>
    subst after
    exact ⟨nofun, nofun, sound.spawn before⟩
  | refuse response error before after =>
    subst after
    exact ⟨nofun, nofun, sound.spawn before⟩
  | replace file event free after =>
    subst after
    exact ⟨sound.ready, fun response phase => absurd phase (free response), sound.spawned⟩

/-- The tick is not stopped between a verified download and the marker of its launch. -/
def Whole (w : World) : Event → Prop
  | .agent (.restart _) => ∀ response,
      w.agent.phase ≠ .launching response ∧ w.agent.phase ≠ .launched response
  | _ => True

/-- No marker of a push is set, and no verified installer of it is in hand. -/
structure Unlaunched (agent : State) (id : Nat) : Prop where
  unmarked : agent.verify id = none
  launching : ∀ response, agent.phase = .launching response → response.id ≠ id
  launched : ∀ response, agent.phase = .launched response → response.id ≠ id

/-- The failed attempts at a push are few, and are counted until it is launched or reported. -/
structure Counted (w : World) : Prop where
  few : ∀ id, w.misses id < dlMaxAttempts
  counted : ∀ id, Unlaunched w.agent id → w.misses id ≤ (w.agent.dlAttempt id).getD 0
  reported : ∀ r stage, w.agent.phase = .finishing r stage → w.misses r.id = 0

theorem counted_silent {a : PushAgent.Event} (plain : Plain a)
    (begins : w.agent.begins a = none) : w.counted a = w.misses := by
  unfold World.counted
  rw [begins]
  dsimp only
  split
  · exact False.elim plain
  · rfl

theorem counted_report {a : PushAgent.Event} {report : Nat × Status}
    (begins : w.agent.begins a = some report) :
    w.counted a = Function.update w.misses report.1 0 := by
  unfold World.counted
  rw [begins]

/-- A plain step only ends counts. -/
theorem counted_plain {a : PushAgent.Event} (plain : Plain a) (id : Nat) :
    w.counted a id ≤ w.misses id := by
  cases begins : w.agent.begins a with
  | none =>
    rw [counted_silent plain begins]
  | some report =>
    rw [counted_report begins]
    by_cases own : id = report.1
    · simp [own]
    · rw [Function.update_of_ne own]

/-- A plain step leaves a push launched that was, or its failed attempts were reported. -/
theorem Counted.unlaunched (counted : Counted w) {a : PushAgent.Event} {agent : State}
    (plain : Plain a) (whole : Whole w (.agent a))
    (done : PushAgent.step hash delayHash w.agent a = some agent) {id : Nat}
    (after : Unlaunched agent id) : Unlaunched w.agent id ∨ w.misses id = 0 := by
  have left : ∀ response, w.agent.phase = .launching response ∨
      w.agent.phase = .launched response → response.id ≠ id := by
    intro response before own
    rcases launch_of_step plain done before with ⟨version, rfl⟩ | same | marked
    · rcases before with before | before
      · exact (whole response).1 before
      · exact (whole response).2 before
    · rcases before with before | before
      · exact after.launching response (same.trans before) own
      · exact after.launched response (same.trans before) own
    · exact marked (own ▸ after.unmarked)
  rcases verify_of_step done after.unmarked with unmarked | ⟨r, stage, before, rfl⟩
  · left
    exact ⟨unmarked, fun response before => left response (.inl before),
      fun response before => left response (.inr before)⟩
  · exact .inr (counted.reported r stage before)

theorem Counted.agent (counted : Counted w) {a : PushAgent.Event} {agent : State}
    (plain : Plain a) (whole : Whole w (.agent a))
    (done : PushAgent.step hash delayHash w.agent a = some agent) :
    Counted { w with agent := agent, misses := w.counted a } where
  few id := Nat.lt_of_le_of_lt (counted_plain plain id) (counted.few id)
  counted id after := by
    have fewer := counted_plain (w := w) plain id
    have none : w.misses id = 0 → w.counted a id ≤ (agent.dlAttempt id).getD 0 := by
      intro none
      omega
    rcases counted.unlaunched plain whole done after with before | reported
    · rcases dlAttempt_of_step plain done id with same | ⟨r, stage, finishing, rfl⟩
      · have known := counted.counted id before
        rw [same]
        exact Nat.le_trans fewer known
      · exact none (counted.reported r stage finishing)
    · exact none reported
  reported r stage phase := by
    rcases finishing_of_step done phase with ⟨earlier, before⟩ | ⟨status, begins⟩
    · have zero := counted.reported r earlier before
      have fewer := counted_plain (w := w) plain r.id
      exact Nat.le_zero.mp (zero ▸ fewer)
    · rw [counted_report begins]
      exact Function.update_self ..

theorem unlaunched_of_ready {id : Nat} (before : w.agent.phase = .ready response)
    (unmarked : w.agent.verify id = none) : Unlaunched w.agent id where
  unmarked := unmarked
  launching other phase := by
    rw [before] at phase
    cases phase
  launched other phase := by
    rw [before] at phase
    cases phase

/-- A report ends the count of its push. -/
theorem Counted.report (counted : Counted w) {agent : State} {push : Nat}
    (finishing : ∀ r stage, agent.phase = .finishing r stage → r.id = push)
    (others : ∀ id, id ≠ push → Unlaunched agent id →
      w.misses id ≤ (agent.dlAttempt id).getD 0)
    (file : Option Installer) (spawned : List Spawn) :
    Counted { agent, file, spawned, misses := Function.update w.misses push 0 } where
  few id := by
    by_cases same : id = push
    · simp [same, dlMaxAttempts]
    · simpa only [Function.update_of_ne same] using counted.few id
  counted id after := by
    by_cases same : id = push
    · simp [same]
    · simpa only [Function.update_of_ne same] using others id same after
  reported r stage phase := by
    rw [finishing r stage phase]
    exact Function.update_self ..

/-- A failed attempt that is not the last is counted. -/
theorem counted_failed {outcome : Obtained} (before : w.agent.phase = .ready response)
    (failed : failing outcome = true) (begins : w.agent.begins (.prepare outcome) = none) :
    w.counted (.prepare outcome) =
      Function.update w.misses response.id (w.misses response.id + 1) := by
  unfold World.counted
  rw [begins, before]
  dsimp only
  rw [if_pos failed]

/-- A failed attempt is counted, and the last one is reported. -/
theorem Counted.attempt (counted : Counted w) (before : w.agent.phase = .ready response)
    (unmarked : w.agent.verify response.id = none) {outcome : Obtained}
    (failed : failing outcome = true)
    (begins : w.agent.begins (.prepare outcome) =
      if (w.agent.dlAttempt response.id).getD 0 + 1 < dlMaxAttempts then none
      else some (response.id, .failed))
    (msg : String) (file : Option Installer) :
    Counted { w with
      agent := w.agent.attemptFailed response msg
      file := file
      misses := w.counted (.prepare outcome) } := by
  have own := counted.counted response.id (unlaunched_of_ready before unmarked)
  unfold State.attemptFailed
  dsimp only
  by_cases more : (w.agent.dlAttempt response.id).getD 0 + 1 < dlMaxAttempts
  · rw [if_pos more] at begins ⊢
    rw [counted_failed before failed begins]
    refine ⟨?_, ?_, nofun⟩
    · intro id
      by_cases same : id = response.id
      · subst same
        simp only [Function.update_self]
        omega
      · simpa only [Function.update_of_ne same] using counted.few id
    · intro id after
      by_cases same : id = response.id
      · subst same
        simp only [Function.update_self, Option.getD_some]
        omega
      · simpa only [Function.update_of_ne same] using
          counted.counted id (unlaunched_of_ready before after.unmarked)
  · rw [if_neg more] at begins ⊢
    rw [counted_report begins]
    apply counted.report
    · intro r stage phase
      cases phase
      rfl
    · intro id same after
      simpa only [State.finishReport, Function.update_of_ne same] using
        counted.counted id (unlaunched_of_ready before after.unmarked)

/-- An attempt that does not fail is not counted. -/
theorem counted_prepare {outcome : Obtained} (before : w.agent.phase = .ready response)
    (fine : failing outcome = false) : w.counted (.prepare outcome) = w.misses := by
  have begins : w.agent.begins (.prepare outcome) = none := by
    cases outcome with
    | downloadFailed error => cases fine
    | shaMismatch error => cases fine
    | _ => rfl
  unfold World.counted
  rw [begins, before]
  dsimp only
  rw [if_neg (by simp [fine])]

theorem Counted.obtained (counted : Counted w) (before : w.agent.phase = .ready response)
    (unmarked : w.agent.verify response.id = none) (outcome : Obtained) (file : Option Installer) :
    Counted { w with
      agent := w.agent.obtained response outcome
      file := file
      misses := w.counted (.prepare outcome) } := by
  have fine : ∀ {agent : State}, failing outcome = false → agent.verify = w.agent.verify →
      (∀ id, Unlaunched agent id → agent.dlAttempt id = w.agent.dlAttempt id) →
      (∀ r stage, agent.phase ≠ .finishing r stage) →
      Counted { w with agent := agent, file := file, misses := w.counted (.prepare outcome) } := by
    intro agent silent verify attempts finishing
    rw [counted_prepare before silent]
    refine ⟨counted.few, ?_, fun r stage phase => absurd phase (finishing r stage)⟩
    intro id after
    show w.misses id ≤ (agent.dlAttempt id).getD 0
    rw [attempts id after]
    exact counted.counted id (unlaunched_of_ready before (verify ▸ after.unmarked))
  cases outcome with
  | noDirectory => exact fine rfl rfl (fun _ _ => rfl) nofun
  | reused => exact fine rfl rfl (fun _ _ => rfl) nofun
  | verified =>
    refine fine rfl rfl ?_ nofun
    intro id after
    have apart : response.id ≠ id := after.launching response rfl
    exact Function.update_of_ne (Ne.symm apart) _ _
  | downloadFailed error =>
    apply counted.attempt before unmarked rfl
    simp only [State.begins, before]
  | shaMismatch error =>
    apply counted.attempt before unmarked rfl
    simp only [State.begins, before]

theorem Counted.step (counted : Counted w) (sound : Sound platform w) (whole : Whole w e)
    (move : Move platform hash delayHash w e t) : Counted t := by
  cases move with
  | agent a agent event plain done after =>
    subst event
    subst after
    exact counted.agent plain whole done
  | obtain io other outcome file event before got after =>
    subst after
    exact counted.obtained before (sound.ready other before).2 outcome file
  | launch other before after =>
    subst after
    refine ⟨counted.few, ?_, nofun⟩
    intro id after
    apply counted.counted id
    refine ⟨after.unmarked, ?_, ?_⟩
    · intro response phase
      obtain rfl := Phase.launching.inj (before.symm.trans phase)
      exact after.launched _ rfl
    · intro response phase
      rw [before] at phase
      cases phase
  | refuse other error before after =>
    subst after
    apply counted.report
    · intro r stage phase
      cases phase
      rfl
    · intro id same after
      apply counted.counted id
      refine ⟨after.unmarked, ?_, ?_⟩
      · intro response phase
        obtain rfl := Phase.launching.inj (before.symm.trans phase)
        exact Ne.symm same
      · intro response phase
        rw [before] at phase
        cases phase
  | replace file event free after =>
    subst after
    exact ⟨counted.few, counted.counted, counted.reported⟩

end Runs

end ChainRemote.Link.PushInstall
