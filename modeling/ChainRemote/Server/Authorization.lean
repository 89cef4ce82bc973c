import ChainRemote.Server.Connection

/-!
# What an authorized connection was authorized by, and as whom

`Auth2fa` ends in the logon response without asking for a first factor, and every login
message overwrites the peer's identity and adds to the flags of its kind. The first part of
the module says when an authorized connection had a first factor, the second when its entry
and its identity are those of the login that was accepted.
-/

namespace ChainRemote.Server

open Lib Agent

variable {hash : Hash} {s t : State} {e : Event} {w : World}

section FirstFactor

/-- A login that is no file transfer meets the branch for file transfers: the flag is left
over from an earlier login, and the peer has a remote session. -/
def State.Stray (s : State) (w : World) (lr : LoginRequest) : Prop :=
  s.authorized = false ∧ s.fileTransfer = true ∧ lr.kind ≠ .fileTransfer ∧
    w.hasActiveRemoteSession lr.myId = true

instance (s : State) (w : World) (lr : LoginRequest) : Decidable (s.Stray w lr) :=
  inferInstanceAs (Decidable (_ ∧ _))

/-- No code passes before a first factor, and no login strays into the branch for file
transfers. -/
def FactorGuard (s : State) : Event → Prop
  | .message w (.auth2fa code) => s.passesAuth2fa w code = true → s.factors ≠ []
  | .message w (.loginRequest lr) => ¬ s.Stray w lr
  | _ => True

instance (s : State) (e : Event) : Decidable (FactorGuard s e) := by
  unfold FactorGuard
  split
  · infer_instance
  · infer_instance
  · exact isTrue trivial

/-- An authorized connection had a first factor. -/
def State.Backed (s : State) : Prop := s.authorized = true → s.factors ≠ []

theorem sendLogon_factors (s : State) (login : Option LoginRequest) :
    (s.sendLogonResponseAndKeepAlive hash w login).1.factors = s.factors := by
  unfold State.sendLogonResponseAndKeepAlive State.connectPortForwardIfNeeded
  split
  · rfl
  · split
    · rfl
    · split
      · rfl
      · rename_i connected
        split at connected
        · obtain rfl := Option.some.inj connected
          rfl
        · split at connected
          · obtain rfl := Option.some.inj connected
            rfl
          · cases connected

theorem tryStartCm_factors (lr : LoginRequest) (sent : State × Bool) :
    (tryStartCm lr sent).1.factors = sent.1.factors := by
  unfold tryStartCm
  dsimp only
  split
  · rfl
  · rfl

theorem backed_of_factors (present : s.factors ≠ []) : s.Backed := fun _ => present

/-- A branch of acceptance with a first factor. -/
theorem accept_backed (s : State) (lr : LoginRequest) {factors : List FirstFactor}
    (present : factors ++ s.factors ≠ []) : (s.accept hash w lr factors).1.Backed := by
  apply backed_of_factors
  unfold State.accept
  dsimp only
  split
  · rw [tryStartCm_factors, sendLogon_factors]
    exact present
  · exact present

/-- What the branches of a login come to: nothing, a card, or an acceptance, which has a first
factor unless a login strays into the branch for file transfers. -/
theorem decideLogin_cases (s : State) (w : World) (lr : LoginRequest) :
    (∃ alive, s.decideLogin hash w lr = (s, alive)) ∨
      s.decideLogin hash w lr = ({ s with shown := some lr }, true) ∨
      ∃ factors, s.decideLogin hash w lr = s.accept hash w lr factors ∧
        (factors = [] → s.fileTransfer = true ∧ lr.kind ≠ .fileTransfer ∧
          w.hasActiveRemoteSession lr.myId = true) := by
  have card : ∀ out, out = (if w.errMsg = "" then { s with shown := some lr } else s, true) →
      (∃ alive, out = (s, alive)) ∨ out = ({ s with shown := some lr }, true) := by
    rintro out rfl
    by_cases empty : w.errMsg = ""
    · exact .inr (by rw [if_pos empty])
    · exact .inl ⟨true, by rw [if_neg empty]⟩
  unfold State.decideLogin
  by_cases desktop : w.errMsg ≠ "" ∧ w.errMsg ≠ desktopSessionNotReady
  · rw [if_pos desktop]
    exact .inl ⟨true, rfl⟩
  rw [if_neg desktop]
  by_cases offline : (!w.addressed lr.username) = true
  · rw [if_pos offline]
    exact .inl ⟨false, rfl⟩
  rw [if_neg offline]
  by_cases file : (s.fileTransfer && w.hasActiveRemoteSession lr.myId) = true
  · rw [if_pos file]
    refine .inr (.inr ⟨_, rfl, ?_⟩)
    intro none
    have both := Bool.and_eq_true_iff.mp file
    refine ⟨both.1, ?_, both.2⟩
    intro kind
    rw [if_pos kind] at none
    cases none
  rw [if_neg file]
  by_cases grace : w.consumeRestartReconnectGrace lr.myId = true
  · rw [if_pos grace]
    exact .inr (.inr ⟨_, rfl, nofun⟩)
  rw [if_neg grace]
  by_cases scheduled : (isOpen w.now w.schedWindow).1 = true
  · rw [if_pos scheduled]
    exact .inr (.inr ⟨_, rfl, nofun⟩)
  rw [if_neg scheduled]
  by_cases click : w.approveMode = .click ∧ w.allowLogonScreenPassword = false ∨
      w.approveMode = .both ∧ w.hasValidPassword = false
  · rw [if_pos click]
    exact .inr (.inl rfl)
  rw [if_neg click]
  by_cases recent : w.isRecentSession hash lr false = true
  · rw [if_pos recent]
    exact .inr (.inr ⟨_, rfl, nofun⟩)
  rw [if_neg recent]
  by_cases empty : lr.password = []
  · rw [if_pos empty]
    exact (card _ rfl).imp_right .inl
  rw [if_neg empty]
  by_cases limited : (!w.checkFailure 0) = true
  · rw [if_pos limited]
    exact .inl ⟨true, rfl⟩
  rw [if_neg limited]
  by_cases valid : w.validatePassword hash lr w.allowLogonScreenPassword = true
  · rw [if_pos valid]
    exact .inr (.inr ⟨_, rfl, nofun⟩)
  · rw [if_neg valid]
    exact (card _ rfl).imp_right .inl

/-- A login on a connection without authorization that does not stray. -/
theorem decideLogin_backed {lr : LoginRequest} (fresh : s.authorized = false)
    (proper : s.fileTransfer = true → w.hasActiveRemoteSession lr.myId = true →
      lr.kind = .fileTransfer) :
    (s.decideLogin hash w lr).1.Backed := by
  have unauthorized : ∀ {u : State}, u.authorized = s.authorized → u.Backed := by
    intro u same authorized
    rw [same, fresh] at authorized
    cases authorized
  rcases @decideLogin_cases hash s w lr with ⟨alive, same⟩ | card | ⟨factors, same, stray⟩
  · rw [same]
    exact unauthorized rfl
  · rw [card]
    exact unauthorized rfl
  · rw [same]
    apply accept_backed
    intro none
    have strays := stray (List.append_eq_nil_iff.mp none).1
    exact strays.2.1 (proper strays.1 strays.2.2)

/-- The flags and the authorization after the kind of a login is admitted. -/
theorem admitKind_some {lr : LoginRequest} (admitted : s.admitKind w lr = some t) :
    t = { s with
      fileTransfer := s.fileTransfer || lr.kind == .fileTransfer
      viewCamera := s.viewCamera || lr.kind == .viewCamera
      terminal := s.terminal || lr.kind == .terminal } := by
  unfold State.admitKind at admitted
  have granted : ∀ {c : Bool} {u : State}, (if c then some u else none) = some t → t = u := by
    intro c u given
    cases c with
    | false => cases given
    | true => exact (Option.some.inj given).symm
  have unset : s = { s with
      fileTransfer := s.fileTransfer || false
      viewCamera := s.viewCamera || false
      terminal := s.terminal || false } := by
    simp only [Bool.or_false]
  cases kind : lr.kind with
  | fileTransfer =>
    rw [kind] at admitted
    rw [granted admitted]
    simp
  | viewCamera =>
    rw [kind] at admitted
    rw [granted admitted]
    simp
  | terminal =>
    rw [kind] at admitted
    rw [granted admitted]
    simp
  | portForward =>
    rw [kind] at admitted
    rw [granted admitted]
    exact unset
  | remote =>
    rw [kind] at admitted
    have given : (if !w.inPrivacyMode then some s else none) = some t := by
      rw [← admitted]
      cases w.inPrivacyMode <;> rfl
    rw [granted given]
    exact unset

theorem onLoginRequest_backed {lr : LoginRequest} (backed : s.Backed) (proper : ¬ s.Stray w lr) :
    (s.onLoginRequest hash w lr).1.Backed := by
  unfold State.onLoginRequest
  dsimp only
  split
  · exact backed
  · rename_i unauthorized
    have fresh : s.authorized = false := Bool.not_eq_true _ ▸ unauthorized
    split
    · exact backed
    · rename_i u admitted
      have after := admitKind_some admitted
      apply decideLogin_backed
      · rw [after]
        exact fresh
      · intro flag active
        by_contra other
        apply proper
        have unset : (lr.kind == .fileTransfer) = false := beq_eq_false_iff_ne.mpr other
        rw [after] at flag
        simp only [unset, Bool.or_false] at flag
        exact ⟨fresh, flag, other, active⟩

theorem continues_backed {alive forwards : Bool} (backed : s.Backed) :
    (s.continues alive forwards).Backed := by
  unfold State.continues
  split
  · exact backed
  · split
    · exact backed
    · exact backed

/-- Every admitted step keeps it. -/
theorem State.Backed.step (backed : s.Backed) (guard : FactorGuard s e)
    (next : step hash s e = some t) : t.Backed := by
  cases e with
  | message w m =>
    simp only [Server.step] at next
    split at next
    · obtain rfl := Option.some.inj next
      apply continues_backed
      cases m with
      | loginRequest lr => exact onLoginRequest_backed backed guard
      | auth2fa code =>
        unfold State.onMessage State.onAuth2fa
        dsimp only
        split
        · rename_i passes
          have present : s.factors ≠ [] := guard passes
          apply backed_of_factors
          rw [tryStartCm_factors, sendLogon_factors]
          exact present
        · exact backed
      | switchSidesResponse lr uuid =>
        unfold State.onMessage State.onSwitchSidesResponse
        dsimp only
        split
        · exact backed
        · split
          · apply backed_of_factors
            rw [tryStartCm_factors, sendLogon_factors]
            exact List.cons_ne_nil _ _
          · exact backed
      | closeReason => exact backed
      | restartRemoteDevice restart =>
        unfold State.onMessage
        dsimp only
        split
        · exact backed
        · exact backed
      | other => exact backed
    · cases next
  | authorize w =>
    simp only [Server.step] at next
    split at next
    · obtain rfl := Option.some.inj next
      apply continues_backed
      apply backed_of_factors
      rw [sendLogon_factors]
      exact List.cons_ne_nil _ _
    · cases next
  | close =>
    obtain rfl := Option.some.inj next
    exact backed

/-- In every run in which no code passes before a first factor, and no login strays into the
branch for file transfers, an authorized connection had a first factor. -/
theorem authorized_had_factor (hash : Hash) (s : State)
    (reached : (connection hash).Reaches FactorGuard s) (authorized : s.authorized = true) :
    s.factors ≠ [] := by
  have backed : s.Backed := by
    apply reached.invariant State.Backed
    · intro before started authorized
      rw [started.authorized] at authorized
      cases authorized
    · intro before e after backed guard next
      exact backed.step guard next
  exact backed authorized

/-- Hashes that leave a password as its characters. -/
def plainHash : Hash where
  plain password := password.toList.map Char.toNat
  answer h1 := h1
  decodeStorage _ := none

/-- A device without password, card and window rules of its own, at one moment; the password
is `secret` where passwords count. -/
def quiet : World where
  authedConns := []
  sessions _ := none
  restartGrace := ""
  now := 1000
  schedWindow := none
  switchSidesUuid _ := none
  approveMode := .password
  hasValidPassword := true
  allowLogonScreenPassword := false
  temporaryEnabled := true
  temporaryPassword := "secret"
  permanentEnabled := false
  localStorage := ""
  hardPassword := ""
  enableTrustedDevices := false
  trustedDevices := []
  permission _ := true
  terminalAdmitted := true
  inPrivacyMode := false
  errMsg := ""
  addressed _ := true
  checkFailure _ := true
  checkCurrent code := some (code == "123456")
  connects := true
  testDelayIdle := true

/-- A login of a peer, with the right password or a wrong one. -/
def loginOf (myId : String) (kind : AuthConnType) (password : String) : LoginRequest where
  username := "123456789"
  password := password.toList.map Char.toNat
  myId
  myName := "hq"
  myPlatform := "Windows"
  sessionId := 1
  hwid := ""
  kind

/-- A new connection to a device with a second factor. -/
def incoming : State where
  lr := ⟨"", [], "", "", "", 0, "", .remote⟩
  authorized := false
  require2fa := true
  fileTransfer := false
  viewCamera := false
  terminal := false
  portForwardSocket := false
  fromSwitch := false
  authedConn := none
  phase := .looping
  factors := []
  passed := none
  shown := none
  lastLogin := none
  accepted := none
  graced := []

theorem start_incoming : Start incoming :=
  ⟨rfl, rfl, rfl, rfl, rfl, rfl, rfl, rfl, rfl, rfl, rfl, rfl, rfl, rfl, rfl⟩

/-- The right password, then the right code. -/
def twoFactors : State :=
  (connection plainHash).play FactorGuard incoming
    [.message quiet (.loginRequest (loginOf "hq1" .remote "secret")),
     .message quiet (.auth2fa "123456")]

theorem twoFactors_had_factor :
    twoFactors.authorized = true ∧ twoFactors.factors = [.password] ∧ twoFactors.factors ≠ [] := by
  have reached : (connection plainHash).Reaches FactorGuard twoFactors :=
    ⟨incoming, start_incoming, Machine.runs_play _ _ _ _⟩
  have authorized : twoFactors.authorized = true := by decide +kernel
  exact ⟨authorized, by decide +kernel, authorized_had_factor _ _ reached authorized⟩

/-- A wrong password, then the right code. -/
def codeOnly : State :=
  (connection plainHash).play Machine.free incoming
    [.message quiet (.loginRequest (loginOf "hq1" .remote "guess")),
     .message quiet (.auth2fa "123456")]

/-- A code alone authorizes a connection. -/
theorem codeOnly_no_factor :
    (connection plainHash).Reaches Machine.free codeOnly ∧ codeOnly.authorized = true ∧
      codeOnly.factors = [] :=
  ⟨⟨incoming, start_incoming, Machine.runs_play _ _ _ _⟩, by decide +kernel, by decide +kernel⟩

end FirstFactor

section Identity

/-- The flags left by earlier logins outrank a kind. -/
def State.Outranks (s : State) : AuthConnType → Prop
  | .fileTransfer => False
  | .portForward | .viewCamera => s.fileTransfer = true
  | .terminal => s.fileTransfer = true ∨ s.viewCamera = true
  | .remote => s.fileTransfer = true ∨ s.viewCamera = true ∨ s.terminal = true

/-- The flags are those of a kind. -/
def State.Agrees (s : State) (kind : AuthConnType) : Prop :=
  ¬ s.Outranks kind ∧
    match kind with
    | .fileTransfer => s.fileTransfer = true
    | .viewCamera => s.viewCamera = true
    | .terminal => s.terminal = true
    | .portForward | .remote => True

/-- A login is still the one the connection stands for: the last admitted login request was of
its kind, and the stored one has its key and kind. -/
def State.Current (s : State) (login : LoginRequest) : Prop :=
  s.lastLogin.map LoginRequest.kind = some login.kind ∧ s.lr.key = login.key ∧
    s.lr.kind = login.kind

instance (s : State) (kind : AuthConnType) : Decidable (s.Outranks kind) := by
  unfold State.Outranks
  split <;> infer_instance

instance (s : State) (kind : AuthConnType) : Decidable (s.Agrees kind) := by
  unfold State.Agrees
  cases kind <;> infer_instance

instance (s : State) (login : LoginRequest) : Decidable (s.Current login) :=
  inferInstanceAs (Decidable (_ ∧ _))

/-- A login message on an authorized connection names the same session; before that, a login
request is not outranked by the flags of earlier ones, and an accepted side switch is of the
kind of the flags. -/
def State.Admits (s : State) (lr : LoginRequest) (before : Prop) : Prop :=
  if s.authorized then lr.key = s.lr.key else before

instance (s : State) (lr : LoginRequest) (before : Prop) [Decidable before] :
    Decidable (s.Admits lr before) := by
  unfold State.Admits
  infer_instance

/-- The steps of the second theorem. A code and a click count for the login that passed or was
shown, which must be current. -/
def IdentityGuard (s : State) : Event → Prop
  | .message _ (.loginRequest lr) => s.Admits lr (¬ s.Outranks lr.kind)
  | .message w (.switchSidesResponse (some lr) uuid) =>
    s.Admits lr (w.matchesUuid lr uuid = true → s.Agrees lr.kind)
  | .message w (.auth2fa code) =>
    s.authorized = true ∨ s.passesAuth2fa w code = false ∨ ∃ login ∈ s.passed, s.Current login
  | .authorize _ => s.authorized = true ∨ ∃ login ∈ s.shown, s.Current login
  | _ => True

instance (s : State) (e : Event) : Decidable (IdentityGuard s e) := by
  unfold IdentityGuard
  split <;> infer_instance

/-- The connection's entry and its identity are those of the accepted login, and so are the
ids it left for a reconnect. -/
def State.Identified (s : State) : Prop :=
  ∃ login, s.accepted = some login ∧
    s.authedConn = some { connType := login.kind, sessionKey := s.lr.key } ∧
    s.lr.key = login.key ∧ ∀ id ∈ s.graced, id = login.myId

/-- What every run in which identities stay keeps. -/
structure Fixed (s : State) : Prop where
  identified : s.authorized = true → s.Identified
  fresh : s.authorized = false → s.portForwardSocket = false ∧ s.graced = []
  flags : s.authorized = false → ∀ login, s.lastLogin = some login → s.Agrees login.kind

theorem fixed_start (started : Start s) : Fixed s where
  identified authorized := by
    rw [started.authorized] at authorized
    cases authorized
  fresh _ := ⟨started.portForwardSocket, started.graced⟩
  flags _ login last := by
    rw [started.lastLogin] at last
    cases last

/-- The type of a connection whose flags are those of a kind. -/
theorem connType_of_agrees {kind : AuthConnType} (agrees : s.Agrees kind)
    (socket : s.portForwardSocket = decide (kind = .portForward)) : s.connType = kind := by
  unfold State.connType
  cases kind with
  | fileTransfer => simp [agrees.2]
  | portForward =>
    have file : ¬ s.fileTransfer = true := agrees.1
    simp [file, socket]
  | viewCamera =>
    have file : ¬ s.fileTransfer = true := agrees.1
    simp [file, socket, agrees.2]
  | terminal =>
    have ⟨file, camera⟩ := not_or.mp agrees.1
    simp [file, camera, socket, agrees.2]
  | remote =>
    have ⟨file, rest⟩ := not_or.mp agrees.1
    have ⟨camera, terminal⟩ := not_or.mp rest
    simp [file, camera, terminal, socket]

/-- Admitting a kind that is not outranked sets the flags of that kind. -/
theorem agrees_of_admitKind {lr : LoginRequest} (outranked : ¬ s.Outranks lr.kind)
    (admitted : s.admitKind w lr = some t) : t.Agrees lr.kind := by
  rw [admitKind_some admitted]
  cases kind : lr.kind with
  | fileTransfer => simp [State.Agrees, State.Outranks]
  | portForward =>
    rw [kind] at outranked
    simpa [State.Agrees, State.Outranks] using outranked
  | viewCamera =>
    rw [kind] at outranked
    simpa [State.Agrees, State.Outranks] using outranked
  | terminal =>
    rw [kind] at outranked
    simpa [State.Agrees, State.Outranks] using outranked
  | remote =>
    rw [kind] at outranked
    simpa [State.Agrees, State.Outranks] using outranked

/-- The port forward of the stored login is connected where there is one. -/
theorem connect_some (unconnected : s.portForwardSocket = false)
    (connected : s.connectPortForwardIfNeeded w = some t) :
    t = { s with portForwardSocket := decide (s.lr.kind = .portForward) } := by
  unfold State.connectPortForwardIfNeeded at connected
  by_cases kind : s.lr.kind = .portForward
  · simp only [unconnected, kind, bne_self_eq_false, Bool.or_self, Bool.false_eq_true, if_false]
      at connected
    split at connected
    · obtain rfl := Option.some.inj connected
      simp [kind]
    · cases connected
  · have other : (s.lr.kind != .portForward) = true := bne_iff_ne.mpr kind
    rw [other, Bool.or_true, if_pos rfl] at connected
    obtain rfl := Option.some.inj connected
    have unset : s = { s with portForwardSocket := false } := by rw [← unconnected]
    rw [decide_eq_false kind]
    exact unset

/-- The logon response for a current login. -/
theorem Fixed.sendLogon (fixed : Fixed s) {login : Option LoginRequest}
    (current : s.authorized = false →
      ∃ l, login = some l ∧ s.Agrees l.kind ∧ s.lr.key = l.key ∧ s.lr.kind = l.kind) :
    Fixed (s.sendLogonResponseAndKeepAlive hash w login).1 := by
  unfold State.sendLogonResponseAndKeepAlive
  split
  · exact fixed
  · rename_i unauthorized
    have pending : s.authorized = false := Bool.not_eq_true _ ▸ unauthorized
    obtain ⟨l, rfl, agrees, key, kind⟩ := current pending
    obtain ⟨socket, graced⟩ := fixed.fresh pending
    split
    · exact fixed
    · cases connected : s.connectPortForwardIfNeeded w with
      | none => exact fixed
      | some u =>
        have same := connect_some socket connected
        have type : u.connType = l.kind := by
          apply connType_of_agrees
          · rw [same]
            exact agrees
          · rw [same, kind]
        refine ⟨fun _ => ⟨l, rfl, ?_, ?_, ?_⟩, nofun, nofun⟩
        · dsimp only
          rw [type]
        · rw [same]
          exact key
        · rw [same]
          dsimp only
          rw [graced]
          exact List.forall_mem_nil _

theorem Fixed.shown (fixed : Fixed s) (shown : Option LoginRequest) : Fixed { s with shown } :=
  ⟨fixed.identified, fixed.fresh, fixed.flags⟩

theorem Fixed.tryStartCm {sent : State × Bool} (fixed : Fixed sent.1) (lr : LoginRequest) :
    Fixed (tryStartCm lr sent).1 := by
  unfold Server.tryStartCm
  dsimp only
  split
  · exact fixed.shown _
  · exact fixed

/-- The flags are those of a current login. -/
theorem Fixed.agrees_of_current {login : LoginRequest} (fixed : Fixed s)
    (pending : s.authorized = false) (current : s.Current login) : s.Agrees login.kind := by
  obtain ⟨last, found, kind⟩ := Option.map_eq_some_iff.mp current.1
  rw [← kind]
  exact fixed.flags pending last found

/-- A branch of acceptance, for the login the flags are of. -/
theorem Fixed.accept {lr : LoginRequest} (fixed : Fixed s) (stored : s.lr = lr)
    (agrees : s.Agrees lr.kind) (factors : List FirstFactor) :
    Fixed (s.accept hash w lr factors).1 := by
  have noted : Fixed { s with factors := factors ++ s.factors, passed := some lr } :=
    ⟨fixed.identified, fixed.fresh, fixed.flags⟩
  unfold State.accept
  dsimp only
  split
  · have sent := @Fixed.sendLogon hash _ w noted (some lr) fun _ =>
      ⟨lr, rfl, agrees, by rw [stored], by rw [stored]⟩
    exact sent.tryStartCm lr
  · exact noted

/-- A login message is stored; on an authorized connection it names the same session. -/
theorem Fixed.handle {lr : LoginRequest} (fixed : Fixed s)
    (same : s.authorized = true → lr.key = s.lr.key) :
    Fixed (s.handleLoginRequestWithoutValidation w lr) := by
  refine ⟨?_, fixed.fresh, fixed.flags⟩
  intro authorized
  obtain ⟨login, accepted, entry, key, graced⟩ := fixed.identified authorized
  have kept := same authorized
  refine ⟨login, accepted, ?_, kept.trans key, graced⟩
  show s.authedConn = some { connType := login.kind, sessionKey := lr.key }
  rw [kept]
  exact entry

theorem key_of_admits {lr : LoginRequest} {before : Prop} (admits : s.Admits lr before)
    (authorized : s.authorized = true) : lr.key = s.lr.key := by
  unfold State.Admits at admits
  rw [if_pos authorized] at admits
  exact admits

theorem before_of_admits {lr : LoginRequest} {before : Prop} (admits : s.Admits lr before)
    (pending : s.authorized = false) : before := by
  unfold State.Admits at admits
  rw [pending, if_neg Bool.false_ne_true] at admits
  exact admits

theorem Fixed.onLoginRequest {lr : LoginRequest} (fixed : Fixed s)
    (admits : s.Admits lr (¬ s.Outranks lr.kind)) : Fixed (s.onLoginRequest hash w lr).1 := by
  have handled : Fixed (s.handleLoginRequestWithoutValidation w lr) :=
    fixed.handle (key_of_admits admits)
  unfold State.onLoginRequest
  dsimp only
  split
  · exact handled
  · rename_i unauthorized
    have pending : s.authorized = false := Bool.not_eq_true _ ▸ unauthorized
    split
    · exact handled
    · rename_i u admitted
      have outranked : ¬ (s.handleLoginRequestWithoutValidation w lr).Outranks lr.kind :=
        before_of_admits admits pending
      have agrees : u.Agrees lr.kind := agrees_of_admitKind outranked admitted
      have after := admitKind_some admitted
      have recorded : Fixed { u with lastLogin := some lr } := by
        refine ⟨?_, ?_, ?_⟩
        · intro authorized
          rw [after] at authorized
          cases pending.symm.trans authorized
        · intro _
          rw [after]
          exact fixed.fresh pending
        · intro _ login last
          obtain rfl := Option.some.inj last
          exact agrees
      have stored : u.lr = lr := by
        rw [after]
        rfl
      rcases @decideLogin_cases hash { u with lastLogin := some lr } w lr with
        ⟨alive, same⟩ | card | ⟨factors, same, -⟩
      · rw [same]
        exact recorded
      · rw [card]
        exact recorded.shown _
      · rw [same]
        exact recorded.accept stored agrees factors

theorem Fixed.onSwitchSidesResponse {lr : LoginRequest} {uuid : Option Nat} (fixed : Fixed s)
    (admits : s.Admits lr (w.matchesUuid lr uuid = true → s.Agrees lr.kind)) :
    Fixed (s.onSwitchSidesResponse hash w (some lr) uuid).1 := by
  have handled : Fixed (s.handleLoginRequestWithoutValidation w lr) :=
    fixed.handle (key_of_admits admits)
  unfold State.onSwitchSidesResponse
  dsimp only
  split
  · rename_i recorded
    have noted : Fixed { s.handleLoginRequestWithoutValidation w lr with
        fromSwitch := true
        factors := .switchSides :: (s.handleLoginRequestWithoutValidation w lr).factors
        passed := some lr } :=
      ⟨handled.identified, handled.fresh, handled.flags⟩
    have sent := @Fixed.sendLogon hash _ w noted (some lr) fun pending =>
      ⟨lr, rfl, before_of_admits admits pending recorded, rfl, rfl⟩
    exact sent.tryStartCm lr
  · exact handled

theorem Fixed.onAuth2fa {code : String} (fixed : Fixed s)
    (admits : s.authorized = true ∨ s.passesAuth2fa w code = false ∨
      ∃ login ∈ s.passed, s.Current login) :
    Fixed (s.onAuth2fa hash w code).1 := by
  unfold State.onAuth2fa
  split
  · rename_i passes
    have checked : Fixed { s with require2fa := false } :=
      ⟨fixed.identified, fixed.fresh, fixed.flags⟩
    have sent : Fixed ({ s with require2fa := false }.sendLogonResponseAndKeepAlive hash w
        s.passed).1 := by
      apply checked.sendLogon
      intro pending
      rcases admits with authorized | refused | ⟨login, passed, current⟩
      · cases pending.symm.trans authorized
      · cases passes.symm.trans refused
      · exact ⟨login, passed, fixed.agrees_of_current pending current, current.2⟩
    exact sent.tryStartCm s.lr
  · exact fixed

theorem Fixed.continues {alive forwards : Bool} (fixed : Fixed s) :
    Fixed (s.continues alive forwards) := by
  unfold State.continues
  split
  · exact ⟨fixed.identified, fixed.fresh, fixed.flags⟩
  · split
    · exact ⟨fixed.identified, fixed.fresh, fixed.flags⟩
    · exact fixed

/-- Every admitted step keeps it. -/
theorem Fixed.step (fixed : Fixed s) (guard : IdentityGuard s e) (next : step hash s e = some t) :
    Fixed t := by
  cases e with
  | message w m =>
    simp only [Server.step] at next
    split at next
    · obtain rfl := Option.some.inj next
      apply Fixed.continues
      cases m with
      | loginRequest lr => exact fixed.onLoginRequest guard
      | auth2fa code => exact fixed.onAuth2fa guard
      | switchSidesResponse lr uuid =>
        cases lr with
        | none => exact fixed
        | some lr => exact fixed.onSwitchSidesResponse guard
      | closeReason => exact fixed
      | restartRemoteDevice restart =>
        unfold State.onMessage
        dsimp only
        split
        · rename_i enabled
          simp only [Bool.and_eq_true] at enabled
          have authorized := enabled.1.1
          obtain ⟨login, accepted, entry, key, graced⟩ := fixed.identified authorized
          refine ⟨fun _ => ⟨login, accepted, entry, key, ?_⟩, ?_, fixed.flags⟩
          · intro id inside
            rcases List.mem_cons.mp inside with rfl | old
            · exact congrArg SessionKey.peerId key
            · exact graced id old
          · intro pending
            cases pending.symm.trans authorized
        · exact fixed
      | other => exact fixed
    · cases next
  | authorize w =>
    simp only [Server.step] at next
    split at next
    · obtain rfl := Option.some.inj next
      apply Fixed.continues
      have noted : Fixed { s with require2fa := false, factors := .accepted :: s.factors } :=
        ⟨fixed.identified, fixed.fresh, fixed.flags⟩
      apply noted.sendLogon
      intro pending
      rcases guard with authorized | ⟨login, shown, current⟩
      · cases pending.symm.trans authorized
      · exact ⟨login, shown, fixed.agrees_of_current pending current, current.2⟩
    · cases next
  | close =>
    obtain rfl := Option.some.inj next
    exact ⟨fixed.identified, fixed.fresh, fixed.flags⟩

/-- In every run in which login messages keep the identity of an authorized connection, and
before that a login request is not outranked by leftover flags, an accepted side switch is of
the kind of the flags, and a code or a click counts for a login that is current, an authorized
connection is identified by the accepted login. -/
theorem authorized_identified (hash : Hash) (s : State)
    (reached : (connection hash).Reaches IdentityGuard s) (authorized : s.authorized = true) :
    s.Identified := by
  have fixed : Fixed s := by
    apply reached.invariant Fixed fun _ started => fixed_start started
    intro before e after fixed guard next
    exact fixed.step guard next
  exact fixed.identified authorized

/-- A terminal login with a second factor, that leaves its id for a reconnect. -/
def terminalSession : State :=
  (connection plainHash).play IdentityGuard incoming
    [.message quiet (.loginRequest (loginOf "hq1" .terminal "secret")),
     .message quiet (.auth2fa "123456"), .message quiet (.restartRemoteDevice true)]

theorem terminalSession_identified :
    terminalSession.authorized = true ∧ terminalSession.graced = ["hq1"] ∧
      terminalSession.Identified := by
  have reached : (connection plainHash).Reaches IdentityGuard terminalSession :=
    ⟨incoming, start_incoming, Machine.runs_play _ _ _ _⟩
  have authorized : terminalSession.authorized = true := by decide +kernel
  exact ⟨authorized, by decide +kernel, authorized_identified _ _ reached authorized⟩

/-- A device without a second factor. -/
def incomingPlain : State := { incoming with require2fa := false }

theorem start_incomingPlain : Start incomingPlain :=
  ⟨rfl, rfl, rfl, rfl, rfl, rfl, rfl, rfl, rfl, rfl, rfl, rfl, rfl, rfl, rfl⟩

/-- A refused request for files, then an accepted one for remote control. -/
def leftoverFlag : State :=
  (connection plainHash).play Machine.free incomingPlain
    [.message quiet (.loginRequest (loginOf "hq1" .fileTransfer "guess")),
     .message quiet (.loginRequest (loginOf "hq1" .remote "secret"))]

/-- An accepted login, then another one of another peer, and a restart. -/
def renamed : State :=
  (connection plainHash).play Machine.free incomingPlain
    [.message quiet (.loginRequest (loginOf "hq1" .remote "secret")),
     .message quiet (.loginRequest (loginOf "other" .remote "guess")),
     .message quiet (.restartRemoteDevice true)]

/-- The accepted request for remote control is entered as a file transfer, and the id left
for a reconnect is one that was never accepted. -/
theorem leftoverFlag_renamed_not_identified :
    ((connection plainHash).Reaches Machine.free leftoverFlag ∧ leftoverFlag.authorized = true ∧
      ¬ leftoverFlag.Identified) ∧
    ((connection plainHash).Reaches Machine.free renamed ∧ renamed.authorized = true ∧
      renamed.graced = ["other"] ∧ ¬ renamed.Identified) := by
  have flagged : leftoverFlag.authorized = true ∧
      leftoverFlag.accepted = some (loginOf "hq1" .remote "secret") ∧
      leftoverFlag.authedConn = some ⟨.fileTransfer, ⟨"hq1", "hq", 1⟩⟩ := by
    decide +kernel
  have named : renamed.authorized = true ∧ renamed.graced = ["other"] ∧
      renamed.accepted = some (loginOf "hq1" .remote "secret") := by
    decide +kernel
  refine ⟨⟨⟨_, start_incomingPlain, Machine.runs_play _ _ _ _⟩, flagged.1, ?_⟩,
    ⟨_, start_incomingPlain, Machine.runs_play _ _ _ _⟩, named.1, named.2.1, ?_⟩
  · rintro ⟨login, accepted, entry, -, -⟩
    obtain rfl := Option.some.inj (flagged.2.1.symm.trans accepted)
    cases flagged.2.2.symm.trans entry
  · rintro ⟨login, accepted, -, -, graced⟩
    obtain rfl := Option.some.inj (named.2.2.symm.trans accepted)
    have own := graced "other" (named.2.1 ▸ List.mem_cons_self)
    revert own
    decide

end Identity

end ChainRemote.Server
