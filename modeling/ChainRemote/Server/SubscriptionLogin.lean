import ChainRemote.Server.SubscriptionDisplays

/-!
# When a connection is served

Once a connection is authorized it takes the options of its login request and, if it is one of the
desktop, all services that it has permissions for, with the primary display among them. A later
login request makes nothing else of it.
-/

namespace ChainRemote.Server.Subscriptions

variable {α : Type}

section Handlers

variable {env : Env} {id : Int} {touched : ServiceName → Prop} {h after : Handling α} {c : Conn}

theorem addCameraConnection_changes {services : List (Service α)} (tidy : ∀ v ∈ services, Tidy v) :
    Changes services (services.map fun v =>
      if v.name = .video .camera 0 then v.onSubscribe id else v) fun name j =>
      if name = .video .camera 0 ∧ j = id then some true else none := by
  refine changes_map tidy _ _ fun v neat => ?_
  by_cases named : v.name = .video .camera 0
  · rw [if_pos named]
    refine ⟨Service.tidy_onSubscribe neat id, rfl, fun j => ?_⟩
    rw [Service.isSubed_onSubscribe]
    by_cases same : j = id
    · rw [if_pos ⟨named, same⟩, decide_eq_true same, Bool.true_or, Option.getD_some]
    · rw [if_neg fun both => same both.2, decide_eq_false same, Bool.false_or, Option.getD_none]
  · rw [if_neg named]
    exact ⟨neat, rfl, fun j => by rw [if_neg fun both => named both.1, Option.getD_none]⟩

theorem trySubCameraDisplays_handled (good : Good env id h) (authorized : h.conn.authorized = true)
    (camera : Bool) :
    Handled env id (·.isVideo = true) h (trySubCameraDisplays id camera h) := by
  unfold trySubCameraDisplays addCameraConnection
  split
  · have added : Handled env id (·.isVideo = true) h _ := addVideo_handled good .camera 0
    refine added.trans ((addCameraConnection_changes added.good.proper.tidy).displays_handled
      added.good authorized fun name j apart => if_neg ?_)
    rintro ⟨rfl, rfl⟩
    rcases apart with plain | other
    · cases plain
    · exact other rfl
  · exact ⟨good, Frame.refl _⟩

section NoPerms

variable (env : Env) (c : Conn)

theorem audio_noperms : .audio ∈ c.noperms env ↔ c.audioEnabled = false := by
  simp [Conn.noperms, List.mem_ite_nil_right]

theorem clipboard_noperms :
    .clipboard ∈ c.noperms env ↔ c.canSubClipboardService env = false := by
  simp [Conn.noperms, List.mem_ite_nil_right]

theorem fileClipboard_noperms : .fileClipboard ∈ c.noperms env ↔
    env.unixFileCopyPaste = true ∧ c.canSubFileClipboardService env = false := by
  simp [Conn.noperms, List.mem_ite_nil_right]

theorem cursor_noperms :
    .cursor ∈ c.noperms env ↔ c.peerKeyboardEnabled = false ∧ c.showRemoteCursor = false := by
  simp [Conn.noperms, List.mem_ite_nil_right]

theorem pos_noperms : .pos ∈ c.noperms env ↔ c.showRemoteCursor = false := by
  simp [Conn.noperms, List.mem_ite_nil_right]

theorem windowFocus_noperms : .windowFocus ∈ c.noperms env ↔ c.followRemoteWindow = false := by
  simp [Conn.noperms, List.mem_ite_nil_right]

end NoPerms

/-- `add_connection` gives a connection the plain services it has permissions for. -/
theorem served_iff (good : Good env id h) (name : ServiceName) (plain : name.isVideo = false) :
    Subscribed (addConnection env.primary (addMissing h.services (.video .monitor env.primary)) id
        (h.conn.noperms env)) name id ↔
      name ∉ h.conn.noperms env ∧ name ∈ env.names ∨
        name ∈ h.conn.noperms env ∧ Subscribed h.services name id := by
  have added : Handled env id (fun _ => True) h _ := addVideo_handled good .monitor env.primary
  have changes := addConnection_changes added.good.proper.tidy env.primary id (h.conn.noperms env)
  refine (changes.subscribed name id).trans ?_
  by_cases refused : name ∈ h.conn.noperms env
  · rw [if_neg fun all => all.2.1 refused, Option.elim_none, subscribed_addMissing]
    exact ⟨fun sub => .inr ⟨refused, sub⟩, fun either => (either.resolve_left (·.1 refused)).2⟩
  · rw [if_pos ⟨fun video => absurd (plain.symm.trans video) Bool.false_ne_true, refused, rfl⟩,
      Option.elim_some, added.good.proper.offered name plain]
    exact ⟨fun both => .inl ⟨refused, both.2⟩,
      fun either => ⟨rfl, (either.resolve_right fun both => refused both.1).2⟩⟩

/-- What `noperms` lets through is what the rules ask for. -/
theorem Rule.served {p : Prop} {name : ServiceName} (rule : Rule env c p name)
    (plain : name.isVideo = false) (authorized : c.authorized = true)
    (remote : c.connType = some .remote) :
    Rule env { c with servicesSubed := true }
      (name ∉ c.noperms env ∧ name ∈ env.names ∨ name ∈ c.noperms env ∧ p) name := by
  cases name with
  | video source display => cases plain
  | audio =>
    rw [audio_noperms, Bool.not_eq_false]
    refine ⟨?_, fun camera => ?_, fun _ enabled => .inl ⟨enabled, audio_mem env⟩⟩
    · rintro (⟨enabled, -⟩ | ⟨-, before⟩)
      · exact ⟨authorized, enabled⟩
      · exact rule.1 before
    · have other : c.connType = some .viewCamera := camera
      rw [remote] at other
      cases other
  | clipboard =>
    rw [clipboard_noperms, Bool.not_eq_false]
    refine ⟨fun kept => ?_, fun _ can => .inl ⟨can, clipboard_mem env⟩⟩
    rintro (⟨can, -⟩ | ⟨-, before⟩)
    · exact can
    · exact rule.1 kept before
  | fileClipboard =>
    rw [fileClipboard_noperms, fileClipboard_mem]
    rintro (⟨allowed, unix⟩ | ⟨-, before⟩)
    · have can : c.canSubFileClipboardService env = true := by
        by_contra not
        exact allowed ⟨unix, Bool.eq_false_iff.mpr not⟩
      obtain ⟨both, way⟩ := Bool.and_eq_true_iff.mp can
      exact ⟨unix, (Bool.and_eq_true_iff.mp both).2, by simpa using way⟩
    · exact rule before
  | cursor =>
    rw [cursor_noperms, not_and_or, Bool.not_eq_false, Bool.not_eq_false]
    refine ⟨fun kept => ?_, fun _ there wanted => .inl ⟨wanted, there⟩⟩
    rintro (⟨keyboard | shown, -⟩ | ⟨-, before⟩)
    · exact .inl (Bool.and_eq_true_iff.mp keyboard).1
    · exact .inr shown
    · exact rule.1 kept before
  | pos =>
    rw [pos_noperms, Bool.not_eq_false]
    refine ⟨?_, fun _ there shown => .inl ⟨shown, there⟩⟩
    rintro (⟨shown, -⟩ | ⟨-, before⟩)
    · exact shown
    · exact rule.1 before
  | windowFocus =>
    rw [windowFocus_noperms, Bool.not_eq_false]
    refine ⟨?_, fun _ there follows _ => .inl ⟨follows, there⟩⟩
    rintro (⟨follows, -⟩ | ⟨-, before⟩)
    · exact follows
    · exact rule.1 before
  | display =>
    have allowed : .display ∉ c.noperms env := by simp [Conn.noperms, List.mem_ite_nil_right]
    exact ⟨fun _ => rfl, fun _ => .inl ⟨allowed, display_mem env⟩⟩
  | printer =>
    have allowed : .printer ∉ c.noperms env := by simp [Conn.noperms, List.mem_ite_nil_right]
    refine ⟨?_, fun both => .inl ⟨allowed, both.2⟩⟩
    rintro (⟨-, there⟩ | ⟨refused, -⟩)
    · exact ⟨rfl, there⟩
    · exact absurd refused allowed

theorem trySubMonitorServices_handled (good : Good env id h)
    (authorized : h.conn.authorized = true) :
    Handled env id (fun _ => True) h (trySubMonitorServices env id h) := by
  obtain ⟨-, typed, requested, calling⟩ := good.shape
  unfold trySubMonitorServices
  split
  · rename_i due
    have remote := (Bool.and_eq_true_iff.mp due).1
    have added : Handled env id (fun _ => True) h _ := addVideo_handled good .monitor env.primary
    have changes := addConnection_changes added.good.proper.tidy env.primary id
      (h.conn.noperms env)
    have shape : Shape { h.conn with servicesSubed := true } :=
      ⟨fun _ => ⟨authorized, remote⟩, typed, requested, calling⟩
    refine ⟨⟨added.good.proper.changes changes, shape, fun name _ => ?_⟩,
      added.frame.trans ⟨fun name j apart => ?_, fun name => (changes.offered name).mpr⟩⟩
    · by_cases plain : name.isVideo = false
      · have rule := good.ruled name List.not_mem_nil
        exact (rule.served plain authorized (shape.remote rfl)).congr (served_iff good name plain)
      · cases name with
        | video source display => exact fun _ => authorized
        | _ => exact absurd rfl plain
    · have other : j ≠ id := fun same => apart same trivial
      rw [changes.subscribed, if_neg fun all => other all.2.2, Option.elim_none]
  · exact ⟨good, Frame.refl _⟩

/-- With the services comes the primary display. -/
theorem trySubMonitorServices_shown (good : Good env id h)
    (due : (h.conn.isRemote && !h.conn.servicesSubed) = true) :
    shown (trySubMonitorServices env id h).services id =
      insert (.monitor, env.primary) (shown h.services id) := by
  have added : Handled env id (fun _ => True) h _ := addVideo_handled good .monitor env.primary
  have changes := addConnection_changes added.good.proper.tidy env.primary id (h.conn.noperms env)
  unfold trySubMonitorServices
  rw [if_pos due]
  ext ⟨source, display⟩
  refine (changes.subscribed _ id).trans ?_
  have allowed : .video source display ∉ h.conn.noperms env := by
    simp [Conn.noperms, List.mem_ite_nil_right]
  by_cases same : (source, display) = (.monitor, env.primary)
  · obtain ⟨rfl, rfl⟩ := Prod.mk.inj same
    rw [if_pos ⟨fun _ => rfl, allowed, rfl⟩, Option.elim_some]
    exact ⟨fun _ => Set.mem_insert _ _, fun _ => ⟨rfl, (offered_addMissing _ _).mpr (.inl rfl)⟩⟩
  · have other : ¬((ServiceName.video source display).isVideo = true →
        ServiceName.video source display = .video .monitor env.primary) := by
      intro is
      obtain ⟨rfl, rfl⟩ := ServiceName.video.inj (is rfl)
      exact same rfl
    rw [if_neg fun all => other all.1, Option.elim_none]
    refine (subscribed_addMissing _ _ id).trans ?_
    exact ⟨.inr, fun either => either.resolve_left same⟩

theorem selectedSid_handled (good : Good env id h) (authorized : h.conn.authorized = true)
    (camera : Bool) : Handled env id (fun _ => True) h (selectedSid env id camera h) := by
  unfold selectedSid
  split
  · exact ⟨good, Frame.refl _⟩
  · split
    · exact (trySubCameraDisplays_handled good authorized camera).wider fun _ _ => trivial
    · split
      · exact trySubMonitorServices_handled good authorized
      · exact ⟨good, Frame.refl _⟩

/-- Who is not authorized has no audio, is shown nothing and is not served. -/
theorem authorize_handled (good : Good env id h) (not : h.conn.authorized = false) :
    Handled env id touched h { h with conn := h.conn.authorize } := by
  obtain ⟨subed, typed, requested, calling⟩ := good.shape
  have unserved : h.conn.servicesSubed = false :=
    Bool.eq_false_iff.mpr fun served => Bool.false_ne_true (not.symm.trans (subed served).1)
  have silent : h.conn.voiceCalling = false :=
    Bool.eq_false_iff.mpr fun calls => Bool.false_ne_true (not.symm.trans (calling calls))
  have keeps : h.conn.keyboardTaken = false := by
    unfold Conn.keyboardTaken
    rw [not]
    rfl
  have shape : Shape h.conn.authorize :=
    ⟨fun served => absurd (unserved.symm.trans served) Bool.false_ne_true, rfl,
      fun _ => rfl, fun _ => rfl⟩
  have never {p : Prop} : h.conn.authorize.servicesSubed = true → p :=
    fun served => absurd (unserved.symm.trans served) Bool.false_ne_true
  refine good.conn _ shape fun name p rule => ?_
  cases name with
  | audio =>
    have nobody : ¬p := fun sub => Bool.false_ne_true (not.symm.trans (rule.1 sub).1)
    refine ⟨fun sub => absurd sub nobody, fun _ => ?_, never⟩
    have still : h.conn.authorize.voiceCalling = false := silent
    rw [still]
    exact ⟨fun sub => absurd sub nobody, fun both => by cases both.2⟩
  | clipboard => exact ⟨fun _ => rule.1 keeps, never⟩
  | cursor => exact ⟨fun _ => rule.1 keeps, never⟩
  | pos => exact ⟨rule.1, never⟩
  | windowFocus => exact ⟨rule.1, never⟩
  | video source display => exact fun _ => rfl
  | _ => exact rule

/-- The keyboard of a connection that has none to give. -/
theorem takeKeyboard_handled (good : Good env id h) (taken : h.conn.keyboardTaken = true) :
    Handled env id touched h { h with conn := { h.conn with keyboard := false } } := by
  obtain ⟨subed, typed, requested, calling⟩ := good.shape
  have never {p : Prop} (served : h.conn.servicesSubed = true) : p := by
    have remote := (subed served).2
    simp only [Conn.isRemote, Bool.and_eq_true, Bool.not_eq_true'] at remote
    simp [Conn.keyboardTaken, remote] at taken
  have free {p : Prop} (kept : h.conn.keyboardTaken = false) : p :=
    absurd (kept.symm.trans taken) Bool.false_ne_true
  refine good.conn _ ⟨subed, typed, requested, calling⟩ fun name p rule => ?_
  cases name with
  | clipboard => exact ⟨free, never⟩
  | cursor => exact ⟨free, never⟩
  | _ => exact rule

theorem takeOptionsInLogin_handled (good : Good env id h) (authorized : h.conn.authorized = true) :
    Handled env id Plain h (h.takeOptionsInLogin env id) ∧
      SameKind h.conn (h.takeOptionsInLogin env id).conn := by
  obtain ⟨subed, typed, requested, calling⟩ := good.shape
  unfold Handling.takeOptionsInLogin
  cases h.conn.optionsInLogin with
  | none => exact ⟨⟨good, Frame.refl _⟩, SameKind.refl _⟩
  | some o =>
    have cleared : Handled env id Plain h
        { h with conn := { h.conn with optionsInLogin := none } } :=
      good.conn _ ⟨subed, typed, requested, calling⟩ fun name p rule => by
        cases name <;> exact rule
    have same : SameKind h.conn { h.conn with optionsInLogin := none } :=
      ⟨rfl, rfl, rfl, rfl, rfl, rfl, rfl, rfl⟩
    exact ⟨cleared.trans (updateOptions_handled cleared.good authorized o),
      same.trans (updateOptions_sameKind o
        { h with conn := { h.conn with optionsInLogin := none } })⟩

/-- When a connection is authorized its options are taken; then it is served, shown the camera, or
left at that. -/
theorem sendLogonResponse_cases (good : Good env id h) (startup : Startup) :
    ∃ ready : Handling α, Handled env id Plain h ready ∧
      ready.conn.servicesSubed = h.conn.servicesSubed ∧ ready.conn.authorized = true ∧
      (sendLogonResponse env id startup h = ready ∨
        sendLogonResponse env id startup h = trySubMonitorServices env id ready ∨
        ready.conn.keyboardTaken = true ∧ ∃ viewed : Handling α,
          (viewed = ready ∨ viewed = trySubCameraDisplays id startup.primaryCameraExists ready) ∧
          sendLogonResponse env id startup h =
            { viewed with conn := { viewed.conn with keyboard := false } }) := by
  unfold sendLogonResponse
  cases already : h.conn.authorized with
  | true => exact ⟨h, ⟨good, Frame.refl _⟩, rfl, already, .inl rfl⟩
  | false =>
    have admitted : Handled env id Plain h { h with conn := h.conn.authorize } :=
      authorize_handled good already
    obtain ⟨optioned, kind⟩ := takeOptionsInLogin_handled admitted.good rfl
    have ready := admitted.trans optioned
    rw [if_neg Bool.false_ne_true]
    dsimp only at kind ready ⊢
    by_cases forwards : h.conn.authorize.portForwardSocket = true
    · rw [if_pos forwards]
      exact ⟨_, admitted, rfl, rfl, .inl rfl⟩
    rw [if_neg forwards]
    by_cases unsupported : (h.conn.authorize.isRemote && !startup.supported) = true
    · rw [if_pos unsupported]
      exact ⟨_, admitted, rfl, rfl, .inl rfl⟩
    rw [if_neg unsupported]
    generalize ({ h with conn := h.conn.authorize } : Handling α).takeOptionsInLogin env id = last
      at kind ready ⊢
    refine ⟨last, ready, kind.servicesSubed, kind.authorized, ?_⟩
    have taken (other : last.conn.fileTransfer = false)
        (limited : (last.conn.terminal || last.conn.viewCamera) = true) :
        last.conn.keyboardTaken = true := by
      have authorized : last.conn.authorized = true := kind.authorized
      have stays : last.conn.portForwardSocket = false :=
        kind.portForwardSocket.trans (Bool.eq_false_iff.mpr forwards)
      unfold Conn.keyboardTaken
      rw [authorized, stays, other, limited]
      rfl
    by_cases files : last.conn.fileTransfer = true
    · rw [if_pos files]
      exact .inl rfl
    rw [if_neg files]
    have other := Bool.eq_false_iff.mpr files
    by_cases terminal : last.conn.terminal = true
    · rw [if_pos terminal]
      exact .inr (.inr ⟨taken other (Bool.or_eq_true_iff.mpr (.inl terminal)), last, .inl rfl, rfl⟩)
    rw [if_neg terminal]
    by_cases camera : last.conn.viewCamera = true
    · rw [if_pos camera]
      refine .inr (.inr ⟨taken other (Bool.or_eq_true_iff.mpr (.inr camera)), _, ?_, rfl⟩)
      split
      · exact .inl rfl
      · exact .inr rfl
    rw [if_neg camera]
    split
    · exact .inr (.inl rfl)
    · exact .inl rfl

theorem sendLogonResponse_handled (good : Good env id h) (startup : Startup) :
    Handled env id (fun _ => True) h (sendLogonResponse env id startup h) := by
  obtain ⟨ready, plain, -, authorized, left | served | ⟨taken, viewed, shows, after⟩⟩ :=
    sendLogonResponse_cases good startup
  · rw [left]
    exact plain.wider fun _ _ => trivial
  · rw [served]
    exact (plain.wider fun _ _ => trivial).trans
      (trySubMonitorServices_handled plain.good authorized)
  · rw [after]
    rcases shows with rfl | rfl
    · exact (plain.wider fun _ _ => trivial).trans (takeKeyboard_handled plain.good taken)
    · have camera : Handled env id (fun _ => True) h _ := (plain.wider fun _ _ => trivial).trans
        ((trySubCameraDisplays_handled plain.good authorized startup.primaryCameraExists).wider
          fun _ _ => trivial)
      exact camera.trans (takeKeyboard_handled camera.good taken)

/-- A login request may make another kind of a connection only before it is authorized. -/
theorem loginRequest_eq (kind : AuthConnType) (option : Option OptionMessage) (multiUi : Bool)
    (c : Conn) : ∃ fileTransfer viewCamera terminal,
      (c.authorized = true → fileTransfer = c.fileTransfer ∧ viewCamera = c.viewCamera ∧
        terminal = c.terminal) ∧
      loginRequest kind option multiUi c = { c with
        lastKind := kind
        multiUi := multiUi
        optionsInLogin := option.or c.optionsInLogin
        fileTransfer := fileTransfer
        viewCamera := viewCamera
        terminal := terminal } := by
  unfold loginRequest
  dsimp only
  by_cases authorized : c.authorized = true
  · rw [if_pos authorized]
    exact ⟨c.fileTransfer, c.viewCamera, c.terminal, fun _ => ⟨rfl, rfl, rfl⟩, rfl⟩
  · rw [if_neg authorized]
    cases kind with
    | fileTransfer =>
      exact ⟨true, c.viewCamera, c.terminal, fun yes => absurd yes authorized, rfl⟩
    | viewCamera =>
      exact ⟨c.fileTransfer, true, c.terminal, fun yes => absurd yes authorized, rfl⟩
    | terminal =>
      exact ⟨c.fileTransfer, c.viewCamera, true, fun yes => absurd yes authorized, rfl⟩
    | portForward =>
      exact ⟨c.fileTransfer, c.viewCamera, c.terminal, fun yes => absurd yes authorized, rfl⟩
    | remote =>
      exact ⟨c.fileTransfer, c.viewCamera, c.terminal, fun yes => absurd yes authorized, rfl⟩

theorem loginRequest_handled (good : Good env id h) (kind : AuthConnType)
    (option : Option OptionMessage) (multiUi : Bool) :
    Handled env id touched h { h with conn := loginRequest kind option multiUi h.conn } := by
  obtain ⟨subed, typed, requested, calling⟩ := good.shape
  obtain ⟨fileTransfer, viewCamera, terminal, same, after⟩ :=
    loginRequest_eq kind option multiUi h.conn
  rw [after]
  by_cases authorized : h.conn.authorized = true
  · obtain ⟨rfl, rfl, rfl⟩ := same authorized
    refine good.conn _ ⟨subed, typed, requested, calling⟩ fun name p rule => ?_
    cases name <;> exact rule
  · have unserved {p : Prop} (served : h.conn.servicesSubed = true) : p :=
      absurd (subed served).1 authorized
    have keeps : h.conn.keyboardTaken = false := by
      unfold Conn.keyboardTaken
      rw [Bool.eq_false_iff.mpr authorized]
      rfl
    refine good.conn _ ⟨unserved, typed.trans ((if_neg authorized).trans (if_neg authorized).symm),
      requested, calling⟩ fun name p rule => ?_
    cases name with
    | clipboard => exact ⟨fun _ => rule.1 keeps, unserved⟩
    | cursor => exact ⟨fun _ => rule.1 keeps, unserved⟩
    | _ => exact rule

/-! ### Who is served -/

/-- A connection that is served stays so, and with the services comes the primary display. -/
structure Serves (env : Env) (id : Int) (h after : Handling α) : Prop where
  stays : h.conn.servicesSubed = true → after.conn.servicesSubed = true
  begins : h.conn.servicesSubed = false → after.conn.servicesSubed = true →
    shown after.services id = insert (.monitor, env.primary) (shown h.services id) ∧
      Offered after.services (.video .monitor env.primary)

theorem Serves.of_eq (same : after.conn.servicesSubed = h.conn.servicesSubed) :
    Serves env id h after :=
  ⟨fun served => same.trans served,
    fun unserved served => absurd ((same.trans unserved).symm.trans served) Bool.false_ne_true⟩

theorem switchPermission_servicesSubed (h : Handling α) (name : Permission) (enabled : Bool) :
    (switchPermission env id h name enabled).conn.servicesSubed = h.conn.servicesSubed := by
  cases name with
  | keyboard =>
    change ((Handling.subClipboard env id _).subFileClipboard env id).conn.servicesSubed = _
    rw [subFileClipboard_conn]
    rfl
  | audio =>
    unfold switchPermission
    dsimp only
    split
    · rw [subAudio_conn]
    · rfl
  | file =>
    unfold switchPermission
    dsimp only
    rw [subFileClipboard_conn]
  | _ => rfl

theorem closeVoiceCall_servicesSubed (h : Handling α) :
    (closeVoiceCall id h).conn.servicesSubed = h.conn.servicesSubed := by
  unfold closeVoiceCall
  dsimp only
  split
  · rfl
  · rfl

theorem handleVoiceCall_servicesSubed (accepted : Bool) (h : Handling α) :
    (handleVoiceCall id accepted h).conn.servicesSubed = h.conn.servicesSubed := by
  unfold handleVoiceCall
  dsimp only
  split
  · split
    · rfl
    · rfl
  · rfl

theorem handleSwitchDisplay_servicesSubed (display : Nat) (h : Handling α) :
    (handleSwitchDisplay env id display h).conn.servicesSubed = h.conn.servicesSubed := by
  unfold handleSwitchDisplay switchDisplayTo
  split
  · dsimp only
    split
    · rfl
    · rfl
  · rfl

theorem captureDisplays_servicesSubed (add sub set : List Nat) (h : Handling α) :
    (Handling.captureDisplays id add sub set h).conn.servicesSubed = h.conn.servicesSubed := by
  unfold Handling.captureDisplays
  dsimp only
  split
  · rfl
  · rfl

theorem loginRequest_servicesSubed (kind : AuthConnType) (option : Option OptionMessage)
    (multiUi : Bool) (c : Conn) :
    (loginRequest kind option multiUi c).servicesSubed = c.servicesSubed := by
  obtain ⟨fileTransfer, viewCamera, terminal, -, after⟩ := loginRequest_eq kind option multiUi c
  rw [after]

theorem trySubMonitorServices_serves (good : Good env id h) :
    Serves env id h (trySubMonitorServices env id h) := by
  by_cases due : (h.conn.isRemote && !h.conn.servicesSubed) = true
  · refine ⟨fun _ => ?_, fun _ _ => ⟨trySubMonitorServices_shown good due, ?_⟩⟩
    · unfold trySubMonitorServices
      rw [if_pos due]
    · have added : Handled env id (fun _ => True) h _ := addVideo_handled good .monitor env.primary
      have changes := addConnection_changes added.good.proper.tidy env.primary id
        (h.conn.noperms env)
      unfold trySubMonitorServices
      rw [if_pos due]
      exact (changes.offered _).mpr ((offered_addMissing _ _).mpr (.inl rfl))
  · unfold trySubMonitorServices
    rw [if_neg due]
    exact Serves.of_eq rfl

theorem selectedSid_serves (good : Good env id h) (camera : Bool) :
    Serves env id h (selectedSid env id camera h) := by
  unfold selectedSid
  split
  · exact Serves.of_eq rfl
  · split
    · exact Serves.of_eq rfl
    · split
      · exact trySubMonitorServices_serves good
      · exact Serves.of_eq rfl

theorem sendLogonResponse_serves (good : Good env id h) (startup : Startup) :
    Serves env id h (sendLogonResponse env id startup h) := by
  obtain ⟨ready, plain, same, -, left | served | ⟨taken, viewed, shows, after⟩⟩ :=
    sendLogonResponse_cases good startup
  · rw [left]
    exact Serves.of_eq same
  · rw [served]
    have serves := trySubMonitorServices_serves plain.good
    refine ⟨fun yes => serves.stays (same.trans yes), fun not yes => ?_⟩
    rw [← plain.frame.shown (fun _ plain => plain) id]
    exact serves.begins (same.trans not) yes
  · rw [after]
    rcases shows with rfl | rfl
    · exact Serves.of_eq same
    · exact Serves.of_eq same

end Handlers

end ChainRemote.Server.Subscriptions
