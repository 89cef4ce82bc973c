import ChainRemote.Lib.Machine
import ChainRemote.Lib.Rows
import ChainRemote.Panel.HeartbeatTokens

/-!
# Enrollment keys of downloaded installers

An installer carries the enrollment key of its company. The row of the company keeps the hash of the
key, which enrollments are checked against, and the key itself encrypted, so that a later download
carries the same key. A download that finds no encrypted key draws one and writes both columns; it
does not look again whether another download did so since it read the row. `hash` is
`hashHeartbeatToken` everywhere below.
-/

namespace ChainRemote.Panel.EnrollKeys

open Lib HeartbeatTokens

/-- `encryptSecret` and `decryptSecret` under one server secret; the first argument of `encrypt` is
the nonce that it draws, and `decrypt` has no result where it throws. -/
structure Cipher where
  encrypt : String → String → String
  decrypt : String → Option String
  decrypt_encrypt : ∀ nonce key, decrypt (encrypt nonce key) = some key
  encrypt_ne_empty : ∀ nonce key, encrypt nonce key ≠ ""

/-- A `tenants` row with both columns of the key. -/
structure Row extends Tenant where
  enrollSecretEnc : Option String
deriving DecidableEq, Repr

/-- 32 bytes in hexadecimal. -/
def isToken (text : String) : Bool :=
  text.toList.length == 64 && text.toList.all fun c => c.isDigit || ('a' ≤ c && c ≤ 'f')

/-- What `generateHeartbeatToken` draws. -/
structure Token where
  text : String
  drawn : isToken text = true

section Functions

variable (hash : String → String) (cipher : Cipher)

/-- `setEnrollSecretHash`. -/
def setEnrollSecretHash (tenantId : ℕ) (secretHash : String) (rows : List Row) : List Row :=
  updateWhere (fun row => row.id == tenantId)
    (fun row => { row with enrollSecretHash := some secretHash }) rows

/-- The write of `reissueEnrollKey`, with the key and the nonce that it draws. -/
def reissueEnrollKey (tenantId : ℕ) (key nonce : String) (rows : List Row) : List Row :=
  updateWhere (fun row => row.id == tenantId)
    (fun row => { row with
      enrollSecretHash := some (hash key)
      enrollSecretEnc := some (cipher.encrypt nonce key) }) rows

/-- The key of a row, if one is there and opens. -/
def Row.key (row : Row) : Option String :=
  row.enrollSecretEnc.bind fun enc => if enc = "" then none else cipher.decrypt enc

/-- The read of `getOrCreateEnrollKey`. -/
def storedKey (tenantId : ℕ) (rows : List Row) : Option String :=
  (rows.find? fun row => row.id == tenantId).bind (Row.key cipher)

/-- A table as the data layer leaves it: companies without a key, on which hashes were set and keys
were issued. -/
inductive Produced : List Row → Prop
  | created (rows : List Row) (ids : (rows.map fun row => row.id).Nodup)
      (slugs : (rows.map fun row => row.slug).Nodup)
      (keyless : ∀ row ∈ rows, row.enrollSecretHash = none ∧ row.enrollSecretEnc = none) :
      Produced rows
  | hashed {rows : List Row} (tenantId : ℕ) (secretHash : String) (before : Produced rows) :
      Produced (setEnrollSecretHash tenantId secretHash rows)
  | issued {rows : List Row} (tenantId : ℕ) (token : Token) (nonce : String)
      (before : Produced rows) :
      Produced (reissueEnrollKey hash cipher tenantId token.text nonce rows)

/-- Where a download is: not running, past the check that its company exists, or without a key after
it read the row. -/
inductive Phase
  | idle
  | arrived (tenantId : ℕ)
  | missed (tenantId : ℕ)
deriving DecidableEq, Repr

/-- The table, the downloads, and the keys that were returned to downloads of each company. -/
structure State where
  rows : List Row
  phases : ℕ → Phase
  returned : List (ℕ × String)

/-- A statement of a download. -/
inductive Event
  /-- `getTenant`; a company that is missing gets a 404. -/
  | arrive (download tenantId : ℕ)
  /-- The read of `getOrCreateEnrollKey`. -/
  | select (download : ℕ)
  /-- The write of `reissueEnrollKey`. -/
  | update (download : ℕ) (token : Token) (nonce : String)

/-- A download is in a phase from now on. -/
def State.enter (s : State) (download : ℕ) (phase : Phase) : State :=
  { s with phases := Function.update s.phases download phase }

/-- A download returns a key. -/
def State.answer (s : State) (download tenantId : ℕ) (key : String) : State :=
  { s.enter download .idle with returned := (tenantId, key) :: s.returned }

/-- One statement. -/
def step (s : State) : Event → Option State
  | .arrive download tenantId =>
    match s.phases download with
    | .idle =>
      if s.rows.any fun row => row.id == tenantId then some (s.enter download (.arrived tenantId))
      else some s
    | _ => none
  | .select download =>
    match s.phases download with
    | .arrived tenantId =>
      match storedKey cipher tenantId s.rows with
      | some key => some (s.answer download tenantId key)
      | none => some (s.enter download (.missed tenantId))
    | _ => none
  | .update download token nonce =>
    match s.phases download with
    | .missed tenantId =>
      some { s.answer download tenantId token.text with
        rows := reissueEnrollKey hash cipher tenantId token.text nonce s.rows }
    | _ => none

/-- Downloads of any companies, in any order of their statements. -/
def machine : Machine State Event where
  start s := Produced hash cipher s.rows ∧ s.phases = (fun _ => .idle) ∧ s.returned = []
  step := step hash cipher

/-- Enrollments with the key are accepted for the company. -/
def Accepted (s : State) (tenantId : ℕ) (key : String) : Prop :=
  ∃ row ∈ s.rows, row.id = tenantId ∧
    resolveTenantByEnroll hash row.slug key (s.rows.map Row.toTenant) = some tenantId

/-- A download arrives only for a company that is active and has a slug. It reads a key only where
the hash is that of the key, and it writes one only where the row still has none. -/
def Undisturbed (s : State) : Event → Prop
  | .arrive _ tenantId =>
    ∀ row ∈ s.rows, row.id = tenantId → row.isActive = true ∧ row.slug ≠ ""
  | .select download =>
    ∀ row ∈ s.rows, s.phases download = .arrived row.id →
      ∀ key ∈ row.key cipher, row.enrollSecretHash = some (hash key)
  | .update download _ _ =>
    ∀ row ∈ s.rows, s.phases download = .missed row.id → row.key cipher = none

end Functions

variable {hash : String → String} {cipher : Cipher}

/-- A drawn key is not empty. -/
theorem Token.ne_empty (token : Token) : token.text ≠ "" := by
  intro empty
  have drawn := token.drawn
  rw [empty] at drawn
  exact absurd drawn (by decide)

/-- The encrypted key of a row, if any, is a drawn key. -/
def Sealed (cipher : Cipher) (row : Row) : Prop :=
  ∀ enc ∈ row.enrollSecretEnc, ∃ nonce, ∃ token : Token, enc = cipher.encrypt nonce token.text

/-- A row with an encrypted key has it. -/
theorem key_encrypt {row : Row} {nonce key : String}
    (stored : row.enrollSecretEnc = some (cipher.encrypt nonce key)) :
    row.key cipher = some key := by
  rw [Row.key, stored, Option.bind_some, if_neg (cipher.encrypt_ne_empty nonce key),
    cipher.decrypt_encrypt]

/-- A key that opens is not empty. -/
theorem Sealed.key_ne_empty {row : Row} {key : String} (sealedRow : Sealed cipher row)
    (opened : row.key cipher = some key) : key ≠ "" := by
  cases stored : row.enrollSecretEnc with
  | none =>
    rw [Row.key, stored] at opened
    cases opened
  | some enc =>
    obtain ⟨nonce, token, rfl⟩ := sealedRow enc stored
    rw [key_encrypt stored] at opened
    exact Option.some.inj opened ▸ token.ne_empty

/-- The companies of a table, without their keys. -/
structure Table (cipher : Cipher) (rows : List Row) : Prop where
  ids : (rows.map fun row => row.id).Nodup
  slugs : (rows.map fun row => row.slug).Nodup
  sealedRows : ∀ row ∈ rows, Sealed cipher row

/-- An update of the columns of the key keeps the table. -/
theorem Table.update {rows : List Row} (table : Table cipher rows) {here : Row → Bool}
    {set : Row → Row} (ids : ∀ row, (set row).id = row.id)
    (slugs : ∀ row, (set row).slug = row.slug)
    (keeps : ∀ row, Sealed cipher row → Sealed cipher (set row)) :
    Table cipher (updateWhere here set rows) := by
  refine ⟨?_, ?_, ?_⟩
  · rw [map_updateWhere _ ids]
    exact table.ids
  · rw [map_updateWhere _ slugs]
    exact table.slugs
  · intro row member
    obtain ⟨old, there, -, rfl⟩ | ⟨there, -⟩ := mem_updateWhere.mp member
    · exact keeps old (table.sealedRows old there)
    · exact table.sealedRows row there

theorem Table.reissue {rows : List Row} (table : Table cipher rows) (tenantId : ℕ)
    (token : Token) (nonce : String) :
    Table cipher (reissueEnrollKey hash cipher tenantId token.text nonce rows) := by
  refine table.update (fun _ => rfl) (fun _ => rfl) fun row _ enc stored => ?_
  cases stored
  exact ⟨nonce, token, rfl⟩

/-- What the data layer leaves is a table. -/
theorem Produced.table {rows : List Row} (produced : Produced hash cipher rows) :
    Table cipher rows := by
  induction produced with
  | created rows ids slugs keyless =>
    refine ⟨ids, slugs, fun row member enc stored => ?_⟩
    rw [(keyless row member).2] at stored
    cases stored
  | hashed tenantId secretHash before ih =>
    exact ih.update (fun _ => rfl) (fun _ => rfl) fun _ keyed => keyed
  | issued tenantId token nonce before ih => exact ih.reissue tenantId token nonce

/-- The row of a company that can enroll agents. -/
def Enrolls (row : Row) : Prop := row.isActive = true ∧ row.slug ≠ ""

/-- The key of a row with its hash. -/
def Holder (hash : String → String) (cipher : Cipher) (key : String) (row : Row) : Prop :=
  row.key cipher = some key ∧ row.enrollSecretHash = some (hash key)

/-- What downloads that are not disturbed keep: every download is for a company that can enroll
agents, and every key returned is that of its company. -/
structure Valid (hash : String → String) (cipher : Cipher) (s : State) : Prop where
  table : Table cipher s.rows
  arrived : ∀ download tenantId, s.phases download = .arrived tenantId ∨
    s.phases download = .missed tenantId → ∃ row ∈ s.rows, row.id = tenantId ∧ Enrolls row
  served : ∀ tenantId key, (tenantId, key) ∈ s.returned →
    ∃ row ∈ s.rows, row.id = tenantId ∧ Enrolls row ∧ Holder hash cipher key row

/-- A key that was returned is accepted. -/
theorem Valid.accepted {s : State} (valid : Valid hash cipher s) {tenantId : ℕ} {key : String}
    (answered : (tenantId, key) ∈ s.returned) : Accepted hash s tenantId key := by
  obtain ⟨row, member, id, enrolls, opened, hashed⟩ := valid.served tenantId key answered
  have filled := (valid.table.sealedRows row member).key_ne_empty opened
  refine ⟨row, member, id, ?_⟩
  unfold resolveTenantByEnroll
  rw [if_neg (not_or.mpr ⟨enrolls.2, filled⟩), List.find?_map, Option.map_map]
  have matched : (row.slug == row.slug && row.enrollSecretHash == some (hash key) &&
      row.isActive) = true := by
    rw [hashed, enrolls.1, beq_self_eq_true, beq_self_eq_true]
    rfl
  cases search : s.rows.find? ((fun other : Tenant => other.slug == row.slug &&
      other.enrollSecretHash == some (hash key) && other.isActive) ∘ Row.toTenant) with
  | none =>
    have missed := List.find?_eq_none.mp search row member
    exact absurd matched missed
  | some other =>
    have same := List.find?_some search
    simp only [Function.comp_apply, Bool.and_eq_true, beq_iff_eq] at same
    have equal : other = row := List.inj_on_of_nodup_map valid.table.slugs
      (List.mem_of_find?_eq_some search) member same.1.1
    rw [Option.map_some, equal]
    exact congrArg some id

/-- A download may enter a phase of a company that can enroll agents. -/
theorem Valid.enter {s : State} (valid : Valid hash cipher s) (download : ℕ) {phase : Phase}
    (company : ∀ tenantId, phase = .arrived tenantId ∨ phase = .missed tenantId →
      ∃ row ∈ s.rows, row.id = tenantId ∧ Enrolls row) :
    Valid hash cipher (s.enter download phase) := by
  refine ⟨valid.table, fun other tenantId running => ?_, valid.served⟩
  change Function.update s.phases download phase other = _ ∨
    Function.update s.phases download phase other = _ at running
  by_cases same : other = download
  · rw [same, Function.update_self] at running
    exact company tenantId running
  · rw [Function.update_of_ne same] at running
    exact valid.arrived other tenantId running

/-- A download may return the key of its company. -/
theorem Valid.answer {s : State} (valid : Valid hash cipher s) (download : ℕ) {tenantId : ℕ}
    {key : String}
    (holder : ∃ row ∈ s.rows, row.id = tenantId ∧ Enrolls row ∧ Holder hash cipher key row) :
    Valid hash cipher (s.answer download tenantId key) := by
  have idle : Valid hash cipher (s.enter download .idle) := by
    apply valid.enter
    rintro tenantId (running | running)
    · cases running
    · cases running
  refine ⟨idle.table, idle.arrived, fun other served member => ?_⟩
  cases List.mem_cons.mp member with
  | inl here =>
    cases here
    exact holder
  | inr before => exact idle.served other served before

/-- A company whose row has no key may get one: none was returned for it. -/
theorem Valid.reissue {s : State} (valid : Valid hash cipher s) {tenantId : ℕ} (token : Token)
    (nonce : String) (keyless : ∀ row ∈ s.rows, row.id = tenantId → row.key cipher = none) :
    Valid hash cipher
      { s with rows := reissueEnrollKey hash cipher tenantId token.text nonce s.rows } := by
  refine ⟨valid.table.reissue tenantId token nonce, ?_, ?_⟩
  · intro download other running
    obtain ⟨row, member, id, enrolls⟩ := valid.arrived download other running
    by_cases here : row.id = tenantId
    · exact ⟨_, mem_updateWhere_of_hit member (beq_iff_eq.mpr here), id, enrolls⟩
    · exact ⟨row, mem_updateWhere_of_miss member (beq_eq_false_iff_ne.mpr here), id, enrolls⟩
  · intro other served answered
    obtain ⟨row, member, id, enrolls, holder⟩ := valid.served other served answered
    have apart : row.id ≠ tenantId := by
      intro here
      have none := keyless row member here
      rw [holder.1] at none
      cases none
    exact ⟨row, mem_updateWhere_of_miss member (beq_eq_false_iff_ne.mpr apart), id, enrolls, holder⟩

/-- A key that is read is that of the row of the company. -/
theorem storedKey_some {tenantId : ℕ} {rows : List Row} {key : String}
    (read : storedKey cipher tenantId rows = some key) :
    ∃ row ∈ rows, row.id = tenantId ∧ row.key cipher = some key := by
  obtain ⟨row, search, opened⟩ := Option.bind_eq_some_iff.mp read
  exact ⟨row, List.mem_of_find?_eq_some search, beq_iff_eq.mp (List.find?_some search :), opened⟩

/-- What a statement can do. -/
inductive Stepped (hash : String → String) (cipher : Cipher) (s : State) : Event → State → Prop
  | absent (download tenantId : ℕ) : Stepped hash cipher s (.arrive download tenantId) s
  | arrived (download : ℕ) (row : Row) (member : row ∈ s.rows) :
      Stepped hash cipher s (.arrive download row.id) (s.enter download (.arrived row.id))
  | answered (download : ℕ) (row : Row) (key : String) (member : row ∈ s.rows)
      (phase : s.phases download = .arrived row.id) (opened : row.key cipher = some key) :
      Stepped hash cipher s (.select download) (s.answer download row.id key)
  | missed (download tenantId : ℕ) (phase : s.phases download = .arrived tenantId) :
      Stepped hash cipher s (.select download) (s.enter download (.missed tenantId))
  | issued (download tenantId : ℕ) (token : Token) (nonce : String)
      (phase : s.phases download = .missed tenantId) :
      Stepped hash cipher s (.update download token nonce)
        { s.answer download tenantId token.text with
          rows := reissueEnrollKey hash cipher tenantId token.text nonce s.rows }

theorem step_stepped {s t : State} {event : Event} (next : step hash cipher s event = some t) :
    Stepped hash cipher s event t := by
  cases event with
  | arrive download tenantId =>
    simp only [step] at next
    split at next
    · split at next
      · rename_i there
        cases next
        obtain ⟨row, member, id⟩ := List.any_eq_true.mp there
        rw [← beq_iff_eq.mp id]
        exact .arrived download row member
      · cases next
        exact .absent download tenantId
    · cases next
  | select download =>
    simp only [step] at next
    split at next
    · rename_i tenantId phase
      split at next
      · rename_i key read
        cases next
        obtain ⟨row, member, rfl, opened⟩ := storedKey_some read
        exact .answered download row key member phase opened
      · cases next
        exact .missed download tenantId phase
    · cases next
  | update download token nonce =>
    simp only [step] at next
    split at next
    · rename_i tenantId phase
      cases next
      exact .issued download tenantId token nonce phase
    · cases next

/-- A statement of an undisturbed download keeps what was returned valid. -/
theorem step_valid {s t : State} {event : Event} (valid : Valid hash cipher s)
    (undisturbed : Undisturbed hash cipher s event) (next : step hash cipher s event = some t) :
    Valid hash cipher t := by
  cases step_stepped next with
  | absent => exact valid
  | arrived download row member =>
    apply valid.enter
    rintro other (running | running)
    · cases running
      exact ⟨row, member, rfl, undisturbed row member rfl⟩
    · cases running
  | answered download row key member phase opened =>
    obtain ⟨other, there, id, enrolls⟩ := valid.arrived download row.id (.inl phase)
    have same : other = row := List.inj_on_of_nodup_map valid.table.ids there member id
    have hashed := undisturbed row member phase key opened
    exact valid.answer download ⟨row, member, rfl, same ▸ enrolls, opened, hashed⟩
  | missed download tenantId phase =>
    apply valid.enter
    rintro other (running | running)
    · cases running
    · cases running
      exact valid.arrived download tenantId (.inl phase)
  | issued download tenantId token nonce phase =>
    have keyless : ∀ row ∈ s.rows, row.id = tenantId → row.key cipher = none :=
      fun row member id => undisturbed row member (id ▸ phase)
    obtain ⟨row, member, id, enrolls⟩ := valid.arrived download tenantId (.inr phase)
    apply (valid.reissue token nonce keyless).answer download
    exact ⟨_, mem_updateWhere_of_hit member (beq_iff_eq.mpr id), id, enrolls, key_encrypt rfl, rfl⟩

/-- In every run of downloads that are not disturbed, every key that was returned is accepted. -/
theorem downloads_stay_valid (hash : String → String) (cipher : Cipher) (s : State)
    (reached : (machine hash cipher).Reaches (Undisturbed hash cipher) s) (tenantId : ℕ)
    (key : String) (answered : (tenantId, key) ∈ s.returned) : Accepted hash s tenantId key := by
  have valid : Valid hash cipher s := by
    refine reached.invariant (Valid hash cipher) ?_ ?_
    · rintro s ⟨produced, idle, nothing⟩
      refine ⟨produced.table, fun download tenantId running => ?_, fun tenantId key member => ?_⟩
      · rw [idle] at running
        cases running with
        | inl arrived => cases arrived
        | inr missed => cases missed
      · rw [nothing] at member
        cases member
    · intro s event t valid undisturbed next
      exact step_valid valid undisturbed next
  exact valid.accepted answered

instance (s : State) (event : Event) : Decidable (Undisturbed hash cipher s event) :=
  match event with
  | .arrive _ _ => inferInstanceAs (Decidable (∀ row ∈ s.rows, _ → _))
  | .select _ => inferInstanceAs (Decidable (∀ row ∈ s.rows, _ → ∀ key ∈ row.key cipher, _))
  | .update _ _ _ => inferInstanceAs (Decidable (∀ row ∈ s.rows, _ → _))

/-- A cipher that puts a mark in front. -/
def marking : Cipher where
  encrypt _ key := String.ofList ('.' :: key.toList)
  decrypt enc := some (String.ofList enc.toList.tail)
  decrypt_encrypt _ key := by
    rw [String.toList_ofList, List.tail_cons, String.ofList_toList]
  encrypt_ne_empty _ key := by
    intro empty
    have letters := congrArg String.toList empty
    rw [String.toList_ofList] at letters
    cases letters

/-- A hash that puts a mark in front. -/
def marked (key : String) : String := "#" ++ key

/-- A company without a key. -/
def shop : Row := ⟨⟨1, "shop", none, true⟩, none⟩

/-- A key that may be drawn. -/
def firstKey : String := "aaaaaaaaaaaaaaaaaaaaaaaaaaaaaaaaaaaaaaaaaaaaaaaaaaaaaaaaaaaaaaaa"

/-- Another key that may be drawn. -/
def secondKey : String := "bbbbbbbbbbbbbbbbbbbbbbbbbbbbbbbbbbbbbbbbbbbbbbbbbbbbbbbbbbbbbbbb"

theorem firstKey_drawn : isToken firstKey = true := by decide +kernel

theorem secondKey_drawn : isToken secondKey = true := by decide +kernel

/-- Nothing is running on these rows. -/
def quiet (rows : List Row) : State := ⟨rows, fun _ => .idle, []⟩

theorem shop_produced : Produced marked marking [shop] := by
  apply Produced.created [shop] (by decide) (by decide)
  intro row member
  cases List.mem_singleton.mp member
  exact ⟨rfl, rfl⟩

/-- A first download of a company, and another that arrives after it. -/
def inTurn : State :=
  (machine marked marking).play (Undisturbed marked marking) (quiet [shop])
    [.arrive 0 1, .select 0, .update 0 ⟨firstKey, firstKey_drawn⟩ "", .arrive 1 1]

/-- The key of the first download is accepted. -/
theorem inTurn_valid :
    inTurn.returned = [(1, firstKey)] ∧ Accepted marked inTurn 1 firstKey := by
  have returned : inTurn.returned = [(1, firstKey)] := rfl
  refine ⟨returned, downloads_stay_valid marked marking inTurn
    ⟨quiet [shop], ⟨shop_produced, rfl, rfl⟩, Machine.runs_play _ _ _ _⟩ 1 firstKey ?_⟩
  rw [returned]
  exact List.mem_cons_self

/-- Two first downloads of a company that both read the row before either writes. -/
def race : State :=
  (machine marked marking).play Machine.free (quiet [shop])
    [.arrive 0 1, .arrive 1 1, .select 0, .select 1, .update 0 ⟨firstKey, firstKey_drawn⟩ "",
      .update 1 ⟨secondKey, secondKey_drawn⟩ ""]

/-- A company whose hash was set apart from its key. -/
def rehashed : List Row :=
  setEnrollSecretHash 1 (marked secondKey) (reissueEnrollKey marked marking 1 firstKey "" [shop])

/-- A download of that company. -/
def stale : State :=
  (machine marked marking).play Machine.free (quiet rehashed) [.arrive 0 1, .select 0]

theorem marked_ne : marked secondKey ≠ marked firstKey := by
  intro same
  have keys : secondKey = firstKey := (String.append_right_inj "#").mp same
  exact absurd keys (by decide +kernel)

/-- A key is refused where the only row has the hash of another. -/
theorem refused {s : State} {row : Row} (rows : s.rows = [row])
    (other : row.enrollSecretHash = some (marked secondKey)) : ¬ Accepted marked s 1 firstKey := by
  rintro ⟨found, -, -, resolved⟩
  have differs : (row.enrollSecretHash == some (marked firstKey)) = false := by
    rw [other, beq_eq_false_iff_ne]
    exact fun same => marked_ne (Option.some.inj same)
  rw [resolveTenantByEnroll] at resolved
  split at resolved
  · cases resolved
  · rw [rows, List.map_singleton, List.find?_singleton, differs, Bool.and_false, Bool.false_and]
      at resolved
    cases resolved

/-- The first key of a race is returned and not accepted, and so is a key whose hash was
replaced. -/
theorem returned_key_dead :
    ((machine marked marking).Reaches Machine.free race ∧ (1, firstKey) ∈ race.returned ∧
      ¬ Accepted marked race 1 firstKey) ∧
    ((machine marked marking).Reaches Machine.free stale ∧ (1, firstKey) ∈ stale.returned ∧
      ¬ Accepted marked stale 1 firstKey) := by
  have issued : Produced marked marking rehashed :=
    .hashed 1 _ (.issued 1 ⟨firstKey, firstKey_drawn⟩ "" shop_produced)
  have raced : race.returned = [(1, secondKey), (1, firstKey)] := rfl
  have written : race.rows =
      [⟨⟨1, "shop", some (marked secondKey), true⟩, some (marking.encrypt "" secondKey)⟩] := rfl
  have left : stale.rows =
      [⟨⟨1, "shop", some (marked secondKey), true⟩, some (marking.encrypt "" firstKey)⟩] := rfl
  have served : (1, firstKey) ∈ race.returned := by
    rw [raced]
    exact List.mem_cons_of_mem _ List.mem_cons_self
  refine ⟨⟨⟨quiet [shop], ⟨shop_produced, rfl, rfl⟩, Machine.runs_play _ _ _ _⟩, served,
    refused written rfl⟩, ⟨quiet rehashed, ⟨issued, rfl, rfl⟩, Machine.runs_play _ _ _ _⟩, ?_,
    refused left rfl⟩
  decide +kernel

end ChainRemote.Panel.EnrollKeys
