import ChainRemote.Clipboard.FileDescriptors

/-!
# Lists of copied files from a hostile side

The length of a list is checked once, before its records are read, and every read stays inside it.
Two things are not checked: the time of a record is multiplied by 100 whatever it is, and the name
of a record ends where its block ends, so that what stands behind the NUL that ends a shorter name
belongs to the name.
-/

namespace ChainRemote.Clipboard

open Lib

/-- What ends the process. -/
inductive Fault
  /-- A read past the end of the bytes. -/
  | pastEnd
  /-- An operation whose result does not fit in 64 bits. -/
  | overflow
deriving DecidableEq, Repr

/-- `get_u32_le` and `get_u64_le`. -/
def checkedLe (width : Nat) (bytes : Bytes) : Except Fault (Nat × Bytes) :=
  if bytes.length < width then .error .pastEnd else .ok (getLe width bytes)

/-- `advance`. -/
def checkedAdvance (count : Nat) (bytes : Bytes) : Except Fault Bytes :=
  if bytes.length < count then .error .pastEnd else .ok (bytes.drop count)

/-- A slice from the start. -/
def checkedSlice (count : Nat) (bytes : Bytes) : Except Fault Bytes :=
  if bytes.length < count then .error .pastEnd else .ok (bytes.take count)

/-- A sum in 64 bits. -/
def checkedAdd (a b : UInt64) : Except Fault UInt64 :=
  if a.toNat + b.toNat < UInt64.size then .ok (a + b) else .error .overflow

/-- A product in 64 bits. -/
def checkedMul (a b : UInt64) : Except Fault UInt64 :=
  if a.toNat * b.toNat < UInt64.size then .ok (a * b) else .error .overflow

/-- The time of a record. -/
def checkedTime (flags : UInt32) (lastWriteTime : UInt64) : Except Fault Nat :=
  if flags &&& flagsFdLastWrite ≠ 0 ∧ lastWriteTime ≥ ldapEpochDelta then
    UInt64.toNat <$> checkedMul (lastWriteTime - ldapEpochDelta) 100
  else .ok 0

/-- `parse_file_descriptor`, where each read and each operation is checked. -/
def checkedFileDescriptor (bytes : Bytes) (connId : Int32) :
    Except Fault (Except CliprdrError (FileDescription × Bytes)) := do
  let (flags, bytes) ← checkedLe 4 bytes
  let bytes ← checkedAdvance 32 bytes
  let (attributes, bytes) ← checkedLe 4 bytes
  let bytes ← checkedAdvance 12 bytes
  let (perm, bytes) ← checkedLe 4 bytes
  let (lastWriteTime, bytes) ← checkedLe 8 bytes
  let (fileSizeHigh, bytes) ← checkedLe 4 bytes
  let (fileSizeLow, bytes) ← checkedLe 4 bytes
  let block := bytes
  let bytes ← checkedAdvance nameBlock bytes
  let block ← checkedSlice nameBlock block
  let flags := UInt32.ofNat flags
  let attributes := UInt32.ofNat attributes
  match parseName block with
  | none => return .error .conversionFailure
  | some name =>
    if flags &&& flagsFdAttributes = 0 then
      return .error (.invalidRequest "file description must have valid attributes")
    else
      let size ← checkedAdd (UInt64.ofNat fileSizeHigh <<< 32) (UInt64.ofNat fileSizeLow)
      let lastModified ← checkedTime flags (UInt64.ofNat lastWriteTime)
      return .ok ({
        connId
        name
        kind := if attributes &&& 0x10 ≠ 0 then .directory else .file
        atime := lastModified
        lastModified
        lastMetadataChanged := lastModified
        creationTime := lastModified
        size
        perm := parsePerm flags attributes (UInt16.ofNat perm) }, bytes)

/-- The loop of `parse_file_descriptors`. -/
def checkedRecords (connId : Int32) :
    Nat → Bytes → Except Fault (Except CliprdrError (List FileDescription))
  | 0, _ => .ok (.ok [])
  | count + 1, bytes => do
    match ← checkedFileDescriptor bytes connId with
    | .error e => return .error e
    | .ok (desc, bytes) => return (desc :: ·) <$> (← checkedRecords connId count bytes)

/-- `parse_file_descriptors`. -/
def checkedFileDescriptors (fileDescriptorPdu : Bytes) (connId : Int32) :
    Except Fault (Except CliprdrError (List FileDescription)) :=
  if fileDescriptorPdu.length < 4 then
    .ok (.error (.invalidRequest "file descriptor request with infficient length"))
  else do
    let (count, data) ← checkedLe 4 fileDescriptorPdu
    if data.length = 0 ∧ count = 0 then return .ok []
    else
      let total ← checkedMul 592 (UInt64.ofNat count)
      if data.length ≠ total.toNat then
        return .error (.invalidRequest "file descriptor request with invalid length")
      else checkedRecords connId count data

/-! ## What a record says

A record is given by the bytes from its start on. -/

/-- The flags of a record. -/
def recordFlags (record : Bytes) : UInt32 := UInt32.ofNat (ofLe (record.take 4))

/-- The time of a record. -/
def recordTime (record : Bytes) : UInt64 := UInt64.ofNat (ofLe ((record.drop 56).take 8))

/-- The block of the name of a record. -/
def recordBlock (record : Bytes) : Bytes := (record.drop 72).take nameBlock

/-- A record that is refused: its name is no UTF-16, or it has no valid attributes. -/
def Refused (record : Bytes) : Prop :=
  (bytesUnits (recordBlock record)).bind decodeUtf16 = none ∨
    recordFlags record &&& flagsFdAttributes = 0

/-- A record whose time does not fit in 64 bits of nanoseconds. -/
def Late (record : Bytes) : Prop :=
  recordFlags record &&& flagsFdLastWrite ≠ 0 ∧ ldapEpochDelta ≤ recordTime record ∧
    UInt64.size ≤ ((recordTime record).toNat - ldapEpochDelta.toNat) * 100

/-- A record whose name goes on behind a NUL. -/
def NulInside (record : Bytes) : Prop :=
  ∃ units, bytesUnits (recordBlock record) = some units ∧ 0 ∈ units.rdropWhile (· = 0)

section Records

variable {bytes : Bytes} {connId : Int32}

theorem checkedLe_ok {width : Nat} (inside : width ≤ bytes.length) :
    checkedLe width bytes = .ok (getLe width bytes) :=
  if_neg (Nat.not_lt.mpr inside)

theorem checkedAdvance_ok {count : Nat} (inside : count ≤ bytes.length) :
    checkedAdvance count bytes = .ok (bytes.drop count) :=
  if_neg (Nat.not_lt.mpr inside)

theorem checkedSlice_ok {count : Nat} (inside : count ≤ bytes.length) :
    checkedSlice count bytes = .ok (bytes.take count) :=
  if_neg (Nat.not_lt.mpr inside)

/-- The halves of a size never overflow. -/
theorem checkedAdd_size {high low : Nat} (highFits : high < 4294967296)
    (lowFits : low < 4294967296) :
    checkedAdd (UInt64.ofNat high <<< 32) (UInt64.ofNat low) =
      .ok ((UInt64.ofNat high <<< 32) + UInt64.ofNat low) := by
  have first : (UInt64.ofNat high).toNat = high :=
    UInt64.toNat_ofNat_of_lt' (by show _ < 18446744073709551616; omega)
  have second : (UInt64.ofNat low).toNat = low :=
    UInt64.toNat_ofNat_of_lt' (by show _ < 18446744073709551616; omega)
  have shift : high <<< ((32 : UInt64).toNat % 64) = high * 4294967296 := Nat.shiftLeft_eq _ _
  have bound : high * 4294967296 % 2 ^ 64 ≤ high * 4294967296 := Nat.mod_le _ _
  refine if_pos ?_
  rw [UInt64.toNat_shiftLeft, first, second, shift]
  show _ < 18446744073709551616
  omega

theorem checkedTime_ok (flags : UInt32) (time : UInt64) :
    ((flags &&& flagsFdLastWrite ≠ 0 ∧ ldapEpochDelta ≤ time ∧
        UInt64.size ≤ (time.toNat - ldapEpochDelta.toNat) * 100) →
      checkedTime flags time = .error .overflow) ∧
    (¬ (flags &&& flagsFdLastWrite ≠ 0 ∧ ldapEpochDelta ≤ time ∧
        UInt64.size ≤ (time.toNat - ldapEpochDelta.toNat) * 100) →
      checkedTime flags time = .ok (parseTime flags time)) := by
  have hundred : (100 : UInt64).toNat = 100 := rfl
  unfold checkedTime parseTime
  by_cases counts : flags &&& flagsFdLastWrite ≠ 0 ∧ time ≥ ldapEpochDelta
  · have ticks : (time - ldapEpochDelta).toNat = time.toNat - ldapEpochDelta.toNat :=
      UInt64.toNat_sub_of_le _ _ counts.2
    rw [if_pos counts, if_pos counts, checkedMul, ticks, hundred]
    constructor
    · intro late
      rw [if_neg (Nat.not_lt.mpr late.2.2)]
      rfl
    · intro early
      have fits : (time.toNat - ldapEpochDelta.toNat) * 100 < UInt64.size :=
        Nat.lt_of_not_le fun large => early ⟨counts.1, counts.2, large⟩
      rw [if_pos fits]
      rfl
  · rw [if_neg counts, if_neg counts]
    constructor
    · intro late
      exact absurd ⟨late.1, late.2.1⟩ counts
    · intro _
      rfl

theorem nul_mem_blockName (text : List Char) :
    '\x00' ∈ (blockName text).toList ↔ '\x00' ∈ text.rdropWhile (· = '\x00') := by
  have slash : ∀ c : Char, ((if c = '\\' then '/' else c) = '\x00') ↔ c = '\x00' := by
    intro c
    by_cases back : c = '\\'
    · subst back
      decide
    · rw [if_neg back]
  rw [blockName, String.toList_ofList, List.rdropWhile, ← List.map_reverse, List.dropWhile_map,
    ← List.map_reverse, List.mem_map]
  have same : ((fun c => decide (c = '\x00')) ∘ fun c => if c = '\\' then '/' else c) =
      fun c : Char => decide (c = '\x00') := by
    funext c
    exact decide_eq_decide.mpr (slash c)
  rw [same]
  constructor
  · rintro ⟨c, inside, is⟩
    rw [(slash c).mp is] at inside
    exact inside
  · intro inside
    exact ⟨_, inside, rfl⟩

/-- A name has a NUL exactly if its units go on behind one. -/
theorem parseName_nul {block : Bytes} {name : String} (read : parseName block = some name) :
    '\x00' ∈ name.toList ↔
      ∃ units, bytesUnits block = some units ∧ 0 ∈ units.rdropWhile (· = 0) := by
  rw [parseName_eq] at read
  obtain ⟨text, decoded, rfl⟩ := Option.map_eq_some_iff.mp read
  obtain ⟨units, split, decoded⟩ := Option.bind_eq_some_iff.mp decoded
  rw [nul_mem_blockName, ← zero_mem_encodeUtf16, ← rdropWhile_encodeUtf16,
    encodeUtf16_decode decoded]
  constructor
  · intro zero
    exact ⟨units, split, zero⟩
  · rintro ⟨others, is, zero⟩
    obtain rfl := Option.some.inj (split.symm.trans is)
    exact zero

/-- A record that is refused ends the list; another one is described, and its name has a NUL exactly
if its units go on behind one. -/
theorem parseFileDescriptor_cases (bytes : Bytes) (connId : Int32) :
    (Refused bytes → ∃ e, parseFileDescriptor bytes connId = .error e) ∧
      (¬ Refused bytes → ∃ desc, parseFileDescriptor bytes connId = .ok (desc, bytes.drop 592) ∧
        ('\x00' ∈ desc.name.toList ↔ NulInside bytes)) := by
  unfold parseFileDescriptor getLe
  simp only [List.drop_drop, nameBlock, Nat.reduceAdd]
  cases named : parseName (recordBlock bytes) with
  | none =>
    unfold recordBlock nameBlock at named
    simp only [named]
    constructor
    · intro _
      exact ⟨_, rfl⟩
    · intro accepted
      refine absurd (.inl ?_) accepted
      rw [parseName_eq, Option.map_eq_none_iff] at named
      exact named
  | some name =>
    have nul := parseName_nul named
    have text : ¬ (bytesUnits (recordBlock bytes)).bind decodeUtf16 = none := by
      intro none
      rw [parseName_eq, none] at named
      cases named
    unfold recordBlock nameBlock at named
    simp only [named]
    by_cases invalid : recordFlags bytes &&& flagsFdAttributes = 0
    · unfold recordFlags at invalid
      rw [if_pos invalid]
      constructor
      · intro _
        exact ⟨_, rfl⟩
      · intro accepted
        exact absurd (.inr invalid) accepted
    · have valid := invalid
      unfold recordFlags at invalid
      rw [if_neg invalid]
      constructor
      · intro refused
        exact absurd refused (not_or.mpr ⟨text, valid⟩)
      · intro _
        exact ⟨_, rfl, nul⟩

theorem checkedFileDescriptor_cases (long : 592 ≤ bytes.length) :
    (Late bytes ∧ ¬ Refused bytes → checkedFileDescriptor bytes connId = .error .overflow) ∧
      (¬ (Late bytes ∧ ¬ Refused bytes) →
        checkedFileDescriptor bytes connId = .ok (parseFileDescriptor bytes connId)) := by
  have inside : ∀ start width : Nat, start + width ≤ 592 →
      width ≤ (bytes.drop start).length := by
    intro start width within
    rw [List.length_drop]
    omega
  have flags := @checkedLe_ok bytes 4 (by omega)
  have reserved := @checkedAdvance_ok (bytes.drop 4) 32 (inside 4 32 (by omega))
  have attributes := @checkedLe_ok (bytes.drop 36) 4 (inside 36 4 (by omega))
  have reserved' := @checkedAdvance_ok (bytes.drop 40) 12 (inside 40 12 (by omega))
  have perm := @checkedLe_ok (bytes.drop 52) 4 (inside 52 4 (by omega))
  have time := @checkedLe_ok (bytes.drop 56) 8 (inside 56 8 (by omega))
  have high := @checkedLe_ok (bytes.drop 64) 4 (inside 64 4 (by omega))
  have low := @checkedLe_ok (bytes.drop 68) 4 (inside 68 4 (by omega))
  have block := @checkedAdvance_ok (bytes.drop 72) 520 (inside 72 520 (by omega))
  have name := @checkedSlice_ok (bytes.drop 72) 520 (inside 72 520 (by omega))
  have word : ∀ start, ofLe ((bytes.drop start).take 4) < 4294967296 := by
    intro start
    have bound := ofLe_lt ((bytes.drop start).take 4)
    have size : ((bytes.drop start).take 4).length ≤ 4 := List.length_take_le _ _
    exact Nat.lt_of_lt_of_le bound (Nat.pow_le_pow_right (by decide) size)
  have size := checkedAdd_size (word 64) (word 68)
  have late := checkedTime_ok (recordFlags bytes) (recordTime bytes)
  unfold recordFlags recordTime at late
  unfold checkedFileDescriptor parseFileDescriptor
  simp only [bind, Except.bind, flags, reserved, attributes, reserved', perm, time, high, low,
    block, name, getLe, List.drop_drop, nameBlock, Nat.reduceAdd, size]
  cases named : parseName ((bytes.drop 72).take 520) with
  | none =>
    constructor
    · intro ⟨_, accepted⟩
      rw [parseName_eq, Option.map_eq_none_iff] at named
      exact absurd (.inl named) accepted
    · intro _
      rfl
  | some name =>
    dsimp only
    have text : ¬ (bytesUnits (recordBlock bytes)).bind decodeUtf16 = none := by
      intro none
      unfold recordBlock nameBlock at none
      rw [parseName_eq, none] at named
      cases named
    by_cases invalid : recordFlags bytes &&& flagsFdAttributes = 0
    · have refused : Refused bytes := .inr invalid
      unfold recordFlags at invalid
      rw [if_pos invalid, if_pos invalid]
      constructor
      · intro ⟨_, accepted⟩
        exact absurd refused accepted
      · intro _
        rfl
    · have accepted : ¬ Refused bytes := not_or.mpr ⟨text, invalid⟩
      unfold recordFlags at invalid
      rw [if_neg invalid, if_neg invalid]
      constructor
      · intro ⟨overflows, _⟩
        rw [late.1 overflows]
      · intro fits
        rw [late.2 fun overflows => fits ⟨overflows, accepted⟩]
        rfl

end Records

/-! ## Lists of records -/

/-- The bytes from a record on. -/
def recordAt (data : Bytes) (index : Nat) : Bytes := data.drop (592 * index)

/-- No record is refused. -/
def Accepted (count : Nat) (data : Bytes) : Prop := ∀ index < count, ¬ Refused (recordAt data index)

/-- The times of the records up to the first one that is refused fit in 64 bits. -/
def TimesFit (count : Nat) (data : Bytes) : Prop :=
  ∀ index < count, Accepted (index + 1) data → ¬ Late (recordAt data index)

/-- Where no record is refused, no name goes on behind a NUL. -/
def NamesEnd (count : Nat) (data : Bytes) : Prop :=
  Accepted count data → ∀ index < count, ¬ NulInside (recordAt data index)

section Lists

variable {connId : Int32} {count : Nat} {data : Bytes}

theorem recordAt_drop (data : Bytes) (index : Nat) :
    recordAt (data.drop 592) index = recordAt data (index + 1) := by
  have sum : 592 + 592 * index = 592 * (index + 1) := by omega
  rw [recordAt, recordAt, List.drop_drop, sum]

theorem forall_record {P : Bytes → Prop} :
    (∀ index < count + 1, P (recordAt data index)) ↔
      P data ∧ ∀ index < count, P (recordAt (data.drop 592) index) := by
  constructor
  · intro all
    refine ⟨all 0 (Nat.succ_pos count), ?_⟩
    intro index below
    rw [recordAt_drop]
    exact all (index + 1) (Nat.succ_lt_succ below)
  · intro ⟨first, others⟩ index below
    cases index with
    | zero => exact first
    | succ index =>
      rw [← recordAt_drop]
      exact others index (Nat.lt_of_succ_lt_succ below)

theorem accepted_succ :
    Accepted (count + 1) data ↔ ¬ Refused data ∧ Accepted count (data.drop 592) :=
  forall_record (P := fun record => ¬ Refused record)

theorem timesFit_succ :
    TimesFit (count + 1) data ↔
      (¬ Refused data → ¬ Late data ∧ TimesFit count (data.drop 592)) := by
  constructor
  · intro fit accepted
    refine ⟨fit 0 (Nat.succ_pos count) ?_, ?_⟩
    · exact accepted_succ.mpr ⟨accepted, fun index below => absurd below (Nat.not_lt_zero index)⟩
    · intro index below others
      rw [recordAt_drop]
      exact fit (index + 1) (Nat.succ_lt_succ below) (accepted_succ.mpr ⟨accepted, others⟩)
  · intro fit index below all
    obtain ⟨accepted, others⟩ := accepted_succ.mp all
    cases index with
    | zero => exact (fit accepted).1
    | succ index =>
      rw [← recordAt_drop]
      exact (fit accepted).2 index (Nat.lt_of_succ_lt_succ below) others

/-- The records after one that is read. -/
theorem parseRecords_succ {desc : FileDescription} {rest : Bytes}
    (read : parseFileDescriptor data connId = .ok (desc, rest)) :
    parseRecords connId (count + 1) data = (desc :: ·) <$> parseRecords connId count rest := by
  rw [parseRecords, read]
  show (do
    let files ← parseRecords connId count rest
    return desc :: files : Except CliprdrError _) = _
  cases parseRecords connId count rest with
  | error e => rfl
  | ok files => rfl

/-- Reading records stays inside them, and overflows exactly for a time that does not fit. -/
theorem checkedRecords_cases (size : data.length = 592 * count) :
    (TimesFit count data →
      checkedRecords connId count data = .ok (parseRecords connId count data)) ∧
    (¬ TimesFit count data → checkedRecords connId count data = .error .overflow) := by
  induction count generalizing data with
  | zero =>
    constructor
    · intro _
      rfl
    · intro some
      exact absurd (fun index below => absurd below (Nat.not_lt_zero index)) some
  | succ count ih =>
    have long : 592 ≤ data.length := by omega
    have rest : (data.drop 592).length = 592 * count := by
      rw [List.length_drop]
      omega
    have first := @checkedFileDescriptor_cases data connId long
    have parsed := parseFileDescriptor_cases data connId
    rw [checkedRecords, timesFit_succ]
    by_cases refused : Refused data
    · obtain ⟨e, failed⟩ := parsed.1 refused
      rw [first.2 fun both => both.2 refused, parseRecords, failed]
      constructor
      · intro _
        rfl
      · intro fits
        exact absurd (fun accepted => absurd refused accepted) fits
    · obtain ⟨desc, read, -⟩ := parsed.2 refused
      by_cases late : Late data
      · rw [first.1 ⟨late, refused⟩]
        constructor
        · intro fits
          exact absurd late (fits refused).1
        · intro _
          rfl
      · rw [first.2 fun both => late both.1, read, parseRecords_succ read]
        constructor
        · intro fits
          show (checkedRecords connId count (data.drop 592)).bind _ = _
          rw [(ih rest).1 (fits refused).2]
          rfl
        · intro fits
          have others : ¬ TimesFit count (data.drop 592) :=
            fun later => fits fun _ => ⟨late, later⟩
          show (checkedRecords connId count (data.drop 592)).bind _ = _
          rw [(ih rest).2 others]
          rfl

/-- What a list that is read says of its records. -/
theorem parseRecords_ok {descs : List FileDescription}
    (read : parseRecords connId count data = .ok descs) :
    descs.length = count ∧ Accepted count data ∧
      ((∀ desc ∈ descs, '\x00' ∉ desc.name.toList) ↔
        ∀ index < count, ¬ NulInside (recordAt data index)) := by
  induction count generalizing data descs with
  | zero =>
    obtain rfl := Except.ok.inj read
    exact ⟨rfl, fun index below => absurd below (Nat.not_lt_zero index), by simp⟩
  | succ count ih =>
    have parsed := parseFileDescriptor_cases data connId
    by_cases refused : Refused data
    · obtain ⟨e, failed⟩ := parsed.1 refused
      rw [parseRecords, failed] at read
      cases read
    · obtain ⟨desc, first, nul⟩ := parsed.2 refused
      rw [parseRecords_succ first] at read
      cases later : parseRecords connId count (data.drop 592) with
      | error e =>
        rw [later] at read
        cases read
      | ok others =>
        rw [later] at read
        obtain rfl := Except.ok.inj read
        obtain ⟨length, accepted, names⟩ := ih later
        refine ⟨by rw [List.length_cons, length], accepted_succ.mpr ⟨refused, accepted⟩, ?_⟩
        rw [List.forall_mem_cons, names, nul]
        exact (forall_record (P := fun record => ¬ NulInside record)).symm

theorem parseRecords_accepted (accepted : Accepted count data) :
    ∃ descs, parseRecords connId count data = .ok descs := by
  induction count generalizing data with
  | zero => exact ⟨[], rfl⟩
  | succ count ih =>
    obtain ⟨first, others⟩ := accepted_succ.mp accepted
    obtain ⟨desc, read, -⟩ := (parseFileDescriptor_cases data connId).2 first
    obtain ⟨descs, later⟩ := ih others
    refine ⟨desc :: descs, ?_⟩
    rw [parseRecords_succ read, later]
    rfl

end Lists

/-- The number of records that a list begins with. -/
def sentCount (pdu : Bytes) : Nat := ofLe (pdu.take 4)

/-- A list is read inside its bytes and inside 64 bits, and what is read has as many entries as the
list says, is as long as these, and has no NUL in a name. -/
structure ParsesSafely (pdu : Bytes) (connId : Int32) : Prop where
  runs : ∃ result, checkedFileDescriptors pdu connId = .ok result
  accepted : ∀ descs, parseFileDescriptors pdu connId = .ok descs →
    pdu.length = 4 + 592 * descs.length ∧ sentCount pdu = descs.length ∧
      ∀ desc ∈ descs, '\x00' ∉ desc.name.toList

/-- The records of a list of the right length have times that fit, and names that end. -/
def Harmless (pdu : Bytes) : Prop :=
  pdu.length = 4 + 592 * sentCount pdu →
    TimesFit (sentCount pdu) (pdu.drop 4) ∧ NamesEnd (sentCount pdu) (pdu.drop 4)

/-- A list of the right length comes to its records. -/
theorem parseFileDescriptors_cases (pdu : Bytes) (connId : Int32) :
    (pdu.length = 4 + 592 * sentCount pdu →
      parseFileDescriptors pdu connId = parseRecords connId (sentCount pdu) (pdu.drop 4) ∧
        checkedFileDescriptors pdu connId =
          checkedRecords connId (sentCount pdu) (pdu.drop 4)) ∧
    (pdu.length ≠ 4 + 592 * sentCount pdu → ∃ e, parseFileDescriptors pdu connId = .error e ∧
      checkedFileDescriptors pdu connId = .ok (.error e)) := by
  have bound : sentCount pdu < 4294967296 := by
    have bytes := ofLe_lt (pdu.take 4)
    have size : (pdu.take 4).length ≤ 4 := List.length_take_le _ _
    exact Nat.lt_of_lt_of_le bytes (Nat.pow_le_pow_right (by decide) size)
  have number : (UInt64.ofNat (sentCount pdu)).toNat = sentCount pdu :=
    UInt64.toNat_ofNat_of_lt' (by show _ < 18446744073709551616; omega)
  have width : (592 : UInt64).toNat = 592 := rfl
  have total : checkedMul 592 (UInt64.ofNat (sentCount pdu)) =
      .ok (592 * UInt64.ofNat (sentCount pdu)) := by
    refine if_pos ?_
    rw [number, width]
    show _ < 18446744073709551616
    omega
  have product : (592 * UInt64.ofNat (sentCount pdu)).toNat = 592 * sentCount pdu := by
    rw [UInt64.toNat_mul, number, width]
    exact Nat.mod_eq_of_lt (by omega)
  have head : getLe 4 pdu = (sentCount pdu, pdu.drop 4) := rfl
  unfold parseFileDescriptors checkedFileDescriptors
  by_cases short : pdu.length < 4
  · rw [if_pos short, if_pos short]
    constructor
    · intro size
      omega
    · intro _
      exact ⟨_, rfl, rfl⟩
  · rw [if_neg short, if_neg short, checkedLe_ok (Nat.le_of_not_lt short), head]
    have rest : (pdu.drop 4).length = pdu.length - 4 := List.length_drop
    simp only [bind, Except.bind]
    by_cases empty : (pdu.drop 4).length = 0 ∧ sentCount pdu = 0
    · rw [if_pos empty, if_pos empty, empty.2]
      constructor
      · intro _
        exact ⟨rfl, rfl⟩
      · intro size
        omega
    · rw [if_neg empty, if_neg empty, total]
      simp only [product]
      by_cases size : (pdu.drop 4).length = 592 * sentCount pdu
      · rw [if_neg (not_not.mpr size), if_neg (not_not.mpr size)]
        constructor
        · intro _
          exact ⟨rfl, rfl⟩
        · intro other
          omega
      · rw [if_pos size, if_pos size]
        constructor
        · intro same
          omega
        · intro _
          exact ⟨_, rfl, rfl⟩

/-- A list is parsed safely exactly if its records are harmless. -/
theorem parsesSafely_iff (pdu : Bytes) (connId : Int32) :
    ParsesSafely pdu connId ↔ Harmless pdu := by
  have cases := parseFileDescriptors_cases pdu connId
  by_cases size : pdu.length = 4 + 592 * sentCount pdu
  · obtain ⟨parse, checked⟩ := cases.1 size
    have rest : (pdu.drop 4).length = 592 * sentCount pdu := by
      rw [List.length_drop]
      omega
    have records := @checkedRecords_cases connId _ _ rest
    constructor
    · intro safe _
      obtain ⟨result, runs⟩ := safe.runs
      have fit : TimesFit (sentCount pdu) (pdu.drop 4) := by
        by_contra late
        rw [checked, records.2 late] at runs
        cases runs
      refine ⟨fit, ?_⟩
      intro accepted
      obtain ⟨descs, read⟩ := @parseRecords_accepted connId _ _ accepted
      have names := (safe.accepted descs (parse.trans read)).2.2
      exact (parseRecords_ok read).2.2.mp names
    · intro harmless
      obtain ⟨fit, ends⟩ := harmless size
      refine ⟨⟨_, checked.trans (records.1 fit)⟩, ?_⟩
      intro descs read
      obtain ⟨length, accepted, names⟩ := parseRecords_ok (parse.symm.trans read)
      rw [length]
      exact ⟨size, rfl, names.mpr (ends accepted)⟩
  · obtain ⟨e, failed, runs⟩ := cases.2 size
    constructor
    · intro _ same
      exact absurd same size
    · intro _
      refine ⟨⟨_, runs⟩, ?_⟩
      intro descs read
      rw [failed] at read
      cases read

/-- A list of one record with a time and a name. -/
def sentList (time : Nat) (units : List UInt16) : Bytes :=
  toLe 4 1 ++ toLe 4 (flagsFdAttributes ||| flagsFdLastWrite).toNat ++ List.replicate 52 0 ++
    toLe 8 time ++ List.replicate 8 0 ++ unitBytes units ++
    List.replicate (nameBlock - 2 * units.length) 0

/-- The last time there is overflows, and a name can go on behind a NUL. -/
theorem hostile_lists :
    checkedFileDescriptors (sentList 18446744073709551615 [97]) 1 = .error .overflow ∧
      ¬ ParsesSafely (sentList 18446744073709551615 [97]) 1 ∧
      (∃ desc, parseFileDescriptors (sentList 0 [97, 0, 98]) 1 = .ok [desc] ∧
        desc.name.toList = ['a', '\x00', 'b']) ∧
      ¬ ParsesSafely (sentList 0 [97, 0, 98]) 1 := by
  have overflow : checkedFileDescriptors (sentList 18446744073709551615 [97]) 1 =
      .error .overflow := by decide +kernel
  have name : parseFileDescriptors (sentList 0 [97, 0, 98]) 1 = .ok [{
      connId := 1, name := String.ofList ['a', '\x00', 'b'], kind := .file, atime := 0,
      lastModified := 0, lastMetadataChanged := 0, creationTime := 0, size := 0,
      perm := permRw }] := by decide +kernel
  refine ⟨overflow, ?_, ⟨_, name, String.toList_ofList⟩, ?_⟩
  · intro safe
    obtain ⟨result, runs⟩ := safe.runs
    rw [overflow] at runs
    cases runs
  · intro safe
    have names := (safe.accepted _ name).2.2 _ (List.mem_singleton_self _)
    rw [String.toList_ofList] at names
    exact names (by decide)

end ChainRemote.Clipboard
