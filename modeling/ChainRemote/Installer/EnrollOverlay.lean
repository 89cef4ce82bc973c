import Mathlib.Data.Int.Notation
import ChainRemote.Installer.AgentCustomTxt

/-!
# The overlay of an installer

The script that the installer runs on its own file. It reads the settings of the company from the
end of the file and stages them, or, where the file has no overlay, stages the installed custom.txt
again if that one has data of a company. The exits without an overlay leave the script, so that only
what comes after an overlay or an exception reaches the verdict on the staged file. The comparisons
of the script ignore case.
-/

namespace ChainRemote.Installer.EnrollOverlay

open Lib AgentCustomTxt

/-- A character in lower case, as far as the patterns tell: their letters are ASCII, and outside of
ASCII only the Kelvin sign has one of them in lower case. -/
def lower (c : Char) : Char := if c = '\u212A' then 'k' else c.toLower

/-- Characters are the same but for case. -/
def ignoringCase (c other : Char) : Bool := lower c == lower other

/-- The white space of the patterns. -/
def isWhiteSpace (c : Char) : Bool :=
  (0x9 ≤ c.toNat ∧ c.toNat ≤ 0xd) ∨ c.toNat = 0x20 ∨ c.toNat = 0x85 ∨ c.toNat = 0xa0 ∨
    c.toNat = 0x1680 ∨ (0x2000 ≤ c.toNat ∧ c.toNat ≤ 0x200a) ∨ c.toNat = 0x2028 ∨
    c.toNat = 0x2029 ∨ c.toNat = 0x202f ∨ c.toNat = 0x205f ∨ c.toNat = 0x3000

section Patterns

variable (same : Char → Char → Bool)

/-- A quoted name, a colon, and what follows. -/
def field (name : String) (value : Pattern Char) : Pattern Char :=
  literal same ('"' :: name.toList ++ ['"']) ++ [.many isWhiteSpace] ++ literal same [':'] ++
    [.many isWhiteSpace] ++ value

/-- A connection type is named. -/
def connTypePattern : Pattern Char := literal same "\"conn-type\"".toList

/-- An enrollment key that is not empty. -/
def enrollKeyPattern : Pattern Char :=
  field same "enroll-key"
    (literal same ['"'] ++ [.one (· != '"'), .many (· != '"')] ++ literal same ['"'])

/-- Unattended access is on. -/
def unattendedPattern : Pattern Char := field same "unattended" (literal same "\"Y\"".toList)

end Patterns

/-- What is staged: the bundled file, the installed one, or the overlay. -/
inductive Staged where
  | bundled
  | installed (text : List Char)
  | overlay (text : List Char)
  deriving DecidableEq

/-- Keep the installed settings instead of the bundle. -/
def preserve (existing : Option (List UInt8)) : Staged :=
  match existing with
  | none => .bundled
  | some file =>
    let old := readAllText file
    if old = [] then .bundled
    else if !found (connTypePattern ignoringCase) old then .bundled
    else
      let hasKey := found (enrollKeyPattern ignoringCase) old
      let hasUnattended := found (unattendedPattern ignoringCase) old
      if !(hasKey || hasUnattended) then .bundled else .installed old

/-- Bytes as ASCII, what is not as a question mark. -/
def ascii (bytes : List UInt8) : List Char :=
  bytes.map fun byte => if byte.toNat < 0x80 then Char.ofNat byte.toNat else '?'

/-- Bytes as a signed number of 32 bits. -/
def toInt32 (bytes : List UInt8) : ℤ :=
  if ofLe bytes < 2147483648 then (ofLe bytes : ℤ) else (ofLe bytes : ℤ) - 4294967296

/-- The settings at the end of the setup file. -/
def readOverlay (setup : List UInt8) : Option (List Char) :=
  let total := setup.length
  if total ≤ 12 then none
  else if (ascii (setup.drop (total - 8))).map lower != magic.map lower then none
  else
    let clen := toInt32 ((setup.drop (total - 12)).take 4)
    if clen ≤ 0 ∨ (total : ℤ) - 12 ≤ clen then none
    else
      let cfg := decodeUtf8 ((setup.drop (total - 12 - clen.toNat)).take clen.toNat)
      if !found (literal ignoringCase "tenant-slug".toList) cfg ||
          !found (literal ignoringCase "enroll-key".toList) cfg then none
      else some cfg

/-- What the script works on: the setup file if it can be opened, the staged file, the custom.txt of
the installed agent, and whether the flag file is there. -/
structure Disk where
  setup : Option (List UInt8)
  stage : Option (List UInt8)
  existing : Option (List UInt8)
  flag : Bool
  deriving DecidableEq

/-- What the script stages, and whether it goes on to the verdict. -/
def extract (disk : Disk) : Staged × Bool :=
  match disk.setup with
  | none => (preserve disk.existing, true)
  | some setup =>
    match readOverlay setup with
    | none => (preserve disk.existing, false)
    | some cfg => (.overlay cfg, true)

/-- Write what is staged. -/
def write (disk : Disk) : Staged → Disk
  | .bundled => disk
  | .installed text | .overlay text => { disk with stage := some (writeAllText text) }

/-- The text of the staged file, empty where there is none. -/
def stagedText (disk : Disk) : List Char := (disk.stage.map readAllText).getD []

/-- The flag tells whether the staged file has no key. -/
def verdict (disk : Disk) : Disk :=
  { disk with flag := !found (enrollKeyPattern ignoringCase) (stagedText disk) }

/-- The script. -/
def script (disk : Disk) : Disk :=
  let (staged, goesOn) := extract disk
  if goesOn then verdict (write disk staged) else write disk staged

/-- The setup file ends in settings, their length and a marker that may differ in case. -/
inductive CarriesOverlay : List UInt8 → List UInt8 → Prop where
  | intro (base config tail : List UInt8) (based : base ≠ []) (filled : config ≠ [])
      (fits : config.length < 2147483648)
      (marked : (ascii tail).map lower = magic.map lower)
      (slug : Holds (literal ignoringCase "tenant-slug".toList) (decodeUtf8 config))
      (key : Holds (literal ignoringCase "enroll-key".toList) (decodeUtf8 config)) :
      CarriesOverlay (base ++ config ++ toLe 4 config.length ++ tail) config

theorem length_tail {tail : List UInt8} (marked : (ascii tail).map lower = magic.map lower) :
    tail.length = 8 := by
  have lengths := congrArg List.length marked
  rw [List.length_map, ascii, List.length_map, List.length_map] at lengths
  exact lengths

/-- An overlay is read. -/
theorem readOverlay_carried {setup config : List UInt8} (carried : CarriesOverlay setup config) :
    readOverlay setup = some (decodeUtf8 config) := by
  cases carried with
  | intro base config tail based filled fits marked slug key =>
    have eight := length_tail marked
    have room := List.length_pos_iff.mpr based
    have size := List.length_pos_iff.mpr filled
    have total : (base ++ config ++ toLe 4 config.length ++ tail).length =
        base.length + config.length + 12 := by
      rw [List.length_append, List.length_append, List.length_append, length_toLe, eight]
    have last : (base ++ config ++ toLe 4 config.length ++ tail).drop
        (base.length + config.length + 12 - 8) = tail := by
      apply List.drop_left'
      rw [List.length_append, List.length_append, length_toLe]
      omega
    have before : (base ++ config ++ toLe 4 config.length ++ tail).drop
        (base.length + config.length + 12 - 12) = toLe 4 config.length ++ tail := by
      rw [List.append_assoc]
      apply List.drop_left'
      rw [List.length_append]
      omega
    have number : toInt32 (toLe 4 config.length) = config.length := by
      rw [toInt32, ofLe_toLe_of_lt (by omega), if_pos fits]
    have start : (base ++ config ++ toLe 4 config.length ++ tail).drop
        (base.length + config.length + 12 - 12 - config.length) =
          config ++ (toLe 4 config.length ++ tail) := by
      rw [List.append_assoc, List.append_assoc]
      apply List.drop_left'
      omega
    unfold readOverlay
    simp only
    rw [total, if_neg (by omega), last, marked, bne_self_eq_false, if_neg Bool.false_ne_true,
      before, List.take_left' (length_toLe 4 _), number, if_neg (by omega), Int.toNat_natCast,
      start, List.take_left' rfl, found_iff.mpr slug, found_iff.mpr key]
    rfl

/-- The parts of a setup file whose settings take so many bytes. -/
theorem parts_append {setup : List UInt8} {size : ℕ} (room : size + 12 ≤ setup.length) :
    setup.take (setup.length - 12 - size) ++ (setup.drop (setup.length - 12 - size)).take size ++
      (setup.drop (setup.length - 12)).take 4 ++ setup.drop (setup.length - 8) = setup := by
  have afterLength : setup.drop (setup.length - 8) = (setup.drop (setup.length - 12)).drop 4 := by
    rw [List.drop_drop]
    congr 1
    omega
  have afterConfig : setup.drop (setup.length - 12) =
      (setup.drop (setup.length - 12 - size)).drop size := by
    rw [List.drop_drop]
    congr 1
    omega
  rw [afterLength, List.append_assoc, List.take_append_drop, afterConfig, List.append_assoc,
    List.take_append_drop, List.take_append_drop]

/-- A positive number of 32 bits is that of its bytes. -/
theorem toInt32_pos {bytes : List UInt8} (positive : 0 < toInt32 bytes) (four : bytes.length = 4) :
    (toInt32 bytes).toNat < 2147483648 ∧ toLe 4 (toInt32 bytes).toNat = bytes := by
  have bound : ofLe bytes < 4294967296 := by
    have within := ofLe_lt bytes
    rw [four] at within
    exact within
  unfold toInt32 at positive ⊢
  split
  case isTrue small =>
    rw [Int.toNat_natCast, ← four, toLe_ofLe]
    exact ⟨small, rfl⟩
  case isFalse large =>
    rw [if_neg large] at positive
    omega

/-- What is read as an overlay is one. -/
theorem carried_readOverlay {setup : List UInt8} {cfg : List Char}
    (read : readOverlay setup = some cfg) :
    ∃ config, CarriesOverlay setup config ∧ decodeUtf8 config = cfg := by
  unfold readOverlay at read
  simp only at read
  split at read
  case isTrue => cases read
  case isFalse large =>
    split at read
    case isTrue => cases read
    case isFalse marked =>
      split at read
      case isTrue => cases read
      case isFalse length =>
        split at read
        case isTrue => cases read
        case isFalse named =>
          rw [Bool.or_eq_true, Bool.not_eq_true', Bool.not_eq_true', not_or, Bool.not_eq_false,
            Bool.not_eq_false, found_iff, found_iff] at named
          have same : (ascii (setup.drop (setup.length - 8))).map lower = magic.map lower := by
            simpa using marked
          have four : ((setup.drop (setup.length - 12)).take 4).length = 4 := by
            rw [List.length_take, List.length_drop]
            omega
          rw [not_or, Int.not_le, Int.not_le] at length
          have number := toInt32_pos length.1 four
          generalize toInt32 ((setup.drop (setup.length - 12)).take 4) = clen at *
          have room : clen.toNat + 12 ≤ setup.length := by omega
          have size : ((setup.drop (setup.length - 12 - clen.toNat)).take clen.toNat).length =
              clen.toNat := by
            rw [List.length_take, List.length_drop]
            omega
          have carried := CarriesOverlay.intro (setup.take (setup.length - 12 - clen.toNat))
            ((setup.drop (setup.length - 12 - clen.toNat)).take clen.toNat)
            (setup.drop (setup.length - 8))
            (List.ne_nil_of_length_pos (by rw [List.length_take]; omega))
            (List.ne_nil_of_length_pos (by omega)) (by omega) same named.1 named.2
          rw [size, number.2, parts_append room] at carried
          exact ⟨_, carried, Option.some.inj read⟩

/-- Characters are the same. -/
def exactly (c other : Char) : Bool := c == other

theorem ignoringCase_of_exactly (c other : Char) (same : exactly c other = true) :
    ignoringCase c other = true := by
  rw [exactly, beq_iff_eq] at same
  rw [same, ignoringCase, beq_self_eq_true]

/-- A text that has letters has them whatever their case. -/
theorem holds_of_part {letters text : List Char} (within : letters <:+: text) :
    Holds (literal ignoringCase letters) text := by
  obtain ⟨before, after, whole⟩ := within
  have exact : Holds (literal exactly letters) text :=
    ⟨before, letters, after, whole.symm, spells_literal letters⟩
  exact exact.widen (literal_within ignoringCase_of_exactly letters)

/-- The text has data of a company: a connection type, and a key or unattended access. -/
def TenantData (same : Char → Char → Bool) (text : List Char) : Prop :=
  Holds (connTypePattern same) text ∧
    (Holds (enrollKeyPattern same) text ∨ Holds (unattendedPattern same) text)

/-- A field with laxer letters is wider. -/
theorem field_within (name : String) {value wider : Pattern Char}
    (within : List.Forall₂ Item.Within value wider) :
    List.Forall₂ Item.Within (field exactly name value) (field ignoringCase name wider) := by
  have space : List.Forall₂ Item.Within [Item.many isWhiteSpace] [Item.many isWhiteSpace] :=
    .cons (Item.Within.refl _) .nil
  have quoted := literal_within ignoringCase_of_exactly ('"' :: name.toList ++ ['"'])
  have colon := literal_within ignoringCase_of_exactly [':']
  exact List.rel_append (List.rel_append (List.rel_append (List.rel_append quoted space) colon)
    space) within

theorem enrollKey_widen {text : List Char} (held : Holds (enrollKeyPattern exactly) text) :
    Holds (enrollKeyPattern ignoringCase) text := by
  have quote := literal_within ignoringCase_of_exactly ['"']
  have value : List.Forall₂ Item.Within [Item.one (· != '"'), Item.many (· != '"')]
      [Item.one (· != '"'), Item.many (· != '"')] :=
    .cons (Item.Within.refl _) (.cons (Item.Within.refl _) .nil)
  exact held.widen (field_within "enroll-key" (List.rel_append (List.rel_append quote value) quote))

/-- Data of a company is found whatever its case. -/
theorem TenantData.widen {text : List Char} (data : TenantData exactly text) :
    TenantData ignoringCase text := by
  constructor
  · exact data.1.widen (literal_within ignoringCase_of_exactly _)
  · cases data.2 with
    | inl key => exact .inl (enrollKey_widen key)
    | inr unattended =>
      exact .inr (unattended.widen
        (field_within "unattended" (literal_within ignoringCase_of_exactly _)))

instance (same : Char → Char → Bool) (text : List Char) : Decidable (TenantData same text) :=
  inferInstanceAs (Decidable (_ ∧ _))

/-- The installed file is kept exactly when it has data of a company, whatever its case. -/
theorem preserve_some (file : List UInt8) :
    preserve (some file) =
      if TenantData ignoringCase (readAllText file) then .installed (readAllText file)
      else .bundled := by
  unfold preserve
  simp only [TenantData, ← found_iff]
  generalize readAllText file = old
  by_cases empty : old = []
  · have nothing : found (connTypePattern ignoringCase) [] = false := by decide
    rw [if_pos empty, empty, nothing, if_neg fun data => Bool.false_ne_true data.1]
  rw [if_neg empty]
  cases found (connTypePattern ignoringCase) old <;>
    cases found (enrollKeyPattern ignoringCase) old <;>
    cases found (unattendedPattern ignoringCase) old <;> rfl

/-- The staged file is written whether the script goes on or not. -/
theorem script_stage (disk : Disk) :
    (script disk).stage = (write disk (extract disk).1).stage := by
  unfold script
  cases extract disk with
  | mk staged goesOn =>
    cases goesOn with
    | false => rfl
    | true => rfl

/-- With an overlay the script stages it and goes on. -/
theorem extract_carried {disk : Disk} {setup config : List UInt8} (given : disk.setup = some setup)
    (carried : CarriesOverlay setup config) :
    extract disk = (.overlay (decodeUtf8 config), true) := by
  unfold extract
  rw [given]
  simp only
  rw [readOverlay_carried carried]

/-- Without an overlay the script ends after it kept the installed file or not. -/
theorem extract_bare {disk : Disk} {setup : List UInt8} (given : disk.setup = some setup)
    (bare : ¬ ∃ config, CarriesOverlay setup config) :
    extract disk = (preserve disk.existing, false) := by
  unfold extract
  rw [given]
  simp only
  cases read : readOverlay setup with
  | none => rfl
  | some cfg =>
    obtain ⟨config, carried, -⟩ := carried_readOverlay read
    exact (bare ⟨config, carried⟩).elim

end ChainRemote.Installer.EnrollOverlay
