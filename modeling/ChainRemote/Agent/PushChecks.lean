import ChainRemote.Lib.Decimal

/-!
# What the push agent accepts

The pure functions of `chainremote_update_common.rs` and `chainremote_push_agent.rs`: the
version and hash checks, the hour window, and the decoding of a served push. Text is a list
of Unicode scalar values in both languages.
-/

namespace ChainRemote.Agent

open Lib

/-- The white space that `str::trim` removes. -/
def rustBlank (c : Char) : Bool :=
  let n := c.toNat
  (9 ≤ n && n ≤ 13) || n == 0x20 || n == 0x85 || n == 0xA0 || n == 0x1680 ||
    (0x2000 ≤ n && n ≤ 0x200A) || n == 0x2028 || n == 0x2029 || n == 0x202F || n == 0x205F ||
    n == 0x3000

/-- No character between the digit zero and the letter f is white space. -/
theorem rustBlank_of_between {c : Char} (low : 48 ≤ c.toNat) (high : c.toNat ≤ 102) :
    rustBlank c = false := by
  simp only [rustBlank, Bool.or_eq_false_iff, Bool.and_eq_false_iff, decide_eq_false_iff_not,
    beq_eq_false_iff_ne]
  omega

theorem rustBlank_of_isDigit {c : Char} (digit : c.isDigit = true) : rustBlank c = false := by
  simp only [Char.isDigit, Bool.and_eq_true, decide_eq_true_eq] at digit
  have low : 48 ≤ c.toNat := digit.1
  have high : c.toNat ≤ 57 := digit.2
  exact rustBlank_of_between low (by omega)

/-- `s.trim()`. -/
def rustTrim (s : String) : List Char := stripWhere rustBlank s.toList

/-- The text without a plus sign in front. -/
def withoutPlus : List Char → List Char
  | '+' :: rest => rest
  | text => text

/-- `str::parse::<u32>`: digits, possibly after a plus sign. -/
def parseU32 (text : List Char) : Option Nat :=
  let digits := withoutPlus text
  if isDigits digits && digitsValue digits < 2 ^ 32 then some (digitsValue digits) else none

/-- The third place of a version: its leading digits, or zero. -/
def parseBuild (text : List Char) : Option Nat :=
  let digits := text.takeWhile Char.isDigit
  if digits = [] then some 0 else parseU32 digits

/-- `parse_version`. -/
def parseVersion (s : String) : Option (Nat × Nat × Nat) :=
  match (rustTrim s).splitOn '.' with
  | major :: minor :: build :: _ => do
    let major ← parseU32 major
    let minor ← parseU32 minor
    let build ← parseBuild build
    return (major, minor, build)
  | _ => none

/-- `is_newer`: the order of triples. -/
def isNewer (a b : Nat × Nat × Nat) : Bool :=
  b.1 < a.1 || b.1 == a.1 && (b.2.1 < a.2.1 || b.2.1 == a.2.1 && b.2.2 < a.2.2)

/-- `is_newer_str`; `none` where one of the texts is no version. -/
def isNewerStr (a b : String) : Option Bool := do
  let a ← parseVersion a
  let b ← parseVersion b
  return isNewer a b

/-- `is_valid_sha256_hex`. Text of 64 bytes that are all hexadecimal digits has 64 characters. -/
def isValidSha256Hex (expected : String) : Bool :=
  let t := rustTrim expected
  t.length == 64 && t.all isHexDigit

/-- `within_business_window` at an hour of the day. -/
def withinBusinessWindow (startHour endHour hour : Nat) : Bool :=
  if startHour ≤ endHour then startHour ≤ hour && hour < endHour
  else startHour ≤ hour || hour < endHour

/-- `PendingResponse` of a served push. -/
structure PendingResponse (ι : Type) where
  id : ι
  targetVersion : String
  assetUrl : String
  assetSha256 : String
  assetSize : Nat
  windowStartHour : Nat
  windowEndHour : Nat
  randomizeMaxSec : Nat
deriving DecidableEq, Repr

/-- An unsigned field of `bits` bits. -/
def decodeUnsigned (bits : Nat) (value : Int) : Option Nat :=
  if 0 ≤ value ∧ value < 2 ^ bits then some value.toNat else none

/-- The unsigned decimal numbers below `2 ^ 32`, possibly after a plus sign. -/
def Numeral (text : List Char) : Prop :=
  ∃ digits, (text = digits ∨ text = '+' :: digits) ∧ isDigits digits = true ∧
    digitsValue digits < 2 ^ 32

/-- At least three places: two numerals, and digits in front of the third that stay below
`2 ^ 32`. -/
def Readable (text : String) : Prop :=
  ∃ major minor build rest, (rustTrim text).splitOn '.' = major :: minor :: build :: rest ∧
    Numeral major ∧ Numeral minor ∧ digitsValue (build.takeWhile Char.isDigit) < 2 ^ 32

/-- The sign is no digit. -/
theorem not_isDigits_plus (rest : List Char) : isDigits ('+' :: rest) = false := by
  cases digits : isDigits ('+' :: rest) with
  | false => rfl
  | true =>
    have sign := isDigits_all digits '+' List.mem_cons_self
    revert sign
    decide

theorem withoutPlus_spec (text : List Char) :
    text = withoutPlus text ∨ text = '+' :: withoutPlus text := by
  unfold withoutPlus
  split
  · exact .inr rfl
  · exact .inl rfl

/-- A numeral has no sign to drop. -/
theorem withoutPlus_of_isDigits {text : List Char} (digits : isDigits text = true) :
    withoutPlus text = text := by
  rcases withoutPlus_spec text with same | signed
  · exact same.symm
  · rw [signed, not_isDigits_plus] at digits
    cases digits

theorem parseU32_isSome (text : List Char) : (parseU32 text).isSome = true ↔ Numeral text := by
  have parses : (parseU32 text).isSome = true ↔
      isDigits (withoutPlus text) = true ∧ digitsValue (withoutPlus text) < 2 ^ 32 := by
    simp [parseU32, Option.isSome_ite]
  rw [parses]
  constructor
  · exact fun accepted => ⟨withoutPlus text, withoutPlus_spec text, accepted⟩
  · rintro ⟨digits, rfl | rfl, all, small⟩
    · rw [withoutPlus_of_isDigits all]
      exact ⟨all, small⟩
    · exact ⟨all, small⟩

/-- The digits in front of a place are a numeral, unless there are none. -/
theorem parseBuild_isSome (text : List Char) :
    (parseBuild text).isSome = true ↔ digitsValue (text.takeWhile Char.isDigit) < 2 ^ 32 := by
  unfold parseBuild
  by_cases none : text.takeWhile Char.isDigit = []
  · simp [none, digitsValue]
  · dsimp only
    rw [if_neg none, parseU32_isSome]
    have digits : isDigits (text.takeWhile Char.isDigit) = true := by
      simp only [isDigits, Bool.and_eq_true, bne_iff_ne, List.all_eq_true]
      exact ⟨none, fun c inside => List.mem_takeWhile_imp inside⟩
    constructor
    · rintro ⟨own, same | signed, -, small⟩
      · rw [same]
        exact small
      · rw [signed, not_isDigits_plus] at digits
        cases digits
    · exact fun small => ⟨_, .inl rfl, digits, small⟩

/-- `parse_version` accepts the readable texts. -/
theorem parseVersion_isSome (text : String) :
    (parseVersion text).isSome = true ↔ Readable text := by
  unfold parseVersion Readable
  split
  · rename_i major minor build rest split
    have parts : ((do
        let major ← parseU32 major
        let minor ← parseU32 minor
        let build ← parseBuild build
        return (major, minor, build) : Option (Nat × Nat × Nat))).isSome = true ↔
          (parseU32 major).isSome = true ∧ (parseU32 minor).isSome = true ∧
            (parseBuild build).isSome = true := by
      cases parseU32 major <;> cases parseU32 minor <;> cases parseBuild build <;> simp
    rw [parts, parseU32_isSome, parseU32_isSome, parseBuild_isSome]
    constructor
    · exact fun fits => ⟨major, minor, build, rest, split, fits⟩
    · rintro ⟨major', minor', build', rest', split', fits⟩
      rw [split] at split'
      simp only [List.cons.injEq] at split'
      obtain ⟨rfl, rfl, rfl, rfl⟩ := split'
      exact fits
  · rename_i short
    refine iff_of_false nofun ?_
    rintro ⟨major, minor, build, rest, split, -⟩
    exact short major minor build rest split

/-- A window of two different hours opens, unless it runs from 24 to 0. -/
theorem withinBusinessWindow_iff {startHour endHour : Nat} (start : startHour ≤ 24)
    (close : endHour ≤ 24) (apart : startHour ≠ endHour) :
    (∃ hour, hour < 24 ∧ withinBusinessWindow startHour endHour hour = true) ↔
      ¬ (startHour = 24 ∧ endHour = 0) := by
  constructor
  · rintro ⟨hour, day, inside⟩ ⟨rfl, rfl⟩
    simp [withinBusinessWindow] at inside
    omega
  · intro opens
    by_cases ordered : startHour ≤ endHour
    · refine ⟨startHour, by omega, ?_⟩
      simp [withinBusinessWindow, ordered]
      omega
    · by_cases night : startHour < 24
      · exact ⟨startHour, night, by simp [withinBusinessWindow, ordered]⟩
      · refine ⟨0, by omega, ?_⟩
        simp [withinBusinessWindow, ordered]
        omega

end ChainRemote.Agent
