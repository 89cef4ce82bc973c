import Mathlib.Data.Nat.Notation

/-!
# UTF-8

Characters as bytes, and bytes as characters by a machine that takes one byte at a time. Decoding is
lossy: where the bytes are ill formed the replacement character stands for the longest part of them
that could still have begun a character, and decoding goes on at the byte after that part.
-/

namespace Lib

/-- The bytes of characters. -/
def encodeUtf8 (text : List Char) : List UInt8 := text.flatMap String.utf8EncodeChar

/-- The character that stands for bytes that are none. -/
def replacement : Char := '\uFFFD'

/-- A character whose first bytes are read: its bits so far, the bytes that follow the next one, and
the bounds of the next one. -/
structure Pending where
  code : ℕ
  more : ℕ
  low : ℕ
  high : ℕ

/-- What a byte between characters is: a character, the start of one, or neither. -/
def startChar (byte : UInt8) : List Char × Option Pending :=
  let b := byte.toNat
  if b < 0x80 then ([Char.ofNat b], none)
  else if 0xc2 ≤ b ∧ b < 0xe0 then ([], some ⟨b - 0xc0, 0, 0x80, 0xbf⟩)
  else if 0xe0 ≤ b ∧ b < 0xf0 then
    ([], some ⟨b - 0xe0, 1, if b = 0xe0 then 0xa0 else 0x80, if b = 0xed then 0x9f else 0xbf⟩)
  else if 0xf0 ≤ b ∧ b < 0xf5 then
    ([], some ⟨b - 0xf0, 2, if b = 0xf0 then 0x90 else 0x80, if b = 0xf4 then 0x8f else 0xbf⟩)
  else ([replacement], none)

/-- What a byte within a character is: its last byte, one of its bytes, or the end of an ill-formed
part, and then the byte stands between characters. -/
def continueChar (pending : Pending) (byte : UInt8) : List Char × Option Pending :=
  if pending.low ≤ byte.toNat ∧ byte.toNat ≤ pending.high then
    let code := pending.code * 64 + (byte.toNat - 0x80)
    match pending.more with
    | 0 => ([Char.ofNat code], none)
    | more + 1 => ([], some ⟨code, more, 0x80, 0xbf⟩)
  else (replacement :: (startChar byte).1, (startChar byte).2)

/-- The characters of bytes that come after the first bytes of a character, if any are read. -/
def decodeFrom : Option Pending → List UInt8 → List Char
  | none, [] => []
  | some _, [] => [replacement]
  | none, byte :: rest => (startChar byte).1 ++ decodeFrom (startChar byte).2 rest
  | some pending, byte :: rest =>
    (continueChar pending byte).1 ++ decodeFrom (continueChar pending byte).2 rest

/-- The characters that bytes are. -/
def decodeUtf8 (bytes : List UInt8) : List Char := decodeFrom none bytes

/-- A byte that starts a character is remembered. -/
theorem decodeFrom_start {byte : UInt8} {pending : Pending}
    (starts : startChar byte = ([], some pending)) (rest : List UInt8) :
    decodeFrom none (byte :: rest) = decodeFrom (some pending) rest := by
  rw [decodeFrom, starts]
  rfl

/-- A byte within its bounds adds its bits. -/
theorem decodeFrom_continue {pending : Pending} {byte : UInt8} {more : ℕ}
    (within : pending.low ≤ byte.toNat ∧ byte.toNat ≤ pending.high)
    (middle : pending.more = more + 1) (rest : List UInt8) :
    decodeFrom (some pending) (byte :: rest) =
      decodeFrom (some ⟨pending.code * 64 + (byte.toNat - 0x80), more, 0x80, 0xbf⟩) rest := by
  rw [decodeFrom, continueChar, if_pos within, middle]
  rfl

/-- The last byte within its bounds ends the character. -/
theorem decodeFrom_last {pending : Pending} {byte : UInt8}
    (within : pending.low ≤ byte.toNat ∧ byte.toNat ≤ pending.high) (last : pending.more = 0)
    (rest : List UInt8) :
    decodeFrom (some pending) (byte :: rest) =
      Char.ofNat (pending.code * 64 + (byte.toNat - 0x80)) :: decodeFrom none rest := by
  rw [decodeFrom, continueChar, if_pos within, last]
  rfl

theorem toNat_byte {n : ℕ} (fits : n < 256) : (UInt8.ofNat n).toNat = n :=
  UInt8.toNat_ofNat_of_lt' fits

theorem toNat_continuation (n : ℕ) :
    (UInt8.ofNat (n % 0x40 + 0x80)).toNat = n % 0x40 + 0x80 :=
  toNat_byte (by omega)

theorem continuation_within (n : ℕ) :
    0x80 ≤ (UInt8.ofNat (n % 0x40 + 0x80)).toNat ∧
      (UInt8.ofNat (n % 0x40 + 0x80)).toNat ≤ 0xbf := by
  rw [toNat_continuation]
  omega

theorem decodeFrom_one {n : ℕ} (upper : n ≤ 0x7f) (rest : List UInt8) :
    decodeFrom none (UInt8.ofNat n :: rest) = Char.ofNat n :: decodeFrom none rest := by
  rw [decodeFrom, startChar, toNat_byte (by omega), if_pos (by omega)]
  rfl

theorem startChar_two {n : ℕ} (lower : 0x7f < n) (upper : n ≤ 0x7ff) :
    startChar (UInt8.ofNat (n / 64 % 0x20 + 0xc0)) =
      ([], some ⟨n / 64 % 0x20 + 0xc0 - 0xc0, 0, 0x80, 0xbf⟩) := by
  rw [startChar, toNat_byte (by omega), if_neg (by omega), if_pos (by omega)]

theorem startChar_three (n : ℕ) :
    startChar (UInt8.ofNat (n / 4096 % 0x10 + 0xe0)) =
      ([], some ⟨n / 4096 % 0x10 + 0xe0 - 0xe0, 1,
        if n / 4096 % 0x10 + 0xe0 = 0xe0 then 0xa0 else 0x80,
        if n / 4096 % 0x10 + 0xe0 = 0xed then 0x9f else 0xbf⟩) := by
  rw [startChar, toNat_byte (by omega), if_neg (by omega), if_neg (by omega), if_pos (by omega)]

theorem startChar_four {n : ℕ} (upper : n < 0x110000) :
    startChar (UInt8.ofNat (n / 262144 % 0x08 + 0xf0)) =
      ([], some ⟨n / 262144 % 0x08 + 0xf0 - 0xf0, 2,
        if n / 262144 % 0x08 + 0xf0 = 0xf0 then 0x90 else 0x80,
        if n / 262144 % 0x08 + 0xf0 = 0xf4 then 0x8f else 0xbf⟩) := by
  rw [startChar, toNat_byte (by omega), if_neg (by omega), if_neg (by omega), if_neg (by omega),
    if_pos (by omega)]

theorem decodeFrom_two {n : ℕ} (lower : 0x7f < n) (upper : n ≤ 0x7ff) (rest : List UInt8) :
    decodeFrom none (UInt8.ofNat (n / 64 % 0x20 + 0xc0) :: UInt8.ofNat (n % 0x40 + 0x80) :: rest) =
      Char.ofNat n :: decodeFrom none rest := by
  have whole : (n / 64 % 0x20 + 0xc0 - 0xc0) * 64 + (n % 0x40 + 0x80 - 0x80) = n := by omega
  rw [decodeFrom_start (startChar_two lower upper), decodeFrom_last _ rfl, toNat_continuation,
    whole]
  exact continuation_within n

/-- The second byte of three is within the bounds that the first one sets. -/
theorem second_of_three {n : ℕ} (lower : 0x7ff < n) (upper : n ≤ 0xffff)
    (scalar : n < 0xd800 ∨ 0xdfff < n) :
    (if n / 4096 % 0x10 + 0xe0 = 0xe0 then 0xa0 else 0x80) ≤
        (UInt8.ofNat (n / 64 % 0x40 + 0x80)).toNat ∧
      (UInt8.ofNat (n / 64 % 0x40 + 0x80)).toNat ≤
        if n / 4096 % 0x10 + 0xe0 = 0xed then 0x9f else 0xbf := by
  rw [toNat_continuation]
  constructor <;> split <;> omega

theorem decodeFrom_three {n : ℕ} (lower : 0x7ff < n) (upper : n ≤ 0xffff)
    (scalar : n < 0xd800 ∨ 0xdfff < n) (rest : List UInt8) :
    decodeFrom none (UInt8.ofNat (n / 4096 % 0x10 + 0xe0) :: UInt8.ofNat (n / 64 % 0x40 + 0x80) ::
      UInt8.ofNat (n % 0x40 + 0x80) :: rest) = Char.ofNat n :: decodeFrom none rest := by
  have whole : ((n / 4096 % 0x10 + 0xe0 - 0xe0) * 64 + (n / 64 % 0x40 + 0x80 - 0x80)) * 64 +
      (n % 0x40 + 0x80 - 0x80) = n := by omega
  rw [decodeFrom_start (startChar_three n),
    decodeFrom_continue (second_of_three lower upper scalar) rfl, decodeFrom_last _ rfl,
    toNat_continuation, toNat_continuation, whole]
  exact continuation_within n

/-- The second byte of four is within the bounds that the first one sets. -/
theorem second_of_four {n : ℕ} (lower : 0xffff < n) (upper : n < 0x110000) :
    (if n / 262144 % 0x08 + 0xf0 = 0xf0 then 0x90 else 0x80) ≤
        (UInt8.ofNat (n / 4096 % 0x40 + 0x80)).toNat ∧
      (UInt8.ofNat (n / 4096 % 0x40 + 0x80)).toNat ≤
        if n / 262144 % 0x08 + 0xf0 = 0xf4 then 0x8f else 0xbf := by
  rw [toNat_continuation]
  constructor <;> split <;> omega

theorem decodeFrom_four {n : ℕ} (lower : 0xffff < n) (upper : n < 0x110000) (rest : List UInt8) :
    decodeFrom none (UInt8.ofNat (n / 262144 % 0x08 + 0xf0) ::
      UInt8.ofNat (n / 4096 % 0x40 + 0x80) :: UInt8.ofNat (n / 64 % 0x40 + 0x80) ::
      UInt8.ofNat (n % 0x40 + 0x80) :: rest) = Char.ofNat n :: decodeFrom none rest := by
  have whole : (((n / 262144 % 0x08 + 0xf0 - 0xf0) * 64 + (n / 4096 % 0x40 + 0x80 - 0x80)) * 64 +
      (n / 64 % 0x40 + 0x80 - 0x80)) * 64 + (n % 0x40 + 0x80 - 0x80) = n := by omega
  rw [decodeFrom_start (startChar_four upper), decodeFrom_continue (second_of_four lower upper) rfl,
    decodeFrom_continue (continuation_within (n / 64)) rfl, decodeFrom_last _ rfl,
    toNat_continuation, toNat_continuation, toNat_continuation, whole]
  exact continuation_within n

/-- The bytes of a character in front of others are read as the character. -/
theorem decodeUtf8_encodeChar (c : Char) (rest : List UInt8) :
    decodeUtf8 (String.utf8EncodeChar c ++ rest) = c :: decodeUtf8 rest := by
  have scalar : c.val.toNat < 0xd800 ∨ 0xdfff < c.val.toNat ∧ c.val.toNat < 0x110000 := c.valid
  have number : Char.ofNat c.val.toNat = c := Char.ofNat_toNat c
  unfold decodeUtf8 String.utf8EncodeChar
  simp only
  split
  case isTrue one => exact (decodeFrom_one one rest).trans (by rw [number])
  case isFalse one =>
    split
    case isTrue two => exact (decodeFrom_two (by omega) two rest).trans (by rw [number])
    case isFalse two =>
      split
      case isTrue three =>
        exact (decodeFrom_three (by omega) three (by omega) rest).trans (by rw [number])
      case isFalse three =>
        exact (decodeFrom_four (by omega) (by omega) rest).trans (by rw [number])

/-- The bytes of characters are read as the characters. -/
theorem decodeUtf8_encode (text : List Char) : decodeUtf8 (encodeUtf8 text) = text := by
  induction text with
  | nil => rfl
  | cons c rest ih =>
    rw [encodeUtf8, List.flatMap_cons, decodeUtf8_encodeChar]
    rw [encodeUtf8] at ih
    rw [ih]

end Lib
