import ChainRemote.Lib.Utf8
import ChainRemote.Lib.Utf16

/-!
# Text files

A text file is read in the encoding that its byte order mark tells, without the mark, and as UTF-8
where it has none. What is ill formed is read as the replacement character. It is written as UTF-8
without a mark.
-/

namespace Lib

/-- Bytes as 16-bit units, and whether a byte is left over. -/
def unitsOf (join : UInt8 → UInt8 → ℕ) : List UInt8 → List UInt16 × Bool
  | [] => ([], false)
  | [_] => ([], true)
  | first :: second :: rest =>
    (UInt16.ofNat (join first second) :: (unitsOf join rest).1, (unitsOf join rest).2)

/-- The characters of UTF-16. -/
def readUtf16 (join : UInt8 → UInt8 → ℕ) (bytes : List UInt8) : List Char :=
  (codePoints (unitsOf join bytes).1).map (Sum.elim id fun _ => replacement) ++
    if (unitsOf join bytes).2 then [replacement] else []

/-- The characters of UTF-32. -/
def readUtf32 (join : UInt8 → UInt8 → UInt8 → UInt8 → ℕ) : List UInt8 → List Char
  | first :: second :: third :: fourth :: rest =>
    (let n := join first second third fourth
      if n.isValidChar then Char.ofNat n else replacement) :: readUtf32 join rest
  | [] => []
  | _ => [replacement]

/-- The text of a file. -/
def readAllText (bytes : List UInt8) : List Char :=
  if [0xfe, 0xff].isPrefixOf bytes then
    readUtf16 (fun high low => ofLe [low, high]) (bytes.drop 2)
  else if [0xff, 0xfe, 0, 0].isPrefixOf bytes then
    readUtf32 (fun a b c d => ofLe [a, b, c, d]) (bytes.drop 4)
  else if [0xff, 0xfe].isPrefixOf bytes then
    readUtf16 (fun low high => ofLe [low, high]) (bytes.drop 2)
  else if [0xef, 0xbb, 0xbf].isPrefixOf bytes then decodeUtf8 (bytes.drop 3)
  else if [0, 0, 0xfe, 0xff].isPrefixOf bytes then
    readUtf32 (fun d c b a => ofLe [a, b, c, d]) (bytes.drop 4)
  else decodeUtf8 bytes

/-- The bytes of a text file. -/
def writeAllText (text : List Char) : List UInt8 := encodeUtf8 text

/-- No byte of UTF-8 is above those that start characters. -/
theorem encodeUtf8_lt {text : List Char} {byte : UInt8} (member : byte ∈ encodeUtf8 text) :
    byte.toNat < 0xf8 := by
  obtain ⟨c, -, within⟩ := List.mem_flatMap.mp member
  unfold String.utf8EncodeChar at within
  simp only at within
  split at within
  · simp only [List.mem_singleton] at within
    subst within
    rw [toNat_byte (by omega)]
    omega
  · split at within
    · simp only [List.mem_cons, List.not_mem_nil, or_false] at within
      obtain rfl | rfl := within <;> rw [toNat_byte (by omega)] <;> omega
    · split at within
      · simp only [List.mem_cons, List.not_mem_nil, or_false] at within
        obtain rfl | rfl | rfl := within <;> rw [toNat_byte (by omega)] <;> omega
      · simp only [List.mem_cons, List.not_mem_nil, or_false] at within
        obtain rfl | rfl | rfl | rfl := within <;> rw [toNat_byte (by omega)] <;> omega

/-- UTF-8 does not start with a mark that has a higher byte. -/
theorem encodeUtf8_unmarked {mark : List UInt8} {byte : UInt8} (member : byte ∈ mark)
    (high : 0xf8 ≤ byte.toNat) (text : List Char) :
    mark.isPrefixOf (encodeUtf8 text) = false := by
  cases marked : mark.isPrefixOf (encodeUtf8 text) with
  | false => rfl
  | true =>
    have low := encodeUtf8_lt ((List.isPrefixOf_iff_prefix.mp marked).subset member)
    omega

/-- A text that was written is read back, but for a byte order mark in front. -/
theorem readAllText_write (text : List Char) :
    readAllText (writeAllText text) = text ∨
      text = '\uFEFF' :: readAllText (writeAllText text) := by
  have bigEndian : [0xfe, 0xff].isPrefixOf (encodeUtf8 text) = false :=
    encodeUtf8_unmarked List.mem_cons_self (by decide) text
  have little32 : [0xff, 0xfe, 0, 0].isPrefixOf (encodeUtf8 text) = false :=
    encodeUtf8_unmarked List.mem_cons_self (by decide) text
  have little16 : [0xff, 0xfe].isPrefixOf (encodeUtf8 text) = false :=
    encodeUtf8_unmarked List.mem_cons_self (by decide) text
  have big32 : [0, 0, 0xfe, 0xff].isPrefixOf (encodeUtf8 text) = false :=
    encodeUtf8_unmarked (List.mem_cons_of_mem 0 (List.mem_cons_of_mem 0 List.mem_cons_self))
      (by decide) text
  rw [writeAllText, readAllText, bigEndian, little32, little16, big32]
  by_cases marked : [0xef, 0xbb, 0xbf].isPrefixOf (encodeUtf8 text) = true
  · obtain ⟨rest, whole⟩ := List.isPrefixOf_iff_prefix.mp marked
    right
    have read : decodeUtf8 (encodeUtf8 text) = '\uFEFF' :: decodeUtf8 rest := by
      rw [← whole]
      exact decodeUtf8_encodeChar '\uFEFF' rest
    rw [decodeUtf8_encode] at read
    simp only [Bool.false_eq_true, ↓reduceIte, ← whole]
    exact read
  · left
    simp only [Bool.false_eq_true, ↓reduceIte, marked]
    exact decodeUtf8_encode text

end Lib
