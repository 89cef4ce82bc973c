import Mathlib.Data.List.DropRight
import Mathlib.Data.Nat.Notation

/-!
# Base64

Bytes as letters of six bits: for URLs without padding, and the standard way with it. Decoding is
strict, so that the bits which no byte takes must be zero. For URLs the hyphen is the letter of 62,
and for ASCII it is only ever a last letter of four.
-/

namespace Lib

/-- The letter of a number. -/
def base64Letter (n : ℕ) : Char :=
  if n < 26 then Char.ofNat (n + 65)
  else if n < 52 then Char.ofNat (n + 71)
  else if n < 62 then Char.ofNat (n - 4)
  else if n = 62 then '-'
  else '_'

/-- The number of a letter. -/
def base64Value (c : Char) : Option ℕ :=
  if 'A' ≤ c ∧ c ≤ 'Z' then some (c.toNat - 65)
  else if 'a' ≤ c ∧ c ≤ 'z' then some (c.toNat - 71)
  else if '0' ≤ c ∧ c ≤ '9' then some (c.toNat + 4)
  else if c = '-' then some 62
  else if c = '_' then some 63
  else none

/-- Bytes in base64. -/
def encodeBase64 : List UInt8 → List Char
  | [] => []
  | [a] => [base64Letter (a.toNat / 4), base64Letter (a.toNat % 4 * 16)]
  | [a, b] =>
    [base64Letter (a.toNat / 4), base64Letter (a.toNat % 4 * 16 + b.toNat / 16),
      base64Letter (b.toNat % 16 * 4)]
  | a :: b :: c :: rest =>
    base64Letter (a.toNat / 4) :: base64Letter (a.toNat % 4 * 16 + b.toNat / 16) ::
      base64Letter (b.toNat % 16 * 4 + c.toNat / 64) :: base64Letter (c.toNat % 64) ::
      encodeBase64 rest

/-- The bytes of a text in base64. -/
def decodeBase64 : List Char → Option (List UInt8)
  | [] => some []
  | [_] => none
  | [p, q] => do
    let w ← base64Value p
    let x ← base64Value q
    if x % 16 = 0 then some [UInt8.ofNat (w * 4 + x / 16)] else none
  | [p, q, r] => do
    let w ← base64Value p
    let x ← base64Value q
    let y ← base64Value r
    if y % 4 = 0 then
      some [UInt8.ofNat (w * 4 + x / 16), UInt8.ofNat (x % 16 * 16 + y / 4)]
    else none
  | p :: q :: r :: s :: rest => do
    let w ← base64Value p
    let x ← base64Value q
    let y ← base64Value r
    let z ← base64Value s
    let tail ← decodeBase64 rest
    some (UInt8.ofNat (w * 4 + x / 16) :: UInt8.ofNat (x % 16 * 16 + y / 4) ::
      UInt8.ofNat (y % 4 * 64 + z) :: tail)

theorem base64Value_letter {n : ℕ} (small : n < 64) : base64Value (base64Letter n) = some n := by
  have all : ∀ n ∈ List.range 64, base64Value (base64Letter n) = some n := by decide
  exact all n (List.mem_range.mpr small)

/-- What is encoded is decoded. -/
theorem decodeBase64_encode (bytes : List UInt8) :
    decodeBase64 (encodeBase64 bytes) = some bytes := by
  induction bytes using encodeBase64.induct with
  | case1 => rfl
  | case2 a =>
    have low := a.toNat_lt
    rw [encodeBase64, decodeBase64, base64Value_letter (by omega), base64Value_letter (by omega)]
    show (if a.toNat % 4 * 16 % 16 = 0 then
      some [UInt8.ofNat (a.toNat / 4 * 4 + a.toNat % 4 * 16 / 16)] else none) = _
    have whole : a.toNat / 4 * 4 + a.toNat % 4 * 16 / 16 = a.toNat := by omega
    rw [if_pos (by omega), whole, UInt8.ofNat_toNat]
  | case3 a b =>
    have low := a.toNat_lt
    have next := b.toNat_lt
    rw [encodeBase64, decodeBase64, base64Value_letter (by omega), base64Value_letter (by omega),
      base64Value_letter (by omega)]
    show (if b.toNat % 16 * 4 % 4 = 0 then
      some [UInt8.ofNat (a.toNat / 4 * 4 + (a.toNat % 4 * 16 + b.toNat / 16) / 16),
        UInt8.ofNat ((a.toNat % 4 * 16 + b.toNat / 16) % 16 * 16 + b.toNat % 16 * 4 / 4)]
      else none) = _
    have first : a.toNat / 4 * 4 + (a.toNat % 4 * 16 + b.toNat / 16) / 16 = a.toNat := by omega
    have second : (a.toNat % 4 * 16 + b.toNat / 16) % 16 * 16 + b.toNat % 16 * 4 / 4 =
        b.toNat := by omega
    rw [if_pos (by omega), first, second, UInt8.ofNat_toNat, UInt8.ofNat_toNat]
  | case4 a b c rest ih =>
    have low := a.toNat_lt
    have next := b.toNat_lt
    have last := c.toNat_lt
    rw [encodeBase64, decodeBase64, base64Value_letter (by omega), base64Value_letter (by omega),
      base64Value_letter (by omega), base64Value_letter (by omega), ih]
    have first : a.toNat / 4 * 4 + (a.toNat % 4 * 16 + b.toNat / 16) / 16 = a.toNat := by omega
    have second : (a.toNat % 4 * 16 + b.toNat / 16) % 16 * 16 +
        (b.toNat % 16 * 4 + c.toNat / 64) / 4 = b.toNat := by omega
    have third : (b.toNat % 16 * 4 + c.toNat / 64) % 4 * 64 + c.toNat % 64 = c.toNat := by omega
    show some (UInt8.ofNat (a.toNat / 4 * 4 + (a.toNat % 4 * 16 + b.toNat / 16) / 16) ::
      UInt8.ofNat ((a.toNat % 4 * 16 + b.toNat / 16) % 16 * 16 +
        (b.toNat % 16 * 4 + c.toNat / 64) / 4) ::
      UInt8.ofNat ((b.toNat % 16 * 4 + c.toNat / 64) % 4 * 64 + c.toNat % 64) :: rest) = _
    rw [first, second, third, UInt8.ofNat_toNat, UInt8.ofNat_toNat, UInt8.ofNat_toNat]

/-- A text with another letter is not decoded. -/
theorem decodeBase64_letters {text : List Char} {bytes : List UInt8}
    (decoded : decodeBase64 text = some bytes) : ∀ c ∈ text, (base64Value c).isSome = true := by
  have read : ∀ {β : Type} {c : Char} {next : ℕ → Option β} {result : β},
      (base64Value c).bind next = some result →
      (base64Value c).isSome = true ∧ ∃ n, next n = some result := by
    intro β c next result bound
    obtain ⟨n, value, rest⟩ := Option.bind_eq_some_iff.mp bound
    exact ⟨by rw [value]; rfl, n, rest⟩
  induction text using decodeBase64.induct generalizing bytes with
  | case1 => exact fun c inside => absurd inside List.not_mem_nil
  | case2 _ => cases decoded
  | case3 p q =>
    obtain ⟨first, w, decoded⟩ := read decoded
    obtain ⟨second, x, decoded⟩ := read decoded
    intro c inside
    simp only [List.mem_cons, List.not_mem_nil, or_false] at inside
    rcases inside with rfl | rfl
    · exact first
    · exact second
  | case4 p q r =>
    obtain ⟨first, w, decoded⟩ := read decoded
    obtain ⟨second, x, decoded⟩ := read decoded
    obtain ⟨third, y, decoded⟩ := read decoded
    intro c inside
    simp only [List.mem_cons, List.not_mem_nil, or_false] at inside
    rcases inside with rfl | rfl | rfl
    · exact first
    · exact second
    · exact third
  | case5 p q r s rest ih =>
    obtain ⟨first, w, decoded⟩ := read decoded
    obtain ⟨second, x, decoded⟩ := read decoded
    obtain ⟨third, y, decoded⟩ := read decoded
    obtain ⟨fourth, z, decoded⟩ := read decoded
    obtain ⟨tail, others, -⟩ := Option.bind_eq_some_iff.mp decoded
    intro c inside
    simp only [List.mem_cons] at inside
    rcases inside with rfl | rfl | rfl | rfl | later
    · exact first
    · exact second
    · exact third
    · exact fourth
    · exact ih others c later

/-- The letters of encoded bytes are those of base64. -/
theorem encodeBase64_letters (bytes : List UInt8) :
    ∀ c ∈ encodeBase64 bytes, (base64Value c).isSome = true :=
  decodeBase64_letters (decodeBase64_encode bytes)

theorem base64Letter_ne_hyphen {n : ℕ} (small : n < 64) (other : n ≠ 62) :
    base64Letter n ≠ '-' := by
  have all : ∀ n ∈ List.range 64, n ≠ 62 → base64Letter n ≠ '-' := by decide
  exact all n (List.mem_range.mpr small) other

/-- A hyphen is behind letters without one. -/
theorem hyphen_behind {letters rest : List Char} (solid : ∀ c ∈ letters, c ≠ '-') {i : ℕ}
    (hyphen : (letters ++ rest)[i]? = some '-') :
    letters.length ≤ i ∧ rest[i - letters.length]? = some '-' := by
  by_cases inside : i < letters.length
  · rw [List.getElem?_append_left inside] at hyphen
    exact absurd rfl (solid _ (List.mem_of_getElem? hyphen))
  · have behind : letters.length ≤ i := by omega
    rw [List.getElem?_append_right behind] at hyphen
    exact ⟨behind, hyphen⟩

/-- In encoded ASCII every hyphen is the last one of four letters. -/
theorem hyphen_place {bytes : List UInt8} (ascii : ∀ byte ∈ bytes, byte.toNat < 128) {i : ℕ}
    (hyphen : (encodeBase64 bytes)[i]? = some '-') : i % 4 = 3 := by
  have first : ∀ {a : ℕ}, a < 128 → base64Letter (a / 4) ≠ '-' := fun low =>
    base64Letter_ne_hyphen (by omega) (by omega)
  have second : ∀ {a b : ℕ}, b < 128 → base64Letter (a % 4 * 16 + b / 16) ≠ '-' := fun low =>
    base64Letter_ne_hyphen (by omega) (by omega)
  have third : ∀ {b c : ℕ}, c < 128 → base64Letter (b % 16 * 4 + c / 64) ≠ '-' := fun low =>
    base64Letter_ne_hyphen (by omega) (by omega)
  have shortSecond : ∀ {a : ℕ}, base64Letter (a % 4 * 16) ≠ '-' :=
    base64Letter_ne_hyphen (by omega) (by omega)
  have shortThird : ∀ {b : ℕ}, base64Letter (b % 16 * 4) ≠ '-' :=
    base64Letter_ne_hyphen (by omega) (by omega)
  induction bytes using encodeBase64.induct generalizing i with
  | case1 => cases hyphen
  | case2 a =>
    have low := ascii a (by simp)
    have solid : ∀ c ∈ encodeBase64 [a], c ≠ '-' := by
      simp only [encodeBase64, List.mem_cons, List.not_mem_nil, or_false]
      rintro c (rfl | rfl)
      · exact first low
      · exact shortSecond
    rw [← List.append_nil (encodeBase64 [a])] at hyphen
    cases (hyphen_behind solid hyphen).2
  | case3 a b =>
    have low := ascii a (by simp)
    have next := ascii b (by simp)
    have solid : ∀ c ∈ encodeBase64 [a, b], c ≠ '-' := by
      simp only [encodeBase64, List.mem_cons, List.not_mem_nil, or_false]
      rintro c (rfl | rfl | rfl)
      · exact first low
      · exact second next
      · exact shortThird
    rw [← List.append_nil (encodeBase64 [a, b])] at hyphen
    cases (hyphen_behind solid hyphen).2
  | case4 a b c rest ih =>
    have low := ascii a (by simp)
    have next := ascii b (by simp)
    have last := ascii c (by simp)
    let letters := [base64Letter (a.toNat / 4), base64Letter (a.toNat % 4 * 16 + b.toNat / 16),
      base64Letter (b.toNat % 16 * 4 + c.toNat / 64)]
    have solid : ∀ d ∈ letters, d ≠ '-' := by
      simp only [letters, List.mem_cons, List.not_mem_nil, or_false]
      rintro d (rfl | rfl | rfl)
      · exact first low
      · exact second next
      · exact third last
    have whole : encodeBase64 (a :: b :: c :: rest) =
        letters ++ base64Letter (c.toNat % 64) :: encodeBase64 rest := rfl
    rw [whole] at hyphen
    have behind := hyphen_behind solid hyphen
    have three : letters.length = 3 := rfl
    obtain ⟨k, place⟩ := Nat.exists_eq_add_of_le behind.1
    rw [place, Nat.add_sub_cancel_left] at behind
    cases k with
    | zero => omega
    | succ k =>
      have later := ih (fun byte inside => ascii byte (by simp [inside])) behind.2
      omega

/-- The last letter of encoded bytes, by their last byte. -/
theorem last_encodeBase64 (front : List UInt8) (byte : UInt8) :
    ∃ letters c, encodeBase64 (front ++ [byte]) = letters ++ [c] ∧
      c ∈ [base64Letter (byte.toNat % 64), base64Letter (byte.toNat % 16 * 4),
        base64Letter (byte.toNat % 4 * 16)] := by
  induction front using encodeBase64.induct with
  | case1 => exact ⟨[_], _, rfl, by simp⟩
  | case2 a => exact ⟨[_, _], _, rfl, by simp⟩
  | case3 a b => exact ⟨[_, _, _], _, rfl, by simp⟩
  | case4 a b c rest ih =>
    obtain ⟨letters, last, whole, member⟩ := ih
    exact ⟨_ :: _ :: _ :: _ :: letters, last, by
      rw [List.cons_append, List.cons_append, List.cons_append, encodeBase64, whole]
      rfl, member⟩

/-! ## With padding -/

/-- A letter for URLs as the standard one. -/
def standardLetter (c : Char) : Char :=
  if c = '-' then '+' else if c = '_' then '/' else c

/-- A letter of either kind as the one for URLs. -/
def urlLetter (c : Char) : Char :=
  if c = '+' then '-' else if c = '/' then '_' else c

/-- Bytes in standard base64. -/
def encodePadded (bytes : List UInt8) : List Char :=
  let letters := (encodeBase64 bytes).map standardLetter
  letters ++ List.replicate ((4 - letters.length % 4) % 4) '='

/-- The bytes of a text in padded base64, with letters of either kind. -/
def decodePadded (text : List Char) : Option (List UInt8) :=
  let letters := text.rdropWhile (· = '=')
  if text.length % 4 = 0 ∧ text.length ≤ letters.length + 2 then
    decodeBase64 (letters.map urlLetter)
  else none

theorem length_encodeBase64 (bytes : List UInt8) : (encodeBase64 bytes).length % 4 ≠ 1 := by
  induction bytes using encodeBase64.induct with
  | case1 => decide
  | case2 a =>
    have two : (encodeBase64 [a]).length = 2 := rfl
    omega
  | case3 a b =>
    have three : (encodeBase64 [a, b]).length = 3 := rfl
    omega
  | case4 a b c rest ih =>
    rw [encodeBase64]
    simp only [List.length_cons]
    omega

/-- A letter comes back from the standard one, which is no padding. -/
theorem standardLetter_spec {c : Char} (letter : (base64Value c).isSome = true) :
    urlLetter (standardLetter c) = c ∧ standardLetter c ≠ '=' := by
  have known : ∀ d : Char, base64Value d = none → c ≠ d := by
    rintro d none rfl
    rw [none] at letter
    cases letter
  have plus := known '+' (by decide)
  have slash := known '/' (by decide)
  have equals := known '=' (by decide)
  unfold standardLetter urlLetter
  by_cases hyphen : c = '-'
  · subst hyphen
    decide
  · by_cases line : c = '_'
    · subst line
      decide
    · rw [if_neg hyphen, if_neg line, if_neg plus, if_neg slash]
      exact ⟨rfl, equals⟩

theorem rdropWhile_padding {letters : List Char} (solid : ∀ c ∈ letters, c ≠ '=') (n : ℕ) :
    (letters ++ List.replicate n '=').rdropWhile (· = '=') = letters := by
  induction n with
  | zero =>
    rw [List.replicate_zero, List.append_nil, List.rdropWhile_eq_self_iff]
    intro some equals
    exact solid _ (List.getLast_mem some) (of_decide_eq_true equals)
  | succ n ih =>
    rw [List.replicate_succ', ← List.append_assoc, List.rdropWhile_concat_pos _ _ _ (by simp)]
    exact ih

/-- What is encoded with padding is decoded. -/
theorem decodePadded_encode (bytes : List UInt8) :
    decodePadded (encodePadded bytes) = some bytes := by
  have letters := encodeBase64_letters bytes
  have solid : ∀ c ∈ (encodeBase64 bytes).map standardLetter, c ≠ '=' := by
    intro c inside
    obtain ⟨letter, there, rfl⟩ := List.mem_map.mp inside
    exact (standardLetter_spec (letters letter there)).2
  have back : ((encodeBase64 bytes).map standardLetter).map urlLetter = encodeBase64 bytes := by
    rw [List.map_map]
    refine (List.map_congr_left ?_).trans (List.map_id _)
    intro c inside
    exact (standardLetter_spec (letters c inside)).1
  have rest := length_encodeBase64 bytes
  have size : ((encodeBase64 bytes).map standardLetter).length = (encodeBase64 bytes).length :=
    List.length_map _
  unfold decodePadded encodePadded
  dsimp only
  rw [rdropWhile_padding solid, List.length_append, List.length_replicate, size,
    if_pos (by omega), back, decodeBase64_encode]

end Lib
