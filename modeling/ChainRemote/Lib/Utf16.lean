import Mathlib.Data.List.DropRight
import Mathlib.Data.List.Induction
import ChainRemote.Lib.LittleEndian

/-!
# UTF-16

Characters as 16-bit units, those outside the basic plane as a pair of surrogates, and the units as
little-endian bytes. Decoding is strict, so that a surrogate without its partner is refused; as code
points such a surrogate stands alone.
-/

namespace Lib

/-- The units of a character. -/
def encodeUtf16Char (c : Char) : List UInt16 :=
  if c.toNat < 0x10000 then [UInt16.ofNat c.toNat]
  else
    [UInt16.ofNat (0xd800 + (c.toNat - 0x10000) / 0x400),
      UInt16.ofNat (0xdc00 + (c.toNat - 0x10000) % 0x400)]

/-- The units of characters. -/
def encodeUtf16 (text : List Char) : List UInt16 := text.flatMap encodeUtf16Char

/-- The characters that units are; none where a surrogate is alone. -/
def decodeUtf16 : List UInt16 → Option (List Char)
  | [] => some []
  | unit :: rest =>
    if unit.toNat < 0xd800 ∨ 0xdfff < unit.toNat then
      (Char.ofNat unit.toNat :: ·) <$> decodeUtf16 rest
    else if unit.toNat < 0xdc00 then
      match rest with
      | low :: rest =>
        if 0xdc00 ≤ low.toNat ∧ low.toNat ≤ 0xdfff then
          (Char.ofNat (0x10000 + (unit.toNat - 0xd800) * 0x400 + (low.toNat - 0xdc00)) :: ·) <$>
            decodeUtf16 rest
        else none
      | [] => none
    else none

/-- Units as code points: the characters, and the surrogates that are alone. -/
def codePoints : List UInt16 → List (Char ⊕ UInt16)
  | [] => []
  | [unit] =>
    if unit.toNat < 0xd800 ∨ 0xdfff < unit.toNat then [.inl (Char.ofNat unit.toNat)]
    else [.inr unit]
  | unit :: next :: rest =>
    if unit.toNat < 0xd800 ∨ 0xdfff < unit.toNat then
      .inl (Char.ofNat unit.toNat) :: codePoints (next :: rest)
    else if unit.toNat < 0xdc00 ∧ 0xdc00 ≤ next.toNat ∧ next.toNat ≤ 0xdfff then
      .inl (Char.ofNat (0x10000 + (unit.toNat - 0xd800) * 0x400 + (next.toNat - 0xdc00))) ::
        codePoints rest
    else .inr unit :: codePoints (next :: rest)

theorem char_not_surrogate (c : Char) :
    c.toNat < 0xd800 ∨ 0xdfff < c.toNat ∧ c.toNat < 0x110000 :=
  c.valid

/-- A unit that is no surrogate is a character. -/
theorem decodeUtf16_basic {unit : UInt16} (basic : unit.toNat < 0xd800 ∨ 0xdfff < unit.toNat)
    (rest : List UInt16) :
    decodeUtf16 (unit :: rest) = (Char.ofNat unit.toNat :: ·) <$> decodeUtf16 rest := by
  rw [decodeUtf16.eq_def]
  simp only
  rw [if_pos basic]

/-- A pair of surrogates is a character. -/
theorem decodeUtf16_pair {high low : UInt16}
    (first : 0xd800 ≤ high.toNat ∧ high.toNat < 0xdc00)
    (second : 0xdc00 ≤ low.toNat ∧ low.toNat ≤ 0xdfff) (rest : List UInt16) :
    decodeUtf16 (high :: low :: rest) =
      (Char.ofNat (0x10000 + (high.toNat - 0xd800) * 0x400 + (low.toNat - 0xdc00)) :: ·) <$>
        decodeUtf16 rest := by
  rw [decodeUtf16.eq_def]
  simp only
  rw [if_neg (by omega), if_pos first.2, if_pos second]

/-- The units of a character in front of others are read as the character. -/
theorem decodeUtf16_encodeChar (c : Char) (units : List UInt16) :
    decodeUtf16 (encodeUtf16Char c ++ units) = (c :: ·) <$> decodeUtf16 units := by
  have scalar := char_not_surrogate c
  unfold encodeUtf16Char
  by_cases basic : c.toNat < 0x10000
  · have unit : (UInt16.ofNat c.toNat).toNat = c.toNat := UInt16.toNat_ofNat_of_lt' basic
    rw [if_pos basic, List.singleton_append, decodeUtf16_basic (by omega), unit, Char.ofNat_toNat]
  · have high : (UInt16.ofNat (0xd800 + (c.toNat - 0x10000) / 0x400)).toNat =
        0xd800 + (c.toNat - 0x10000) / 0x400 := UInt16.toNat_ofNat_of_lt' (by
      show _ < 65536
      omega)
    have low : (UInt16.ofNat (0xdc00 + (c.toNat - 0x10000) % 0x400)).toNat =
        0xdc00 + (c.toNat - 0x10000) % 0x400 := UInt16.toNat_ofNat_of_lt' (by
      show _ < 65536
      omega)
    have whole : 0x10000 + (0xd800 + (c.toNat - 0x10000) / 0x400 - 0xd800) * 0x400 +
        (0xdc00 + (c.toNat - 0x10000) % 0x400 - 0xdc00) = c.toNat := by omega
    rw [if_neg basic, List.cons_append, List.singleton_append,
      decodeUtf16_pair (by omega) (by omega), high, low, whole, Char.ofNat_toNat]

/-- The units of characters in front of others are read as the characters. -/
theorem decodeUtf16_encode (text : List Char) (units : List UInt16) :
    decodeUtf16 (encodeUtf16 text ++ units) = (text ++ ·) <$> decodeUtf16 units := by
  induction text with
  | nil => exact (id_map _).symm
  | cons c rest ih =>
    rw [encodeUtf16, List.flatMap_cons, List.append_assoc, decodeUtf16_encodeChar]
    rw [encodeUtf16] at ih
    rw [ih, ← comp_map]
    rfl

/-- Zero units are NUL characters. -/
theorem decodeUtf16_zeros (n : ℕ) :
    decodeUtf16 (List.replicate n 0) = some (List.replicate n '\x00') := by
  induction n with
  | zero => rfl
  | succ n ih =>
    rw [List.replicate_succ, decodeUtf16_basic (by decide), ih]
    rfl

theorem toNat_ofNat_scalar {n : ℕ} (scalar : n < 0xd800 ∨ 0xdfff < n ∧ n < 0x110000) :
    (Char.ofNat n).toNat = n := by
  have valid : n.isValidChar := scalar
  rw [Char.ofNat, dif_pos valid]
  rfl

theorem encodeUtf16_cons (c : Char) (text : List Char) :
    encodeUtf16 (c :: text) = encodeUtf16Char c ++ encodeUtf16 text := rfl

/-- Units that are read are those of the characters they are read as. -/
theorem encodeUtf16_decode {units : List UInt16} {text : List Char}
    (decoded : decodeUtf16 units = some text) : encodeUtf16 text = units := by
  induction units using decodeUtf16.induct generalizing text with
  | case1 =>
    obtain rfl := Option.some.inj decoded
    rfl
  | case2 unit rest basic ih =>
    rw [decodeUtf16_basic basic] at decoded
    obtain ⟨tail, read, rfl⟩ := Option.map_eq_some_iff.mp decoded
    have below : unit.toNat < 65536 := unit.toNat_lt
    have scalar := @toNat_ofNat_scalar unit.toNat (by omega)
    rw [encodeUtf16_cons, ih read, encodeUtf16Char, scalar, if_pos below, UInt16.ofNat_toNat]
    rfl
  | case3 unit outside high low rest second ih =>
    have least : 0xd800 ≤ unit.toNat := by omega
    rw [decodeUtf16_pair ⟨least, high⟩ second] at decoded
    obtain ⟨tail, read, rfl⟩ := Option.map_eq_some_iff.mp decoded
    have scalar := @toNat_ofNat_scalar
      (0x10000 + (unit.toNat - 0xd800) * 0x400 + (low.toNat - 0xdc00)) (by omega)
    have first : 0xd800 + (0x10000 + (unit.toNat - 0xd800) * 0x400 + (low.toNat - 0xdc00) -
        0x10000) / 0x400 = unit.toNat := by omega
    have last : 0xdc00 + (0x10000 + (unit.toNat - 0xd800) * 0x400 + (low.toNat - 0xdc00) -
        0x10000) % 0x400 = low.toNat := by omega
    rw [encodeUtf16_cons, ih read, encodeUtf16Char, scalar, if_neg (by omega), first, last,
      UInt16.ofNat_toNat, UInt16.ofNat_toNat]
    rfl
  | case4 unit outside high low rest alone =>
    rw [decodeUtf16.eq_def] at decoded
    simp only [if_neg outside, if_pos high, if_neg alone] at decoded
    cases decoded
  | case5 unit outside high =>
    rw [decodeUtf16.eq_def] at decoded
    simp only [if_neg outside, if_pos high] at decoded
    cases decoded
  | case6 unit rest outside low =>
    rw [decodeUtf16.eq_def] at decoded
    simp only [if_neg outside, if_neg low] at decoded
    cases decoded

/-- A unit that is no surrogate is a code point of its own. -/
theorem codePoints_basic {unit : UInt16} (basic : unit.toNat < 0xd800 ∨ 0xdfff < unit.toNat)
    (rest : List UInt16) :
    codePoints (unit :: rest) = .inl (Char.ofNat unit.toNat) :: codePoints rest := by
  rw [codePoints.eq_def]
  cases rest with
  | nil =>
    simp only
    rw [if_pos basic]
    rfl
  | cons next rest =>
    simp only
    rw [if_pos basic]

/-- A pair of surrogates is one code point. -/
theorem codePoints_pair {high low : UInt16}
    (first : 0xd800 ≤ high.toNat ∧ high.toNat < 0xdc00)
    (second : 0xdc00 ≤ low.toNat ∧ low.toNat ≤ 0xdfff) (rest : List UInt16) :
    codePoints (high :: low :: rest) =
      .inl (Char.ofNat (0x10000 + (high.toNat - 0xd800) * 0x400 + (low.toNat - 0xdc00))) ::
        codePoints rest := by
  rw [codePoints.eq_def]
  simp only
  rw [if_neg (by omega), if_pos ⟨first.2, second⟩]

/-- The units of a character in front of others are its code point. -/
theorem codePoints_encodeChar (c : Char) (units : List UInt16) :
    codePoints (encodeUtf16Char c ++ units) = .inl c :: codePoints units := by
  have scalar := char_not_surrogate c
  unfold encodeUtf16Char
  by_cases basic : c.toNat < 0x10000
  · have unit : (UInt16.ofNat c.toNat).toNat = c.toNat := UInt16.toNat_ofNat_of_lt' basic
    rw [if_pos basic, List.singleton_append, codePoints_basic (by omega), unit, Char.ofNat_toNat]
  · have high : (UInt16.ofNat (0xd800 + (c.toNat - 0x10000) / 0x400)).toNat =
        0xd800 + (c.toNat - 0x10000) / 0x400 := UInt16.toNat_ofNat_of_lt' (by
      show _ < 65536
      omega)
    have low : (UInt16.ofNat (0xdc00 + (c.toNat - 0x10000) % 0x400)).toNat =
        0xdc00 + (c.toNat - 0x10000) % 0x400 := UInt16.toNat_ofNat_of_lt' (by
      show _ < 65536
      omega)
    have whole : 0x10000 + (0xd800 + (c.toNat - 0x10000) / 0x400 - 0xd800) * 0x400 +
        (0xdc00 + (c.toNat - 0x10000) % 0x400 - 0xdc00) = c.toNat := by omega
    rw [if_neg basic, List.cons_append, List.singleton_append,
      codePoints_pair (by omega) (by omega), high, low, whole, Char.ofNat_toNat]

/-- The units of characters in front of others are their code points. -/
theorem codePoints_encode (text : List Char) (units : List UInt16) :
    codePoints (encodeUtf16 text ++ units) = text.map .inl ++ codePoints units := by
  induction text with
  | nil => rfl
  | cons c rest ih =>
    rw [encodeUtf16_cons, List.append_assoc, codePoints_encodeChar, ih]
    rfl

/-- A first code point is that of the first character, or a surrogate that is alone. -/
theorem codePoints_eq_cons {units : List UInt16} {point : Char ⊕ UInt16}
    {points : List (Char ⊕ UInt16)} (read : codePoints units = point :: points) :
    (∃ c rest, point = .inl c ∧ units = encodeUtf16Char c ++ rest ∧ points = codePoints rest) ∨
      ∃ unit, point = .inr unit := by
  have single : ∀ unit : UInt16, (unit.toNat < 0xd800 ∨ 0xdfff < unit.toNat) →
      [unit] = encodeUtf16Char (Char.ofNat unit.toNat) := by
    intro unit basic
    have below : unit.toNat < 65536 := unit.toNat_lt
    have scalar := @toNat_ofNat_scalar unit.toNat (by omega)
    rw [encodeUtf16Char, scalar, if_pos below, UInt16.ofNat_toNat]
  induction units using codePoints.induct generalizing point points with
  | case1 => cases read
  | case2 unit basic =>
    rw [codePoints_basic basic] at read
    obtain ⟨rfl, rfl⟩ := List.cons.inj read
    exact .inl ⟨_, [], rfl, by rw [List.append_nil, single unit basic], rfl⟩
  | case3 unit surrogate =>
    rw [codePoints.eq_def] at read
    simp only [if_neg surrogate] at read
    exact .inr ⟨unit, (List.cons.inj read).1.symm⟩
  | case4 unit next rest basic _ =>
    rw [codePoints_basic basic] at read
    obtain ⟨rfl, rfl⟩ := List.cons.inj read
    exact .inl ⟨_, next :: rest, rfl, by rw [← single unit basic]; rfl, rfl⟩
  | case5 unit next rest surrogate pair _ =>
    have least : 0xd800 ≤ unit.toNat := by omega
    rw [codePoints_pair ⟨least, pair.1⟩ pair.2] at read
    obtain ⟨rfl, rfl⟩ := List.cons.inj read
    have decoded := decodeUtf16_pair ⟨least, pair.1⟩ pair.2 []
    have units := encodeUtf16_decode decoded
    rw [encodeUtf16_cons, show encodeUtf16 [] = [] from rfl, List.append_nil] at units
    exact .inl ⟨_, rest, rfl, by rw [units]; rfl, rfl⟩
  | case6 unit next rest surrogate alone _ =>
    rw [codePoints.eq_def] at read
    simp only [if_neg surrogate, if_neg alone] at read
    exact .inr ⟨unit, (List.cons.inj read).1.symm⟩

/-- Zero is a unit of NUL only. -/
theorem zero_mem_encodeUtf16Char (c : Char) : 0 ∈ encodeUtf16Char c ↔ c = '\x00' := by
  have scalar := char_not_surrogate c
  have zero : (0 : UInt16).toNat = 0 := rfl
  constructor
  · intro inside
    unfold encodeUtf16Char at inside
    by_cases basic : c.toNat < 0x10000
    · rw [if_pos basic, List.mem_singleton] at inside
      have same := congrArg UInt16.toNat inside
      rw [zero, UInt16.toNat_ofNat_of_lt' basic] at same
      rw [← Char.ofNat_toNat c, ← same]
    · rw [if_neg basic, List.mem_cons, List.mem_singleton] at inside
      rcases inside with high | low
      · have same := congrArg UInt16.toNat high
        rw [zero, UInt16.toNat_ofNat_of_lt' (by show _ < 65536; omega)] at same
        omega
      · have same := congrArg UInt16.toNat low
        rw [zero, UInt16.toNat_ofNat_of_lt' (by show _ < 65536; omega)] at same
        omega
  · rintro rfl
    exact List.mem_singleton_self 0

theorem zero_mem_encodeUtf16 (text : List Char) : 0 ∈ encodeUtf16 text ↔ '\x00' ∈ text := by
  unfold encodeUtf16
  rw [List.mem_flatMap]
  constructor
  · rintro ⟨c, inside, zero⟩
    rwa [← (zero_mem_encodeUtf16Char c).mp zero]
  · intro inside
    exact ⟨_, inside, (zero_mem_encodeUtf16Char _).mpr rfl⟩

theorem encodeUtf16Char_ne_nil (c : Char) : encodeUtf16Char c ≠ [] := by
  unfold encodeUtf16Char
  split
  · exact List.cons_ne_nil _ _
  · exact List.cons_ne_nil _ _

/-- The zeros at the end of units are the NULs at the end of characters. -/
theorem rdropWhile_encodeUtf16 (text : List Char) :
    (encodeUtf16 text).rdropWhile (· = 0) = encodeUtf16 (text.rdropWhile (· = '\x00')) := by
  induction text using List.reverseRecOn with
  | nil => rfl
  | append_singleton text c ih =>
    have whole : encodeUtf16 (text ++ [c]) = encodeUtf16 text ++ encodeUtf16Char c := by
      rw [encodeUtf16, List.flatMap_append, List.flatMap_singleton]
      rfl
    by_cases nul : c = '\x00'
    · subst nul
      rw [whole, List.rdropWhile_concat_pos _ _ _ (by decide), ← ih]
      exact List.rdropWhile_concat_pos _ _ _ (by decide)
    · obtain ⟨units, last, split⟩ := List.eq_nil_or_concat' (encodeUtf16Char c) |>.resolve_left
        (encodeUtf16Char_ne_nil c)
      have nonzero : last ≠ 0 := by
        rintro rfl
        refine nul ((zero_mem_encodeUtf16Char c).mp ?_)
        rw [split]
        exact List.mem_append_right _ (List.mem_singleton_self 0)
      rw [whole, List.rdropWhile_concat_neg _ _ _ (by simpa using nul), whole, split,
        ← List.append_assoc, List.rdropWhile_concat_neg _ _ _ (by simpa using nonzero)]

/-- Units as bytes. -/
def unitBytes (units : List UInt16) : List UInt8 := units.flatMap fun unit => toLe 2 unit.toNat

/-- The units that bytes are; none where their number is odd. -/
def bytesUnits : List UInt8 → Option (List UInt16)
  | [] => some []
  | [_] => none
  | low :: high :: rest => (UInt16.ofNat (ofLe [low, high]) :: ·) <$> bytesUnits rest

theorem length_unitBytes (units : List UInt16) : (unitBytes units).length = 2 * units.length := by
  induction units with
  | nil => rfl
  | cons unit rest ih =>
    rw [unitBytes, List.flatMap_cons, List.length_append, length_toLe, List.length_cons]
    rw [unitBytes] at ih
    omega

theorem bytesUnits_unitBytes (units : List UInt16) : bytesUnits (unitBytes units) = some units := by
  induction units with
  | nil => rfl
  | cons unit rest ih =>
    have number : UInt16.ofNat (ofLe (toLe 2 unit.toNat)) = unit := by
      rw [ofLe_toLe_of_lt unit.toNat_lt, UInt16.ofNat_toNat]
    rw [unitBytes, List.flatMap_cons]
    rw [unitBytes] at ih
    show (UInt16.ofNat (ofLe (toLe 2 unit.toNat)) :: ·) <$>
      bytesUnits (rest.flatMap fun unit => toLe 2 unit.toNat) = _
    rw [ih, number]
    rfl

/-- Zero bytes are zero units. -/
theorem unitBytes_zeros (n : ℕ) :
    unitBytes (List.replicate n 0) = List.replicate (2 * n) 0 := by
  induction n with
  | zero => rfl
  | succ n ih =>
    rw [List.replicate_succ, unitBytes, List.flatMap_cons]
    rw [unitBytes] at ih
    rw [ih, Nat.mul_succ, List.replicate_succ, List.replicate_succ]
    rfl

theorem unitBytes_append (first second : List UInt16) :
    unitBytes (first ++ second) = unitBytes first ++ unitBytes second :=
  List.flatMap_append

end Lib
