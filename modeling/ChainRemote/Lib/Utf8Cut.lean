import ChainRemote.Lib.Utf8
import Mathlib.Data.List.Infix

/-!
# Cuts through UTF-8

A character is a first byte and at most three bytes that continue it, so bytes that continue a
character are all that a cut can leave of one.
-/

namespace Lib

/-- A byte that continues a character. -/
def Continues (byte : UInt8) : Prop := 0x80 ≤ byte.toNat ∧ byte.toNat < 0xc0

/-- The two highest bits of a byte that continues a character. -/
theorem continues_iff (byte : UInt8) : byte &&& 0b11000000 = 0b10000000 ↔ Continues byte := by
  have all : ∀ n < 256, UInt8.ofNat n &&& 0b11000000 = 0b10000000 ↔ 0x80 ≤ n ∧ n < 0xc0 := by
    decide +kernel
  have this := all byte.toNat (UInt8.toNat_lt byte)
  rwa [UInt8.ofNat_toNat] at this

/-- The bytes of a character. -/
structure CharBytes (first : UInt8) (rest : List UInt8) : Prop where
  starts : ¬ Continues first
  continued : ∀ byte ∈ rest, Continues byte
  few : rest.length ≤ 3
  high : rest ≠ [] → 0x80 ≤ first.toNat

theorem continues_low (n : ℕ) : Continues (UInt8.ofNat (n % 0x40 + 0x80)) := by
  have within := continuation_within n
  unfold Continues
  omega

/-- A first byte with others is above those that continue a character. -/
theorem charBytes_many {n : ℕ} {rest : List UInt8} (above : 0xc0 ≤ n) (fits : n < 256)
    (continued : ∀ byte ∈ rest, Continues byte) (few : rest.length ≤ 3) :
    CharBytes (UInt8.ofNat n) rest := by
  have number : (UInt8.ofNat n).toNat = n := toNat_byte fits
  refine ⟨?_, continued, few, ?_⟩
  · unfold Continues
    omega
  · intro _
    omega

theorem charBytes_encode (c : Char) :
    ∃ first rest, String.utf8EncodeChar c = first :: rest ∧ CharBytes first rest := by
  have scalar : c.val.toNat < 0xd800 ∨ 0xdfff < c.val.toNat ∧ c.val.toNat < 0x110000 := c.valid
  unfold String.utf8EncodeChar
  simp only
  split
  case isTrue one =>
    refine ⟨_, _, rfl, ?_, nofun, Nat.zero_le _, nofun⟩
    unfold Continues
    rw [toNat_byte (by omega)]
    omega
  case isFalse one =>
    split
    case isTrue two =>
      refine ⟨_, _, rfl, charBytes_many (by omega) (by omega) ?_ (by simp)⟩
      simp only [List.forall_mem_cons]
      exact ⟨continues_low _, nofun⟩
    case isFalse two =>
      split
      case isTrue three =>
        refine ⟨_, _, rfl, charBytes_many (by omega) (by omega) ?_ (by simp)⟩
        simp only [List.forall_mem_cons]
        exact ⟨continues_low _, continues_low _, nofun⟩
      case isFalse three =>
        refine ⟨_, _, rfl, charBytes_many (by omega) (by omega) ?_ (by simp)⟩
        simp only [List.forall_mem_cons]
        exact ⟨continues_low _, continues_low _, continues_low _, nofun⟩

/-- The bytes of characters start with no byte that continues one. -/
theorem head_encodeUtf8 {text : List Char} {byte : UInt8} {rest : List UInt8}
    (starts : encodeUtf8 text = byte :: rest) : ¬ Continues byte := by
  cases text with
  | nil => cases starts
  | cons c text =>
    obtain ⟨first, others, bytes, shape⟩ := charBytes_encode c
    unfold encodeUtf8 at starts
    rw [List.flatMap_cons, bytes, List.cons_append] at starts
    obtain ⟨rfl, -⟩ := List.cons.inj starts
    exact shape.starts

/-- What is behind a cut: at most three bytes that are left of a character, and characters. -/
structure AfterCut (text : List Char) (before after left : List UInt8)
    (second : List Char) : Prop where
  bytes : after = left ++ encodeUtf8 second
  ends : second <:+ text
  continued : ∀ byte ∈ left, Continues byte
  few : left.length ≤ 3
  /-- A character that is cut has no byte below 128. -/
  high : left ≠ [] → ∃ byte ∈ before.getLast?, 0x80 ≤ byte.toNat

theorem afterCut {text : List Char} {before after : List UInt8}
    (cut : encodeUtf8 text = before ++ after) :
    ∃ left second, AfterCut text before after left second := by
  induction text generalizing before with
  | nil =>
    obtain ⟨rfl, rfl⟩ := List.append_eq_nil_iff.mp cut.symm
    exact ⟨[], [], rfl, List.suffix_refl _, nofun, Nat.zero_le _, nofun⟩
  | cons c text ih =>
    unfold encodeUtf8 at cut
    rw [List.flatMap_cons] at cut
    rcases List.append_eq_append_iff.mp cut with ⟨middle, rfl, rest⟩ | ⟨middle, whole, rfl⟩
    · obtain ⟨left, second, behind⟩ := ih rest
      refine ⟨left, second, behind.bytes, behind.ends.trans (List.suffix_cons c text),
        behind.continued, behind.few, ?_⟩
      intro real
      obtain ⟨byte, last, high⟩ := behind.high real
      exact ⟨byte, List.mem_getLast?_append_of_mem_getLast? last, high⟩
    · cases before with
      | nil =>
        rw [List.nil_append] at whole
        refine ⟨[], c :: text, ?_, List.suffix_refl _, nofun, Nat.zero_le _, nofun⟩
        rw [← whole]
        rfl
      | cons byte before =>
        obtain ⟨first, others, bytes, shape⟩ := charBytes_encode c
        rw [bytes, List.cons_append] at whole
        obtain ⟨rfl, rfl⟩ := List.cons.inj whole
        have few := shape.few
        rw [List.length_append] at few
        refine ⟨middle, text, rfl, List.suffix_cons c text, ?_, by omega, ?_⟩
        · intro other inside
          exact shape.continued other (List.mem_append_right _ inside)
        · intro real
          have high := shape.high (List.append_ne_nil_of_right_ne_nil _ real)
          cases last : before.getLast? with
          | none =>
            obtain rfl := List.getLast?_eq_none_iff.mp last
            exact ⟨first, rfl, high⟩
          | some other =>
            have inside : other ∈ before := List.mem_of_getLast? last
            refine ⟨other, ?_, (shape.continued other (List.mem_append_left _ inside)).1⟩
            rw [List.getLast?_cons, last]
            rfl

/-- A cut at the start or behind a byte below 128 cuts no character. -/
theorem AfterCut.whole {text second : List Char} {before after left : List UInt8}
    (behind : AfterCut text before after left second)
    (low : ∀ byte ∈ before.getLast?, byte.toNat < 0x80) : after = encodeUtf8 second := by
  have none : left = [] := by
    by_contra real
    obtain ⟨byte, last, high⟩ := behind.high real
    have := low byte last
    omega
  rw [behind.bytes, none, List.nil_append]

/-! ## Decoding in chunks -/

/-- Bytes that are left of no character are read one by one as the replacement character. -/
theorem decodeUtf8_stray {left : List UInt8} (continued : ∀ byte ∈ left, Continues byte)
    (rest : List UInt8) :
    decodeUtf8 (left ++ rest) = List.replicate left.length replacement ++ decodeUtf8 rest := by
  induction left with
  | nil => rfl
  | cons byte left ih =>
    have stray : Continues byte := continued byte List.mem_cons_self
    unfold Continues at stray
    have starts : startChar byte = ([replacement], none) := by
      unfold startChar
      dsimp only
      rw [if_neg (by omega), if_neg (by omega), if_neg (by omega), if_neg (by omega)]
    have later := ih fun other inside => continued other (List.mem_cons_of_mem _ inside)
    unfold decodeUtf8 at later ⊢
    rw [List.cons_append, decodeFrom, starts, later]
    rfl

/-- The first bytes of a character are read as the replacement character. -/
theorem decodeUtf8_cutChar {c : Char} {head left : List UInt8}
    (whole : String.utf8EncodeChar c = head ++ left) (real : head ≠ []) (cut : left ≠ []) :
    decodeUtf8 head = [replacement] := by
  have scalar : c.val.toNat < 0xd800 ∨ 0xdfff < c.val.toNat ∧ c.val.toNat < 0x110000 := c.valid
  obtain ⟨first, head, rfl⟩ := List.exists_cons_of_ne_nil real
  obtain ⟨next, left, rfl⟩ := List.exists_cons_of_ne_nil cut
  unfold decodeUtf8
  unfold String.utf8EncodeChar at whole
  simp only at whole
  split at whole
  case isTrue one =>
    cases head <;> simp at whole
  case isFalse one =>
    split at whole
    case isTrue two =>
      rcases head with _ | ⟨second, head⟩
      · obtain ⟨rfl, -⟩ := List.cons.inj whole
        rw [decodeFrom_start (startChar_two (by omega) two)]
        rfl
      · cases head <;> simp at whole
    case isFalse two =>
      split at whole
      case isTrue three =>
        rcases head with _ | ⟨second, head⟩
        · obtain ⟨rfl, -⟩ := List.cons.inj whole
          rw [decodeFrom_start (startChar_three _)]
          rfl
        · rcases head with _ | ⟨third, head⟩
          · obtain ⟨rfl, others⟩ := List.cons.inj whole
            obtain ⟨rfl, -⟩ := List.cons.inj others
            have within := @second_of_three c.val.toNat (by omega) three (by omega)
            refine (decodeFrom_start (startChar_three _) _).trans ?_
            refine (decodeFrom_continue ?_ rfl _).trans rfl
            dsimp only
            exact within
          · cases head <;> simp at whole
      case isFalse three =>
        have upper : c.val.toNat < 0x110000 := by omega
        rcases head with _ | ⟨second, head⟩
        · obtain ⟨rfl, -⟩ := List.cons.inj whole
          rw [decodeFrom_start (startChar_four upper)]
          rfl
        · rcases head with _ | ⟨third, head⟩
          · obtain ⟨rfl, others⟩ := List.cons.inj whole
            obtain ⟨rfl, -⟩ := List.cons.inj others
            have within := @second_of_four c.val.toNat (by omega) upper
            refine (decodeFrom_start (startChar_four upper) _).trans ?_
            refine (decodeFrom_continue ?_ rfl _).trans rfl
            dsimp only
            exact within
          · rcases head with _ | ⟨fourth, head⟩
            · obtain ⟨rfl, others⟩ := List.cons.inj whole
              obtain ⟨rfl, last⟩ := List.cons.inj others
              obtain ⟨rfl, -⟩ := List.cons.inj last
              have within := @second_of_four c.val.toNat (by omega) upper
              refine (decodeFrom_start (startChar_four upper) _).trans ?_
              refine (decodeFrom_continue ?_ rfl _).trans ?_
              · dsimp only
                exact within
              · exact (decodeFrom_continue (continuation_within _) rfl _).trans rfl
            · cases head <;> simp at whole

/-- Characters in front of other bytes are read as they are. -/
theorem decodeUtf8_append (text : List Char) (rest : List UInt8) :
    decodeUtf8 (encodeUtf8 text ++ rest) = text ++ decodeUtf8 rest := by
  induction text with
  | nil => rfl
  | cons c text ih =>
    unfold encodeUtf8 at ih ⊢
    rw [List.flatMap_cons, List.append_assoc, decodeUtf8_encodeChar, ih, List.cons_append]

/-- A cut is between two characters or through one. -/
inductive CutAt (text : List Char) : List UInt8 → List UInt8 → Prop
  | between (first second : List Char) (whole : text = first ++ second) :
      CutAt text (encodeUtf8 first) (encodeUtf8 second)
  | through (first second : List Char) (c : Char) (head left : List UInt8)
      (whole : text = first ++ c :: second) (bytes : String.utf8EncodeChar c = head ++ left)
      (real : head ≠ []) (cut : left ≠ []) :
      CutAt text (encodeUtf8 first ++ head) (left ++ encodeUtf8 second)

theorem encodeUtf8_cons (c : Char) (text : List Char) :
    encodeUtf8 (c :: text) = String.utf8EncodeChar c ++ encodeUtf8 text := List.flatMap_cons

theorem cutAt {text : List Char} {before after : List UInt8}
    (cut : encodeUtf8 text = before ++ after) : CutAt text before after := by
  induction text generalizing before with
  | nil =>
    obtain ⟨rfl, rfl⟩ := List.append_eq_nil_iff.mp cut.symm
    exact .between [] [] rfl
  | cons c text ih =>
    rw [encodeUtf8_cons] at cut
    rcases List.append_eq_append_iff.mp cut with ⟨middle, rfl, rest⟩ | ⟨middle, bytes, rfl⟩
    · cases ih rest with
      | between first second whole =>
        rw [← encodeUtf8_cons]
        exact .between (c :: first) second (congrArg (c :: ·) whole)
      | through first second d head left whole bytes real more =>
        rw [← List.append_assoc, ← encodeUtf8_cons]
        exact .through (c :: first) second d head left (congrArg (c :: ·) whole) bytes real more
    · by_cases started : before = []
      · subst started
        rw [List.nil_append] at bytes
        rw [← bytes, ← encodeUtf8_cons]
        exact .between [] (c :: text) rfl
      · by_cases ended : middle = []
        · subst ended
          rw [List.append_nil] at bytes
          rw [← bytes, List.nil_append]
          have one : String.utf8EncodeChar c = encodeUtf8 [c] := (List.append_nil _).symm
          rw [one]
          exact .between [c] text rfl
        · exact .through [] text c before middle rfl bytes started ended

section Chunks

variable {text : List Char} {left : List UInt8} {chunks : List (List UInt8)}

/-- What is left of a cut character are bytes that continue one. -/
theorem continues_left {c : Char} {head left : List UInt8}
    (bytes : String.utf8EncodeChar c = head ++ left) (real : head ≠ []) :
    ∀ byte ∈ left, Continues byte := by
  obtain ⟨first, others, is, shape⟩ := charBytes_encode c
  obtain ⟨start, head, rfl⟩ := List.exists_cons_of_ne_nil real
  rw [is, List.cons_append] at bytes
  intro byte inside
  exact shape.continued byte ((List.cons.inj bytes).2 ▸ List.mem_append_right _ inside)

/-- A chunk of characters behind bytes that are left of one: a part of these bytes, or all of them
and then characters, perhaps with the first bytes of another one. -/
theorem chunk_cases {chunk rest : List UInt8} (whole : left ++ encodeUtf8 text = chunk ++ rest) :
    (∃ later, left = chunk ++ later ∧ rest = later ++ encodeUtf8 text) ∨
      ∃ cut, chunk = left ++ cut ∧ CutAt text cut rest := by
  rcases List.append_eq_append_iff.mp whole with ⟨cut, is, bytes⟩ | ⟨later, is, bytes⟩
  · exact .inr ⟨cut, is, cutAt bytes⟩
  · exact .inl ⟨later, is, bytes⟩

/-- Chunks of characters behind bytes that are left of one are read as no fewer characters, and the
replacement character is the only one of which there can be more. -/
theorem decodeChunks_bounds (continued : ∀ byte ∈ left, Continues byte)
    (whole : chunks.flatten = left ++ encodeUtf8 text) :
    left.length + text.length ≤ (chunks.flatMap decodeUtf8).length ∧
      ∀ c, c ≠ replacement → (chunks.flatMap decodeUtf8).count c ≤ text.count c := by
  induction chunks generalizing left text with
  | nil =>
    obtain ⟨rfl, none⟩ := List.append_eq_nil_iff.mp whole.symm
    have empty : text = [] := by
      rw [← decodeUtf8_encode text, none]
      rfl
    rw [empty]
    exact ⟨Nat.le_refl _, fun _ _ => Nat.le_refl _⟩
  | cons chunk chunks ih =>
    have absent : ∀ c, c ≠ replacement → ∀ n, (List.replicate n replacement).count c = 0 := by
      intro c other n
      rw [List.count_replicate, if_neg (by simpa using Ne.symm other)]
    rw [List.flatMap_cons, List.length_append]
    rw [List.flatten_cons] at whole
    rcases chunk_cases whole.symm with ⟨later, rfl, rest⟩ | ⟨cut, rfl, cases⟩
    · have decoded := decodeUtf8_stray
        (fun byte inside => continued byte (List.mem_append_left later inside)) []
      rw [List.append_nil] at decoded
      obtain ⟨size, counts⟩ := ih
        (fun byte inside => continued byte (List.mem_append_right chunk inside)) rest
      rw [decoded, List.length_append, List.length_append, List.length_replicate]
      refine ⟨Nat.le_trans (by omega) (Nat.add_le_add_left size _), ?_⟩
      intro c other
      rw [List.count_append, List.count_append, absent c other, Nat.zero_add]
      exact Nat.le_trans (Nat.le_of_eq (Nat.zero_add _)) (counts c other)
    · rw [decodeUtf8_stray continued, List.length_append, List.length_replicate]
      generalize decoded : decodeUtf8 cut = characters
      generalize behind : chunks.flatten = bytes at cases ih
      cases cases with
      | between first second parts =>
        have fresh : encodeUtf8 second = [] ++ encodeUtf8 second := rfl
        obtain ⟨size, counts⟩ := ih (List.forall_mem_nil _) fresh
        rw [decodeUtf8_encode] at decoded
        rw [← decoded, parts, List.length_append]
        refine ⟨by omega, ?_⟩
        intro c other
        rw [List.count_append, List.count_append, List.count_append, absent c other, Nat.zero_add]
        exact Nat.add_le_add_left (counts c other) _
      | through first second d head left' parts encoded real more =>
        obtain ⟨size, counts⟩ := ih (continues_left encoded real) rfl
        rw [decodeUtf8_append, decodeUtf8_cutChar encoded real more] at decoded
        rw [← decoded, parts, List.length_append, List.length_append, List.length_cons,
          List.length_singleton]
        refine ⟨by omega, ?_⟩
        intro c other
        have one : List.count c [replacement] = 0 := absent c other 1
        rw [List.count_append, List.count_append, List.count_append, List.count_append,
          absent c other, one, Nat.zero_add, Nat.add_zero]
        exact Nat.add_le_add_left (Nat.le_trans (counts c other) (List.count_le_count_cons)) _

/-- Chunks that are read as no more characters than there are hold whole characters. -/
theorem decodeChunks_whole (whole : chunks.flatten = encodeUtf8 text)
    (few : (chunks.flatMap decodeUtf8).length ≤ text.length) :
    ∀ chunk ∈ chunks, ∃ part, chunk = encodeUtf8 part := by
  induction chunks generalizing text with
  | nil => nofun
  | cons chunk chunks ih =>
    rw [List.flatMap_cons, List.length_append] at few
    rw [List.flatten_cons] at whole
    generalize behind : chunks.flatten = bytes at whole ih
    cases cutAt whole.symm with
    | between first second parts =>
      rw [decodeUtf8_encode, parts, List.length_append] at few
      intro other inside
      rcases List.mem_cons.mp inside with rfl | later
      · exact ⟨first, rfl⟩
      · exact ih rfl (by omega) other later
    | through first second d head left parts encoded real more =>
      have size := (decodeChunks_bounds (continues_left encoded real) behind).1
      rw [decodeUtf8_append, decodeUtf8_cutChar encoded real more, parts, List.length_append,
        List.length_append, List.length_cons, List.length_cons, List.length_nil] at few
      have some := List.length_pos_iff.mpr more
      omega

end Chunks

end Lib
