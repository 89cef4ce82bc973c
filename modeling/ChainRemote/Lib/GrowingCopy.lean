import Mathlib.Data.List.Basic

/-!
# Copies of a growing file

A file grows at its end, and bytes within a header of some size are written again. A copy is made
of parts that are read while that goes on. From the header on it has what the file has, as far as it
reaches, and the header comes last: when the file has come to rest and the copy is as long, it is
the file.
-/

namespace Lib

variable {α : Type}

/-- Content after bytes are written at an offset; what is missing in front of them is filled up. -/
def writeAt (fill : α) (content : List α) (offset : ℕ) (bytes : List α) : List α :=
  content.take offset ++ List.replicate (offset - content.length) fill ++ bytes ++
    content.drop (offset + bytes.length)

/-- Content that has grown since, with a header that may have changed. -/
structure Grows (header : ℕ) (content later : List α) : Prop where
  longer : content.length ≤ later.length
  same : ∀ i, header ≤ i → i < content.length → later[i]? = content[i]?

/-- Bytes that were read from a position on. -/
structure Chunk (header position : ℕ) (bytes content : List α) : Prop where
  within : position + bytes.length ≤ content.length
  same : ∀ i, i < bytes.length → header ≤ position + i → bytes[i]? = content[position + i]?

/-- A copy that has at least so many bytes of the content. -/
structure Copies (header uploaded : ℕ) (copy content : List α) : Prop where
  uploaded : uploaded ≤ copy.length
  within : copy.length ≤ content.length
  same : ∀ i, header ≤ i → i < copy.length → copy[i]? = content[i]?

variable {fill : α} {content later copy bytes : List α} {header position uploaded : ℕ}

theorem length_writeAt (bytes : List α) :
    (writeAt fill content position bytes).length =
      max content.length (position + bytes.length) := by
  unfold writeAt
  simp only [List.length_append, List.length_take, List.length_replicate, List.length_drop]
  omega

theorem getElem?_writeAt (room : position ≤ content.length) (bytes : List α) (i : ℕ) :
    (writeAt fill content position bytes)[i]? =
      if position ≤ i ∧ i < position + bytes.length then bytes[i - position]? else content[i]? := by
  have front : (content.take position).length = position := by
    rw [List.length_take]
    omega
  have none : position - content.length = 0 := by omega
  unfold writeAt
  rw [none, List.replicate_zero, List.append_nil]
  by_cases before : i < position
  · rw [if_neg (by omega), List.append_assoc, List.getElem?_append_left (by omega),
      List.getElem?_take_of_lt before]
  · by_cases inside : i < position + bytes.length
    · rw [if_pos ⟨Nat.le_of_not_lt before, inside⟩, List.getElem?_append_left (by
        rw [List.length_append]
        omega), List.getElem?_append_right (by omega), front]
    · have there : (content.take position ++ bytes).length = position + bytes.length := by
        rw [List.length_append, front]
      rw [if_neg (by omega), List.getElem?_append_right (by omega), there, List.getElem?_drop]
      congr 1
      omega

/-! ## Growing -/

theorem Grows.refl (header : ℕ) (content : List α) : Grows header content content :=
  ⟨Nat.le_refl _, fun _ _ _ => rfl⟩

theorem Grows.append (bytes : List α) : Grows header content (content ++ bytes) where
  longer := by
    rw [List.length_append]
    omega
  same _ _ inside := List.getElem?_append_left inside

/-- Bytes that are written again within the header. -/
theorem Grows.rewrite (room : position + bytes.length ≤ content.length)
    (own : position + bytes.length ≤ header) :
    Grows header content (writeAt fill content position bytes) where
  longer := by
    rw [length_writeAt]
    omega
  same i behind _ := by
    rw [getElem?_writeAt (by omega), if_neg (by omega)]

theorem Chunk.grows (chunk : Chunk header position bytes content)
    (grows : Grows header content later) : Chunk header position bytes later where
  within := Nat.le_trans chunk.within grows.longer
  same i inside behind := by
    have within := chunk.within
    rw [chunk.same i inside behind, grows.same _ behind (by omega)]

theorem Copies.grows (copies : Copies header uploaded copy content)
    (grows : Grows header content later) : Copies header uploaded copy later where
  uploaded := copies.uploaded
  within := Nat.le_trans copies.within grows.longer
  same i behind inside := by
    have within := copies.within
    rw [copies.same i behind inside, grows.same i behind (by omega)]

/-! ## Reading and copying -/

theorem Chunk.nil (room : position ≤ content.length) : Chunk header position [] content :=
  ⟨room, nofun⟩

/-- One more read, up to some size. -/
theorem Chunk.read (chunk : Chunk header position bytes content) (size : ℕ) :
    Chunk header position
      (bytes ++ (content.drop (position + bytes.length)).take size) content where
  within := by
    have within := chunk.within
    rw [List.length_append, List.length_take, List.length_drop]
    omega
  same i inside behind := by
    by_cases old : i < bytes.length
    · rw [List.getElem?_append_left old, chunk.same i old behind]
    · rw [List.length_append, List.length_take] at inside
      rw [List.getElem?_append_right (Nat.le_of_not_lt old),
        List.getElem?_take_of_lt (by omega), List.getElem?_drop]
      congr 1
      omega

/-- A chunk from where the copy has all is copied: the copy is as long as what it had and as where
the chunk ends. -/
theorem Copies.part {length : ℕ} (copies : Copies header uploaded copy content)
    (chunk : Chunk header uploaded bytes content) (enough : length ≤ uploaded + bytes.length) :
    Copies header length (writeAt fill copy uploaded bytes) content where
  uploaded := by
    rw [length_writeAt]
    omega
  within := by
    rw [length_writeAt]
    exact Nat.max_le.mpr ⟨copies.within, chunk.within⟩
  same i behind inside := by
    have room := copies.uploaded
    rw [length_writeAt] at inside
    rw [getElem?_writeAt room]
    by_cases own : uploaded ≤ i ∧ i < uploaded + bytes.length
    · have position : uploaded + (i - uploaded) = i := by omega
      rw [if_pos own, chunk.same (i - uploaded) (by omega) (by omega), position]
    · rw [if_neg own]
      exact copies.same i behind (by omega)

/-- With the header of the file a copy that is as long is the file. -/
theorem Copies.tail (copies : Copies header uploaded copy content)
    (whole : copy.length = content.length) :
    writeAt fill copy 0 (content.take header) = content := by
  have size : (content.take header).length = min header content.length := List.length_take
  apply List.ext_getElem?
  intro i
  rw [getElem?_writeAt (Nat.zero_le _), Nat.sub_zero, Nat.zero_add]
  by_cases own : i < (content.take header).length
  · rw [if_pos ⟨Nat.zero_le _, own⟩, List.getElem?_take_of_lt (by omega)]
  · rw [if_neg fun both => own both.2]
    by_cases inside : i < copy.length
    · exact copies.same i (by omega) inside
    · rw [List.getElem?_eq_none (Nat.le_of_not_lt inside), List.getElem?_eq_none (by omega)]

end Lib
