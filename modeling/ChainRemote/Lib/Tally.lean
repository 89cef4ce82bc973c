import Mathlib.Data.List.Basic
import Mathlib.Data.List.MinMax
import Mathlib.Data.List.Nodup

/-!
# Tallies

A tally of a list counts its values in the order of their first occurrence, kept as the loops that
count votes keep it: a value that is there is incremented, one that is not goes to the end. The
most frequent value is the first whose count is the greatest.
-/

namespace Lib

section Tally

variable {α : Type} [DecidableEq α]

/-- One more occurrence of a value. -/
def increment : List (α × Nat) → α → List (α × Nat)
  | [], a => [(a, 1)]
  | (b, n) :: rest, a => if b = a then (b, n + 1) :: rest else (b, n) :: increment rest a

/-- The values of a list with their counts. -/
def tally (xs : List α) : List (α × Nat) := xs.foldl increment []

/-- The greatest count, 0 where there is none. -/
def maxCount (counts : List (α × Nat)) : Nat := (counts.map Prod.snd).max?.getD 0

/-- The first value whose count is the greatest. -/
def mostFrequent (xs : List α) : Option α :=
  ((tally xs).find? fun entry => entry.2 == maxCount (tally xs)).map Prod.fst

/-- What one more occurrence leaves of the keys. -/
theorem mem_keys_increment (counts : List (α × Nat)) (a b : α) :
    b ∈ (increment counts a).map Prod.fst ↔ b = a ∨ b ∈ counts.map Prod.fst := by
  induction counts with
  | nil => simp [increment]
  | cons entry rest ih =>
    obtain ⟨c, n⟩ := entry
    unfold increment
    by_cases own : c = a
    · subst own
      simp
    · simp only [if_neg own, List.map_cons, List.mem_cons, ih]
      exact or_left_comm

/-- Keys stay apart. -/
theorem nodup_keys_increment {counts : List (α × Nat)} (apart : (counts.map Prod.fst).Nodup) (a : α) :
    ((increment counts a).map Prod.fst).Nodup := by
  induction counts with
  | nil => simp [increment]
  | cons entry rest ih =>
    obtain ⟨c, n⟩ := entry
    have split := List.nodup_cons.mp apart
    unfold increment
    by_cases own : c = a
    · rw [if_pos own]
      exact apart
    · rw [if_neg own]
      refine List.nodup_cons.mpr ⟨?_, ih split.2⟩
      intro inside
      rcases (mem_keys_increment rest a c).mp inside with same | old
      · exact own same
      · exact split.1 old

/-- The entries after one more occurrence: that of the value is one more, the others stay. -/
theorem mem_increment {counts : List (α × Nat)} (apart : (counts.map Prod.fst).Nodup) {a b : α}
    {n : Nat} (inside : (b, n) ∈ increment counts a) :
    (b ≠ a ∧ (b, n) ∈ counts) ∨
      b = a ∧ (n = 1 ∧ a ∉ counts.map Prod.fst ∨ ∃ m, n = m + 1 ∧ (a, m) ∈ counts) := by
  induction counts with
  | nil =>
    obtain ⟨rfl, rfl⟩ : b = a ∧ n = 1 := by simpa [increment] using inside
    exact .inr ⟨rfl, .inl ⟨rfl, List.not_mem_nil⟩⟩
  | cons entry rest ih =>
    obtain ⟨c, k⟩ := entry
    have split := List.nodup_cons.mp apart
    unfold increment at inside
    by_cases own : c = a
    · subst own
      rw [if_pos rfl] at inside
      rcases List.mem_cons.mp inside with same | old
      · obtain ⟨rfl, rfl⟩ := Prod.mk.inj same
        exact .inr ⟨rfl, .inr ⟨k, rfl, List.mem_cons_self⟩⟩
      · refine .inl ⟨?_, List.mem_cons_of_mem _ old⟩
        rintro rfl
        exact split.1 (List.mem_map.mpr ⟨_, old, rfl⟩)
    · rw [if_neg own] at inside
      rcases List.mem_cons.mp inside with same | old
      · obtain ⟨rfl, rfl⟩ := Prod.mk.inj same
        exact .inl ⟨own, List.mem_cons_self⟩
      · rcases ih split.2 old with ⟨differs, there⟩ | ⟨rfl, ⟨rfl, absent⟩ | ⟨m, rfl, there⟩⟩
        · exact .inl ⟨differs, List.mem_cons_of_mem _ there⟩
        · refine .inr ⟨rfl, .inl ⟨rfl, ?_⟩⟩
          rintro (_ | ⟨_, among⟩)
          · exact own rfl
          · exact absent among
        · exact .inr ⟨rfl, .inr ⟨m, rfl, List.mem_cons_of_mem _ there⟩⟩

/-- A tally lists each value of the list once, with how often it occurs. -/
theorem tally_spec (xs : List α) :
    ((tally xs).map Prod.fst).Nodup ∧ (∀ a, a ∈ (tally xs).map Prod.fst ↔ a ∈ xs) ∧
      ∀ a n, (a, n) ∈ tally xs → n = xs.count a := by
  induction xs using List.reverseRecOn with
  | nil => exact ⟨List.nodup_nil, fun a => Iff.rfl, nofun⟩
  | append_singleton xs x ih =>
    obtain ⟨apart, keys, counted⟩ := ih
    have shape : tally (xs ++ [x]) = increment (tally xs) x := List.foldl_append
    rw [shape]
    refine ⟨nodup_keys_increment apart x, fun a => ?_, fun a n inside => ?_⟩
    · rw [mem_keys_increment, keys, List.mem_append, List.mem_singleton, or_comm]
    · rw [List.count_append]
      rcases mem_increment apart inside with ⟨differs, old⟩ | ⟨rfl, ⟨rfl, absent⟩ | ⟨m, rfl, old⟩⟩
      · rw [counted a n old, List.count_singleton, if_neg (by simpa using Ne.symm differs)]
        rfl
      · rw [List.count_eq_zero.mpr (mt (keys a).mpr absent), List.count_singleton_self]
      · rw [counted a m old, List.count_singleton_self]

/-- The count of a value of the list is in the tally. -/
theorem mem_tally {xs : List α} {a : α} (inside : a ∈ xs) : (a, xs.count a) ∈ tally xs := by
  obtain ⟨-, keys, counted⟩ := tally_spec xs
  obtain ⟨⟨b, n⟩, entry, rfl⟩ := List.mem_map.mp ((keys a).mpr inside)
  have same : n = xs.count b := counted b n entry
  exact same ▸ entry

omit [DecidableEq α] in
/-- No count exceeds the greatest. -/
theorem le_maxCount {counts : List (α × Nat)} {entry : α × Nat} (inside : entry ∈ counts) :
    entry.2 ≤ maxCount counts := by
  unfold maxCount
  cases greatest : (counts.map Prod.snd).max? with
  | none =>
    rw [List.max?_eq_none_iff, List.map_eq_nil_iff] at greatest
    exact absurd inside (greatest ▸ List.not_mem_nil)
  | some m => exact (List.max?_eq_some_iff.mp greatest).2 _ (List.mem_map_of_mem inside)

omit [DecidableEq α] in
/-- The greatest count is the count of an entry. -/
theorem exists_maxCount {counts : List (α × Nat)} (nonempty : counts ≠ []) :
    ∃ entry ∈ counts, entry.2 = maxCount counts := by
  unfold maxCount
  cases greatest : (counts.map Prod.snd).max? with
  | none =>
    rw [List.max?_eq_none_iff, List.map_eq_nil_iff] at greatest
    exact absurd greatest nonempty
  | some m =>
    obtain ⟨entry, inside, same⟩ := List.mem_map.mp (List.max?_mem greatest)
    exact ⟨entry, inside, same⟩

/-- The most frequent value occurs, and no value occurs more often. -/
theorem mostFrequent_spec {xs : List α} {a : α} (found : mostFrequent xs = some a) :
    a ∈ xs ∧ ∀ b, xs.count b ≤ xs.count a := by
  obtain ⟨-, keys, counted⟩ := tally_spec xs
  obtain ⟨⟨a, n⟩, first, rfl⟩ := Option.map_eq_some_iff.mp found
  have inside : (a, n) ∈ tally xs := List.mem_of_find?_eq_some first
  have greatest : n = maxCount (tally xs) := by simpa using List.find?_some first
  have mine : n = xs.count a := counted a n inside
  refine ⟨(keys a).mp (List.mem_map_of_mem inside), fun b => ?_⟩
  by_cases there : b ∈ xs
  · have bound : xs.count b ≤ maxCount (tally xs) := le_maxCount (mem_tally there)
    show xs.count b ≤ xs.count a
    omega
  · rw [List.count_eq_zero.mpr there]
    exact Nat.zero_le _

/-- A list with a value has a most frequent one. -/
theorem mostFrequent_isSome {xs : List α} (nonempty : xs ≠ []) : (mostFrequent xs).isSome := by
  obtain ⟨x, inside⟩ := List.exists_mem_of_ne_nil xs nonempty
  obtain ⟨entry, there, greatest⟩ :=
    exists_maxCount (List.ne_nil_of_mem (mem_tally inside))
  unfold mostFrequent
  rw [Option.isSome_map, List.find?_isSome]
  exact ⟨entry, there, by simpa using greatest⟩

/-- A value that occurs more often than any other is the most frequent, in whichever order the list
comes. -/
theorem mostFrequent_of_perm {xs ys : List α} (same : xs.Perm ys) {a : α} (inside : a ∈ xs)
    (ahead : ∀ b ∈ xs, b ≠ a → xs.count b < xs.count a) : mostFrequent ys = some a := by
  have there : a ∈ ys := same.mem_iff.mp inside
  obtain ⟨b, found⟩ := Option.isSome_iff_exists.mp (mostFrequent_isSome (List.ne_nil_of_mem there))
  obtain ⟨among, most⟩ := mostFrequent_spec found
  by_cases own : b = a
  · exact own ▸ found
  · have less := ahead b (same.mem_iff.mpr among) own
    have more := most a
    rw [← same.count_eq, ← same.count_eq] at more
    omega

end Tally

end Lib
