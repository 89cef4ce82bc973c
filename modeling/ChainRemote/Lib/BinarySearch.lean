import Mathlib.Order.Lattice
import Mathlib.Tactic.Cases

/-!
# Binary search

The search of a sorted list halves the part that can hold the value until one place is left, and
compares only there. Where the list is strictly increasing it finds exactly the members, each at its
place, and a member is taken out without the others being lost.
-/

namespace Lib

variable {α : Type} [LinearOrder α]

/-- The place that is left of the `size` places from `base` on; every step at least takes one away,
so as many steps as there are places are enough. -/
def narrow (xs : List α) (x : α) : Nat → Nat → Nat → Nat
  | 0, base, _ => base
  | steps + 1, base, size =>
    if size > 1 then
      let half := size / 2
      let mid := base + half
      let greater := xs[mid]?.any fun y => x < y
      narrow xs x steps (if greater then base else mid) (size - half)
    else base

/-- `binary_search`: the place of a value, or where it would be put in. -/
def binarySearch (xs : List α) (x : α) : Except Nat Nat :=
  let base := narrow xs x xs.length 0 xs.length
  match xs[base]? with
  | none => .error 0
  | some y => if y = x then .ok base else .error (if y < x then base + 1 else base)

section Search

variable {xs : List α} {x : α}

/-- In an increasing list a value at another place compares as the places do. -/
theorem increasing_place (sorted : xs.Pairwise (· < ·)) {i j : Nat} {y z : α}
    (first : xs[i]? = some y) (second : xs[j]? = some z) : y < z ↔ i < j := by
  obtain ⟨early, rfl⟩ := List.getElem?_eq_some_iff.mp first
  obtain ⟨late, rfl⟩ := List.getElem?_eq_some_iff.mp second
  have order := List.pairwise_iff_getElem.mp sorted
  constructor
  · intro below
    by_contra behind
    rcases Nat.lt_or_eq_of_le (Nat.le_of_not_lt behind) with before | same
    · exact lt_asymm below (order j i late early before)
    · subst same
      exact lt_irrefl _ below
  · exact order i j early late

/-- The search keeps the place of the value among those that are left. -/
theorem narrow_place (sorted : xs.Pairwise (· < ·)) {place : Nat} (there : xs[place]? = some x)
    {steps base size : Nat} (enough : size ≤ steps + 1) (after : base ≤ place)
    (before : place < base + size) (inside : base + size ≤ xs.length) :
    narrow xs x steps base size = place := by
  induction steps generalizing base size with
  | zero =>
    rw [narrow]
    omega
  | succ steps ih =>
    rw [narrow]
    by_cases many : size > 1
    · rw [if_pos many]
      have middle : base + size / 2 < xs.length := by omega
      have read : xs[base + size / 2]? = some xs[base + size / 2] :=
        List.getElem?_eq_getElem middle
      have place := increasing_place sorted there read
      dsimp only
      rw [read, Option.any_some]
      by_cases greater : x < xs[base + size / 2]
      · rw [decide_eq_true greater, if_pos rfl]
        have left := place.mp greater
        exact ih (by omega) after (by omega) (by omega)
      · rw [decide_eq_false greater, if_neg (by decide)]
        have right : ¬ _ := fun left => greater (place.mpr left)
        exact ih (by omega) (by omega) (by omega) (by omega)
    · rw [if_neg many]
      omega

/-- The place that is found holds the value. -/
theorem binarySearch_holds {place : Nat} (found : binarySearch xs x = .ok place) :
    xs[place]? = some x := by
  unfold binarySearch at found
  dsimp only at found
  cases read : xs[narrow xs x xs.length 0 xs.length]? with
  | none =>
    rw [read] at found
    cases found
  | some y =>
    rw [read] at found
    dsimp only at found
    by_cases same : y = x
    · rw [if_pos same] at found
      rw [← Except.ok.inj found, read, same]
    · rw [if_neg same] at found
      cases found

/-- A value of an increasing list is found at its place. -/
theorem binarySearch_finds (sorted : xs.Pairwise (· < ·)) {place : Nat}
    (there : xs[place]? = some x) : binarySearch xs x = .ok place := by
  have inside := (List.getElem?_eq_some_iff.mp there).1
  have left : narrow xs x xs.length 0 xs.length = place :=
    narrow_place sorted there (Nat.le_succ _) (Nat.zero_le _) (by omega) (by omega)
  unfold binarySearch
  dsimp only
  rw [left, there]
  exact if_pos rfl

/-- Exactly the values of an increasing list are found. -/
theorem binarySearch_mem (sorted : xs.Pairwise (· < ·)) :
    (binarySearch xs x).isOk = true ↔ x ∈ xs := by
  constructor
  · intro found
    cases result : binarySearch xs x with
    | error place =>
      rw [result] at found
      cases found
    | ok place => exact List.mem_of_getElem? (binarySearch_holds result)
  · intro inside
    obtain ⟨place, there⟩ := List.getElem?_of_mem inside
    rw [binarySearch_finds sorted there]
    rfl

/-- A value that is taken out of an increasing list at its place leaves the others. -/
theorem mem_taken (sorted : xs.Pairwise (· < ·)) {place : Nat} (there : xs[place]? = some x)
    (y : α) : y ∈ xs.eraseIdx place ↔ y ∈ xs ∧ y ≠ x := by
  rw [List.mem_eraseIdx_iff_getElem?]
  constructor
  · rintro ⟨other, different, read⟩
    refine ⟨List.mem_of_getElem? read, ?_⟩
    rintro rfl
    have before : ¬ _ := fun first => lt_irrefl _ ((increasing_place sorted read there).mpr first)
    have after : ¬ _ := fun last => lt_irrefl _ ((increasing_place sorted there read).mpr last)
    omega
  · rintro ⟨inside, different⟩
    obtain ⟨other, read⟩ := List.getElem?_of_mem inside
    refine ⟨other, ?_, read⟩
    rintro rfl
    exact different (Option.some.inj (read.symm.trans there))

end Search

end Lib
