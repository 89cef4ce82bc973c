import Mathlib.Data.List.DropRight
import Mathlib.Order.Defs.LinearOrder

/-!
# Windows over a sequence

A window of some size holds the last elements of a sequence: a new element pushes the oldest one out
as soon as the window is full.
-/

namespace Lib

variable {α : Type}

/-- A window after one more element. -/
def slide (size : ℕ) (window : List α) (element : α) : List α :=
  (if size ≤ window.length then window.tail else window) ++ [element]

/-- A window holds the last elements. -/
theorem slide_rtake {size : ℕ} (positive : 0 < size) (sequence : List α) (element : α) :
    slide size (sequence.rtake size) element = (sequence ++ [element]).rtake size := by
  obtain ⟨rest, rfl⟩ := Nat.exists_eq_add_of_le' positive
  rw [List.rtake_concat_succ, slide]
  congr 1
  unfold List.rtake
  by_cases full : rest + 1 ≤ (sequence.drop (sequence.length - (rest + 1))).length
  · rw [if_pos full, List.tail_drop]
    rw [List.length_drop] at full
    congr 1
    omega
  · rw [if_neg full]
    rw [List.length_drop] at full
    congr 1
    omega

theorem length_rtake (size : ℕ) (sequence : List α) :
    (sequence.rtake size).length = min size sequence.length := by
  unfold List.rtake
  rw [List.length_drop]
  omega

theorem rtake_subset (size : ℕ) (sequence : List α) : sequence.rtake size ⊆ sequence :=
  List.drop_subset _ _

end Lib
