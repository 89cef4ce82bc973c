import Mathlib.Data.List.Basic
import Mathlib.Data.List.TakeDrop
import ChainRemote.Server.Authorization

/-!
# The marker of a restart

`set_restart_reconnect_grace` writes the id of the operator and a time into one line, and
`consume_restart_reconnect_grace` splits it at the first colon. The id is what the operator's app
sends as `my_id`, and nothing escapes it.
-/

namespace ChainRemote.Server

open Lib Agent

/-- Seconds of a clock reading; `SystemTime` counts them in 64 bits with a sign. -/
abbrev Seconds := Fin (2 ^ 63)

/-- `set_restart_reconnect_grace`: what is in the marker file afterwards. -/
def setRestartReconnectGrace (operatorId : String) (now : Seconds) : String :=
  operatorId ++ ":" ++ toString (now.val + 300)

/-- The answer to an operator who logs in after the marker was written. -/
def World.graces (w : World) (operatorId : String) (written : Seconds) (caller : String)
    (now : Seconds) : Bool :=
  { w with
    restartGrace := setRestartReconnectGrace operatorId written
    now := now.val }.consumeRestartReconnectGrace caller

/-- An id that comes back from the marker: no colon, and no white space in front. -/
def ReadsBack (operatorId : String) : Prop :=
  ':' ∉ operatorId.toList ∧ ∀ c ∈ operatorId.toList.head?, rustBlank c = false

/-- The marker as it is read. -/
theorem rustTrim_marker (operatorId : String) (written : Seconds) :
    rustTrim (setRestartReconnectGrace operatorId written) =
      operatorId.toList.dropWhile rustBlank ++ ':' :: Nat.toDigits 10 (written.val + 300) := by
  have text : (setRestartReconnectGrace operatorId written).toList =
      operatorId.toList ++ ':' :: Nat.toDigits 10 (written.val + 300) := by
    simp [setRestartReconnectGrace, Nat.toString_eq_repr]
  unfold rustTrim
  rw [text]
  apply stripWhere_append _ (List.cons_ne_nil _ _)
  intro c inside
  rcases List.mem_cons.mp inside with rfl | digit
  · decide
  · exact rustBlank_of_isDigit (isDigits_all (isDigits_toDigits _) c digit)

theorem parseU64_toDigits {n : Nat} (fits : n < 2 ^ 64) : parseU64 (Nat.toDigits 10 n) = n := by
  have digits := isDigits_toDigits n
  have plain : withoutPlus (Nat.toDigits 10 n) = Nat.toDigits 10 n := by
    unfold withoutPlus
    split
    · rename_i rest signed
      rw [signed, not_isDigits_plus] at digits
      cases digits
    · rfl
  unfold parseU64
  dsimp only
  rw [plain, digits, digitsValue_toDigits, decide_eq_true fits]
  rfl

/-- A text without the separator comes before it. -/
theorem span_append_of_not_mem {front : List Char} {sep : Char} (absent : sep ∉ front)
    (back : List Char) : (front ++ sep :: back).span (· ≠ sep) = (front, sep :: back) := by
  rw [List.span_eq_takeWhile_dropWhile]
  have all : ∀ c ∈ front, decide (c ≠ sep) = true := by
    intro c inside
    exact decide_eq_true fun same => absent (same ▸ inside)
  rw [List.takeWhile_append_of_pos all, List.dropWhile_append_of_pos all]
  simp

/-- What is read as the id has no colon, and it is the id that logs in. -/
theorem graced_id {w : World} {operatorId caller : String} {written now : Seconds}
    (graced : w.graces operatorId written caller now = true) :
    ':' ∉ caller.toList ∧
      caller.toList = (rustTrim (setRestartReconnectGrace operatorId written)).takeWhile
        (· ≠ ':') := by
  unfold World.graces World.consumeRestartReconnectGrace at graced
  dsimp only at graced
  rw [List.span_eq_takeWhile_dropWhile] at graced
  have same : caller.toList = (rustTrim (setRestartReconnectGrace operatorId written)).takeWhile
      (· ≠ ':') := by
    split at graced
    · rename_i gid _ gexp split'
      simp only [Bool.and_eq_true, beq_iff_eq] at graced
      rw [← graced.2]
      exact (congrArg Prod.fst split').symm
    · cases graced
  refine ⟨fun inside => ?_, same⟩
  rw [same] at inside
  have other := List.mem_takeWhile_imp inside
  simp at other

/-- The marker of an id lets in exactly that operator for five minutes if and only if the id is
read back from it. -/
theorem restart_grace_round_trip_iff (w : World) (operatorId : String) :
    (∀ (written : Seconds) (caller : String) (now : Seconds),
      w.graces operatorId written caller now = true ↔
        caller = operatorId ∧ operatorId ≠ "" ∧ now.val ≤ written.val + 300) ↔
      ReadsBack operatorId := by
  constructor
  · intro exact'
    by_cases blank : operatorId = ""
    · subst blank
      exact ⟨List.not_mem_nil, nofun⟩
    · obtain ⟨plain, same⟩ := graced_id ((exact' 0 operatorId 0).mpr ⟨rfl, blank, Nat.zero_le _⟩)
      refine ⟨plain, fun c first => ?_⟩
      by_contra space
      -- the first character would have been trimmed away
      have solid : ':' ∉ operatorId.toList.dropWhile rustBlank := fun inside =>
        plain ((List.dropWhile_sublist _).mem inside)
      have read := congrArg Prod.fst
        (span_append_of_not_mem solid (Nat.toDigits 10 ((0 : Seconds).val + 300)))
      rw [List.span_eq_takeWhile_dropWhile] at read
      dsimp only at read
      rw [rustTrim_marker, read, List.eq_cons_of_mem_head? first, List.dropWhile_cons,
        if_pos (Bool.not_eq_false _ ▸ space)] at same
      have longer := congrArg List.length same
      have fewer := (List.dropWhile_sublist (l := operatorId.toList.tail) rustBlank).length_le
      rw [List.length_cons] at longer
      omega
  · rintro ⟨plain, first⟩ written caller now
    have kept : operatorId.toList.dropWhile rustBlank = operatorId.toList := by
      cases text : operatorId.toList with
      | nil => rfl
      | cons c rest =>
        rw [text] at first
        simp [first c rfl]
    have fits : written.val + 300 < 2 ^ 64 := by
      have bounded := written.isLt
      omega
    have named : (operatorId.toList ≠ []) ↔ operatorId ≠ "" := by
      rw [ne_eq, String.toList_eq_nil_iff]
    have same : operatorId.toList = caller.toList ↔ caller = operatorId := by
      rw [String.toList_inj]
      exact eq_comm
    unfold World.graces World.consumeRestartReconnectGrace
    dsimp only
    rw [rustTrim_marker, kept, span_append_of_not_mem plain]
    dsimp only
    rw [parseU64_toDigits fits]
    simp only [Bool.and_eq_true, decide_eq_true_eq, bne_iff_ne, beq_iff_eq, named, same]
    constructor
    · rintro ⟨⟨early, given⟩, rfl⟩
      exact ⟨rfl, given, early⟩
    · rintro ⟨rfl, given, early⟩
      exact ⟨⟨early, given⟩, rfl⟩

/-- An operator who is reached over a server of his own has an id with a colon, and his marker is
never read back. -/
theorem restart_grace_lost : ¬ ∀ (w : World) (operatorId : String) (written : Seconds)
    (caller : String) (now : Seconds), w.graces operatorId written caller now = true ↔
      caller = operatorId ∧ operatorId ≠ "" ∧ now.val ≤ written.val + 300 := by
  intro exact'
  have graced := (exact' quiet "100@host:21116" 1000 "100@host:21116" 1030).mpr
    ⟨rfl, by decide, by decide⟩
  obtain ⟨plain, -⟩ := graced_id graced
  exact plain (by decide)

end ChainRemote.Server
