/-!
# Checks that throw

A function that checks its input before it works is a `do` block of `Except`: it returns a
result exactly where every check passes. `require` is one check, and the lemmas turn "the
function returned this" into the list of what it checked.
-/

namespace Lib

variable {ε α β : Type}

/-- Go on if the condition holds, throw otherwise. -/
def require (condition : Prop) [Decidable condition] (error : ε) : Except ε Unit :=
  if condition then .ok () else .error error

/-- What a possibly missing value is; throw where it is missing. -/
def orThrow (value : Option α) (error : ε) : Except ε α :=
  match value with
  | some a => .ok a
  | none => .error error

/-- Two parts in a row return where the first one does and the second one does after it. -/
theorem returns_bind_iff {first : Except ε α} {rest : α → Except ε β} {result : β} :
    first >>= rest = .ok result ↔ ∃ value, first = .ok value ∧ rest value = .ok result := by
  cases first with
  | error thrown => simp [bind, Except.bind]
  | ok value => simp [bind, Except.bind]

theorem require_eq_ok {condition : Prop} [Decidable condition] {error : ε} {u : Unit} :
    require condition error = .ok u ↔ condition := by
  unfold require
  split
  · simp [*]
  · simp [*]

theorem orThrow_eq_ok {value : Option α} {error : ε} {a : α} :
    orThrow value error = .ok a ↔ value = some a := by
  cases value with
  | none => simp [orThrow]
  | some b => simp [orThrow]

/-- A check in front of the rest. -/
@[simp] theorem require_bind_eq_ok {condition : Prop} [Decidable condition] {error : ε}
    {f : Unit → Except ε β} {b : β} :
    require condition error >>= f = .ok b ↔ condition ∧ f () = .ok b := by
  rw [returns_bind_iff]
  constructor
  · rintro ⟨u, passed, rest⟩
    exact ⟨require_eq_ok.mp passed, rest⟩
  · rintro ⟨passed, rest⟩
    exact ⟨(), require_eq_ok.mpr passed, rest⟩

end Lib
