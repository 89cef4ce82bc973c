import Mathlib.Data.List.Basic

/-!
# Channels with tokens for a queue

Values go to a consumer through a channel, or through a queue beside it. For each value in the queue
the channel has a token, so that the consumer takes both kinds in one order. `upcoming` is that
order: a token stands for the oldest value of the queue that no token before it stands for.
-/

namespace Lib

variable {α : Type}

/-- What is in a channel. -/
inductive Parcel (α : Type)
  | value (a : α)
  /-- The next value is in the queue. -/
  | token
  /-- Something that is no value. -/
  | other
deriving DecidableEq

/-- How many tokens are in a channel. -/
def tokens : List (Parcel α) → Nat
  | [] => 0
  | .token :: items => tokens items + 1
  | _ :: items => tokens items

/-- The values in the order in which the consumer takes them, those without a token last. -/
def upcoming : List (Parcel α) → List α → List α
  | [], queue => queue
  | .value a :: items, queue => a :: upcoming items queue
  | .token :: items, a :: queue => a :: upcoming items queue
  | .token :: items, [] => upcoming items []
  | .other :: items, queue => upcoming items queue

theorem tokens_append (items more : List (Parcel α)) :
    tokens (items ++ more) = tokens items + tokens more := by
  induction items with
  | nil => exact (Nat.zero_add _).symm
  | cons item items ih =>
    cases item with
    | token =>
      show tokens (items ++ more) + 1 = tokens items + 1 + tokens more
      rw [ih]
      omega
    | value a => exact ih
    | other => exact ih

/-- With a token for each value of the queue, what is added to the channel comes last. -/
theorem upcoming_append {items : List (Parcel α)} {queue : List α} (matched : tokens items = queue.length)
    (more : List (Parcel α)) (added : List α) :
    upcoming (items ++ more) (queue ++ added) = upcoming items queue ++ upcoming more added := by
  induction items generalizing queue with
  | nil =>
    rw [List.length_eq_zero_iff.mp matched.symm]
    rfl
  | cons item items ih =>
    cases item with
    | value a => exact congrArg (a :: ·) (ih matched)
    | token =>
      cases queue with
      | nil => cases matched
      | cons a queue => exact congrArg (a :: ·) (ih (Nat.succ.inj matched))
    | other => exact ih matched

/-- A channel without values leaves the order of the queue. -/
theorem upcoming_of_tokens {items : List (Parcel α)} {queue : List α}
    (none : ∀ a, Parcel.value a ∉ items) (enough : tokens items ≤ queue.length) :
    upcoming items queue = queue := by
  induction items generalizing queue with
  | nil => rfl
  | cons item items ih =>
    have rest : ∀ a, Parcel.value a ∉ items := fun a inside => none a (List.mem_cons_of_mem _ inside)
    cases item with
    | value a => exact absurd List.mem_cons_self (none a)
    | token =>
      cases queue with
      | nil => exact absurd enough (Nat.not_succ_le_zero _)
      | cons a queue => exact congrArg (a :: ·) (ih rest (Nat.le_of_succ_le_succ enough))
    | other => exact ih rest enough

end Lib
