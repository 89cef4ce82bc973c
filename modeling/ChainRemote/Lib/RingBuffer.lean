import Mathlib.Data.List.Infix

/-!
# Ring buffers

A ring buffer holds values of a stream up to a capacity. Values enter at one end and leave at the
other, read or overwritten, so what it holds is the end of the stream.
-/

namespace Lib

variable {α : Type}

/-- The values in a ring buffer, oldest first. -/
structure RingBuffer (α : Type) where
  capacity : Nat
  contents : List α
  fits : contents.length ≤ capacity

namespace RingBuffer

/-- An empty buffer. -/
def new (capacity : Nat) : RingBuffer α := ⟨capacity, [], Nat.zero_le _⟩

/-- How many values it holds. -/
def occupied (ring : RingBuffer α) : Nat := ring.contents.length

/-- The buffer without its oldest values. -/
def skip (ring : RingBuffer α) (n : Nat) : RingBuffer α where
  capacity := ring.capacity
  contents := ring.contents.drop n
  fits := Nat.le_trans (by rw [List.length_drop]; exact Nat.sub_le _ _) ring.fits

/-- The oldest values, and the buffer without them. -/
def pop (ring : RingBuffer α) (n : Nat) : List α × RingBuffer α :=
  (ring.contents.take n, ring.skip n)

/-- The buffer after values were added; the oldest ones make room. -/
def pushOverwrite (ring : RingBuffer α) (values : List α) : RingBuffer α where
  capacity := ring.capacity
  contents := (ring.contents ++ values).drop (ring.occupied + values.length - ring.capacity)
  fits := by
    rw [List.length_drop, List.length_append]
    unfold occupied
    omega

variable {ring : RingBuffer α} {stream : List α}

@[simp] theorem capacity_skip (n : Nat) : (ring.skip n).capacity = ring.capacity := rfl

@[simp] theorem capacity_pushOverwrite (values : List α) :
    (ring.pushOverwrite values).capacity = ring.capacity := rfl

@[simp] theorem occupied_skip (n : Nat) : (ring.skip n).occupied = ring.occupied - n :=
  List.length_drop

theorem occupied_pushOverwrite (values : List α) :
    (ring.pushOverwrite values).occupied = min ring.capacity (ring.occupied + values.length) := by
  show ((ring.contents ++ values).drop _).length = _
  rw [List.length_drop, List.length_append]
  unfold occupied
  omega

/-- Adding values without room makes the room first. -/
theorem skip_pushOverwrite {values : List α} (fits : values.length ≤ ring.capacity) :
    (ring.skip (ring.occupied + values.length - ring.capacity)).pushOverwrite values =
      ring.pushOverwrite values := by
  have room : ring.occupied + values.length - ring.capacity ≤ ring.contents.length := by
    unfold occupied
    omega
  have none : (ring.skip (ring.occupied + values.length - ring.capacity)).occupied +
      values.length - ring.capacity = 0 := by
    rw [occupied_skip]
    have := ring.fits
    unfold occupied
    omega
  unfold pushOverwrite
  congr 1
  rw [capacity_skip, none, List.drop_zero, List.drop_append_of_le_length room]
  rfl

/-- What is read comes first, the rest stays. -/
theorem pop_append (n : Nat) : (ring.pop n).1 ++ (ring.pop n).2.contents = ring.contents :=
  List.take_append_drop _ _

/-- Without its oldest values a buffer still holds the end of the stream. -/
theorem skip_suffix (held : ring.contents <:+ stream) (n : Nat) :
    (ring.skip n).contents <:+ stream :=
  (List.drop_suffix _ _).trans held

/-- Added values are the end of the stream. -/
theorem pushOverwrite_suffix (held : ring.contents <:+ stream) (values : List α) :
    (ring.pushOverwrite values).contents <:+ stream ++ values := by
  obtain ⟨front, rfl⟩ := held
  exact (List.drop_suffix _ _).trans ⟨front, (List.append_assoc _ _ _).symm⟩

end RingBuffer

end Lib
