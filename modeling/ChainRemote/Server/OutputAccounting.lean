import ChainRemote.Lib.Machine
import ChainRemote.Server.OutputBuffer

/-!
# What the history of a terminal counts

`total_size` is the number of the bytes held less those that finished a line: `append` joins them
to the line and does not count them. A trim keeps that difference, or never ends. So the count is
exact, and every call returns, as long as no chunk finishes a line, and the history stays bounded
as long as few bytes are uncounted and no line without a newline grows too long.
-/

namespace ChainRemote.Server.OutputBuffer

open Lib

/-- The bytes held and the data are in memory together, in half of the address space. -/
def Fits (data : Bytes) (buffer : OutputBuffer) : Prop :=
  buffer.content.length + data.length < usizeSize / 2

instance (data : Bytes) (buffer : OutputBuffer) : Decidable (Fits data buffer) :=
  inferInstanceAs (Decidable (_ < _))

/-- The data extends a last line without a newline, and has none itself. -/
def Extends (data : Bytes) (buffer : OutputBuffer) : Prop :=
  buffer.lastLineIncomplete = true ∧ buffer.lines ≠ [] ∧ newline ∉ data

/-- The data finishes a last line without a newline. -/
def Finishes (data : Bytes) (buffer : OutputBuffer) : Prop :=
  buffer.lastLineIncomplete = true ∧ buffer.lines ≠ [] ∧ newline ∈ data

instance (data : Bytes) (buffer : OutputBuffer) : Decidable (Extends data buffer) :=
  inferInstanceAs (Decidable (_ ∧ _))

instance (data : Bytes) (buffer : OutputBuffer) : Decidable (Finishes data buffer) :=
  inferInstanceAs (Decidable (_ ∧ _))

/-- The number of bytes of the data that finish a line. -/
def joinedLength (data : Bytes) (buffer : OutputBuffer) : Nat :=
  if Finishes data buffer then data.findIdx (· == newline) + 1 else 0

/-- Whether `total_size -= removed.len()` underflows in the loop of `trim`. -/
def trimUnderflows (totalSize : Nat) : List Bytes → Bool
  | [] => false
  | line :: rest =>
    if totalSize > maxOutputBufferSize ∨ (line :: rest).length > maxBufferLines then
      decide (totalSize < line.length) ||
        trimUnderflows ((totalSize + usizeSize - line.length) % usizeSize) rest
    else false

/-- Whether it underflows in a call of `append`. -/
def appendUnderflows (data : Bytes) (buffer : OutputBuffer) : Bool :=
  if data.isEmpty then false
  else
    match joinLast data buffer with
    | .inl _ => false
    | .inr (joined, remaining) =>
      let grown := pushLines remaining joined
      trimUnderflows grown.totalSize grown.lines

/-- The buffer of the reader. -/
def readerBufferSize : Nat := 4096

/-- A call returns without an underflow, and the size is that of the lines. -/
def Accounted (data : Bytes) (buffer : OutputBuffer) : Prop :=
  ∃ after, append data buffer = some after ∧ appendUnderflows data buffer = false ∧
    after.totalSize = after.content.length

/-- A terminal's history, from a new buffer. -/
def history : Machine OutputBuffer Bytes where
  start buffer := buffer = {}
  step buffer data := append data buffer

section Join

variable {data : Bytes} {buffer : OutputBuffer}

/-- A buffer whose last line is extended. -/
def extended (data : Bytes) (buffer : OutputBuffer) (last : Bytes) : OutputBuffer :=
  { buffer with
    lines := buffer.lines.dropLast ++ [last ++ data]
    totalSize := (buffer.totalSize + data.length) % usizeSize }

theorem exists_last {lines : List Bytes} (real : lines ≠ []) :
    ∃ last, lines.getLast? = some last :=
  Option.ne_none_iff_exists'.mp (mt List.getLast?_eq_none_iff.mp real)

theorem joinLast_extends (extend : Extends data buffer) :
    ∃ last, buffer.lines.getLast? = some last ∧
      joinLast data buffer = .inl (extended data buffer last) := by
  obtain ⟨last, found⟩ := exists_last extend.2.1
  refine ⟨last, found, ?_⟩
  have none : data.findIdx? (· == newline) = none := by
    rw [List.findIdx?_eq_none_iff]
    intro byte inside
    rw [beq_eq_false_iff_ne]
    rintro rfl
    exact extend.2.2 inside
  unfold joinLast
  rw [if_pos extend.1, found, none]
  rfl

/-- A finished line gets the data up to its first newline. -/
theorem joinLast_finishes (finish : Finishes data buffer) :
    ∃ last, buffer.lines.getLast? = some last ∧
      joinLast data buffer = .inr ({ buffer with
        lines := buffer.lines.dropLast ++ [last ++ data.take (joinedLength data buffer)]
        lastLineIncomplete := false }, data.drop (joinedLength data buffer)) := by
  obtain ⟨last, found⟩ := exists_last finish.2.1
  refine ⟨last, found, ?_⟩
  have first : data.findIdx? (· == newline) = some (data.findIdx (· == newline)) := by
    rw [List.findIdx?_eq_some_iff_findIdx_eq]
    exact ⟨List.findIdx_lt_length_of_exists ⟨newline, finish.2.2, beq_self_eq_true _⟩, rfl⟩
  unfold joinLast joinedLength
  rw [if_pos finish.1, found, first, if_pos finish]

theorem joinLast_starts (extend : ¬ Extends data buffer) (finish : ¬ Finishes data buffer) :
    joinLast data buffer = .inr (buffer, data) := by
  unfold joinLast
  split
  · rename_i incomplete
    split
    · rename_i last found
      have real : buffer.lines ≠ [] := by
        intro none
        simp [none] at found
      by_cases ends : newline ∈ data
      · exact absurd ⟨incomplete, real, ends⟩ finish
      · exact absurd ⟨incomplete, real, ends⟩ extend
    · rfl
  · rfl

/-- What joining leaves to be pushed. -/
structure Joined (data : Bytes) (buffer left : OutputBuffer) (remaining : Bytes) : Prop where
  totalSize : left.totalSize = buffer.totalSize
  content : left.content ++ remaining = buffer.content ++ data
  length : left.content.length = buffer.content.length + joinedLength data buffer

/-- Data that does not only extend the last line is joined, and the rest is left. -/
theorem joinLast_joined (extend : ¬ Extends data buffer) :
    ∃ left remaining, joinLast data buffer = .inr (left, remaining) ∧
      Joined data buffer left remaining := by
  have content := content_joinLast data buffer
  by_cases finish : Finishes data buffer
  · obtain ⟨last, found, same⟩ := joinLast_finishes finish
    rw [same] at content
    refine ⟨_, _, same, rfl, content, ?_⟩
    have within : joinedLength data buffer ≤ data.length := by
      have bound : data.findIdx (· == newline) < data.length :=
        List.findIdx_lt_length_of_exists ⟨newline, finish.2.2, beq_self_eq_true newline⟩
      unfold joinedLength
      rw [if_pos finish]
      omega
    have lengths := congrArg List.length content
    rw [List.length_append, List.length_append, List.length_drop] at lengths
    omega
  · have same := joinLast_starts extend finish
    refine ⟨_, _, same, rfl, rfl, ?_⟩
    unfold joinedLength
    rw [if_neg finish, Nat.add_zero]

theorem joined_of_found {left : OutputBuffer} {remaining : Bytes} (extend : ¬ Extends data buffer)
    (found : joinLast data buffer = .inr (left, remaining)) : Joined data buffer left remaining := by
  obtain ⟨left, remaining, same, joined⟩ := joinLast_joined extend
  obtain ⟨rfl, rfl⟩ := Prod.mk.inj (Sum.inr.inj (same.symm.trans found))
  exact joined

/-- The lines pushed are counted. -/
theorem totalSize_pushLines (remaining : Bytes) (buffer : OutputBuffer) :
    (pushLines remaining buffer).totalSize =
      (buffer.totalSize + remaining.length) % usizeSize := by
  have content := congrArg List.length (content_pushLines remaining buffer)
  unfold OutputBuffer.content pushLines at content
  rw [List.flatten_append, List.length_append, List.length_append] at content
  have same : (pushed (remaining.getLast? == some newline)
      (remaining.splitOn newline)).flatten.length = remaining.length := by omega
  unfold pushLines
  dsimp only
  rw [same]

/-- What is pushed leaves the size within the bytes held, and these in memory. -/
theorem pushLines_under {left : OutputBuffer} {remaining : Bytes}
    (under : buffer.totalSize ≤ buffer.content.length) (fits : Fits data buffer)
    (joined : Joined data buffer left remaining) :
    (pushLines remaining left).totalSize ≤ (pushLines remaining left).content.length ∧
      (pushLines remaining left).content.length + maxOutputBufferSize < usizeSize ∧
      remaining.length ≤ data.length := by
  have lengths := congrArg List.length joined.content
  rw [List.length_append, List.length_append, joined.length] at lengths
  have content : (pushLines remaining left).content.length =
      buffer.content.length + data.length := by
    rw [content_pushLines, joined.content, List.length_append]
  have same := joined.totalSize
  unfold Fits usizeSize at fits
  have counted : (pushLines remaining left).totalSize = left.totalSize + remaining.length := by
    rw [totalSize_pushLines]
    exact Nat.mod_eq_of_lt (by unfold usizeSize; omega)
  unfold usizeSize maxOutputBufferSize
  omega

/-- A part without a newline is pushed as the last line. -/
theorem pushLines_unbroken (nonempty : data.isEmpty = false) (unbroken : newline ∉ data)
    (buffer : OutputBuffer) :
    pushLines data buffer =
      { lines := buffer.lines ++ [data]
        totalSize := (buffer.totalSize + data.length) % usizeSize
        lastLineIncomplete := true } := by
  have parts : data.splitOn newline = [data] := List.splitOn_eq_singleton unbroken
  have ends : (data.getLast? == some newline) = false := by
    rw [beq_eq_false_iff_ne]
    intro last
    exact unbroken (List.mem_of_getLast? last)
  have lines : pushed false [data] = [data] := by
    rw [pushed, nonempty]
    rfl
  unfold pushLines
  rw [parts, ends]
  dsimp only
  rw [lines, List.flatten_singleton, List.getLast?_singleton, Option.any_some, nonempty]
  rfl

end Join

section Trim

variable {totalSize left : Nat} {lines kept : List Bytes}

/-- A size beyond all lines is never trimmed. -/
theorem trim_none (beyond : maxOutputBufferSize + lines.flatten.length < totalSize)
    (bound : totalSize < usizeSize) : trim totalSize lines = none := by
  induction lines generalizing totalSize with
  | nil =>
    rw [List.flatten_nil, List.length_nil] at beyond
    rw [trim, if_pos (by omega)]
  | cons line rest ih =>
    rw [List.flatten_cons, List.length_append] at beyond
    rw [trim, if_pos (.inl (by omega))]
    have less : (totalSize + usizeSize - line.length) % usizeSize = totalSize - line.length := by
      rw [show totalSize + usizeSize - line.length = totalSize - line.length + usizeSize by omega,
        Nat.add_mod_right, Nat.mod_eq_of_lt (by omega)]
    rw [less]
    exact ih (by omega) (by omega)

/-- What a trim that returns has done. -/
structure Trimmed (totalSize : Nat) (lines : List Bytes) (left : Nat) (kept : List Bytes) :
    Prop where
  dropped : ∃ dropped, lines = dropped ++ kept ∧ left + dropped.flatten.length = totalSize
  size : left ≤ maxOutputBufferSize
  count : kept.length ≤ maxBufferLines
  fine : trimUnderflows totalSize lines = false
  /-- The last line is only dropped where it is larger than the limit itself. -/
  last : kept = [] → ∀ last ∈ lines.getLast?, maxOutputBufferSize < left + last.length

theorem trimmed_of_trim (le : totalSize ≤ lines.flatten.length)
    (small : lines.flatten.length + maxOutputBufferSize < usizeSize)
    (done : trim totalSize lines = some (left, kept)) : Trimmed totalSize lines left kept := by
  induction lines generalizing totalSize with
  | nil =>
    unfold trim at done
    split at done
    · cases done
    · obtain ⟨rfl, rfl⟩ := Prod.mk.inj (Option.some.inj done)
      exact ⟨⟨[], rfl, Nat.add_zero _⟩, by omega, Nat.zero_le _, rfl,
        fun _ _ found => absurd found (Option.not_mem_none _)⟩
  | cons line rest ih =>
    rw [List.flatten_cons, List.length_append] at le small
    unfold trim at done
    split at done
    · rename_i large
      by_cases under : totalSize < line.length
      · -- the size wraps around, and no line brings it back
        have wrapped : (totalSize + usizeSize - line.length) % usizeSize =
            totalSize + usizeSize - line.length := Nat.mod_eq_of_lt (by omega)
        rw [wrapped, trim_none (by omega) (by omega)] at done
        cases done
      · have less : (totalSize + usizeSize - line.length) % usizeSize =
            totalSize - line.length := by
          rw [show totalSize + usizeSize - line.length =
            totalSize - line.length + usizeSize by omega,
            Nat.add_mod_right, Nat.mod_eq_of_lt (by omega)]
        rw [less] at done
        have rest' := ih (by omega) (by omega) done
        obtain ⟨dropped, split, sum⟩ := rest'.dropped
        refine ⟨⟨line :: dropped, by rw [split, List.cons_append], ?_⟩, rest'.size, rest'.count,
          ?_, ?_⟩
        · rw [List.flatten_cons, List.length_append]
          omega
        · unfold trimUnderflows
          rw [if_pos large, less, rest'.fine]
          simpa using Nat.le_of_not_lt under
        · intro none last found
          cases rest with
          | nil =>
            obtain rfl : line = last := by simpa using found
            rcases large with large | large
            · have empty : dropped = [] := by
                rw [none, List.append_nil] at split
                exact split.symm
              rw [empty, List.flatten_nil, List.length_nil] at sum
              omega
            · simp [maxBufferLines] at large
          | cons next rest =>
            rw [List.getLast?_cons_cons] at found
            exact rest'.last none last found
    · rename_i fits
      obtain ⟨rfl, rfl⟩ := Prod.mk.inj (Option.some.inj done)
      refine ⟨⟨[], rfl, Nat.add_zero _⟩, by omega, by omega, ?_,
        fun none => absurd none (List.cons_ne_nil line rest)⟩
      unfold trimUnderflows
      rw [if_neg fits]

/-- A trim of lines that are all counted returns. -/
theorem trim_exact (bound : lines.flatten.length < usizeSize) :
    ∃ kept, trim lines.flatten.length lines = some (kept.flatten.length, kept) := by
  induction lines with
  | nil =>
    refine ⟨[], ?_⟩
    rw [trim, if_neg (by decide)]
  | cons line rest ih =>
    unfold trim
    split
    · rw [List.flatten_cons, List.length_append] at bound ⊢
      have less : (line.length + rest.flatten.length + usizeSize - line.length) % usizeSize =
          rest.flatten.length := by
        rw [show line.length + rest.flatten.length + usizeSize - line.length =
          rest.flatten.length + usizeSize by omega, Nat.add_mod_right,
          Nat.mod_eq_of_lt (by omega)]
      rw [less]
      exact ih (by omega)
    · exact ⟨line :: rest, rfl⟩

end Trim

section Append

variable {data : Bytes} {buffer after : OutputBuffer}

theorem joinedLength_nil : joinedLength [] buffer = 0 := by
  unfold joinedLength
  rw [if_neg fun finish => List.not_mem_nil finish.2.2]

theorem append_extends (nonempty : data ≠ []) (extend : Extends data buffer) :
    ∃ last, buffer.lines.getLast? = some last ∧
      append data buffer = some (extended data buffer last) ∧
      appendUnderflows data buffer = false := by
  obtain ⟨last, found, same⟩ := joinLast_extends extend
  have real : ¬ data.isEmpty = true := fun empty => nonempty (List.isEmpty_iff.mp empty)
  refine ⟨last, found, ?_, ?_⟩
  · unfold append
    rw [if_neg real, same]
  · unfold appendUnderflows
    rw [if_neg real, same]

/-- What joining leaves is pushed as lines, and the lines are trimmed. -/
theorem append_joined {left : OutputBuffer} {remaining : Bytes} (nonempty : data ≠ [])
    (joined : joinLast data buffer = .inr (left, remaining)) :
    append data buffer =
      (trim (pushLines remaining left).totalSize (pushLines remaining left).lines).map
        fun (totalSize, lines) => { pushLines remaining left with totalSize, lines } := by
  have real : ¬ data.isEmpty = true := fun empty => nonempty (List.isEmpty_iff.mp empty)
  unfold append
  rw [if_neg real, joined]

/-- Other data is pushed as lines, and the lines are trimmed. -/
theorem append_pushes (nonempty : data ≠ []) (extend : ¬ Extends data buffer) :
    ∃ grown : OutputBuffer, grown.content = buffer.content ++ data ∧
      grown.totalSize =
        (buffer.totalSize + (data.length - joinedLength data buffer)) % usizeSize ∧
      joinedLength data buffer ≤ data.length ∧
      append data buffer = (trim grown.totalSize grown.lines).map
        (fun (totalSize, lines) => { grown with totalSize, lines }) ∧
      appendUnderflows data buffer = trimUnderflows grown.totalSize grown.lines := by
  obtain ⟨left, remaining, same, joined⟩ := joinLast_joined extend
  have real : ¬ data.isEmpty = true := fun empty => nonempty (List.isEmpty_iff.mp empty)
  have lengths := congrArg List.length joined.content
  rw [List.length_append, List.length_append, joined.length] at lengths
  refine ⟨pushLines remaining left, ?_, ?_, by omega, append_joined nonempty same, ?_⟩
  · rw [content_pushLines, joined.content]
  · rw [totalSize_pushLines, joined.totalSize]
    congr 2
    omega
  · unfold appendUnderflows
    rw [if_neg real, same]

/-- What a call that returns has done: the bytes that finished a line are uncounted, and the size
does not underflow. -/
structure Appended (data : Bytes) (buffer after : OutputBuffer) : Prop where
  under : after.totalSize ≤ after.content.length
  uncounted : after.content.length - after.totalSize =
    buffer.content.length - buffer.totalSize + joinedLength data buffer
  fine : appendUnderflows data buffer = false
  extended : Extends data buffer →
    after.content = buffer.content ++ data ∧ after.lines.length = buffer.lines.length
  trimmed : ¬ Extends data buffer → after = buffer ∨
    after.totalSize ≤ maxOutputBufferSize ∧ after.lines.length ≤ maxBufferLines

theorem appended_of_append (under : buffer.totalSize ≤ buffer.content.length)
    (fits : Fits data buffer) (done : append data buffer = some after) :
    Appended data buffer after := by
  have bound : buffer.content.length + data.length + maxOutputBufferSize < usizeSize := by
    unfold Fits at fits
    unfold usizeSize at fits ⊢
    unfold maxOutputBufferSize
    omega
  by_cases nonempty : data = []
  · subst nonempty
    obtain rfl := Option.some.inj done
    exact ⟨under, by rw [joinedLength_nil, Nat.add_zero], rfl,
      fun _ => ⟨(List.append_nil _).symm, rfl⟩, fun _ => .inl rfl⟩
  · by_cases extend : Extends data buffer
    · obtain ⟨last, found, same, fine⟩ := append_extends nonempty extend
      obtain rfl := Option.some.inj (same.symm.trans done)
      have content : (extended data buffer last).content = buffer.content ++ data :=
        dropLast_append_last found
      have size : (extended data buffer last).totalSize = buffer.totalSize + data.length :=
        Nat.mod_eq_of_lt (by omega)
      have none : joinedLength data buffer = 0 := if_neg fun finish => extend.2.2 finish.2.2
      have lines : (extended data buffer last).lines.length = buffer.lines.length := by
        have some := List.length_pos_of_ne_nil extend.2.1
        simp only [extended, List.length_append, List.length_dropLast, List.length_singleton]
        omega
      refine ⟨?_, ?_, fine, fun _ => ⟨content, lines⟩, fun other => absurd extend other⟩
      · rw [content, size, List.length_append]
        omega
      · rw [content, size, List.length_append, none]
        omega
    · obtain ⟨grown, content, size, within, same, fine⟩ := append_pushes nonempty extend
      rw [same] at done
      obtain ⟨⟨left, kept⟩, trimmed, rfl⟩ := Option.map_eq_some_iff.mp done
      have whole := congrArg List.length content
      rw [List.length_append] at whole
      rw [Nat.mod_eq_of_lt (by omega)] at size
      have held : grown.lines.flatten.length = grown.content.length := rfl
      have below : grown.totalSize ≤ grown.lines.flatten.length := by omega
      have small : grown.lines.flatten.length + maxOutputBufferSize < usizeSize := by omega
      have done := trimmed_of_trim below small trimmed
      obtain ⟨dropped, split, sum⟩ := done.dropped
      have parts : grown.content.length = dropped.flatten.length + kept.flatten.length := by
        unfold OutputBuffer.content
        rw [split, List.flatten_append, List.length_append]
      have rest : OutputBuffer.content { grown with totalSize := left, lines := kept } =
          kept.flatten := rfl
      refine ⟨?_, ?_, by rw [fine, done.fine], fun other => absurd other extend,
        fun _ => .inr ⟨done.size, done.count⟩⟩
      · rw [rest]
        dsimp only
        omega
      · rw [rest]
        dsimp only
        omega

/-- From an exact size, a call is accounted exactly where it finishes no line. -/
theorem accounted_iff (exact_ : buffer.totalSize = buffer.content.length)
    (fits : Fits data buffer) : Accounted data buffer ↔ ¬ Finishes data buffer := by
  have under := Nat.le_of_eq exact_
  constructor
  · rintro ⟨after, done, -, size⟩ finish
    have uncounted := (appended_of_append under fits done).uncounted
    have joined : joinedLength data buffer = data.findIdx (· == newline) + 1 := if_pos finish
    omega
  · intro finish
    have joined : joinedLength data buffer = 0 := if_neg finish
    have returns : ∃ after, append data buffer = some after := by
      by_cases nonempty : data = []
      · exact ⟨buffer, by rw [nonempty]; rfl⟩
      · by_cases extend : Extends data buffer
        · obtain ⟨last, -, same, -⟩ := append_extends nonempty extend
          exact ⟨_, same⟩
        · obtain ⟨grown, content, size, -, same, -⟩ := append_pushes nonempty extend
          have whole := congrArg List.length content
          rw [List.length_append] at whole
          unfold Fits usizeSize at fits
          have counted : grown.totalSize = grown.lines.flatten.length := by
            rw [size, joined, Nat.sub_zero, exact_, ← whole]
            exact Nat.mod_eq_of_lt (by unfold usizeSize; omega)
          have small : grown.lines.flatten.length < usizeSize := by
            have same : grown.lines.flatten.length = grown.content.length := rfl
            unfold usizeSize
            omega
          obtain ⟨kept, trimmed⟩ := trim_exact small
          rw [same, counted, trimmed]
          exact ⟨_, rfl⟩
    obtain ⟨after, done⟩ := returns
    have appended := appended_of_append under fits done
    have uncounted := appended.uncounted
    have below := appended.under
    exact ⟨after, done, appended.fine, by omega⟩

/-- A chunk of the reader keeps the history bounded: it extends the last line within the bound, or
all that is held with it is within the bound, or few bytes are uncounted. -/
def KeepsBound (data : Bytes) (buffer : OutputBuffer) : Prop :=
  data.length ≤ readerBufferSize ∧
    (buffer.content.length + data.length ≤ maxOutputBufferSize + readerBufferSize ∨
      ¬ Extends data buffer ∧
        buffer.content.length - buffer.totalSize + joinedLength data buffer ≤ readerBufferSize)

instance (data : Bytes) (buffer : OutputBuffer) : Decidable (KeepsBound data buffer) :=
  inferInstanceAs (Decidable (_ ∧ (_ ∨ _)))

/-- The limits on the bytes and the lines held. -/
structure Bounded (buffer : OutputBuffer) : Prop where
  bytes : buffer.content.length ≤ maxOutputBufferSize + readerBufferSize
  lines : buffer.lines.length ≤ maxBufferLines

theorem Bounded.append (bounded : Bounded buffer) (under : buffer.totalSize ≤ buffer.content.length)
    (keeps : KeepsBound data buffer) (done : append data buffer = some after) :
    Bounded after ∧ after.totalSize ≤ after.content.length := by
  have fits : Fits data buffer := by
    have held := bounded.bytes
    have small := keeps.1
    unfold maxOutputBufferSize readerBufferSize at held
    unfold readerBufferSize at small
    unfold Fits usizeSize
    omega
  have appended := appended_of_append under fits done
  have below := (append_suffix done).length_le
  rw [List.length_append] at below
  refine ⟨?_, appended.under⟩
  by_cases extend : Extends data buffer
  · obtain ⟨content, lines⟩ := appended.extended extend
    refine ⟨?_, lines ▸ bounded.lines⟩
    rcases keeps.2 with within | ⟨other, -⟩
    · omega
    · exact absurd extend other
  · rcases appended.trimmed extend with rfl | ⟨size, lines⟩
    · exact bounded
    · refine ⟨?_, lines⟩
      have uncounted := appended.uncounted
      rcases keeps.2 with within | ⟨-, few⟩
      · omega
      · omega

end Append

section Runs

variable {buffer : OutputBuffer} {data : Bytes}

/-- A chunk that finishes no line. -/
def KeepsCount (buffer : OutputBuffer) (data : Bytes) : Prop :=
  Fits data buffer ∧ ¬ Finishes data buffer

instance (buffer : OutputBuffer) (data : Bytes) : Decidable (KeepsCount buffer data) :=
  inferInstanceAs (Decidable (_ ∧ _))

/-- Where no chunk finishes a line the size is exact. -/
theorem exact_of_reaches (reached : history.Reaches KeepsCount buffer) :
    buffer.totalSize = buffer.content.length := by
  refine reached.invariant (fun buffer => buffer.totalSize = buffer.content.length) ?_ ?_
  · rintro buffer rfl
    rfl
  · intro before chunk after exact_ keeps done
    obtain ⟨found, same, -, size⟩ := (accounted_iff exact_ keeps.1).mpr keeps.2
    obtain rfl := Option.some.inj (same.symm.trans done)
    exact size

/-- As long as no chunk finishes a line that has been stored without a newline, the size is the
length of what is stored; and then a call returns, subtracts without an underflow and leaves the
size exact for the chunks that finish no line, and for no others. -/
theorem size_exact_while_unjoined (buffer : OutputBuffer)
    (reached : history.Reaches KeepsCount buffer) :
    buffer.totalSize = buffer.content.length ∧
      ∀ data, Fits data buffer → (Accounted data buffer ↔ ¬ Finishes data buffer) := by
  have exact_ := exact_of_reaches reached
  exact ⟨exact_, fun data fits => accounted_iff exact_ fits⟩

/-- The history after some chunks. -/
def recorded (chunks : List Bytes) : OutputBuffer := history.play KeepsCount {} chunks

theorem recorded_reached (chunks : List Bytes) : history.Reaches KeepsCount (recorded chunks) :=
  ⟨{}, rfl, Machine.runs_play history KeepsCount {} chunks⟩

theorem size_exact_of_two_lines :
    (recorded [[97, 10], [98]]).totalSize = 3 ∧
      Accounted [99] (recorded [[97, 10], [98]]) := by
  obtain ⟨size, accounted⟩ := size_exact_while_unjoined (recorded [[97, 10], [98]])
    (recorded_reached _)
  have stored : recorded [[97, 10], [98]] =
      { lines := [[97, 10], [98]], totalSize := 3, lastLineIncomplete := true } := by
    decide +kernel
  refine ⟨?_, ?_⟩
  · rw [size, stored]
    rfl
  · refine (accounted [99] ?_).mpr ?_ <;> rw [stored] <;> decide +kernel

/-- A line that comes in two chunks, the second of which has its newline, is counted without the
bytes of the second. -/
theorem joined_bytes_uncounted :
    history.Reaches Machine.free (recorded [[97]]) ∧ Fits [10] (recorded [[97]]) ∧
      ¬ Accounted [10] (recorded [[97]]) := by
  have stored : recorded [[97]] =
      { lines := [[97]], totalSize := 1, lastLineIncomplete := true } := by
    decide +kernel
  obtain ⟨start, started, run⟩ := recorded_reached [[97]]
  refine ⟨⟨start, started, run.mono fun _ _ _ => trivial⟩, ?_, ?_⟩
  · rw [stored]
    decide +kernel
  · rw [stored, accounted_iff (by decide) (by decide +kernel)]
    decide +kernel

/-- While every chunk keeps the bound, the history is at most 4096 bytes over its limit on bytes and
within its limit on lines. -/
theorem bounded_while_kept (buffer : OutputBuffer)
    (reached : history.Reaches (fun buffer data => KeepsBound data buffer) buffer) :
    Bounded buffer := by
  have both : Bounded buffer ∧ buffer.totalSize ≤ buffer.content.length := by
    refine reached.invariant
      (fun buffer => Bounded buffer ∧ buffer.totalSize ≤ buffer.content.length) ?_ ?_
    · rintro buffer rfl
      exact ⟨⟨Nat.zero_le _, Nat.zero_le _⟩, Nat.le_refl _⟩
    · intro before chunk after held keeps done
      exact held.1.append held.2 keeps done
  exact both.1

theorem bounded_line : ∃ buffer,
    history.Reaches (fun buffer data => KeepsBound data buffer) buffer ∧
      buffer.lines = [[97, 98, 99]] ∧ Bounded buffer := by
  have run := Machine.runs_play history (fun buffer data => KeepsBound data buffer) {}
    [[97], [98, 99]]
  have reached : history.Reaches (fun buffer data => KeepsBound data buffer) _ := ⟨_, rfl, run⟩
  exact ⟨_, reached, by decide +kernel, bounded_while_kept _ reached⟩

/-- A line without a newline. -/
def unended (size : Nat) : OutputBuffer :=
  { lines := [List.replicate size 120], totalSize := size, lastLineIncomplete := true }

theorem append_start {more : Nat} (real : 0 < more) (small : more ≤ maxOutputBufferSize) :
    append (List.replicate more 120) {} = some (unended more) := by
  have nonempty : (List.replicate more (120 : UInt8)).isEmpty = false := by
    rw [List.isEmpty_replicate]
    exact decide_eq_false (by omega)
  have unbroken : newline ∉ List.replicate more (120 : UInt8) := by
    intro inside
    cases (List.mem_replicate.mp inside).2
  have starts : joinLast (List.replicate more 120) {} = .inr ({}, List.replicate more 120) := rfl
  have untrimmed :
      trim more [List.replicate more 120] = some (more, [List.replicate more 120]) := by
    rw [trim, if_neg (by simp [maxBufferLines]; omega)]
  have grown : pushLines (List.replicate more 120) {} = unended more := by
    rw [pushLines_unbroken nonempty unbroken, List.length_replicate, Nat.zero_add]
    unfold maxOutputBufferSize at small
    rw [Nat.mod_eq_of_lt (by unfold usizeSize; omega)]
    rfl
  unfold append
  rw [nonempty, if_neg (by decide), starts]
  dsimp only
  rw [grown]
  unfold unended
  dsimp only
  rw [untrimmed]
  rfl

theorem append_unended {size more : Nat} (real : 0 < more) (small : size + more < usizeSize) :
    append (List.replicate more 120) (unended size) = some (unended (size + more)) := by
  have extend : Extends (List.replicate more 120) (unended size) := by
    refine ⟨rfl, List.cons_ne_nil _ _, ?_⟩
    intro inside
    cases (List.mem_replicate.mp inside).2
  have nonempty : List.replicate more (120 : UInt8) ≠ [] := by
    rw [ne_eq, List.replicate_eq_nil_iff]
    omega
  obtain ⟨last, found, same, -⟩ := append_extends nonempty extend
  obtain rfl : List.replicate size 120 = last := Option.some.inj found
  rw [same]
  unfold extended unended
  rw [List.length_replicate, Nat.mod_eq_of_lt small, List.replicate_add]
  rfl

theorem unended_reached {n chunk : Nat} (real : 0 < chunk) (reads : chunk ≤ readerBufferSize)
    (small : n < 1000) :
    history.Reaches (fun _ data => data.length ≤ readerBufferSize) (unended (chunk * (n + 1))) := by
  have size : (List.replicate chunk (120 : UInt8)).length ≤ readerBufferSize := by
    rw [List.length_replicate]
    exact reads
  unfold readerBufferSize at reads
  induction n with
  | zero =>
    rw [Nat.zero_add, Nat.mul_one]
    refine ⟨{}, rfl, .step _ .refl size (append_start real ?_)⟩
    unfold maxOutputBufferSize
    omega
  | succ n ih =>
    refine (ih (by omega)).run (.step _ .refl size (append_unended real ?_))
    have most : chunk * (n + 1) ≤ 4096 * (n + 1) := Nat.mul_le_mul_right _ reads
    unfold usizeSize
    omega

/-- A line without a newline grows over every limit. -/
theorem line_unbounded :
    history.Reaches (fun _ data => data.length ≤ readerBufferSize)
        (unended (readerBufferSize * 258)) ∧
      ¬ Bounded (unended (readerBufferSize * 258)) := by
  refine ⟨unended_reached (by decide) (Nat.le_refl _) (by omega), ?_⟩
  intro bounded
  have bytes := bounded.bytes
  unfold OutputBuffer.content unended at bytes
  rw [List.flatten_singleton, List.length_replicate] at bytes
  unfold readerBufferSize maxOutputBufferSize at bytes
  omega

end Runs

end ChainRemote.Server.OutputBuffer
