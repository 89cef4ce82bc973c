import Mathlib.Data.List.Infix

/-!
# The history of a terminal

`OutputBuffer` keeps the newest output of a terminal as lines. `append` joins the first part of a
chunk to a last line that has no newline yet, splits the rest and drops the oldest lines over the
limits; `get_recent` reads the newest lines up to a number of bytes. The bytes joined up to a
newline are not counted in `total_size`, so that the count can wrap around while old lines are
dropped; the loop then finds no line left and never ends.
-/

namespace ChainRemote.Server

abbrev Bytes := List UInt8

/-- `MAX_OUTPUT_BUFFER_SIZE`. -/
def maxOutputBufferSize : Nat := 1024 * 1024

/-- `MAX_BUFFER_LINES`. -/
def maxBufferLines : Nat := 10000

/-- `usize` arithmetic is modulo this number in a release build. -/
def usizeSize : Nat := 18446744073709551616

/-- `b'\n'`. -/
def newline : UInt8 := 10

/-- `OutputBuffer`. -/
structure OutputBuffer where
  lines : List Bytes := []
  totalSize : Nat := 0
  lastLineIncomplete : Bool := false
deriving DecidableEq, Repr

namespace OutputBuffer

/-- What the buffer holds, oldest first. -/
def content (buffer : OutputBuffer) : Bytes := buffer.lines.flatten

/-- The first part of `append`: a last line without a newline gets the data up to its first newline.
Without a newline in the data that is all; otherwise the rest is left. -/
def joinLast (data : Bytes) (buffer : OutputBuffer) : OutputBuffer ⊕ OutputBuffer × Bytes :=
  if buffer.lastLineIncomplete then
    match buffer.lines.getLast? with
    | some last =>
      match data.findIdx? (· == newline) with
      | some position =>
        -- the joined bytes are not added to the size
        .inr ({ buffer with
          lines := buffer.lines.dropLast ++ [last ++ data.take (position + 1)]
          lastLineIncomplete := false }, data.drop (position + 1))
      | none =>
        .inl { buffer with
          lines := buffer.lines.dropLast ++ [last ++ data]
          totalSize := (buffer.totalSize + data.length) % usizeSize }
    | none => .inr (buffer, data)
  else .inr (buffer, data)

/-- The lines that the loop over the parts of `split` pushes. -/
def pushed (endsWithNewline : Bool) : List Bytes → List Bytes
  | [] => []
  | [line] =>
    if line.isEmpty then [] else [if endsWithNewline then line ++ [newline] else line]
  | line :: next :: rest => (line ++ [newline]) :: pushed endsWithNewline (next :: rest)

/-- The second part of `append`: the rest of the data is split into lines. -/
def pushLines (remaining : Bytes) (buffer : OutputBuffer) : OutputBuffer :=
  let endsWithNewline := remaining.getLast? == some newline
  let parts := remaining.splitOn newline
  let lines := pushed endsWithNewline parts
  { lines := buffer.lines ++ lines
    totalSize := (buffer.totalSize + lines.flatten.length) % usizeSize
    lastLineIncomplete :=
      (!endsWithNewline && parts.getLast?.any fun line => !line.isEmpty) ||
        buffer.lastLineIncomplete }

/-- The loop that drops the oldest lines; none where it never ends. -/
def trim (totalSize : Nat) : List Bytes → Option (Nat × List Bytes)
  | [] => if totalSize > maxOutputBufferSize then none else some (totalSize, [])
  | line :: rest =>
    if totalSize > maxOutputBufferSize ∨ (line :: rest).length > maxBufferLines then
      trim ((totalSize + usizeSize - line.length) % usizeSize) rest
    else some (totalSize, line :: rest)

/-- `OutputBuffer::append`; none where it never returns. -/
def append (data : Bytes) (buffer : OutputBuffer) : Option OutputBuffer :=
  if data.isEmpty then some buffer
  else
    match joinLast data buffer with
    | .inl joined => some joined
    | .inr (joined, remaining) =>
      let grown := pushLines remaining joined
      (trim grown.totalSize grown.lines).map fun (totalSize, lines) =>
        { grown with totalSize, lines }

/-- Skip at most so many continuation bytes. -/
def skipContinuation : Nat → Bytes → Bytes
  | 0, bytes => bytes
  | _ + 1, [] => []
  | limit + 1, byte :: bytes =>
    if byte &&& 0b11000000 == 0b10000000 then skipContinuation limit bytes else byte :: bytes

/-- The chunks that `get_recent` collects from lines, newest first. -/
def recentChunks (maxBytes : Nat) (size : Nat) : List Bytes → List Bytes
  | [] => []
  | line :: older =>
    if size + line.length > maxBytes then
      if size = 0 ∧ line.length > maxBytes then
        let tail := skipContinuation 3 (line.drop (line.length - maxBytes))
        if tail.isEmpty then [] else [tail]
      else []
    else line :: recentChunks maxBytes (size + line.length) older

/-- `OutputBuffer::get_recent`. -/
def getRecent (maxBytes : Nat) (buffer : OutputBuffer) : Bytes :=
  if maxBytes = 0 then []
  else (recentChunks maxBytes 0 buffer.lines.reverse).reverse.flatten

section History

variable {buffer after : OutputBuffer} {data : Bytes}

theorem flatten_suffix {kept lines : List Bytes} (suffix : kept <:+ lines) :
    kept.flatten <:+ lines.flatten := by
  obtain ⟨dropped, rfl⟩ := suffix
  rw [List.flatten_append]
  exact List.suffix_append _ _

/-- The lines pushed for the parts of a text are the text, if a newline at its end shows as an empty
last part. -/
theorem flatten_pushed {endsWithNewline : Bool} {parts : List Bytes}
    (closed : endsWithNewline = true → parts.getLast? = some []) :
    (pushed endsWithNewline parts).flatten = [newline].intercalate parts := by
  induction parts with
  | nil => rfl
  | cons line rest ih =>
    cases rest with
    | nil =>
      rw [List.intercalate_singleton]
      cases line with
      | nil => rfl
      | cons byte bytes =>
        cases endsWithNewline with
        | true => cases closed rfl
        | false => simp [pushed]
    | cons next rest =>
      have tail := ih fun ends => by simpa using closed ends
      rw [pushed, List.flatten_cons, tail, List.intercalate_cons_cons]

theorem getLast?_splitOn {data : Bytes} (ends : data.getLast? = some newline) :
    (data.splitOn newline).getLast? = some [] := by
  obtain ⟨front, rfl⟩ := List.getLast?_eq_some_iff.mp ends
  rw [List.splitOn_append_cons_self, List.splitOn_nil, List.getLast?_concat]

/-- The rest of the data is pushed as it is. -/
theorem content_pushLines (remaining : Bytes) (buffer : OutputBuffer) :
    (pushLines remaining buffer).content = buffer.content ++ remaining := by
  unfold content pushLines
  rw [List.flatten_append, flatten_pushed, List.intercalate_splitOn]
  intro ends
  exact getLast?_splitOn (eq_of_beq ends)

theorem dropLast_append_last {lines : List Bytes} {last data : Bytes}
    (found : lines.getLast? = some last) :
    (lines.dropLast ++ [last ++ data]).flatten = lines.flatten ++ data := by
  obtain ⟨front, rfl⟩ := List.getLast?_eq_some_iff.mp found
  rw [List.dropLast_concat, List.flatten_concat, List.flatten_concat, List.append_assoc]

/-- The data that is joined and the rest that is left are the data. -/
theorem content_joinLast (data : Bytes) (buffer : OutputBuffer) :
    match joinLast data buffer with
    | .inl joined => joined.content = buffer.content ++ data
    | .inr (joined, remaining) => joined.content ++ remaining = buffer.content ++ data := by
  unfold joinLast
  cases incomplete : buffer.lastLineIncomplete with
  | false => rfl
  | true =>
    cases found : buffer.lines.getLast? with
    | none => rfl
    | some last =>
      cases first : data.findIdx? (· == newline) with
      | none => exact dropLast_append_last found
      | some position =>
        show (buffer.lines.dropLast ++ [last ++ data.take (position + 1)]).flatten ++
          data.drop (position + 1) = buffer.lines.flatten ++ data
        rw [dropLast_append_last found, List.append_assoc, List.take_append_drop]

/-- The loop drops lines from the front only. -/
theorem trim_suffix {totalSize left : Nat} {lines kept : List Bytes}
    (trimmed : trim totalSize lines = some (left, kept)) : kept <:+ lines := by
  induction lines generalizing totalSize with
  | nil =>
    unfold trim at trimmed
    split at trimmed
    · cases trimmed
    · obtain ⟨rfl, rfl⟩ := Prod.mk.inj (Option.some.inj trimmed)
      exact List.suffix_refl _
  | cons line rest ih =>
    unfold trim at trimmed
    split at trimmed
    · exact (ih trimmed).trans (List.suffix_cons line rest)
    · obtain ⟨rfl, rfl⟩ := Prod.mk.inj (Option.some.inj trimmed)
      exact List.suffix_refl _

/-- A buffer after an append that returns holds the newest part of what it held and the data. -/
theorem append_suffix (appended : append data buffer = some after) :
    after.content <:+ buffer.content ++ data := by
  unfold append at appended
  split at appended
  · rename_i empty
    obtain rfl := Option.some.inj appended
    have nothing : data = [] := List.isEmpty_iff.mp empty
    exact ⟨[], by rw [List.nil_append, nothing, List.append_nil]⟩
  · have joined := content_joinLast data buffer
    split at appended
    · rename_i whole found
      rw [found] at joined
      obtain rfl := Option.some.inj appended
      exact ⟨[], joined⟩
    · rename_i left remaining found
      rw [found] at joined
      obtain ⟨⟨totalSize, lines⟩, trimmed, rfl⟩ := Option.map_eq_some_iff.mp appended
      have whole : (pushLines remaining left).content = buffer.content ++ data := by
        rw [content_pushLines]
        exact joined
      rw [← whole]
      exact flatten_suffix (trim_suffix trimmed)

theorem skipContinuation_suffix (limit : Nat) (bytes : Bytes) :
    skipContinuation limit bytes <:+ bytes := by
  induction limit generalizing bytes with
  | zero => exact List.suffix_refl _
  | succ limit ih =>
    cases bytes with
    | nil => exact List.suffix_refl _
    | cons byte bytes =>
      unfold skipContinuation
      split
      · exact (ih bytes).trans (List.suffix_cons byte bytes)
      · exact List.suffix_refl _

/-- The chunks collected are the end of the lines. -/
theorem recentChunks_suffix (maxBytes size : Nat) (newestFirst : List Bytes) :
    (recentChunks maxBytes size newestFirst).reverse.flatten <:+ newestFirst.reverse.flatten := by
  induction newestFirst generalizing size with
  | nil => exact List.suffix_refl _
  | cons line older ih =>
    rw [List.reverse_cons, List.flatten_concat]
    unfold recentChunks
    split
    · split
      · simp only
        split
        · exact List.nil_suffix
        · rw [List.reverse_singleton, List.flatten_singleton]
          have tail := (skipContinuation_suffix 3 _).trans
            (List.drop_suffix (line.length - maxBytes) line)
          exact tail.trans (List.suffix_append _ _)
      · exact List.nil_suffix
    · rw [List.reverse_cons, List.flatten_concat]
      obtain ⟨front, shape⟩ := ih (size + line.length)
      exact ⟨front, by rw [← List.append_assoc, shape]⟩

/-- `get_recent` gives the end of what the buffer holds. -/
theorem getRecent_suffix (maxBytes : Nat) (buffer : OutputBuffer) :
    buffer.getRecent maxBytes <:+ buffer.content := by
  unfold getRecent
  split
  · exact List.nil_suffix
  · have tail := recentChunks_suffix maxBytes 0 buffer.lines.reverse
    rwa [List.reverse_reverse] at tail

end History

end OutputBuffer

end ChainRemote.Server
