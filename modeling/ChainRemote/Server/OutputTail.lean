import ChainRemote.Lib.Utf8Cut
import ChainRemote.Server.OutputAccounting

/-!
# Replaying the end of a terminal's history

Every line stored starts at the start of the output or behind a newline, although the chunks cut the
output anywhere: an unfinished last line is extended by the next chunk, and a trim never drops it.
So `get_recent` starts at such a place, or cuts the newest line and skips what is left of a
character.
-/

namespace ChainRemote.Server.OutputBuffer

open Lib

/-- The start of the output, or a place behind a newline. -/
def AtBreak (before : Bytes) : Prop := before = [] ∨ before.getLast? = some newline

/-- Lines behind some bytes that each have bytes and start at a break. -/
def Lined : Bytes → List Bytes → Prop
  | _, [] => True
  | before, line :: rest => AtBreak before ∧ line ≠ [] ∧ Lined (before ++ line) rest

/-- The output of a terminal, and its history. -/
structure Recording where
  stream : Bytes := []
  buffer : OutputBuffer := {}
deriving DecidableEq, Repr

/-- The chunks of the output are appended to a new buffer. -/
def recording : Machine Recording Bytes where
  start s := s = {}
  step s data := (append data s.buffer).map fun buffer => { stream := s.stream ++ data, buffer }

/-- A chunk of the reader. -/
def ReaderChunk (s : Recording) (data : Bytes) : Prop :=
  data.length ≤ readerBufferSize ∧ Fits data s.buffer

instance (s : Recording) (data : Bytes) : Decidable (ReaderChunk s data) :=
  inferInstanceAs (Decidable (_ ∧ _))

/-- A history that follows the output. -/
structure Follows (stream : Bytes) (buffer : OutputBuffer) : Prop where
  held : buffer.lastLineIncomplete = true → buffer.lines ≠ []
  ended : buffer.lastLineIncomplete = false → AtBreak stream
  lined : ∃ before, stream = before ++ buffer.content ∧ Lined before buffer.lines

section Lines

variable {before : Bytes} {older newer : List Bytes}

theorem AtBreak.append_newline (before : Bytes) (line : Bytes) :
    AtBreak (before ++ (line ++ [newline])) := by
  right
  rw [← List.append_assoc, List.getLast?_concat]

/-- Bytes that end with a newline, if there are any, keep a break. -/
theorem AtBreak.append (start : AtBreak before) {data : Bytes} (ends : AtBreak data) :
    AtBreak (before ++ data) := by
  rcases ends with rfl | ends
  · rwa [List.append_nil]
  · right
    rw [List.getLast?_append, ends]
    rfl

theorem lined_append :
    Lined before (older ++ newer) ↔ Lined before older ∧ Lined (before ++ older.flatten) newer := by
  induction older generalizing before with
  | nil => simp [Lined]
  | cons line rest ih =>
    rw [List.cons_append, Lined, Lined, ih, List.flatten_cons, List.append_assoc, and_assoc,
      and_assoc]

/-- The first of newer lines starts at a break. -/
theorem Lined.start (lined : Lined before (older ++ newer)) (real : newer ≠ []) :
    AtBreak (before ++ older.flatten) := by
  obtain ⟨-, rest⟩ := lined_append.mp lined
  cases newer with
  | nil => exact absurd rfl real
  | cons line newer => exact rest.1

theorem Lined.nonempty {lines : List Bytes} (lined : Lined before lines) :
    ∀ line ∈ lines, line ≠ [] := by
  induction lines generalizing before with
  | nil => exact nofun
  | cons line rest ih => exact List.forall_mem_cons.mpr ⟨lined.2.1, ih lined.2.2⟩

/-- The last line may be extended. -/
theorem Lined.extend {lines : List Bytes} {last : Bytes} (lined : Lined before lines)
    (found : lines.getLast? = some last) (data : Bytes) :
    Lined before (lines.dropLast ++ [last ++ data]) := by
  obtain ⟨front, rfl⟩ := List.getLast?_eq_some_iff.mp found
  obtain ⟨rest, start, real, -⟩ := lined_append.mp lined
  rw [List.dropLast_concat]
  exact lined_append.mpr ⟨rest, start, List.append_ne_nil_of_left_ne_nil real data, trivial⟩

/-- The parts of data between newlines are pushed as lines. -/
theorem lined_pushed {endsWithNewline : Bool} {parts : List Bytes} (start : AtBreak before) :
    Lined before (pushed endsWithNewline parts) := by
  induction parts generalizing before with
  | nil => trivial
  | cons line rest ih =>
    cases rest with
    | nil =>
      unfold pushed
      split
      · trivial
      · rename_i real
        refine ⟨start, ?_, trivial⟩
        split
        · exact List.append_ne_nil_of_right_ne_nil _ (List.cons_ne_nil _ _)
        · exact fun empty => real (List.isEmpty_iff.mpr empty)
    | cons next rest =>
      unfold pushed
      exact ⟨start, List.append_ne_nil_of_right_ne_nil _ (List.cons_ne_nil _ _),
        ih (.append_newline before line)⟩

/-- Where the last part is empty, the data is empty or ends with a newline. -/
theorem atBreak_intercalate {parts : List Bytes} (last : parts.getLast? = some []) :
    AtBreak ([newline].intercalate parts) := by
  induction parts with
  | nil => exact .inl rfl
  | cons line rest ih =>
    cases rest with
    | nil =>
      obtain rfl : line = [] := by simpa using last
      exact .inl rfl
    | cons next rest =>
      rw [List.getLast?_cons_cons] at last
      rw [List.intercalate_cons_cons]
      have behind := AtBreak.append_newline [] line
      rw [List.nil_append] at behind
      exact behind.append (ih last)

/-- A last part that is not empty is the last line that is pushed. -/
theorem getLast?_pushed {parts : List Bytes} {last : Bytes} (found : parts.getLast? = some last)
    (real : last.isEmpty = false) : (pushed false parts).getLast? = some last := by
  induction parts with
  | nil => cases found
  | cons line rest ih =>
    cases rest with
    | nil =>
      obtain rfl : line = last := by simpa using found
      rw [pushed, real]
      rfl
    | cons next rest =>
      rw [List.getLast?_cons_cons] at found
      rw [pushed, List.getLast?_cons, ih found]
      rfl

end Lines

section Step

variable {stream data : Bytes} {buffer after : OutputBuffer}

/-- An unfinished last line is extended in place. -/
theorem Follows.extend (follows : Follows stream buffer) {last : Bytes}
    (incomplete : buffer.lastLineIncomplete = true) (found : buffer.lines.getLast? = some last) :
    Follows (stream ++ data) (extended data buffer last) := by
  obtain ⟨before, whole, lined⟩ := follows.lined
  refine ⟨fun _ => by simp [extended], ?_, before, ?_, lined.extend found data⟩
  · intro complete
    exact absurd (incomplete.symm.trans complete) (by decide)
  · have content : (extended data buffer last).content = buffer.content ++ data :=
      dropLast_append_last found
    rw [content, whole, List.append_assoc]

/-- What is joined to finish a line ends with its newline. -/
theorem atBreak_joined (finish : Finishes data buffer) (before : Bytes) :
    AtBreak (before ++ data.take (joinedLength data buffer)) := by
  have bound : data.findIdx (· == newline) < data.length :=
    List.findIdx_lt_length_of_exists ⟨newline, finish.2.2, beq_self_eq_true newline⟩
  have byte : data[data.findIdx (· == newline)] = newline :=
    eq_of_beq (@List.findIdx_getElem _ (· == newline) data bound)
  have length : joinedLength data buffer = data.findIdx (· == newline) + 1 := if_pos finish
  rw [length, List.take_succ_eq_append_getElem bound, byte]
  exact .append_newline before _

/-- Joining finishes the last line, and the rest of the data starts at a break. -/
theorem Follows.join (follows : Follows stream buffer) (extend : ¬ Extends data buffer) :
    ∃ left remaining start, joinLast data buffer = .inr (left, remaining) ∧
      stream ++ data = start ++ remaining ∧ Follows start left ∧
      left.lastLineIncomplete = false := by
  by_cases finish : Finishes data buffer
  · obtain ⟨last, found, same⟩ := joinLast_finishes finish
    obtain ⟨before, whole, lined⟩ := follows.lined
    refine ⟨_, _, stream ++ data.take (joinedLength data buffer), same, ?_, ⟨nofun, ?_, before, ?_,
      lined.extend found _⟩, rfl⟩
    · rw [List.append_assoc, List.take_append_drop]
    · exact fun _ => atBreak_joined finish stream
    · have content :
          (buffer.lines.dropLast ++ [last ++ data.take (joinedLength data buffer)]).flatten =
            buffer.lines.flatten ++ data.take (joinedLength data buffer) :=
        dropLast_append_last found
      unfold OutputBuffer.content at whole ⊢
      rw [content, whole, List.append_assoc]
  · refine ⟨buffer, data, stream, joinLast_starts extend finish, rfl, follows, ?_⟩
    by_contra incomplete
    have incomplete : buffer.lastLineIncomplete = true := by simpa using incomplete
    by_cases ends : newline ∈ data
    · exact finish ⟨incomplete, follows.held incomplete, ends⟩
    · exact extend ⟨incomplete, follows.held incomplete, ends⟩

/-- The rest of the data is pushed as lines, an unfinished one as long as the data at most. -/
theorem Follows.push (follows : Follows stream buffer)
    (complete : buffer.lastLineIncomplete = false) (remaining : Bytes) :
    Follows (stream ++ remaining) (pushLines remaining buffer) ∧
      ((pushLines remaining buffer).lastLineIncomplete = true →
        ∃ last ∈ (pushLines remaining buffer).lines.getLast?, last.length ≤ remaining.length) := by
  obtain ⟨before, whole, lined⟩ := follows.lined
  have start := follows.ended complete
  have flag : (pushLines remaining buffer).lastLineIncomplete =
      (!(remaining.getLast? == some newline) &&
        (remaining.splitOn newline).getLast?.any fun line => !line.isEmpty) := by
    unfold pushLines
    dsimp only
    rw [complete, Bool.or_false]
  have unfinished : (pushLines remaining buffer).lastLineIncomplete = true →
      ∃ last ∈ (pushLines remaining buffer).lines.getLast?, last.length ≤ remaining.length := by
    intro incomplete
    rw [flag, Bool.and_eq_true, Bool.not_eq_true'] at incomplete
    obtain ⟨open_, part⟩ := incomplete
    obtain ⟨last, found, real⟩ := (Option.any_eq_true _ _).mp part
    have newest := getLast?_pushed found ((Bool.not_eq_true' _).mp real)
    have bytes : (pushed false (remaining.splitOn newline)).flatten = remaining := by
      rw [flatten_pushed (fun other => absurd other (by decide)), List.intercalate_splitOn]
    refine ⟨last, ?_, ?_⟩
    · unfold pushLines
      dsimp only
      rw [open_, List.getLast?_append, newest]
      rfl
    · obtain ⟨front, shape⟩ := List.getLast?_eq_some_iff.mp newest
      rw [shape, List.flatten_concat] at bytes
      rw [← bytes, List.length_append]
      omega
  refine ⟨⟨?_, ?_, before, ?_, ?_⟩, unfinished⟩
  · intro incomplete none
    obtain ⟨last, found, -⟩ := unfinished incomplete
    rw [none] at found
    cases found
  · intro finished
    rw [flag] at finished
    refine start.append ?_
    cases ends : remaining.getLast? == some newline with
    | true => exact .inr (eq_of_beq ends)
    | false =>
      rw [ends, Bool.not_false, Bool.true_and, Option.any_eq_false] at finished
      obtain ⟨last, found⟩ := exists_last (List.splitOn_ne_nil newline remaining)
      have none : last = [] := by simpa using finished last found
      have broken := atBreak_intercalate (none ▸ found)
      rwa [List.intercalate_splitOn] at broken
  · rw [content_pushLines, whole, List.append_assoc]
  · refine lined_append.mpr ⟨lined, lined_pushed ?_⟩
    have same : before ++ buffer.lines.flatten = stream := whole.symm
    rw [same]
    exact start

/-- A trim drops oldest lines, and never an unfinished one. -/
theorem Follows.trim (follows : Follows stream buffer) {left : Nat} {kept : List Bytes}
    (trimmed : Trimmed buffer.totalSize buffer.lines left kept)
    (under : buffer.totalSize ≤ buffer.content.length)
    (unfinished : buffer.lastLineIncomplete = true →
      ∃ last ∈ buffer.lines.getLast?, last.length ≤ readerBufferSize) :
    Follows stream { buffer with totalSize := left, lines := kept } := by
  obtain ⟨dropped, split, sum⟩ := trimmed.dropped
  obtain ⟨before, whole, lined⟩ := follows.lined
  unfold OutputBuffer.content at whole under
  refine ⟨?_, follows.ended, before ++ dropped.flatten, ?_, ?_⟩
  · intro incomplete none
    have none : kept = [] := none
    obtain ⟨last, newest, small⟩ := unfinished incomplete
    have large := trimmed.last none last newest
    rw [split, none, List.append_nil] at under
    unfold readerBufferSize at small
    unfold maxOutputBufferSize at large
    omega
  · rw [whole, split, List.flatten_append, List.append_assoc]
    rfl
  · rw [split] at lined
    exact (lined_append.mp lined).2

/-- A chunk of the reader keeps the history behind the output. -/
theorem Follows.append (follows : Follows stream buffer)
    (under : buffer.totalSize ≤ buffer.content.length) (reads : data.length ≤ readerBufferSize)
    (fits : Fits data buffer) (done : append data buffer = some after) :
    Follows (stream ++ data) after := by
  by_cases nonempty : data = []
  · subst nonempty
    obtain rfl := Option.some.inj done
    rwa [List.append_nil]
  · by_cases extend : Extends data buffer
    · obtain ⟨last, found, same, -⟩ := append_extends nonempty extend
      obtain rfl := Option.some.inj (same.symm.trans done)
      exact follows.extend extend.1 found
    · obtain ⟨left, remaining, start, same, cut, ready, complete⟩ := follows.join extend
      rw [append_joined nonempty same] at done
      obtain ⟨⟨size, kept⟩, trimmed, rfl⟩ := Option.map_eq_some_iff.mp done
      obtain ⟨pushed, unfinished⟩ := ready.push complete remaining
      rw [← cut] at pushed
      obtain ⟨below, bound, rest⟩ := pushLines_under under fits (joined_of_found extend same)
      refine pushed.trim (trimmed_of_trim below bound trimmed) below ?_
      intro incomplete
      obtain ⟨last, newest, small⟩ := unfinished incomplete
      exact ⟨last, newest, by omega⟩

end Step

section Recent

variable {maxBytes : Nat}

/-- The whole lines that are collected after others are those that fit. -/
theorem recentChunks_whole {size : Nat} {newestFirst : List Bytes} (some : 0 < size)
    (fits : size ≤ maxBytes) :
    ∃ older, newestFirst = recentChunks maxBytes size newestFirst ++ older ∧
      size + (recentChunks maxBytes size newestFirst).flatten.length ≤ maxBytes ∧
      ∀ line ∈ older.head?,
        maxBytes < size + (recentChunks maxBytes size newestFirst).flatten.length +
          line.length := by
  induction newestFirst generalizing size with
  | nil => exact ⟨[], rfl, fits, nofun⟩
  | cons line older ih =>
    by_cases large : size + line.length > maxBytes
    · have none : recentChunks maxBytes size (line :: older) = [] := by
        rw [recentChunks, if_pos large, if_neg (by omega)]
      rw [none]
      refine ⟨line :: older, rfl, fits, ?_⟩
      intro next first
      obtain rfl : line = next := by simpa using first
      exact large
    · have taken : recentChunks maxBytes size (line :: older) =
          line :: recentChunks maxBytes (size + line.length) older := by
        rw [recentChunks, if_neg large]
      obtain ⟨rest, split, within, next⟩ := @ih (size + line.length) (by omega) (by omega)
      rw [taken, List.flatten_cons, List.length_append, ← Nat.add_assoc]
      exact ⟨rest, congrArg (line :: ·) split, within, next⟩

/-- What `get_recent` gives: the newest whole lines that fit, or the end of the newest line where
that alone does not. -/
inductive Recent (maxBytes : Nat) (lines : List Bytes) (recent : Bytes) : Prop
  | whole (older newer : List Bytes) (split : lines = older ++ newer)
      (same : recent = newer.flatten) (within : recent.length ≤ maxBytes)
      (next : ∀ line ∈ older.getLast?, maxBytes < recent.length + line.length)
  | cut (older : List Bytes) (newest : Bytes) (split : lines = older ++ [newest])
      (large : maxBytes < newest.length)
      (same : recent = skipContinuation 3 (newest.drop (newest.length - maxBytes)))

theorem length_flatten_reverse (lines : List Bytes) :
    lines.reverse.flatten.length = lines.flatten.length := by
  rw [List.length_flatten, List.length_flatten, List.map_reverse, List.sum_reverse]

theorem recent_of_getRecent (buffer : OutputBuffer) (nonempty : ∀ line ∈ buffer.lines, line ≠ [])
    (maxBytes : Nat) : Recent maxBytes buffer.lines (buffer.getRecent maxBytes) := by
  unfold getRecent
  by_cases zero : maxBytes = 0
  · rw [if_pos zero]
    refine .whole buffer.lines [] (List.append_nil _).symm rfl (Nat.zero_le _) ?_
    intro line last
    have real := List.length_pos_of_ne_nil (nonempty line (List.mem_of_getLast? last))
    omega
  · rw [if_neg zero]
    cases reversed : buffer.lines.reverse with
    | nil =>
      have none : buffer.lines = [] := List.reverse_eq_nil_iff.mp reversed
      exact .whole [] [] none rfl (Nat.zero_le _) nofun
    | cons newest older =>
      have split : buffer.lines = older.reverse ++ [newest] := by
        rw [← List.reverse_reverse buffer.lines, reversed, List.reverse_cons]
      by_cases large : newest.length > maxBytes
      · refine .cut older.reverse newest split large ?_
        rw [recentChunks, if_pos (by omega), if_pos ⟨rfl, large⟩]
        dsimp only
        split
        · rename_i empty
          exact (List.isEmpty_iff.mp empty).symm
        · rw [List.reverse_singleton, List.flatten_singleton]
      · have real : 0 < newest.length := by
          refine List.length_pos_of_ne_nil (nonempty newest ?_)
          rw [split]
          exact List.mem_append_right _ (List.mem_singleton_self newest)
        obtain ⟨rest, parts, within, next⟩ :=
          @recentChunks_whole _ _ older real (Nat.le_of_not_gt large)
        have taken : recentChunks maxBytes 0 (newest :: older) =
            newest :: recentChunks maxBytes newest.length older := by
          rw [recentChunks, if_neg (by omega), Nat.zero_add]
        have length : (newest :: recentChunks maxBytes newest.length older).reverse.flatten.length =
            newest.length + (recentChunks maxBytes newest.length older).flatten.length := by
          rw [List.reverse_cons, List.flatten_concat, List.length_append, length_flatten_reverse,
            Nat.add_comm]
        rw [taken]
        refine .whole rest.reverse _ ?_ rfl (length ▸ within) ?_
        · rw [split, List.reverse_cons, ← List.append_assoc, ← List.reverse_append, ← parts]
        · intro line last
          rw [List.getLast?_reverse] at last
          rw [length]
          exact next line last

/-- The bytes that are left of a character are skipped, and no others. -/
theorem skipContinuation_left {limit : Nat} {left rest : Bytes} (few : left.length ≤ limit)
    (continued : ∀ byte ∈ left, Continues byte)
    (starts : ∀ byte ∈ rest.head?, ¬ Continues byte) :
    skipContinuation limit (left ++ rest) = rest := by
  induction left generalizing limit with
  | nil =>
    cases limit with
    | zero => rfl
    | succ limit =>
      cases rest with
      | nil => rfl
      | cons byte rest =>
        have other : ¬ (byte &&& 0b11000000 == 0b10000000) = true := by
          rw [beq_iff_eq, continues_iff]
          exact starts byte rfl
        rw [List.nil_append, skipContinuation, if_neg other]
  | cons byte left ih =>
    cases limit with
    | zero => simp at few
    | succ limit =>
      obtain ⟨first, others⟩ := List.forall_mem_cons.mp continued
      have masked : (byte &&& 0b11000000 == 0b10000000) = true := by
        rw [beq_iff_eq, continues_iff]
        exact first
      rw [List.cons_append, skipContinuation, if_pos masked]
      exact ih (by simpa using few) others

end Recent

section Tail

variable {stream : Bytes} {buffer : OutputBuffer} {maxBytes : Nat}

/-- What is replayed is the end of the output, from a character on, and no line that fits is left
out. -/
structure Tail (stream : Bytes) (buffer : OutputBuffer) (maxBytes : Nat) (recent : Bytes) :
    Prop where
  ends : recent <:+ stream
  within : recent.length ≤ maxBytes
  aligned : ∀ text, stream = encodeUtf8 text → ∃ rest, rest <:+ text ∧ recent = encodeUtf8 rest
  /-- A newest line that fits is replayed whole, and with it older lines as long as they fit. -/
  whole : (∀ newest ∈ buffer.lines.getLast?, newest.length ≤ maxBytes) →
    ∃ older newer, buffer.lines = older ++ newer ∧ recent = newer.flatten ∧
      ∀ line ∈ older.getLast?, maxBytes < recent.length + line.length
  /-- Of one that does not fit the end is replayed, and no other line. -/
  cut : ∀ newest ∈ buffer.lines.getLast?, maxBytes < newest.length → recent <:+ newest

/-- Behind a break no character is cut. -/
theorem aligned_at_break {before recent : Bytes} (start : AtBreak before) {text : List Char}
    (valid : before ++ recent = encodeUtf8 text) :
    ∃ rest, rest <:+ text ∧ recent = encodeUtf8 rest := by
  obtain ⟨left, rest, behind⟩ := afterCut valid.symm
  refine ⟨rest, behind.ends, behind.whole ?_⟩
  intro byte last
  rcases start with rfl | newest
  · cases last
  · obtain rfl : newline = byte := Option.some.inj (newest.symm.trans last)
    decide

/-- Behind any place, what is left of a character is skipped. -/
theorem aligned_after_skip {before rest : Bytes} {text : List Char}
    (valid : before ++ rest = encodeUtf8 text) :
    ∃ second, second <:+ text ∧ skipContinuation 3 rest = encodeUtf8 second := by
  obtain ⟨left, second, behind⟩ := afterCut valid.symm
  refine ⟨second, behind.ends, ?_⟩
  rw [behind.bytes]
  refine skipContinuation_left behind.few behind.continued ?_
  intro byte first
  obtain ⟨others, starts⟩ := List.head?_eq_some_iff.mp first
  exact head_encodeUtf8 starts

theorem Follows.tail (follows : Follows stream buffer) (maxBytes : Nat) :
    Tail stream buffer maxBytes (buffer.getRecent maxBytes) := by
  obtain ⟨before, shape, lined⟩ := follows.lined
  have ends : buffer.getRecent maxBytes <:+ stream := by
    rw [shape]
    exact (getRecent_suffix maxBytes buffer).trans (List.suffix_append _ _)
  unfold OutputBuffer.content at shape
  cases recent_of_getRecent buffer lined.nonempty maxBytes with
  | whole older newer split same within next =>
    refine ⟨ends, within, ?_, fun _ => ⟨older, newer, split, same, next⟩, ?_⟩
    · intro text valid
      rw [same]
      by_cases none : newer = []
      · refine ⟨[], List.nil_suffix, ?_⟩
        rw [none]
        rfl
      · rw [split] at lined
        refine aligned_at_break (lined.start none) ?_
        rw [← valid, shape, split, List.flatten_append, List.append_assoc]
    · intro newest last large
      by_cases none : newer = []
      · rw [same, none]
        exact List.nil_suffix
      · -- the newest line is among those replayed, which are not longer than the limit
        rw [split, List.getLast?_append_of_ne_nil _ none] at last
        obtain ⟨front, rfl⟩ := List.getLast?_eq_some_iff.mp last
        rw [same, List.flatten_concat, List.length_append] at within
        omega
  | cut older newest split large same =>
    have last : buffer.lines.getLast? = some newest := by
      rw [split, List.getLast?_concat]
    have part := skipContinuation_suffix 3 (newest.drop (newest.length - maxBytes))
    refine ⟨ends, ?_, ?_, ?_, ?_⟩
    · rw [same]
      have length := part.length_le
      rw [List.length_drop] at length
      omega
    · intro text valid
      rw [same]
      have parts : before ++ older.flatten ++ newest.take (newest.length - maxBytes) ++
          newest.drop (newest.length - maxBytes) = encodeUtf8 text := by
        rw [List.append_assoc, List.take_append_drop, ← valid, shape, split, List.flatten_concat,
          List.append_assoc]
      exact aligned_after_skip parts
    · intro fits
      have small := fits newest last
      omega
    · intro other found _
      obtain rfl : newest = other := Option.some.inj (last.symm.trans found)
      rw [same]
      exact part.trans (List.drop_suffix _ newest)

/-- For every output, in chunks that the reader reads, and every number of bytes, what is replayed
is the end of the output, from a character on; no line that fits is left out, but with a newest line
that does not fit. -/
theorem recent_tail (s : Recording) (reached : recording.Reaches ReaderChunk s) (maxBytes : Nat) :
    Tail s.stream s.buffer maxBytes (s.buffer.getRecent maxBytes) := by
  have both : Follows s.stream s.buffer ∧ s.buffer.totalSize ≤ s.buffer.content.length := by
    refine reached.invariant (fun s => Follows s.stream s.buffer ∧
      s.buffer.totalSize ≤ s.buffer.content.length) ?_ ?_
    · rintro s rfl
      exact ⟨⟨nofun, fun _ => .inl rfl, [], rfl, trivial⟩, Nat.le_refl _⟩
    · intro before chunk after held reads done
      obtain ⟨buffer, appended, rfl⟩ := Option.map_eq_some_iff.mp done
      exact ⟨held.1.append held.2 reads.1 reads.2 appended,
        (appended_of_append held.2 reads.2 appended).under⟩
  exact both.1.tail maxBytes

/-- What a terminal has put out and holds after some chunks. -/
def recorder (chunks : List Bytes) : Recording := recording.play ReaderChunk {} chunks

theorem recorder_reached (chunks : List Bytes) : recording.Reaches ReaderChunk (recorder chunks) :=
  ⟨{}, rfl, Machine.runs_play recording ReaderChunk {} chunks⟩

theorem recent_tail_two_lines :
    Tail [97, 10, 98] (recorder [[97], [10, 98]]).buffer 2 [98] := by
  have tail := recent_tail (recorder [[97], [10, 98]]) (recorder_reached _) 2
  have stream : (recorder [[97], [10, 98]]).stream = [97, 10, 98] := by decide +kernel
  have recent : (recorder [[97], [10, 98]]).buffer.getRecent 2 = [98] := by decide +kernel
  rwa [stream, recent] at tail

/-- Where a part of a character is skipped, an older line may fit and is left out. -/
theorem older_line_left_out :
    recording.Reaches ReaderChunk (recorder [[10, 195, 169, 97]]) ∧
      (recorder [[10, 195, 169, 97]]).buffer.lines = [[10], [195, 169, 97]] ∧
      (recorder [[10, 195, 169, 97]]).buffer.getRecent 2 = [97] ∧
      [(10 : UInt8)].length + [(97 : UInt8)].length ≤ 2 ∧ ¬ [(10 : UInt8)] <:+: [97] :=
  ⟨recorder_reached _, by decide +kernel, by decide +kernel, by decide, by decide⟩

end Tail

end ChainRemote.Server.OutputBuffer
