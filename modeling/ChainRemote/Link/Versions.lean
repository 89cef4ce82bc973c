import ChainRemote.Link.PushAccepted

/-!
# The order of versions

Four functions order versions: `isVersionNewer` and `isOlder` of the panel, the comparison of
integer arrays in the statement of `pushBulk`, and `is_newer_str` of the agent. On versions of
the panel's format they are one order. On other text that the agent reads they differ where
`parseInt` reads more than the agent does: behind a blank or a sign, and in further places.
-/

namespace ChainRemote.Link.Versions

open Lib Panel Agent

/-- The strict lexicographic order of three numbers: `x` is above `y`. -/
def Above (x y : Nat × Nat × Nat) : Prop :=
  y.1 < x.1 ∨ y.1 = x.1 ∧ (y.2.1 < x.2.1 ∨ y.2.1 = x.2.1 ∧ y.2.2 < x.2.2)

instance (x y : Nat × Nat × Nat) : Decidable (Above x y) := inferInstanceAs (Decidable (_ ∨ _))

/-- The text has the panel's format, with these numbers, all below a bound. -/
structure Numbers (bound : Nat) (text : String) (x : Nat × Nat × Nat) : Prop where
  parts : ∃ major minor build, versionParts text = some [major, minor, build] ∧
    x = (digitsValue major, digitsValue minor, digitsValue build)
  small : x.1 < bound ∧ x.2.1 < bound ∧ x.2.2 < bound

/-- Numbers below `2 ^ 53` are doubles. -/
theorem toDouble_of_lt {n : Nat} (small : n < 2 ^ 53) : toDouble n = n := by
  unfold toDouble
  exact if_pos small

section Characters

variable {c : Char}

/-- What is white space in one of the two languages is no digit, sign or dot. -/
theorem plain_of_blank (blank : jsBlank c = true ∨ rustBlank c = true) :
    c.isDigit = false ∧ c ≠ '+' ∧ c ≠ '-' ∧ c ≠ '.' := by
  have code : ∀ d : Char, jsBlank d = false → rustBlank d = false → c ≠ d := by
    rintro d js rust rfl
    rcases blank with own | own
    · rw [js] at own
      cases own
    · rw [rust] at own
      cases own
  refine ⟨?_, code '+' (by decide) (by decide), code '-' (by decide) (by decide),
    code '.' (by decide) (by decide)⟩
  cases digit : c.isDigit with
  | false => rfl
  | true =>
    exfalso
    simp only [Char.isDigit, Bool.and_eq_true, decide_eq_true_eq] at digit
    have low : 48 ≤ c.toNat := digit.1
    have high : c.toNat ≤ 57 := digit.2
    simp only [jsBlank, rustBlank, Bool.or_eq_true, Bool.and_eq_true, decide_eq_true_eq,
      beq_iff_eq] at blank
    omega

/-- The next line character is white space for the agent only. -/
def nextLine : Char := Char.ofNat 0x85

theorem jsBlank_of_rustBlank (blank : rustBlank c = true) (other : c ≠ nextLine) :
    jsBlank c = true := by
  have code : c.toNat ≠ 0x85 := by
    intro same
    apply other
    rw [← Char.ofNat_toNat c, same]
    rfl
  simp only [jsBlank, rustBlank, Bool.or_eq_true, Bool.and_eq_true, decide_eq_true_eq,
    beq_iff_eq] at blank ⊢
  omega

theorem jsBlank_of_isDigit (digit : c.isDigit = true) : jsBlank c = false := by
  cases blank : jsBlank c with
  | false => rfl
  | true =>
    have plain := (plain_of_blank (.inl blank)).1
    rw [digit] at plain
    cases plain

end Characters

section Places

variable {place tail : List Char}

/-- The number that the digits in front of a text make. -/
def leading (place : List Char) : Nat := toDouble (digitsValue (place.takeWhile Char.isDigit))

/-- Digits that follow no blank and no sign are read as they are. -/
theorem parseIntOrZero_plain {c : Char} (solid : jsBlank c = false) (plus : c ≠ '+')
    (minus : c ≠ '-') (rest : List Char) : parseIntOrZero (c :: rest) = leading (c :: rest) := by
  unfold parseIntOrZero
  rw [List.dropWhile_cons_of_neg (by rw [solid]; exact Bool.false_ne_true)]
  dsimp only
  split
  · rename_i same
    exact absurd (List.cons.inj same).1 minus
  · rename_i same
    exact absurd (List.cons.inj same).1 plus
  · rfl

theorem parseIntOrZero_plus (rest : List Char) : parseIntOrZero ('+' :: rest) = leading rest := by
  rfl

/-- A numeral that a double holds is read as its value. -/
theorem leading_of_isDigits (digits : isDigits place = true)
    (small : digitsValue place < 2 ^ 53) : leading place = digitsValue place := by
  unfold leading
  rw [takeWhile_isDigit digits, toDouble_of_lt small]

theorem parseIntOrZero_of_isDigits (digits : isDigits place = true)
    (small : digitsValue place < 2 ^ 53) : parseIntOrZero place = digitsValue place := by
  cases place with
  | nil => cases digits
  | cons c rest =>
    have digit := isDigits_all digits c List.mem_cons_self
    have plus : c ≠ '+' := by
      rintro rfl
      revert digit
      decide
    have minus : c ≠ '-' := by
      rintro rfl
      revert digit
      decide
    rw [parseIntOrZero_plain (jsBlank_of_isDigit digit) plus minus,
      leading_of_isDigits digits small]

/-- The agent and `parseInt` read the same number in a place that the agent accepts. -/
theorem parseIntOrZero_of_parseU32 {n : Nat} (parsed : parseU32 place = some n) :
    parseIntOrZero place = n := by
  simp only [parseU32, Option.ite_none_right_eq_some, Bool.and_eq_true, decide_eq_true_eq,
    Option.some.injEq] at parsed
  obtain ⟨⟨digits, small⟩, rfl⟩ := parsed
  have fits : digitsValue (withoutPlus place) < 2 ^ 53 := by omega
  rcases withoutPlus_spec place with same | signed
  · rw [← same] at digits fits ⊢
    exact parseIntOrZero_of_isDigits digits fits
  · rw [signed, parseIntOrZero_plus]
    rw [show withoutPlus ('+' :: withoutPlus place) = withoutPlus place from rfl]
    rw [leading_of_isDigits digits fits]

/-- Text without digits behind a place does not change the leading number. -/
theorem leading_append (plain : ∀ c ∈ tail, c.isDigit = false) (place : List Char) :
    leading (place ++ tail) = leading place := by
  unfold leading
  congr 2
  induction place with
  | nil =>
    cases tail with
    | nil => rfl
    | cons c rest =>
      have other := plain c List.mem_cons_self
      simp [other]
  | cons c place ih =>
    cases digit : c.isDigit with
    | false => simp [digit]
    | true =>
      rw [List.cons_append, List.takeWhile_cons_of_pos digit, List.takeWhile_cons_of_pos digit, ih]

theorem parseIntOrZero_minus (rest : List Char) :
    parseIntOrZero ('-' :: rest) = -(leading rest : Int) := by
  rfl

/-- `parseInt` skips white space. -/
theorem parseIntOrZero_blank {c : Char} (blank : jsBlank c = true) (rest : List Char) :
    parseIntOrZero (c :: rest) = parseIntOrZero rest := by
  unfold parseIntOrZero
  rw [List.dropWhile_cons_of_pos blank]

/-- A place that starts with neither blank, sign nor digit holds no number. -/
theorem parseIntOrZero_other {c : Char} (solid : jsBlank c = false) (plus : c ≠ '+')
    (minus : c ≠ '-') (digit : c.isDigit = false) (rest : List Char) :
    parseIntOrZero (c :: rest) = 0 := by
  rw [parseIntOrZero_plain solid plus minus]
  simp [leading, digit, digitsValue, toDouble]

theorem parseIntOrZero_of_blank (blank : ∀ c ∈ tail, jsBlank c = true ∨ rustBlank c = true) :
    parseIntOrZero tail = 0 := by
  induction tail with
  | nil => rfl
  | cons c rest ih =>
    have plain := plain_of_blank (blank c List.mem_cons_self)
    cases solid : jsBlank c with
    | true =>
      rw [parseIntOrZero_blank solid]
      exact ih fun d inside => blank d (List.mem_cons_of_mem c inside)
    | false => exact parseIntOrZero_other solid plain.2.1 plain.2.2.1 plain.1 rest

/-- White space of either language behind a place does not change what `parseInt` reads. -/
theorem parseIntOrZero_append
    (blank : ∀ c ∈ tail, jsBlank c = true ∨ rustBlank c = true) (place : List Char) :
    parseIntOrZero (place ++ tail) = parseIntOrZero place := by
  have plain : ∀ c ∈ tail, c.isDigit = false := fun c inside => (plain_of_blank (blank c inside)).1
  induction place with
  | nil => exact parseIntOrZero_of_blank blank
  | cons c place ih =>
    rw [List.cons_append]
    cases solid : jsBlank c with
    | true => rw [parseIntOrZero_blank solid, parseIntOrZero_blank solid, ih]
    | false =>
      by_cases minus : c = '-'
      · rw [minus, parseIntOrZero_minus, parseIntOrZero_minus, leading_append plain]
      · by_cases plus : c = '+'
        · rw [plus, parseIntOrZero_plus, parseIntOrZero_plus, leading_append plain]
        · rw [parseIntOrZero_plain solid plus minus, parseIntOrZero_plain solid plus minus,
            ← List.cons_append, leading_append plain]

/-- The numbers that `parseInt` reads in the places of a text. -/
def placeNumbers (text : List Char) : List Int := (text.splitOn '.').map parseIntOrZero

/-- White space of either language behind a text does not change its numbers. -/
theorem placeNumbers_append (blank : ∀ c ∈ tail, jsBlank c = true ∨ rustBlank c = true)
    (text : List Char) : placeNumbers (text ++ tail) = placeNumbers text := by
  have absent : '.' ∉ tail := by
    intro inside
    exact (plain_of_blank (blank '.' inside)).2.2.2 rfl
  obtain ⟨places, last, short, long⟩ := splitOn_append_of_not_mem absent text
  unfold placeNumbers
  rw [short, long]
  simp [parseIntOrZero_append blank]

theorem versionNumbers_eq (text : String) :
    versionNumbers text = placeNumbers (stripWhere jsBlank text.toList) := by
  unfold versionNumbers jsTrim
  rw [String.toList_ofList]
  rfl

/-- The numbers of a text are those of what follows its white space, if there is other text. -/
theorem versionNumbers_dropWhile (text : String) :
    versionNumbers text = placeNumbers (text.toList.dropWhile jsBlank) := by
  obtain ⟨back, split, blank⟩ := stripWhere_split jsBlank text.toList
  rw [versionNumbers_eq, split, placeNumbers_append fun c inside => .inl (blank c inside)]

end Places

/-- What the agent reads in a version text. -/
structure Read (text : String) (p : Nat × Nat × Nat) (major minor build : List Char)
    (rest : List (List Char)) : Prop where
  split : (rustTrim text).splitOn '.' = major :: minor :: build :: rest
  major : parseU32 major = some p.1
  minor : parseU32 minor = some p.2.1
  build : parseBuild build = some p.2.2

theorem read_of_parseVersion {text : String} {p : Nat × Nat × Nat}
    (parsed : parseVersion text = some p) :
    ∃ major minor build rest, Read text p major minor build rest := by
  unfold parseVersion at parsed
  split at parsed
  · rename_i major minor build rest split
    obtain ⟨first, majorRead, parsed⟩ := Option.bind_eq_some_iff.mp parsed
    obtain ⟨second, minorRead, parsed⟩ := Option.bind_eq_some_iff.mp parsed
    obtain ⟨third, buildRead, parsed⟩ := Option.bind_eq_some_iff.mp parsed
    obtain rfl := Option.some.inj parsed
    exact ⟨major, minor, build, rest, split, majorRead, minorRead, buildRead⟩
  · cases parsed

/-- A next line character stands in front of the text. -/
def Masked (text : String) : Prop := nextLine ∈ text.toList.takeWhile rustBlank

instance (text : String) : Decidable (Masked text) := inferInstanceAs (Decidable (_ ∈ _))

section Reported

variable {text : String} {p : Nat × Nat × Nat} {major minor build : List Char}
  {rest : List (List Char)}

/-- A numeral starts with a digit or a plus sign. -/
theorem solid_of_parseU32 {place : List Char} {n : Nat} (parsed : parseU32 place = some n) :
    ∃ c others, place = c :: others ∧ jsBlank c = false := by
  simp only [parseU32, Option.ite_none_right_eq_some, Bool.and_eq_true] at parsed
  have digits := parsed.1.1
  rcases withoutPlus_spec place with same | signed
  · rw [← same] at digits
    cases place with
    | nil => cases digits
    | cons c others =>
      exact ⟨c, others, rfl, jsBlank_of_isDigit (isDigits_all digits c List.mem_cons_self)⟩
  · exact ⟨'+', withoutPlus place, signed, by decide⟩

/-- The first number is masked by a next line character; the others are those of the agent's
places. -/
theorem Read.versionNumbers (read : Read text p major minor build rest) :
    versionNumbers text = (if Masked text then 0 else (p.1 : Int)) :: (p.2.1 : Int) ::
      parseIntOrZero build :: rest.map parseIntOrZero := by
  obtain ⟨back, dropped, blank⟩ := stripWhere_split rustBlank text.toList
  have whole : text.toList.takeWhile rustBlank ++ (rustTrim text ++ back) = text.toList := by
    unfold rustTrim
    rw [← dropped]
    exact List.takeWhile_append_dropWhile
  have front : ∀ c ∈ text.toList.takeWhile rustBlank, rustBlank c = true :=
    fun c inside => List.mem_takeWhile_imp inside
  have behind : ∀ c ∈ back, jsBlank c = true ∨ rustBlank c = true :=
    fun c inside => .inr (blank c inside)
  rw [versionNumbers_dropWhile, ← whole]
  by_cases masked : Masked text
  · obtain ⟨before, after, split, absent⟩ := List.eq_append_cons_of_mem masked
    have skipped : ∀ c ∈ before, jsBlank c = true := by
      intro c inside
      have own := front c (by rw [split]; exact List.mem_append_left _ inside)
      exact jsBlank_of_rustBlank own fun same => absent (same ▸ inside)
    have noDot : '.' ∉ nextLine :: after := by
      intro inside
      have own := front '.' (by rw [split]; exact List.mem_append_right _ inside)
      revert own
      decide
    have first : parseIntOrZero (nextLine :: after ++ major) = 0 :=
      parseIntOrZero_other (by decide) (by decide) (by decide) (by decide) _
    rw [if_pos masked, split, List.append_assoc, List.dropWhile_append_of_pos skipped,
      List.cons_append, List.dropWhile_cons_of_neg (by decide), ← List.cons_append,
      ← List.append_assoc, placeNumbers_append behind]
    unfold placeNumbers
    rw [append_splitOn_of_not_mem noDot read.split]
    simp only [List.map_cons, first, parseIntOrZero_of_parseU32 read.minor]
  · have skipped : ∀ c ∈ text.toList.takeWhile rustBlank, jsBlank c = true := by
      intro c inside
      apply jsBlank_of_rustBlank (front c inside)
      rintro rfl
      exact masked inside
    have solid : (rustTrim text ++ back).dropWhile jsBlank = rustTrim text ++ back := by
      obtain ⟨c, others, same, solid⟩ := solid_of_parseU32 read.major
      have joined : ['.'].intercalate ((rustTrim text).splitOn '.') = rustTrim text :=
        List.intercalate_splitOn '.'
      rw [← joined, read.split, same]
      simp [List.intercalate, solid]
    rw [if_neg masked, List.dropWhile_append_of_pos skipped, solid, placeNumbers_append behind]
    unfold placeNumbers
    rw [read.split]
    simp only [List.map_cons, parseIntOrZero_of_parseU32 read.major,
      parseIntOrZero_of_parseU32 read.minor]

end Reported

section Format

variable {a b : String} {x y : Nat × Nat × Nat}

theorem parseU32_of_isDigits {place : List Char} (digits : isDigits place = true)
    (small : digitsValue place < 2 ^ 32) : parseU32 place = some (digitsValue place) := by
  unfold parseU32
  dsimp only
  rw [withoutPlus_of_isDigits digits, digits]
  exact if_pos (decide_eq_true small)

/-- A text of the panel's format has no white space. -/
theorem rustTrim_of_versionParts {text : String} {parts : List (List Char)}
    (accepted : versionParts text = some parts) :
    rustTrim text = text.toList ∧ ¬ Masked text := by
  obtain ⟨major, minor, build, -, -, joined, first, second, third⟩ := versionParts_some accepted
  have solid : ∀ c ∈ text.toList, rustBlank c = false := by
    intro c inside
    rw [joined] at inside
    simp only [List.mem_append, List.mem_cons] at inside
    rcases inside with own | rfl | own | rfl | own
    · exact rustBlank_of_isDigit (isDigits_all first c own)
    · decide
    · exact rustBlank_of_isDigit (isDigits_all second c own)
    · decide
    · exact rustBlank_of_isDigit (isDigits_all third c own)
  refine ⟨stripWhere_of_forall solid, ?_⟩
  intro masked
  have front := List.mem_takeWhile_imp masked
  have inside := (List.takeWhile_sublist rustBlank).subset masked
  rw [solid nextLine inside] at front
  cases front

/-- The agent reads the numbers of a text of the panel's format. -/
theorem Numbers.read (numbers : Numbers (2 ^ 32) a x) :
    ∃ major minor build, Read a x major minor build [] ∧ ¬ Masked a ∧
      parseIntOrZero build = x.2.2 := by
  obtain ⟨⟨major, minor, build, accepted, rfl⟩, first, second, third⟩ := numbers
  obtain ⟨major', minor', build', same, split, -, majorDigits, minorDigits, buildDigits⟩ :=
    versionParts_some accepted
  simp only [List.cons.injEq, and_true] at same
  obtain ⟨rfl, rfl, rfl⟩ := same
  obtain ⟨trimmed, clear⟩ := rustTrim_of_versionParts accepted
  have nonempty : build ≠ [] := by
    rintro rfl
    cases buildDigits
  refine ⟨major, minor, build, ⟨?_, parseU32_of_isDigits majorDigits first,
    parseU32_of_isDigits minorDigits second, ?_⟩, clear, ?_⟩
  · rw [trimmed, split]
  · unfold parseBuild
    rw [takeWhile_isDigit buildDigits, if_neg nonempty]
    exact parseU32_of_isDigits buildDigits third
  · have fits : digitsValue build < 2 ^ 32 := third
    exact parseIntOrZero_of_isDigits buildDigits (by omega)

theorem Read.parseVersion {text : String} {p : Nat × Nat × Nat} {major minor build : List Char}
    {rest : List (List Char)} (read : Read text p major minor build rest) :
    parseVersion text = some p := by
  unfold Agent.parseVersion
  rw [read.split]
  dsimp only
  rw [read.major, read.minor, read.build]
  rfl

theorem Numbers.versionNumbers (numbers : Numbers (2 ^ 32) a x) :
    versionNumbers a = [(x.1 : Int), (x.2.1 : Int), (x.2.2 : Int)] := by
  obtain ⟨major, minor, build, read, clear, third⟩ := numbers.read
  rw [read.versionNumbers, if_neg clear, third]
  rfl

/-- Where the first three numbers differ they decide, else the further ones do. -/
theorem newerNumbers_triple (x y : Nat × Nat × Nat) (more others : List Int) :
    newerNumbers ((x.1 : Int) :: (x.2.1 : Int) :: (x.2.2 : Int) :: more)
        ((y.1 : Int) :: (y.2.1 : Int) :: (y.2.2 : Int) :: others) =
      if x = y then newerNumbers more others else decide (Above x y) := by
  obtain ⟨x1, x2, x3⟩ := x
  obtain ⟨y1, y2, y3⟩ := y
  simp only [newerNumbers, Above, Prod.mk.injEq, ne_eq, Int.natCast_inj, gt_iff_lt, Int.ofNat_lt]
  by_cases first : x1 = y1
  · by_cases second : x2 = y2
    · by_cases third : x3 = y3
      · simp [first, second, third]
      · simp [first, second, third]
    · have apart : ¬ (y2 = x2) := Ne.symm second
      simp [first, second, apart]
  · have apart : ¬ (y1 = x1) := Ne.symm first
    simp [first, apart]

theorem not_above_self (x : Nat × Nat × Nat) : ¬ Above x x := by
  unfold Above
  omega

theorem isNewer_eq (x y : Nat × Nat × Nat) : isNewer x y = decide (Above x y) := by
  apply Bool.eq_iff_iff.mpr
  rw [decide_eq_true_iff]
  simp [isNewer, Above]

theorem Numbers.mono {bound larger : Nat} (numbers : Numbers bound a x) (le : bound ≤ larger) :
    Numbers larger a x where
  parts := numbers.parts
  small := by
    have small := numbers.small
    omega

/-- `isVersionNewer` on the panel's format. -/
theorem isVersionNewer_iff (left : Numbers (2 ^ 32) a x) (right : Numbers (2 ^ 32) b y) :
    isVersionNewer a b = decide (Above x y) := by
  unfold isVersionNewer
  rw [left.versionNumbers, right.versionNumbers, newerNumbers_triple]
  split
  · rename_i same
    simp [same, not_above_self, newerNumbers]
  · rfl

/-- `is_newer_str` on the panel's format. -/
theorem isNewerStr_iff (left : Numbers (2 ^ 32) a x) (right : Numbers (2 ^ 32) b y) :
    isNewerStr a b = some (decide (Above x y)) := by
  obtain ⟨_, _, _, leftRead, -⟩ := left.read
  obtain ⟨_, _, _, rightRead, -⟩ := right.read
  unfold isNewerStr
  rw [leftRead.parseVersion, rightRead.parseVersion]
  exact congrArg some (isNewer_eq x y)

theorem lt_iff_above (x y : Nat × Nat × Nat) :
    [y.1, y.2.1, y.2.2] < [x.1, x.2.1, x.2.2] ↔ Above x y := by
  simp [List.cons_lt_cons_iff, Above]

/-- The numbers that `parseVer` reads. -/
theorem Numbers.parseVer (numbers : Numbers (2 ^ 32) a x) :
    parseVer (some a) = some [x.1, x.2.1, x.2.2] := by
  obtain ⟨⟨major, minor, build, accepted, rfl⟩, first, second, third⟩ := numbers
  obtain ⟨_, _, _, same, -, joined, majorDigits, minorDigits, buildDigits⟩ :=
    versionParts_some accepted
  simp only [List.cons.injEq, and_true] at same
  obtain ⟨rfl, rfl, rfl⟩ := same
  have solid : ∀ c ∈ a.toList, jsBlank c = false := by
    intro c inside
    rw [joined] at inside
    simp only [List.mem_append, List.mem_cons] at inside
    rcases inside with own | rfl | own | rfl | own
    · exact jsBlank_of_isDigit (isDigits_all majorDigits c own)
    · decide
    · exact jsBlank_of_isDigit (isDigits_all minorDigits c own)
    · decide
    · exact jsBlank_of_isDigit (isDigits_all buildDigits c own)
  have trimmed : jsTrim a = a := by
    have stripped : jsTrim a = String.ofList (stripWhere jsBlank a.toList) := rfl
    rw [stripped, stripWhere_of_forall solid, String.ofList_toList]
  have exact' : ∀ n : Nat, n < 2 ^ 32 → toDouble n = n :=
    fun n small => toDouble_of_lt (by omega)
  simp [Panel.parseVer, trimmed, accepted, exact' _ first, exact' _ second, exact' _ third]

theorem isOlder_iff (left : Numbers (2 ^ 32) a x) (right : Numbers (2 ^ 32) b y) :
    isOlder (parseVer (some b)) (parseVer (some a)) = decide (Above x y) := by
  rw [left.parseVer, right.parseVer]
  simp only [isOlder, lt_iff_above]

/-- The array that the statement of `pushBulk` casts the text to. -/
theorem Numbers.intArray (numbers : Numbers (2 ^ 31) a x) :
    intArray a = some [x.1, x.2.1, x.2.2] := by
  obtain ⟨⟨major, minor, build, accepted, rfl⟩, first, second, third⟩ := numbers
  have fits : ∀ n : Nat, n < 2 ^ 31 → (n : Int) ≤ int4Max := by
    intro n small
    unfold int4Max
    omega
  simp [Panel.intArray, accepted, fits _ first, fits _ second, fits _ third]

theorem notLe_iff (x y : Nat × Nat × Nat) :
    (!decide ([x.1, x.2.1, x.2.2] ≤ [y.1, y.2.1, y.2.2])) = decide (Above x y) := by
  apply Bool.eq_iff_iff.mpr
  simp only [Bool.not_eq_true', decide_eq_false_iff_not, decide_eq_true_eq, not_le, lt_iff_above]

end Format

/-- `parseInt` reads in the first three places of the text what the agent reads. -/
def SameTriple (text : String) : Prop :=
  ∀ major minor build rest, (rustTrim text).splitOn '.' = major :: minor :: build :: rest →
    (Masked text → digitsValue (withoutPlus major) = 0) ∧
      parseIntOrZero build = (digitsValue (build.takeWhile Char.isDigit) : Int)

/-- The places of the text after the third. -/
def furtherPlaces (text : String) : List (List Char) := ((rustTrim text).splitOn '.').drop 3

section Agreement

variable {text : String} {p : Nat × Nat × Nat} {major minor build : List Char}
  {rest : List (List Char)}

theorem Read.values (read : Read text p major minor build rest) :
    p.1 = digitsValue (withoutPlus major) ∧
      p.2.2 = digitsValue (build.takeWhile Char.isDigit) := by
  constructor
  · have parsed := read.major
    simp only [parseU32, Option.ite_none_right_eq_some, Option.some.injEq] at parsed
    exact parsed.2.symm
  · have parsed := read.build
    unfold parseBuild at parsed
    dsimp only at parsed
    split at parsed
    · rename_i none
      rw [none]
      exact (Option.some.inj parsed).symm
    · rename_i some
      have digits : isDigits (build.takeWhile Char.isDigit) = true := by
        simp only [isDigits, Bool.and_eq_true, bne_iff_ne, List.all_eq_true]
        exact ⟨some, fun c inside => List.mem_takeWhile_imp inside⟩
      simp only [parseU32, withoutPlus_of_isDigits digits, Option.ite_none_right_eq_some,
        Option.some.injEq] at parsed
      exact parsed.2.symm

/-- The panel reads the agent's three numbers exactly where the text says so. -/
theorem Read.sameTriple_iff (read : Read text p major minor build rest) :
    SameTriple text ↔ (if Masked text then 0 else (p.1 : Int)) = p.1 ∧
      parseIntOrZero build = (p.2.2 : Int) := by
  have values := read.values
  have first : (Masked text → digitsValue (withoutPlus major) = 0) ↔
      (if Masked text then 0 else (p.1 : Int)) = p.1 := by
    rw [← values.1]
    by_cases masked : Masked text
    · simp only [masked, if_true, true_implies]
      omega
    · simp [masked]
  rw [← first, values.2]
  constructor
  · intro same
    exact same major minor build rest read.split
  · intro same major' minor' build' rest' split
    rw [read.split] at split
    simp only [List.cons.injEq] at split
    obtain ⟨rfl, rfl, rfl, rfl⟩ := split
    exact same

theorem Read.furtherPlaces (read : Read text p major minor build rest) :
    furtherPlaces text = rest := by
  unfold Versions.furtherPlaces
  rw [read.split]
  rfl

/-- The numbers the panel reads where it reads the agent's three. -/
theorem Read.versionNumbers_same (read : Read text p major minor build rest)
    (same : SameTriple text) : Panel.versionNumbers text =
      (p.1 : Int) :: (p.2.1 : Int) :: (p.2.2 : Int) :: rest.map parseIntOrZero := by
  obtain ⟨first, third⟩ := read.sameTriple_iff.mp same
  rw [read.versionNumbers, first, third]

/-- Some text of the panel's format has the numbers that the agent reads. -/
theorem Read.target (read : Read text p major minor build rest) :
    ∃ target, Numbers (2 ^ 32) target p := by
  have noDot : ∀ {place : List Char}, isDigits place = true → '.' ∉ place := by
    intro place digits inside
    have dot := isDigits_all digits '.' inside
    revert dot
    decide
  have numeral : ∀ {place : List Char} {n : Nat}, parseU32 place = some n →
      ∃ digits, isDigits digits = true ∧ digitsValue digits = n ∧ n < 2 ^ 32 := by
    intro place n parsed
    simp only [parseU32, Option.ite_none_right_eq_some, Bool.and_eq_true, decide_eq_true_eq,
      Option.some.injEq] at parsed
    exact ⟨_, parsed.1.1, parsed.2, parsed.2 ▸ parsed.1.2⟩
  obtain ⟨first, firstDigits, firstValue, firstSmall⟩ := numeral read.major
  obtain ⟨second, secondDigits, secondValue, secondSmall⟩ := numeral read.minor
  obtain ⟨third, thirdDigits, thirdValue, thirdSmall⟩ :
      ∃ digits, isDigits digits = true ∧ digitsValue digits = p.2.2 ∧ p.2.2 < 2 ^ 32 := by
    have parsed := read.build
    unfold parseBuild at parsed
    dsimp only at parsed
    split at parsed
    · have zero := Option.some.inj parsed
      exact ⟨['0'], by decide, zero ▸ by decide, zero ▸ by decide⟩
    · exact numeral parsed
  have split : (first ++ '.' :: (second ++ '.' :: third)).splitOn '.' = [first, second, third] := by
    rw [List.splitOn_append_cons_self_of_not_mem (noDot firstDigits),
      List.splitOn_append_cons_self_of_not_mem (noDot secondDigits),
      List.splitOn_eq_singleton (noDot thirdDigits)]
  refine ⟨String.ofList (first ++ '.' :: (second ++ '.' :: third)),
    ⟨first, second, third, ?_, ?_⟩, firstSmall, secondSmall, thirdSmall⟩
  · unfold versionParts
    rw [String.toList_ofList, split]
    simp [firstDigits, secondDigits, thirdDigits]
  · rw [firstValue, secondValue, thirdValue]

/-- Further places that read as zero decide nothing. -/
theorem newerNumbers_zeros {more : List Int} (zeros : ∀ n ∈ more, n = 0) :
    newerNumbers [] more = false ∧ newerNumbers more [] = false := by
  induction more with
  | nil => simp [newerNumbers]
  | cons n more ih =>
    have rest := ih fun m inside => zeros m (List.mem_cons_of_mem n inside)
    have zero := zeros n List.mem_cons_self
    simp [newerNumbers, zero, rest]

/-- Further places that decide nothing in either order read as zero. -/
theorem zeros_of_newerNumbers {more : List Int} (less : newerNumbers [] more = false)
    (greater : newerNumbers more [] = false) : ∀ n ∈ more, n = 0 := by
  induction more with
  | nil => intro n inside; cases inside
  | cons m more ih =>
    simp only [newerNumbers] at less greater
    by_cases zero : m = 0
    · simp only [zero, ne_eq, not_true_eq_false, if_false] at less greater
      intro n inside
      rcases List.mem_cons.mp inside with rfl | deeper
      · exact zero
      · exact ih less greater n deeper
    · simp only [ne_eq, zero, not_false_eq_true, if_true, Ne.symm zero, decide_eq_false_iff_not]
        at less greater
      omega

/-- Further places that are not negative make no target newer. -/
theorem newerNumbers_nonneg {more : List Int} (nonneg : ∀ n ∈ more, 0 ≤ n) :
    newerNumbers [] more = false := by
  induction more with
  | nil => simp [newerNumbers]
  | cons n more ih =>
    have rest := ih fun m inside => nonneg m (List.mem_cons_of_mem n inside)
    have sign := nonneg n List.mem_cons_self
    simp only [newerNumbers, rest]
    by_cases zero : (0 : Int) = n
    · simp [zero]
    · simp only [ne_eq, zero, not_false_eq_true, if_true, decide_eq_false_iff_not]
      omega

/-- Where the panel reads the agent's three numbers, the further places decide between a text
and a target that has them too, and else the numbers do. -/
theorem Read.isVersionNewer (read : Read text p major minor build rest) (same : SameTriple text)
    {target : String} {x : Nat × Nat × Nat} (numbers : Numbers (2 ^ 32) target x) :
    Panel.isVersionNewer target text =
        (if x = p then newerNumbers [] (rest.map parseIntOrZero) else decide (Above x p)) ∧
      Panel.isVersionNewer text target =
        (if p = x then newerNumbers (rest.map parseIntOrZero) [] else decide (Above p x)) := by
  unfold Panel.isVersionNewer
  rw [read.versionNumbers_same same, numbers.versionNumbers]
  exact ⟨newerNumbers_triple x p _ _, newerNumbers_triple p x _ _⟩

/-- The agent compares its three numbers with those of the target. -/
theorem Read.isNewerStr (read : Read text p major minor build rest)
    {target : String} {x : Nat × Nat × Nat} (numbers : Numbers (2 ^ 32) target x) :
    Agent.isNewerStr target text = some (decide (Above x p)) ∧
      Agent.isNewerStr text target = some (decide (Above p x)) := by
  obtain ⟨_, _, _, targetRead, -⟩ := numbers.read
  unfold Agent.isNewerStr
  rw [read.parseVersion, targetRead.parseVersion]
  exact ⟨congrArg some (isNewer_eq x p), congrArg some (isNewer_eq p x)⟩

/-- A target with the agent's own three numbers shows whether the panel reads these. -/
theorem Read.sameTriple_of_agree (read : Read text p major minor build rest)
    {target : String} (numbers : Numbers (2 ^ 32) target p)
    (below : Panel.isVersionNewer target text = false)
    (above : Panel.isVersionNewer text target = false) :
    SameTriple text ∧ ∀ place ∈ rest, parseIntOrZero place = 0 := by
  unfold Panel.isVersionNewer at below above
  rw [read.versionNumbers, numbers.versionNumbers] at below above
  have first : (if Masked text then 0 else (p.1 : Int)) = p.1 := by
    by_contra apart
    simp only [newerNumbers, ne_eq, apart, Ne.symm apart, not_false_eq_true, if_true,
      decide_eq_false_iff_not] at below above
    omega
  have third : parseIntOrZero build = (p.2.2 : Int) := by
    by_contra apart
    simp only [newerNumbers, first, ne_eq, apart, Ne.symm apart, not_true_eq_false,
      not_false_eq_true, if_false, if_true, decide_eq_false_iff_not] at below above
    omega
  refine ⟨read.sameTriple_iff.mpr ⟨first, third⟩, ?_⟩
  rw [first, third, newerNumbers_triple p p, if_pos rfl] at below above
  intro place inside
  exact zeros_of_newerNumbers below above _ (List.mem_map_of_mem inside)

end Agreement

/-- The panel and the agent give the same answer about two texts, in both orders. -/
def Agree (target reported : String) : Prop :=
  isNewerStr target reported = some (isVersionNewer target reported) ∧
    isNewerStr reported target = some (isVersionNewer reported target)

/-- The four functions are one order on the panel's format. The panel and the agent agree on a
reported text against every target exactly where `parseInt` reads the agent's three numbers in it
and zeros after them, and about what is newer than the text also with other numbers after
them. -/
theorem comparisons_agree :
    (∀ a b x y, Numbers (2 ^ 31) a x → Numbers (2 ^ 31) b y →
      isVersionNewer a b = decide (Above x y) ∧
      isOlder (parseVer (some b)) (parseVer (some a)) = decide (Above x y) ∧
      (∃ left right, intArray a = some left ∧ intArray b = some right ∧
        (!decide (left ≤ right)) = decide (Above x y)) ∧
      isNewerStr a b = some (decide (Above x y))) ∧
    (∀ reported p, parseVersion reported = some p →
      ((∀ target x, Numbers (2 ^ 32) target x → Agree target reported) ↔
        SameTriple reported ∧ ∀ place ∈ furtherPlaces reported, parseIntOrZero place = 0)) ∧
    (∀ reported p target x, parseVersion reported = some p → Numbers (2 ^ 32) target x →
      SameTriple reported → (∀ place ∈ furtherPlaces reported, 0 ≤ parseIntOrZero place) →
      isNewerStr target reported = some (isVersionNewer target reported)) := by
  refine ⟨?_, ?_, ?_⟩
  · intro a b x y left right
    have wide : 2 ^ 31 ≤ 2 ^ 32 := by decide
    refine ⟨isVersionNewer_iff (left.mono wide) (right.mono wide),
      isOlder_iff (left.mono wide) (right.mono wide),
      ⟨_, _, left.intArray, right.intArray, notLe_iff x y⟩,
      isNewerStr_iff (left.mono wide) (right.mono wide)⟩
  · intro reported p parsed
    obtain ⟨major, minor, build, rest, read⟩ := read_of_parseVersion parsed
    rw [read.furtherPlaces]
    constructor
    · intro agree
      obtain ⟨target, numbers⟩ := read.target
      have answers := agree target p numbers
      unfold Agree at answers
      rw [(read.isNewerStr numbers).1, (read.isNewerStr numbers).2,
        decide_eq_false (not_above_self p)] at answers
      exact read.sameTriple_of_agree numbers (Option.some.inj answers.1).symm
        (Option.some.inj answers.2).symm
    · intro ⟨same, zeros⟩ target x numbers
      have silent := @newerNumbers_zeros (rest.map parseIntOrZero) (by simpa using zeros)
      have answers := read.isVersionNewer same numbers
      unfold Agree
      rw [answers.1, answers.2, silent.1, silent.2, (read.isNewerStr numbers).1,
        (read.isNewerStr numbers).2]
      constructor
      · split
        · rename_i equal
          rw [equal, decide_eq_false (not_above_self p)]
        · rfl
      · split
        · rename_i equal
          rw [equal, decide_eq_false (not_above_self x)]
        · rfl
  · intro reported p target x parsed numbers same nonneg
    obtain ⟨major, minor, build, rest, read⟩ := read_of_parseVersion parsed
    rw [read.furtherPlaces] at nonneg
    have silent := @newerNumbers_nonneg (rest.map parseIntOrZero) (by simpa using nonneg)
    rw [(read.isVersionNewer same numbers).1, (read.isNewerStr numbers).1, silent]
    split
    · rename_i equal
      rw [equal, decide_eq_false (not_above_self p)]
    · rfl

/-- The agent drops a suffix of the third place, and `parseInt` does too: the two agree on the
text against every target, and about two texts with leading zeros. -/
theorem suffixed_agrees :
    (∀ target x, Numbers (2 ^ 32) target x → Agree target "1.4.19-pushtest") ∧
      isVersionNewer "01.4.62" "1.4.9" = true := by
  constructor
  · apply (comparisons_agree.2.1 "1.4.19-pushtest" (1, 4, 19) (by decide)).mpr
    refine ⟨?_, by decide⟩
    intro major minor build rest split
    have places : (rustTrim "1.4.19-pushtest").splitOn '.' =
        [['1'], ['4'], "19-pushtest".toList] := by decide
    rw [places] at split
    simp only [List.cons.injEq] at split
    obtain ⟨rfl, rfl, rfl, rfl⟩ := split
    decide
  · rw [(comparisons_agree.1 "01.4.62" "1.4.9" (1, 4, 62) (1, 4, 9)
      ⟨⟨"01".toList, ['4'], "62".toList, by decide, by decide⟩, by decide⟩
      ⟨⟨['1'], ['4'], ['9'], by decide, by decide⟩, by decide⟩).1]
    decide

/-- The agent ignores a fourth place and a sign in the third; the panel counts both. -/
theorem furtherPlace_disagrees :
    parseVersion "1.4.62.1" = some (1, 4, 62) ∧ isNewerStr "1.4.62.1" "1.4.62" = some false ∧
      isVersionNewer "1.4.62.1" "1.4.62" = true ∧
    parseVersion "1.4.-1" = some (1, 4, 0) ∧ isNewerStr "1.4.0" "1.4.-1" = some false ∧
      isVersionNewer "1.4.0" "1.4.-1" = true := by
  have four : versionNumbers "1.4.62.1" = [1, 4, 62, 1] := by decide
  have three : versionNumbers "1.4.62" = [1, 4, 62] := by decide
  have signed : versionNumbers "1.4.-1" = [1, 4, -1] := by decide
  have plain : versionNumbers "1.4.0" = [1, 4, 0] := by decide
  refine ⟨by decide, by decide, ?_, by decide, by decide, ?_⟩
  · unfold isVersionNewer
    rw [four, three]
    simp [newerNumbers]
  · unfold isVersionNewer
    rw [signed, plain]
    simp [newerNumbers]

end ChainRemote.Link.Versions
