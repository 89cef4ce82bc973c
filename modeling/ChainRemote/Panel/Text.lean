import Mathlib.Data.List.Basic

/-!
# JavaScript text operations

`String.prototype.trim` and `slice` as the panel uses them. Lengths and positions of
JavaScript text count UTF-16 code units, so a character outside the basic plane counts
twice and a cut may fall inside it.
-/

namespace ChainRemote.Panel

/-- The white space and line terminators that `trim` removes. -/
def jsBlank (c : Char) : Bool :=
  let n := c.toNat
  (9 ≤ n && n ≤ 13) || n == 0x20 || n == 0xA0 || n == 0x1680 || (0x2000 ≤ n && n ≤ 0x200A) ||
    n == 0x2028 || n == 0x2029 || n == 0x202F || n == 0x205F || n == 0x3000 || n == 0xFEFF

/-- `s.trim()`. -/
def jsTrim (s : String) : String :=
  String.ofList (((s.toList.dropWhile jsBlank).reverse.dropWhile jsBlank).reverse)

/-- UTF-16 code units of one character. -/
def utf16Units (c : Char) : Nat := if c.toNat < 0x10000 then 1 else 2

/-- `s.length`. -/
def jsLength (s : String) : Nat := s.toList.foldl (fun units c => units + utf16Units c) 0

/-- The first `n` code units of a character list. A cut inside a surrogate pair leaves half of
it, which the database driver encodes as the replacement character. -/
def takeUnits : Nat → List Char → List Char
  | _, [] => []
  | 0, _ => []
  | n + 1, c :: cs =>
    if utf16Units c ≤ n + 1 then c :: takeUnits (n + 1 - utf16Units c) cs
    else [Char.ofNat 0xFFFD]

/-- `s.slice(0, n)`. -/
def jsSlice (n : Nat) (s : String) : String := String.ofList (takeUnits n s.toList)

end ChainRemote.Panel
