import Mathlib.Data.List.DropRight

/-!
# Paths

A path is letters that slashes cut into segments. Its components leave out what names nothing: empty
segments, and single dots after the first segment. Two paths with the same components are the same
path, in however many ways it is spelled.
-/

namespace Lib

/-- The letters of an alphabet that have a meaning in paths. -/
class PathLetters (α : Type) where
  slash : α
  dot : α

instance : PathLetters Char := ⟨'/', '.'⟩

instance : PathLetters UInt8 := ⟨0x2f, 0x2e⟩

open PathLetters

/-- A component of a path. -/
inductive Component (α : Type)
  | root
  | current
  | parent
  | normal (name : List α)
deriving DecidableEq, Repr

variable {α : Type} [DecidableEq α] [PathLetters α]

/-- The component that a segment is, if it is one. -/
def segmentComponent (segment : List α) : Option (Component α) :=
  if segment = [] ∨ segment = [dot] then none
  else if segment = [dot, dot] then some .parent
  else some (.normal segment)

/-- The components of a path. -/
def components (path : List α) : List (Component α) :=
  match path.splitOn slash with
  | [] => []
  | first :: rest =>
    if first = [] then
      if rest = [] then [] else .root :: rest.filterMap segmentComponent
    else if first = [dot] then .current :: rest.filterMap segmentComponent
    else (first :: rest).filterMap segmentComponent

/-- The components of the path above another one; none for a root and for the empty path. -/
def parentComponents (path : List α) : Option (List (Component α)) :=
  match (components path).getLast? with
  | none => none
  | some .root => none
  | some _ => some (components path).dropLast

/-- The last component of a path, if it is a name. -/
def fileName (path : List α) : Option (List α) :=
  match (components path).getLast? with
  | some (.normal name) => some name
  | _ => none

/-- The path of an entry of a directory. -/
def joinPath (directory name : List α) : List α :=
  match directory.getLast? with
  | none => name
  | some last => if last = slash then directory ++ name else directory ++ slash :: name

/-- The segments after so many components. -/
def afterComponents : Nat → List (List α) → List (List α)
  | 0, segments => segments
  | _ + 1, [] => []
  | count + 1, segment :: segments =>
    match segmentComponent segment with
    | none => afterComponents (count + 1) segments
    | some _ => afterComponents count segments

/-- Segments without those at the end that are no components. -/
def trimRight (segments : List (List α)) : List (List α) :=
  segments.rdropWhile fun segment => (segmentComponent segment).isNone

/-- The segments of a path as it is written, where slashes and dots at both ends are left out. -/
def trimmed (segments : List (List α)) : List α :=
  [slash].intercalate
    (trimRight (segments.dropWhile fun segment => (segmentComponent segment).isNone))

/-- What is left of a path behind others; none where it does not begin with them. -/
def stripPrefix (base : List (Component α)) (path : List α) : Option (List α) :=
  if base.isPrefixOf (components path) then
    match base, path.splitOn slash with
    | [], [] => some []
    | [], first :: rest =>
      -- a root stays where nothing follows it
      if first = [] then
        some (if rest = [] then [] else slash :: [slash].intercalate (trimRight rest))
      else some ([slash].intercalate (first :: trimRight rest))
    | .root :: base, segments => some (trimmed (afterComponents base.length segments.tail))
    | .current :: base, segments => some (trimmed (afterComponents base.length segments.tail))
    | base, segments => some (trimmed (afterComponents base.length segments))
  else none

end Lib
