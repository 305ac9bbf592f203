import PromptPipeline.Pattern.Tables.Fold
/-!
Sets of characters as sorted lists of ranges.

A set is a list of inclusive ranges of code points, sorted, apart from each other and not
touching. `normalize` brings any list of ranges to that form; the set operations, complement,
case folding and membership work on it.
-/
namespace PromptPipeline.Pattern

/-- A set of characters: sorted inclusive ranges of code points that neither overlap nor touch. -/
abbrev CharSet := List (Nat × Nat)

namespace CharSet

/-- The largest code point. -/
def maxCode : Nat := 0x10FFFF

/-- Merges sorted ranges that overlap or touch. -/
def mergeSorted : List (Nat × Nat) → List (Nat × Nat)
  | [] => []
  | [r] => [r]
  | (a, b) :: (c, d) :: rest =>
    if c ≤ b + 1 then mergeSorted ((a, max b d) :: rest) else (a, b) :: mergeSorted ((c, d) :: rest)
termination_by l => l.length

/-- Any list of ranges as a set. -/
def normalize (ranges : List (Nat × Nat)) : CharSet :=
  mergeSorted ((ranges.filter fun r => r.1 ≤ r.2).mergeSort fun x y => x.1 ≤ y.1)

/-- The set of one character. -/
def single (c : Char) : CharSet := [(c.toNat, c.toNat)]

/-- The set of the characters from `lo` to `hi`. -/
def range (lo hi : Nat) : CharSet := normalize [(lo, hi)]

/-- The set with the given bounds: they alternate between the first member of a run and the
first code point after it. -/
def ofBounds (bounds : Array Nat) : CharSet :=
  go bounds.toList
where
  /-- Pairs the bounds up. -/
  go : List Nat → List (Nat × Nat)
    | a :: b :: rest => (a, b - 1) :: go rest
    | [a] => [(a, maxCode)]
    | [] => []

/-- The characters in either set. -/
def union (a b : CharSet) : CharSet := normalize (a ++ b)

/-- The characters not in a set. -/
def complement (s : CharSet) : CharSet :=
  go 0 s
where
  /-- The gaps from `next` on. -/
  go (next : Nat) : List (Nat × Nat) → List (Nat × Nat)
    | [] => if next ≤ maxCode then [(next, maxCode)] else []
    | (a, b) :: rest => (if next < a then [(next, a - 1)] else []) ++ go (b + 1) rest

/-- The characters in both sets. -/
def intersect (a b : CharSet) : CharSet :=
  normalize (a.flatMap fun x => b.filterMap fun y =>
    let lo := max x.1 y.1
    let hi := min x.2 y.2
    if lo ≤ hi then some (lo, hi) else none)

/-- The characters of the first set that are not in the second. -/
def difference (a b : CharSet) : CharSet := intersect a (complement b)

/-- The characters in exactly one of the sets. -/
def symmetricDifference (a b : CharSet) : CharSet := difference (union a b) (intersect a b)

/-- Whether a code point is in a set given as an array of ranges: binary search. -/
def memArray (ranges : Array (Nat × Nat)) (n : Nat) : Bool :=
  go 0 ranges.size
where
  /-- Ranges below `lo` end before `n`; ranges from `hi` on start after it. -/
  go (lo hi : Nat) : Bool :=
    if h : lo < hi then
      let mid := (lo + hi) / 2
      let r := ranges.getD mid (0, 0)
      if n < r.1 then go lo mid
      else if r.2 < n then go (mid + 1) hi
      else true
    else false
  termination_by hi - lo

/-- Whether a code point is in a set. -/
def mem (s : CharSet) (n : Nat) : Bool := memArray s.toArray n

/-- The set with every character's case variants added: the whole class of characters that
simple case folding makes equal to it. -/
def caseFold (s : CharSet) : CharSet :=
  let arr := s.toArray
  let extra := Tables.foldClasses.toList.flatMap fun cls =>
    if cls.any (memArray arr) then cls.toList.map fun n => (n, n) else []
  normalize (s ++ extra)

/-- Whether every character of a set is ASCII. -/
def isAscii (s : CharSet) : Bool := s.all fun r => r.2 < 128

end CharSet

end PromptPipeline.Pattern
