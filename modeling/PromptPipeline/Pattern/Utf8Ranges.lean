import PromptPipeline.Pattern.CharSet
/-!
The UTF-8 encodings of a range of code points, as sequences of byte ranges.

A range of code points is cut into pieces whose encodings are all of one length and differ only
in a suffix of free continuation bytes; each piece is then a sequence of byte ranges, one per
byte, that matches exactly the encodings of its code points. The surrogates, which have no
encoding, are left out. The pieces come in increasing order, so their sequences are sorted.

For instance the range from U+0000 to U+FFFF gives `[00-7F]`, `[C2-DF][80-BF]`,
`[E0][A0-BF][80-BF]`, `[E1-EC][80-BF][80-BF]`, `[ED][80-9F][80-BF]` and
`[EE-EF][80-BF][80-BF]`.
-/
namespace PromptPipeline.Pattern

namespace Utf8Ranges

/-- The bytes of a code point in UTF-8. -/
def encode (n : Nat) : List Nat :=
  if n < 0x80 then [n]
  else if n < 0x800 then [0xC0 + n / 64, 0x80 + n % 64]
  else if n < 0x10000 then [0xE0 + n / 4096, 0x80 + n / 64 % 64, 0x80 + n % 64]
  else [0xF0 + n / 262144, 0x80 + n / 4096 % 64, 0x80 + n / 64 % 64, 0x80 + n % 64]

/-- The largest code points encoded in one, two and three bytes. -/
def lengthBounds : List Nat := [0x7F, 0x7FF, 0xFFFF]

/-- The sizes of the blocks of code points that share all but their last one, two or three
continuation bytes. -/
def blockSizes : List Nat := [64, 4096, 262144]

/-- Where to cut a range so that both parts align with a block of `size` code points: after
the block that holds `lo` when `lo` is inside one, else before the block that holds `hi` when
`hi` is inside one. -/
def alignCut (lo hi size : Nat) : Option Nat :=
  if lo / size == hi / size then none
  else if lo % size != 0 then some ((lo / size + 1) * size - 1)
  else if hi % size != size - 1 then some (hi / size * size - 1)
  else none

/-- Where a range of code points on one side of the surrogates needs cutting: at a change of
encoded length, or to align with a block. -/
def cut (lo hi : Nat) : Option Nat :=
  match lengthBounds.find? (fun m => lo ≤ m && m < hi) with
  | some m => some m
  | none => if hi ≤ 0x7F then none else blockSizes.findSome? (alignCut lo hi)

/-- The sequences of a range, cutting at most `fuel` times deep: first around the surrogates,
then as `cut` says; an empty range has none. -/
def within : Nat → Nat → Nat → List (List (Nat × Nat))
  | 0, _, _ => []
  | fuel + 1, lo, hi =>
    if lo < 0xE000 && hi > 0xD7FF then within fuel lo 0xD7FF ++ within fuel 0xE000 hi
    else if lo > hi then []
    else
      match cut lo hi with
      | some m => within fuel lo m ++ within fuel (m + 1) hi
      | none => [(encode lo).zip (encode hi)]

end Utf8Ranges

/-- The byte-range sequences that encode the code points from `lo` to `hi`, in order. -/
def utf8Sequences (lo hi : Nat) : List (List (Nat × Nat)) := Utf8Ranges.within 32 lo hi

end PromptPipeline.Pattern
