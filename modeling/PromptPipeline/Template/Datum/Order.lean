import PromptPipeline.Template.Datum
/-!
Equality and order of template values.

Values of different kinds are ordered by kind: undefined, none, booleans, numbers, strings,
sequences, maps, iterators, objects. Within a kind, numbers compare by value, strings by code
points, sequences and maps item by item (a map's items being its key and value pairs in key
order).

Numbers are compared exactly. Doubles among themselves follow the total order of their bits
(negative NaN first, `-0.0` below `0.0`, NaN last). An integer and a double compare as doubles
when the integer is one exactly, and otherwise by their exact values; equality of an integer and
a double is always exact, so `9007199254740993` is not `9007199254740992.0`. Booleans count as
`0` and `1` wherever they meet numbers.

Values nest, and a group or a namespace is compared through the list or map it stands for, so
the comparisons recurse on a budget: the depth of the first value, which every step goes below.
-/
namespace PromptPipeline.Template

namespace Datum

mutual
/-- How deep containers nest in a value. -/
def depth : Datum → Nat
  | .seq xs | .iter xs _ => depthItems xs + 1
  | .map es => depthEntries es + 1
  | .kwargs es | .names _ es => depthNamed es + 1
  | .group g xs => max (depth g) (depthItems xs + 1) + 1
  | .loopState _ _ _ _ p f => max (depth p) (depth f) + 1
  | _ => 0

/-- The greatest depth of a list of values. -/
def depthItems : List Datum → Nat
  | [] => 0
  | x :: xs => max (depth x) (depthItems xs)

/-- The greatest depth of the keys and values of entries. -/
def depthEntries : List (Datum × Datum) → Nat
  | [] => 0
  | (k, v) :: rest => max (max (depth k) (depth v)) (depthEntries rest)

/-- The greatest depth of the values of named entries. -/
def depthNamed : List (String × Datum) → Nat
  | [] => 0
  | (_, v) :: rest => max (depth v) (depthNamed rest)
end

/-- The items of a value that compares as a sequence: a list, an iterator, or a group, which is
the pair of its key and its items. -/
def seqView? : Datum → Option (List Datum)
  | .seq xs | .iter xs _ => some xs
  | .group g xs => some [g, .seq xs]
  | _ => Option.none

/-- The entries of a value that compares as a map. -/
def mapView? : Datum → Option (List (Datum × Datum))
  | .map es => some es
  | .kwargs es | .names _ es => some (es.map fun e => (text e.1, e.2))
  | .loopState _ i n d p f => some ((loopEntries i n d p f).map fun e => (text e.1, e.2))
  | .callable _ name args caller =>
    some ((macroEntries name args caller).map fun e => (text e.1, e.2))
  | _ => Option.none

/-- A number as it takes part in comparisons. -/
inductive Numeric where
  | int (value : Int)
  | float (value : Float)

/-- The number of a boolean, integer or double. -/
def numeric? : Datum → Option Numeric
  | .bool b => some (.int (if b then 1 else 0))
  | .int i => some (.int i)
  | .float x => some (.float x)
  | _ => Option.none

/-- The place of a double in the total order of doubles: its bits as a signed integer, with the
magnitude bits of negative values reversed. -/
def floatKey (x : Float) : Int :=
  let b := x.toBits.toNat
  if b < Nat.pow 2 63 then b else -((b % Nat.pow 2 63 : Nat) : Int) - 1

/-- The total order of doubles. -/
def floatOrder (a b : Float) : Ordering := compare (floatKey a) (floatKey b)

/-- Compares an integer with a finite double by their exact values. -/
def compareExact (i : Int) (x : Float) : Ordering :=
  let b := Decimal.Binary.ofFloat x
  let v : Int := if b.negative then -(b.significand : Int) else b.significand
  if b.exponent ≥ 0 then compare i (v * Int.pow 2 b.exponent.toNat)
  else compare (i * Int.pow 2 (-b.exponent).toNat) v

/-- Whether an integer is exactly a double. -/
def exactlyFloat (i : Int) : Bool := Decimal.truncate (Decimal.ofInt i) == i

/-- Compares an integer with a double: as doubles when the integer is one exactly, else by
exact value, with NaN above or below everything by its sign. -/
def intFloatOrder (i : Int) (x : Float) : Ordering :=
  if exactlyFloat i then floatOrder (Decimal.ofInt i) x
  else if Decimal.isFinite x then compareExact i x
  else if floatKey x < 0 then .gt
  else .lt

/-- Whether an integer and a double are the same number. -/
def intFloatEqual (i : Int) (x : Float) : Bool :=
  Decimal.isFinite x && compareExact i x == .eq

/-- The order of numbers. -/
def Numeric.order : Numeric → Numeric → Ordering
  | .int a, .int b => compare a b
  | .float a, .float b => floatOrder a b
  | .int a, .float b => intFloatOrder a b
  | .float a, .int b => (intFloatOrder b a).swap

/-- Equality of numbers. -/
def Numeric.equal : Numeric → Numeric → Bool
  | .int a, .int b => a == b
  | .float a, .float b => a == b
  | .int a, .float b => intFloatEqual a b
  | .float a, .int b => intFloatEqual b a

mutual
/-- The order of values, within a budget of nesting. -/
def orderWithin : Nat → Datum → Datum → Ordering
  | 0, _, _ => .eq
  | fuel + 1, a, b =>
    let ra := a.kind.rank
    let rb := b.kind.rank
    if ra != rb then compare ra rb
    else
      match a, b with
      | .str x _, .str y _ => compare x y
      | .callable i .., .callable j .. => compare i j
      | .builtin x, .builtin y => compare x y
      | _, _ =>
        match numeric? a, numeric? b with
        | some x, some y => x.order y
        | _, _ =>
          match seqView? a, seqView? b with
          | some xs, some ys => orderItems fuel xs ys
          | _, _ =>
            match mapView? a, mapView? b with
            | some xs, some ys => orderEntries fuel xs ys
            | _, _ => .eq

/-- Lexicographic order of lists of values. -/
def orderItems (fuel : Nat) : List Datum → List Datum → Ordering
  | [], [] => .eq
  | [], _ :: _ => .lt
  | _ :: _, [] => .gt
  | x :: xs, y :: ys => (orderWithin fuel x y).then (orderItems fuel xs ys)

/-- Lexicographic order of entries, each by key and then by value. -/
def orderEntries (fuel : Nat) : List (Datum × Datum) → List (Datum × Datum) → Ordering
  | [], [] => .eq
  | [], _ :: _ => .lt
  | _ :: _, [] => .gt
  | (k, v) :: xs, (l, w) :: ys =>
    (orderWithin fuel k l).then ((orderWithin fuel v w).then (orderEntries fuel xs ys))
end

/-- The order of values. -/
def order (a b : Datum) : Ordering := orderWithin (depth a + 1) a b

/-- The value under a key of entries ordered by key. -/
def lookup (entries : List (Datum × Datum)) (key : Datum) : Option Datum :=
  (entries.find? fun e => order e.1 key == .eq).map (·.2)

mutual
/-- Equality of values within a budget of nesting: numbers by value, strings by text,
sequences item by item, maps by their keys and the values under them. -/
def sameWithin : Nat → Datum → Datum → Bool
  | 0, _, _ => false
  | fuel + 1, a, b =>
    match a, b with
    | .none, .none => true
    | .undefined _, .undefined _ => true
    | .str x _, .str y _ => x == y
    | .names i _, .names j _ => i == j || sameMaps fuel a b
    | .callable i .., .callable j .. => i == j
    | .builtin x, .builtin y => x == y
    | _, _ =>
      match numeric? a, numeric? b with
      | some x, some y => x.equal y
      | _, _ =>
        match seqView? a, seqView? b with
        | some xs, some ys => sameItems fuel xs ys
        | _, _ => sameMaps fuel a b

/-- Equality of maps: the same number of entries, and each key of the first under an equal
value in the second. -/
def sameMaps (fuel : Nat) (a b : Datum) : Bool :=
  match mapView? a, mapView? b with
  | some xs, some ys => xs.length == ys.length && sameEntries fuel xs ys
  | _, _ => false

/-- Pairwise equality of lists. -/
def sameItems (fuel : Nat) : List Datum → List Datum → Bool
  | [], [] => true
  | x :: xs, y :: ys => sameWithin fuel x y && sameItems fuel xs ys
  | _, _ => false

/-- Every entry has an equal value under its key in `other`. -/
def sameEntries (fuel : Nat) : List (Datum × Datum) → List (Datum × Datum) → Bool
  | [], _ => true
  | (k, v) :: rest, other =>
    (match lookup other k with
     | some w => sameWithin fuel v w
     | Option.none => false) && sameEntries fuel rest other
end

/-- Equality of values. -/
def same (a b : Datum) : Bool := sameWithin (depth a + 1) a b

/-- Stores a value under a key, keeping the entries ordered by key; an equal key is replaced. -/
def insertEntry : List (Datum × Datum) → Datum → Datum → List (Datum × Datum)
  | [], k, v => [(k, v)]
  | (k', v') :: rest, k, v =>
    match order k k' with
    | .lt => (k, v) :: (k', v') :: rest
    | .eq => (k, v) :: rest
    | .gt => (k', v') :: insertEntry rest k v

/-- A map of entries given in any order; of equal keys the last one stays. -/
def mapOf (entries : List (Datum × Datum)) : Datum :=
  .map (entries.foldl (fun acc e => insertEntry acc e.1 e.2) [])

/-- Stores a value under a name, keeping the entries ordered by name. -/
def insertNamed : List (String × Datum) → String → Datum → List (String × Datum)
  | [], k, v => [(k, v)]
  | (k', v') :: rest, k, v =>
    if k < k' then (k, v) :: (k', v') :: rest
    else if k == k' then (k, v) :: rest
    else (k', v') :: insertNamed rest k v

end Datum

end PromptPipeline.Template
