import PromptPipeline.Template.Datum.Order
import PromptPipeline.Template.Datum.Show
import PromptPipeline.Template.Error
/-!
The operators of templates on values.

An operator that fails gives a `Fault`, the kind and detail of an engine error; the evaluator adds
the line. Arithmetic brings its operands to one kind first (`coerce`): two strings stay strings,
a double makes both doubles, and otherwise both must be integers (the constants count as `0` and
`1`). Integer results stay within 128 bits: a result beyond, or a division by zero, is "unable to
calculate"; operands of kinds an operator does not take give "tried to use … operator on
unsupported types". Integer division and remainder round so that the remainder is never
negative.

Lists and iterators concatenate with `+` and repeat with `*`, as strings do. Access by key or
position, slices (Python's rules, but for a stop before the first item of a backward slice), and
containment complete the module.
-/
namespace PromptPipeline.Template

/-- The kind and detail of an engine error, before its line is known. -/
abbrev Fault := ErrorKind × Option String

/-- A result or a fault. -/
abbrev Outcome (α : Type) := Except Fault α

namespace Outcome

/-- A fault with a detail. -/
def fail (kind : ErrorKind) (detail : String) : Outcome α := .error (kind, some detail)

/-- A fault without a detail. -/
def bare (kind : ErrorKind) : Outcome α := .error (kind, none)

/-- The result, or the fault as an engine error at a line. -/
def atLine (line : Nat) : Outcome α → Except EngineError α
  | .ok a => .ok a
  | .error (kind, detail) => .error { kind, detail, line }

end Outcome

open Outcome

namespace Ops

/-- Two operands brought to one kind. -/
inductive Coerced where
  | ints (a b : Int)
  | floats (a b : Float)
  | strs (a b : String)

/-- Brings two operands to one kind: strings stay strings, a double makes both doubles, other
numbers and constants become integers. Two integers beyond the signed 128-bit range wrap
around into it; one such integer with any other operand has no common kind. -/
def coerce (a b : Datum) : Option Coerced :=
  let top := Int.pow 2 127
  match a, b with
  | .str x _, .str y _ => some (.strs x y)
  | .float x, _ => (b.asF64? true).map (.floats x)
  | _, .float y => (a.asF64? true).map (.floats · y)
  | .int x, .int y =>
    if x ≥ top && y ≥ top then some (.ints (x - 2 * top) (y - 2 * top))
    else
      match a.asI128?, b.asI128? with
      | some x, some y => some (.ints x y)
      | _, _ => Option.none
  | _, _ =>
    match a.asI128?, b.asI128? with
    | some x, some y => some (.ints x y)
    | _, _ => Option.none

/-- A computation that overflowed or divided by zero. -/
def failedOp (op : String) (a b : Datum) : Fault :=
  (.invalidOperation, some ("unable to calculate " ++ a.display ++ " " ++ op ++ " " ++ b.display))

/-- Operands of kinds the operator does not take. -/
def impossibleOp (op : String) (a b : Datum) : Fault :=
  (.invalidOperation, some ("tried to use " ++ op ++ " operator on unsupported types " ++
    a.kindName ++ " and " ++ b.kindName))

/-- An integer result, unless it leaves the signed 128-bit range. -/
def checked (op : String) (a b : Datum) (r : Int) : Outcome Datum :=
  if Datum.fitsSigned 128 r then .ok (.int r) else .error (failedOp op a b)

/-- The items of a list or iterator, with whether their number is known. -/
def sequence? : Datum → Option (List Datum × Bool)
  | .seq xs => some (xs, true)
  | .group g xs => some ([g, .seq xs], true)
  | .iter xs sized => some (xs, sized)
  | _ => Option.none

/-- Addition of numbers, concatenation of strings, and of lists and iterators into an
iterator. -/
def add (a b : Datum) : Outcome Datum :=
  match sequence? a, sequence? b with
  | some (xs, sx), some (ys, sy) => .ok (.iter (xs ++ ys) (sx && sy))
  | _, _ =>
    match coerce a b with
    | some (.ints x y) => checked "+" a b (x + y)
    | some (.floats x y) => .ok (.float (x + y))
    | some (.strs x y) => .ok (Datum.text (x ++ y))
    | Option.none => .error (impossibleOp "+" a b)

/-- Subtraction of numbers. -/
def sub (a b : Datum) : Outcome Datum :=
  match coerce a b with
  | some (.ints x y) => checked "-" a b (x - y)
  | some (.floats x y) => .ok (.float (x - y))
  | _ => .error (impossibleOp "-" a b)

/-- Whether a value is a container or callable rather than a plain value: lists, iterators, maps,
groups, namespaces, loops, macros and functions. -/
def isObject : Datum → Bool
  | .seq _ | .iter .. | .map _ | .kwargs _ | .group .. | .names .. | .loopState .. | .callable ..
  | .builtin _ => true
  | _ => false

/-- The most bytes a repeated string may have. -/
def repeatLimit : Nat := 100000000

/-- Multiplication of numbers; a string, list or iterator times a count repeats it. A string
operand is looked for first, on either side; then an object, on the left if the left operand is
one and else on the right, which repeats only when it is a list or iterator (a map times a list
is no repetition). A repeated string may not exceed the limit. -/
def mul (a b : Datum) : Outcome Datum :=
  let textSide := match a, b with
    | .str s _, _ => some (s, b)
    | _, .str s _ => some (s, a)
    | _, _ => Option.none
  match textSide with
  | some (s, n) =>
    match n.asUsize? with
    | some k =>
      if s.utf8ByteSize * k > repeatLimit then
        fail .invalidOperation "repeated string is too large"
      else .ok (Datum.text (String.join (List.replicate k s)))
    | Option.none => fail .invalidOperation "strings can only be multiplied with integers"
  | Option.none =>
    let listSide :=
      if isObject a then (sequence? a).map fun (xs, sized) => (xs, sized, b)
      else if isObject b then (sequence? b).map fun (xs, sized) => (xs, sized, a)
      else Option.none
    match listSide with
    | some (xs, sized, n) =>
      match n.asUsize? with
      | some k => .ok (.iter (List.replicate k xs).flatten sized)
      | Option.none =>
        fail .invalidOperation "sequences and iterables can only be multiplied with integers"
    | Option.none =>
      match coerce a b with
      | some (.ints x y) => checked "*" a b (x * y)
      | some (.floats x y) => .ok (.float (x * y))
      | _ => .error (impossibleOp "*" a b)

/-- Division, always in doubles. -/
def div (a b : Datum) : Outcome Datum :=
  match a.asF64? true, b.asF64? true with
  | some x, some y => .ok (.float (x / y))
  | _, _ => .error (impossibleOp "/" a b)

/-- A double rounded toward zero. -/
def truncFloat (x : Float) : Float := if x ≥ 0 then x.floor else x.ceil

/-- The quotient of doubles rounded so that the remainder is not negative. -/
def divEuclid (x y : Float) : Float :=
  let q := truncFloat (x / y)
  if Decimal.truncatedRemainder x y < 0 then (if y > 0 then q - 1 else q + 1) else q

/-- Division rounded so that the remainder is not negative. -/
def floorDiv (a b : Datum) : Outcome Datum :=
  match coerce a b with
  | some (.ints x y) => if y == 0 then .error (failedOp "//" a b) else checked "//" a b (x / y)
  | some (.floats x y) => .ok (.float (divEuclid x y))
  | _ => .error (impossibleOp "//" a b)

/-- The remainder: never negative for integers, with the sign of the dividend for doubles. -/
def rem (a b : Datum) : Outcome Datum :=
  match coerce a b with
  | some (.ints x y) =>
    if y == 0 || (y == -1 && x == -(Int.pow 2 127)) then .error (failedOp "%" a b)
    else .ok (.int (x % y))
  | some (.floats x y) => .ok (.float (Decimal.truncatedRemainder x y))
  | _ => .error (impossibleOp "%" a b)

/-- Powers: an integer to an exponent below `2^32`, doubles to doubles. -/
def pow (a b : Datum) : Outcome Datum :=
  match coerce a b with
  | some (.ints x y) =>
    if y < 0 || y ≥ Int.pow 2 32 then .error (failedOp "**" a b)
    else if x.natAbs ≤ 1 then .ok (.int (Int.pow x y.toNat))
    else if y > 128 then .error (failedOp "**" a b)
    else checked "**" a b (Int.pow x y.toNat)
  | some (.floats x y) => .ok (.float (x ^ y))
  | _ => .error (impossibleOp "**" a b)

/-- The negation of a number. The literal `2^127`, the one integer beyond the signed range that
a sign can bring back into it, stays as it is. -/
def neg (a : Datum) : Outcome Datum :=
  let top := Int.pow 2 127
  match a with
  | .int i =>
    if i == top then .ok a
    else if i > top then bare .invalidOperation
    else if Datum.fitsSigned 128 (-i) then .ok (.int (-i))
    else fail .invalidOperation "overflow"
  | .float x => .ok (.float (-x))
  | _ => bare .invalidOperation

/-- The concatenation of the displays of two values. -/
def concat (a b : Datum) : Datum := Datum.text (a.display ++ b.display)

/-- Whether a text occurs in another. -/
def occursIn (needle hay : String) : Bool :=
  needle.isEmpty || (hay.splitOn needle).length > 1

/-- Whether a container holds a value: a substring of a string, a key of a map, an item of a
list or iterator; nothing is in the undefined value, and objects hold nothing. -/
def contains (container value : Datum) : Outcome Bool :=
  match container with
  | .undefined _ => .ok false
  | .str s _ =>
    let needle := match value with
      | .str t _ => t
      | other => other.display
    .ok (occursIn needle s)
  | .builtin _ => .ok false
  | other =>
    match Datum.seqView? other with
    | some xs => .ok (xs.any (Datum.same · value))
    | Option.none =>
      match Datum.mapView? other with
      | some es => .ok (Datum.lookup es value).isSome
      | Option.none => fail .invalidOperation "cannot perform a containment check on this value"

/-- The attribute of a loop. -/
def loopAttr (index : Nat) (length : Option Nat) (depth : Nat) (previous following : Datum)
    (name : String) :
    Option Datum :=
  Datum.named? (Datum.loopEntries index length depth previous following) name

/-- The attribute `name` of a value: the entry of a map under that string, a field of a loop
or group, the name, parameters and use of `caller` of a macro. -/
def attr? (base : Datum) (name : String) : Option Datum :=
  match base with
  | .map es => Datum.lookup es (Datum.text name)
  | .kwargs es | .names _ es => Datum.named? es name
  | .loopState _ i n d p f => loopAttr i n d p f name
  | .group g xs =>
    if name == "grouper" then some g else if name == "list" then some (.seq xs) else Option.none
  | .callable _ macroName args caller => Datum.named? (Datum.macroEntries macroName args caller) name
  | _ => Option.none

/-- A position in a sequence: a negative one counts from the end, when the length is known. -/
def position? (key : Datum) (len : Option Nat) : Option Nat :=
  match key.asI64? with
  | some i =>
    if i < 0 then len.bind fun n => if (-i).toNat ≤ n then some (n - (-i).toNat) else Option.none
    else some i.toNat
  | Option.none => Option.none

/-- The item of a value under a key: a map's value, a list's, iterator's or string's item at a
position, a group's key and items at `0` and `1`. -/
def item? (base key : Datum) : Option Datum :=
  match base with
  | .map es => Datum.lookup es key
  | .kwargs _ | .names _ _ | .loopState .. | .callable .. =>
    match key with
    | .str name _ => attr? base name
    | _ => Option.none
  | .seq xs => (position? key (some xs.length)).bind fun i => xs[i]?
  | .iter xs sized =>
    (position? key (if sized then some xs.length else Option.none)).bind fun i => xs[i]?
  | .group g xs =>
    match position? key (some 2) with
    | some 0 => some g
    | some 1 => some (.seq xs)
    | some _ => Option.none
    | Option.none =>
      match key with
      | .str name _ => attr? base name
      | _ => Option.none
  | .str s _ =>
    let cs := s.toList
    (position? key (some cs.length)).bind fun i => cs[i]?.map fun c => Datum.text (String.singleton c)
  | _ => Option.none

/-- The positions a slice takes from a sequence of `len` items. With a positive step, bounds
count from the end when negative and are clamped to the sequence, as in Python. With a negative
step the start is clamped to the items, and a stop at or before the first item (after counting
from the end) runs through the first item, which a stop after it leaves out. -/
def slicePositions (len : Nat) (start stop : Option Int) (step : Int) : List Nat :=
  let n : Int := len
  let fromEnd (i : Int) : Int := if i < 0 then i + n else i
  if step > 0 then
    let clamp (i : Int) : Int := max 0 (min (fromEnd i) n)
    let first := clamp (start.getD 0)
    let last := clamp (stop.getD n)
    let count := if last > first then ((last - first + step - 1) / step).toNat else 0
    (List.range count).map fun (k : Nat) => (first + (k : Int) * step).toNat
  else
    let first := match start with
      | some i => max 0 (min (fromEnd i) (n - 1))
      | Option.none => n - 1
    let last := match stop with
      | some i => if fromEnd i ≤ 0 then -1 else fromEnd i
      | Option.none => -1
    let down := -step
    let count := if first > last then ((first - last + down - 1) / down).toNat else 0
    (List.range count).map fun (k : Nat) => (first - (k : Int) * down).toNat

/-- A bound or step of a slice: a 64-bit integer, or absent for `none`. -/
def sliceInt (d : Datum) : Outcome (Option Int) :=
  match d with
  | .none => .ok Option.none
  | other =>
    match other.asI64? with
    | some i => .ok (some i)
    | Option.none => fail .invalidOperation ("cannot convert " ++ other.kindName ++ " to i64")

/-- A slice `base[start:stop:step]` of a string, list or iterator; `none` and the undefined
value give an empty list. Stepping backwards through an empty sequence aborts the engine. -/
def slice (base start stop step : Datum) : Outcome Datum := do
  let stride ← sliceInt step
  let stride := stride.getD 1
  if stride == 0 then fail .invalidOperation "cannot slice by step size of 0"
  else
    let first ← sliceInt start
    let last ← sliceInt stop
    let pick {α : Type} (xs : List α) : Outcome (List α) :=
      if stride < 0 && xs.isEmpty then bare .aborted
      else .ok ((slicePositions xs.length first last stride).filterMap fun i => xs[i]?)
    match base with
    | .str s _ => (fun cs => Datum.text (String.ofList cs)) <$> pick s.toList
    | .undefined _ | .none => pure (.seq [])
    | other =>
      match sequence? other with
      | some (xs, _) => Datum.seq <$> pick xs
      | Option.none =>
        fail .invalidOperation ("value of type " ++ other.kindName ++ " cannot be sliced")

end Ops

end PromptPipeline.Template
