import PromptPipeline.Template.Builtin.Text
/-!
The tests of templates (`x is t`, `x is t(a)`).

A test takes the value under test and its arguments and answers yes or no: whether the value is
defined, of a kind, odd or even, divisible, a string that starts or ends with another, in lower
or upper case, equal to or ordered against another value, in a container, the same object as
another, or the name of a filter or test. A value a test looks at may not be undefined; only
`defined` and `undefined` (which exist to ask) and the tests of numbers, which answer no, take
it.
-/
namespace PromptPipeline.Template

open Outcome

namespace Builtin

/-- The names that filters answer to. -/
def filterNames : List String :=
  ["abs", "attr", "batch", "bool", "capitalize", "chain", "count", "d", "default", "dictsort",
   "e", "escape", "first", "float", "format", "groupby", "indent", "int", "items", "join", "json",
   "last", "length", "lines", "list", "lower", "map", "max", "min", "number", "pprint", "reject",
   "rejectattr", "replace", "reverse", "round", "safe", "select", "selectattr", "slice", "sort",
   "split", "string", "sum", "title", "trim", "unique", "upper", "zip"]

/-- The names that tests answer to. -/
def testNames : List String :=
  ["!=", "<", "<=", "==", ">", ">=", "boolean", "defined", "divisibleby", "endingwith", "eq",
   "equalto", "escaped", "even", "false", "filter", "float", "ge", "greaterthan", "gt", "in",
   "int", "integer", "iterable", "le", "lessthan", "lower", "lt", "mapping", "ne", "none",
   "number", "odd", "safe", "sameas", "sequence", "startingwith", "string", "test", "true",
   "undefined", "upper"]

/-- Whether two values are the same object: namespaces and macros by identity, lists and maps
never, other values when they are of one kind and equal (so `1` is not the same as `true`). -/
def sameObject (a b : Datum) : Bool :=
  match a, b with
  | .names i _, .names j _ => i == j
  | .callable i .., .callable j .. => i == j
  | .builtin x, .builtin y => x == y
  | .seq _, _ | .iter .., _ | .map _, _ | .group .., _ | .kwargs _, _ | .loopState .., _ => false
  | .names .., _ | .callable .., _ | .builtin _, _ => false
  | _, _ => a.kind.rank == b.kind.rank && Datum.same a b

/-- Whether an integer value satisfies a condition; other values do not. -/
def integerIs (v : Datum) (p : Int → Bool) : Bool :=
  match v with
  | .str .. => false
  | other => (other.asI128?.map p).getD false

/-- Whether one value divides another: integers exactly, doubles with no remainder. -/
def divides (v other : Datum) : Bool :=
  match Ops.coerce v other with
  | some (.ints a b) => b != 0 && a % b == 0
  | some (.floats a b) => Decimal.truncatedRemainder a b == 0.0
  | _ => false

/-- Runs the test `name` on a value with arguments. -/
def test (name : String) (v : Datum) (args : List Datum) : Outcome Bool :=
  let plain (answer : Datum → Bool) : Outcome Bool := do
    let v ← Args.defined v
    Args.atMost 0 args
    .ok (answer v)
  let binary (answer : Datum → Datum → Outcome Bool) : Outcome Bool := do
    let v ← Args.defined v
    let other ← Args.defined (← Args.required args 0)
    Args.atMost 1 args
    answer v other
  let textual (answer : String → String → Bool) : Outcome Bool := do
    let s ← Args.text v
    let other ← Args.text (← Args.required args 0)
    Args.atMost 1 args
    .ok (answer s other)
  let ordered (accept : Ordering → Bool) : Outcome Bool :=
    binary fun a b => .ok (accept (Datum.order a b))
  match name with
  | "defined" => do
    Args.atMost 0 args
    .ok !v.isUndefined
  | "undefined" => do
    Args.atMost 0 args
    .ok v.isUndefined
  | "none" => plain (· matches .none)
  | "safe" | "escaped" => plain Datum.isSafe
  | "boolean" => plain (· matches .bool _)
  | "odd" => do
    Args.atMost 0 args
    .ok (integerIs v (· % 2 != 0))
  | "even" => do
    Args.atMost 0 args
    .ok (integerIs v (· % 2 == 0))
  | "divisibleby" => binary fun a b => .ok (divides a b)
  | "number" => plain fun x => x.kind == .number
  | "integer" | "int" => plain (· matches .int _)
  | "float" => plain (· matches .float _)
  | "string" => plain fun x => x.kind == .string
  | "sequence" => plain fun x => x.kind == .seq
  | "mapping" => plain fun x => x.kind == .map
  | "iterable" => plain fun x => x.items?.isSome
  | "startingwith" => textual fun s p => s.startsWith p
  | "endingwith" => textual fun s p => s.endsWith p
  | "lower" => do
    let s ← Args.stringOnly v
    Args.atMost 0 args
    .ok (s.toList.all Text.isLower)
  | "upper" => do
    let s ← Args.stringOnly v
    Args.atMost 0 args
    .ok (s.toList.all Text.isUpper)
  | "sameas" => binary fun a b => .ok (sameObject a b)
  | "eq" | "equalto" | "==" => binary fun a b => .ok (Datum.same a b)
  | "ne" | "!=" => binary fun a b => .ok !(Datum.same a b)
  | "lt" | "lessthan" | "<" => ordered (· == .lt)
  | "le" | "<=" => ordered (· != .gt)
  | "gt" | "greaterthan" | ">" => ordered (· == .gt)
  | "ge" | ">=" => ordered (· != .lt)
  | "in" => binary fun a b => Ops.contains b a
  | "true" => plain (· matches .bool true)
  | "false" => plain (· matches .bool false)
  | "filter" => do
    let s ← Args.string v
    Args.atMost 0 args
    .ok (filterNames.contains s)
  | "test" => do
    let s ← Args.string v
    Args.atMost 0 args
    .ok (testNames.contains s)
  | _ => fail .unknownTest ("test " ++ name ++ " is unknown")

end Builtin

end PromptPipeline.Template
