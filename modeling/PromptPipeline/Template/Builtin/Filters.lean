import PromptPipeline.Template.Builtin.Seq
import PromptPipeline.Template.Builtin.Format
/-!
The filters of templates, by name.

`filter name value args escaping` applies the filter `name` to a value with its arguments; the
argument list ends with the named arguments when there are any. `escaping` tells whether the
output is escaped for HTML, which the `escape` filter follows. `map` applies another filter to
every item, and `select` and `reject` run a test on every item; the filters that call a filter
again are bounded by the number of their arguments, each such call taking one of them.

Four filters of prompts replace or add to the usual ones: `json` (compact JSON text), `lines`
(the lines of a text), `default` (a fallback for an undefined value, `none` and the empty
string) and `number` (a number from its text).
-/
namespace PromptPipeline.Template

open Outcome

namespace Builtin

/-- The integer of a double rounded toward zero, held within 128 bits; NaN is zero. -/
def saturate (x : Float) : Int :=
  if x.isNaN then 0
  else if x ≥ 1.7014118346046923e38 then Int.pow 2 127 - 1
  else if x ≤ -1.7014118346046923e38 then -(Int.pow 2 127)
  else Decimal.truncate x

/-- The `int` filter: doubles rounded toward zero, strings read as integers or else doubles,
`none` as zero. -/
def toInt (v : Datum) : Outcome Datum :=
  match v with
  | .none => .ok (.int 0)
  | .bool b => .ok (.int (if b then 1 else 0))
  | .int _ => .ok v
  | .float x => .ok (.int (saturate x))
  | .str s _ =>
    match parseSigned? 128 s with
    | some i => .ok (.int i)
    | none =>
      match parseFloat s with
      | .ok x => .ok (.int (saturate x))
      | .error e => fail .invalidOperation e
  | other => fail .invalidOperation ("cannot convert " ++ other.kindName ++ " to integer")

/-- The `float` filter: strings read as doubles, `none` as zero. -/
def toFloat (v : Datum) : Outcome Datum :=
  match v with
  | .none => .ok (.float 0.0)
  | .str s _ =>
    match parseFloat s with
    | .ok x => .ok (.float x)
    | .error e => fail .invalidOperation e
  | other =>
    match other.asF64? true with
    | some x => .ok (.float x)
    | none => fail .invalidOperation ("cannot convert " ++ other.kindName ++ " to float")

/-- The `abs` filter. -/
def absolute (v : Datum) : Outcome Datum :=
  match v with
  | .int i =>
    if Datum.fitsSigned 128 (i.natAbs : Int) then .ok (.int i.natAbs)
    else fail .invalidOperation "overflow on abs"
  | .float x => .ok (.float x.abs)
  | _ => fail .invalidOperation "cannot get absolute value"

/-- A double to a natural power by squaring, multiplying in the square for every set bit of
the exponent from the lowest. -/
def powNat (acc square : Float) (k : Nat) : Float :=
  if k = 0 then acc
  else powNat (if k % 2 == 1 then acc * square else acc) (square * square) (k / 2)
termination_by k
decreasing_by omega

/-- A double to an integer power: by squaring, and the reciprocal for a negative exponent. -/
def powInt (base : Float) (n : Int) : Float :=
  let magnitude := powNat 1.0 base n.natAbs
  if n < 0 then 1.0 / magnitude else magnitude

/-- The `round` filter: doubles rounded to some decimal places, halves away from zero;
integers stay. -/
def round (v : Datum) (places : Int) : Outcome Datum :=
  match v with
  | .int _ => .ok v
  | .float x =>
    let scale := powInt 10.0 places
    .ok (.float ((scale * x).round / scale))
  | other => fail .invalidOperation ("cannot round value (" ++ other.kindName ++ ")")

/-- The items that pass a test (or fail it, when `invert`), looked at through an attribute path
if one is given; without a test, the items that are true. -/
def selectItems (invert : Bool) (attrPath : Option String) (v : Datum) (args : List Datum) :
    Outcome Datum := do
  let testArgs ← match args with
    | [] => .ok none
    | t :: rest =>
      match t with
      | .str name _ =>
        if testNames.contains name then .ok (some (name, rest)) else bare .unknownTest
      | _ => fail .invalidOperation "test name must be a string"
  let xs ← iterate v
  let kept ← xs.filterM fun x => do
    let subject ← match attrPath with
      | some p => path x p
      | none => .ok x
    let passed ← match testArgs with
      | some (name, rest) => test name subject rest
      | none => .ok subject.truthy
    .ok (passed != invert)
  .ok (.seq kept)

/-- The `indent` filter's arguments and result: the width (four by default), then whether the
first line and the blank lines are indented, given in order or by the names `width`, `first`
and `blank`; a name is read only where its place in the order is empty, and is unknown
otherwise. -/
def indentFilter (v : Datum) (args : List Datum) : Outcome Datum := do
  let s ← Args.text v
  let (positional, kwargs) := Args.split args
  let width ← match Args.optional positional 0 with
    | some w => some <$> Args.usize w
    | none => Args.namedWith Args.usize kwargs "width"
  let first ← match Args.optional positional 1 with
    | some f => some <$> Args.flag f
    | none => Args.namedWith Args.flag kwargs "first"
  let blank ← match Args.optional positional 2 with
    | some b => some <$> Args.flag b
    | none => Args.namedWith Args.flag kwargs "blank"
  Args.atMost 3 positional
  let named := [("width", 0), ("first", 1), ("blank", 2)]
  Args.allUsed kwargs ((named.filter fun e => (Args.optional positional e.2).isNone).map (·.1))
  .ok (Datum.text (indent s (width.getD 4) (first.getD false) (blank.getD false)))

/-- The `split` filter's arguments and result. -/
def splitFilter (v : Datum) (args : List Datum) : Outcome Datum := do
  let s ← Args.stringOnly v
  let sep ← Args.optionalWith Args.text args 0
  let limit ← Args.optionalWith (Args.signed 64 "i64") args 1
  Args.atMost 2 args
  let limit := limit.bind fun n => if n ≥ 0 then some n.toNat else none
  .ok (.iter ((splitText s sep limit).map Datum.text) false)

/-- The filter `name` applied to a value; `fuel` bounds the filters that call filters. -/
def applyFilter (fuel : Nat) (name : String) (v : Datum) (args : List Datum) (escaping : Bool) :
    Outcome Datum :=
  let text (f : String → String) : Outcome Datum := do
    let s ← Args.text v
    Args.atMost 0 args
    .ok (Datum.text (f s))
  let strict (f : Datum → Outcome Datum) : Outcome Datum := do
    let v ← Args.defined v
    Args.atMost 0 args
    f v
  let passing (f : Datum → Outcome Datum) : Outcome Datum := do
    Args.atMost 0 args
    f v
  match name with
  | "json" => passing fun v =>
    match json v with
    | .ok s => .ok (Datum.text s)
    | .error e => fail .invalidOperation ("JSON serialization failed: " ++ e)
  | "lines" => passing fun v => .ok (.seq ((Text.lines v.display).map Datum.text))
  | "default" => do
    let fallback ← Args.required args 0
    Args.atMost 1 args
    match v with
    | .undefined _ | .none | .str "" _ => .ok fallback
    | _ => .ok v
  | "number" => passing fun v => number (if v.isUndefined then Datum.text "" else v)
  | "d" => do
    let fallback := match args[0]? with
      | some (.undefined _) | none => none
      | some f => some f
    let lax ← match args[1]? with
      | some (.undefined _) => bare .undefinedValue
      | some x => .ok x.truthy
      | none => .ok false
    Args.atMost 2 args
    if v.isUndefined || (lax && !v.truthy) then .ok (fallback.getD (Datum.text ""))
    else .ok v
  | "safe" => do
    let s ← Args.text v
    Args.atMost 0 args
    .ok (.str s true)
  | "escape" | "e" => strict fun v => .ok (escape v)
  | "upper" => text Text.upper
  | "lower" => text Text.lower
  | "title" => text titleCase
  | "capitalize" => text capitalize
  | "replace" => do
    let s ← Args.text v
    let old ← Args.text (← Args.required args 0)
    let new ← Args.text (← Args.required args 1)
    Args.atMost 2 args
    .ok (Datum.text (replaceAll s old new))
  | "trim" => do
    let s ← Args.text v
    let chars ← Args.optionalWith Args.text args 0
    Args.atMost 1 args
    match chars with
    | some set => .ok (Datum.text (trimChars s set))
    | none => .ok (Datum.text (Text.trim s))
  | "split" => splitFilter v args
  | "indent" => indentFilter v args
  | "length" | "count" => passing length
  | "first" => passing first
  | "last" => passing last
  | "reverse" => passing reverse
  | "list" => passing toList
  | "items" => passing items
  | "join" => do
    let sep ← Args.optionalWith Args.text args 0
    Args.atMost 1 args
    join v (sep.getD "")
  | "string" => strict fun v =>
    match v with
    | .str .. => .ok v
    | other => .ok (Datum.text other.display)
  | "int" => strict toInt
  | "float" => strict toFloat
  | "bool" => strict fun v => .ok (.bool v.truthy)
  | "abs" => passing absolute
  | "round" => do
    let places ← Args.optionalWith (Args.signed 32 "i32") args 0
    Args.atMost 1 args
    round v (places.getD 0)
  | "attr" => do
    let v ← Args.defined v
    let key ← Args.defined (← Args.required args 0)
    Args.atMost 1 args
    .ok ((Ops.item? v key).getD Datum.missing)
  | "pprint" => passing fun v => .ok (Datum.text (v.pretty 0))
  | "dictsort" => dictsort v args
  | "sort" => sort v args
  | "groupby" => groupBy v args
  | "unique" => unique v args
  | "min" => extreme false v args
  | "max" => extreme true v args
  | "sum" => sum v args
  | "batch" => batch v args
  | "slice" => sliceInto v args
  | "chain" => chain v args
  | "zip" => zip v args
  | "format" => format v args
  | "select" => selectItems false none v args
  | "reject" => selectItems true none v args
  | "selectattr" | "rejectattr" => do
    match args with
    | [] => bare .missingArgument
    | a :: rest => do
      let attrPath ← Args.text a
      selectItems (name == "rejectattr") (some attrPath) v rest
  | "map" => do
    let (positional, kwargs) := Args.split args
    match Args.named? kwargs "attribute" with
    | some attrKey =>
      if !positional.isEmpty then bare .tooManyArguments
      else do
        let fallback := (Datum.named? kwargs "default").getD Datum.missing
        let xs ← iterate v
        let mapped ← xs.mapM fun x => do
          let found := match attrKey with
            | .str p _ => path x p
            | key => if x.isUndefined then bare .undefinedValue
              else .ok ((Ops.item? x key).getD Datum.missing)
          match found with
          | .ok r => .ok (if r.isUndefined then fallback else r)
          | .error e => if fallback.isUndefined then .error e else .ok fallback
        Args.allUsed kwargs ["attribute", "default"]
        .ok (.seq mapped)
    | none =>
      match positional with
      | [] => fail .invalidOperation "filter name is required"
      | .str inner _ :: rest =>
        if !filterNames.contains inner then bare .unknownFilter
        else
          match fuel with
          | 0 => bare .invalidOperation
          | fuel + 1 => do
            let xs ← iterate v
            let mapped ← xs.mapM fun x => applyFilter fuel inner x rest escaping
            .ok (.seq mapped)
      | _ :: _ => fail .invalidOperation "filter name must be a string"
  | _ => fail .unknownFilter ("filter " ++ name ++ " is unknown")

/-- The filter `name` applied to a value with its arguments. -/
def filter (name : String) (v : Datum) (args : List Datum) (escaping : Bool) : Outcome Datum :=
  applyFilter (args.length + 1) name v args escaping

end Builtin

end PromptPipeline.Template
