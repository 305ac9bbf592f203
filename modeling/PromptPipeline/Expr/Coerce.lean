import PromptPipeline.Value
import PromptPipeline.Json.Write
import PromptPipeline.Text.Unicode
import PromptPipeline.Decimal.Nearest
/-!
How the expression language reads values.

A value is numeric when it is a number, or a string whose text without surrounding blanks is the
text of a finite number. Truthiness: null, `false`, zero, the empty string, list and map are
false, everything else is true. Equality (`Value.looseEq`) compares numerically when both sides
are numeric, as text when both are scalars (booleans read `true` and `false`), and structurally
otherwise; null equals only null. The result of arithmetic becomes an integer value when it is
integral and below `2^63` in magnitude, a double otherwise, and is refused when not finite.
-/
namespace PromptPipeline

namespace Number

/-- The double of a number: an integer is rounded to the nearest double. -/
def toFloat : Number → Float
  | .int i => Decimal.ofInt i
  | .float x => x

end Number

namespace Value

/-- The numeric reading of a value. -/
def asNumber? : Value → Option Float
  | .num n => some n.toFloat
  | .str s =>
    match Decimal.ofString? (Text.trim s) with
    | some x => if Decimal.isFinite x then some x else none
    | none => none
  | _ => none

/-- Whether a value counts as true. -/
def truthy : Value → Bool
  | .null => false
  | .bool b => b
  | .num n => n.toFloat != 0.0
  | .str s => !s.isEmpty
  | .list items => !items.isEmpty
  | .map entries => !entries.isEmpty

/-- The text of a scalar for comparison: strings as they are, numbers in JSON text, booleans as
`true` and `false`. -/
def scalarText? : Value → Option String
  | .str s => some s
  | .num n => some (Json.Number.write n)
  | .bool b => some (if b then "true" else "false")
  | _ => none

/-- The equality of the expression language. -/
def looseEq (a b : Value) : Bool :=
  match a, b with
  | .null, .null => true
  | .null, _ => false
  | _, .null => false
  | _, _ =>
    match a.asNumber?, b.asNumber? with
    | some x, some y => x == y
    | _, _ =>
      match a.scalarText?, b.scalarText? with
      | some s, some t => s == t
      | _, _ => a == b

/-- The text of a value when joined to a string: a string itself, nothing for null, JSON text
for the rest. -/
def text : Value → String
  | .str s => s
  | .null => ""
  | v => Json.write v

/-- The JSON text of a value cut to its first 40 characters, with `...` when cut. -/
def preview (v : Value) : String :=
  let t := Json.write v
  if t.length > 40 then String.ofList (t.toList.take 40) ++ "..." else t

/-- The value of a numeric result: none when not finite, an integer when integral and below
`2^63` in magnitude, a double otherwise. -/
def ofNumber? (x : Float) : Option Value :=
  if !Decimal.isFinite x then none
  else if Decimal.isIntegral x && (Decimal.truncate x).natAbs < Nat.pow 2 63 then
    some (.ofInt (Decimal.truncate x))
  else some (.num (.float x))

end Value

end PromptPipeline
