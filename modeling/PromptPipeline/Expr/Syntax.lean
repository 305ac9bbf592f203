import PromptPipeline.Value
import PromptPipeline.Json.Write
/-!
Expressions of the workflow language.

An expression is a literal value, a variable, a field or index access, a list or map built from
expressions, or a unary or binary operator applied to expressions. Binary operators bind in five
levels, loosest first: `or`; `and`; the comparisons; `+` and `-`; `*`, `/` and `%`.
`Expr.describe` is the dotted path of an access, the name under which a missing value is reported.
-/
namespace PromptPipeline

/-- Binary operators. -/
inductive BinOp where
  | add | sub | mul | div | rem
  | eq | ne | lt | le | gt | ge
  | and | or
  deriving DecidableEq, Repr

namespace BinOp

/-- The operator as written; `&&` and `||` are written `and` and `or`. -/
def symbol : BinOp → String
  | .add => "+" | .sub => "-" | .mul => "*" | .div => "/" | .rem => "%"
  | .eq => "==" | .ne => "!=" | .lt => "<" | .le => "<=" | .gt => ">" | .ge => ">="
  | .and => "and" | .or => "or"

/-- Binding strength, from 1 (`or`) to 5 (`*`, `/`, `%`). -/
def precedence : BinOp → Nat
  | .or => 1
  | .and => 2
  | .eq | .ne | .lt | .le | .gt | .ge => 3
  | .add | .sub => 4
  | .mul | .div | .rem => 5

end BinOp

/-- Unary operators: numeric negation and logical negation. -/
inductive UnOp where
  | neg | not
  deriving DecidableEq, Repr

/-- An expression. A map keeps its entries in the order written, repeated keys included. -/
inductive Expr where
  | lit (value : Value)
  | var (name : String)
  | field (base : Expr) (name : String)
  | index (base key : Expr)
  | list (items : List Expr)
  | map (entries : List (String × Expr))
  | unary (op : UnOp) (operand : Expr)
  | binary (op : BinOp) (lhs rhs : Expr)

namespace Expr

/-- The path of an access: a variable's name, `base.field`, `base[key]` with a literal key in
JSON text, `base[..]` with any other key; every other expression is `<expression>`. -/
def describe : Expr → String
  | .var name => name
  | .field base name => base.describe ++ "." ++ name
  | .index base (.lit key) => base.describe ++ "[" ++ Json.write key ++ "]"
  | .index base _ => base.describe ++ "[..]"
  | _ => "<expression>"

end Expr

end PromptPipeline
