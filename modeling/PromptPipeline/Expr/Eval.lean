import PromptPipeline.Expr.Syntax
import PromptPipeline.Expr.Coerce
import PromptPipeline.Expr.Error
import PromptPipeline.Decimal.Binary
/-!
Evaluating expressions.

Variables are looked up by a given function. `and` and `or` evaluate their right operand only
when the left one does not decide, and give booleans. Every other operator evaluates both operands,
left first. Arithmetic is done on doubles; `+` also joins two lists, and joins the texts of its
operands when either is a string. A list is indexed by an integral number, saturated to the range
of a signed 64-bit integer; a map by a string.
-/
namespace PromptPipeline

namespace Expr

/-- A numeric result as a value, or a failure naming the operator when it is not finite. -/
def finite (x : Float) (op : String) : Except EvalError Value :=
  match Value.ofNumber? x with
  | some v => .ok v
  | none => .error (.notFinite op)

/-- Keeps an integer in the range of a signed 64-bit integer. -/
def saturate (i : Int) : Int := max (-(Int.pow 2 63)) (min (Int.pow 2 63 - 1) i)

/-- The item or entry that a key selects; `path` names the access for a missing entry. -/
def indexValue (container key : Value) (path : String) : Except EvalError Value :=
  match container, key with
  | .list items, key =>
    match key.asNumber? with
    | some x =>
      if Decimal.isIntegral x then
        let i := saturate (Decimal.truncate x)
        match items[i.toNat]? with
        | some v => if i < 0 then .error (.indexOutOfRange i items.length) else .ok v
        | none => .error (.indexOutOfRange i items.length)
      else .error (.typeMismatch "[]" key.typeName)
    | none => .error (.typeMismatch "[]" key.typeName)
  | .map m, .str name =>
    match Map.get? m name with
    | some v => .ok v
    | none => .error (.undefinedVariable path)
  | other, _ => .error (.typeMismatch "[]" other.typeName)

/-- Arithmetic on two numeric operands, after both were read as numbers. -/
def arithmetic (op : BinOp) (l r : Float) : Except EvalError Value :=
  match op with
  | .sub => finite (l - r) "-"
  | .mul => finite (l * r) "*"
  | .div => if r == 0.0 then .error .divisionByZero else finite (l / r) "/"
  | .rem => if r == 0.0 then .error .divisionByZero else finite (Decimal.truncatedRemainder l r) "%"
  | _ => finite (l + r) "+"

/-- A binary operator other than `and` and `or` applied to two values. -/
def applyBinary (op : BinOp) (l r : Value) : Except EvalError Value :=
  match op with
  | .eq => .ok (.bool (l.looseEq r))
  | .ne => .ok (.bool !(l.looseEq r))
  | .lt | .le | .gt | .ge =>
    match l.asNumber?, r.asNumber? with
    | some x, some y =>
      let result := match op with
        | .lt => decide (x < y)
        | .le => decide (x ≤ y)
        | .gt => decide (x > y)
        | _ => decide (x ≥ y)
      .ok (.bool result)
    | _, _ => .error (.nonNumericComparison op.symbol l.preview r.preview)
  | .add =>
    match l.asNumber?, r.asNumber? with
    | some x, some y => finite (x + y) "+"
    | _, _ =>
      match l, r with
      | .list xs, .list ys => .ok (.list (xs ++ ys))
      | .str _, _ => .ok (.str (l.text ++ r.text))
      | _, .str _ => .ok (.str (l.text ++ r.text))
      | _, _ =>
        let found := l.typeName ++ " and " ++ r.typeName
        .error (.typeMismatch "+" found)
  | .sub | .mul | .div | .rem =>
    match l.asNumber? with
    | none => .error (.typeMismatch op.symbol l.typeName)
    | some x =>
      match r.asNumber? with
      | none => .error (.typeMismatch op.symbol r.typeName)
      | some y => arithmetic op x y
  | .and => .ok (.bool (l.truthy && r.truthy))
  | .or => .ok (.bool (l.truthy || r.truthy))

mutual

/-- The value of an expression, with variables looked up by `lookup`. -/
def eval (lookup : String → Except EvalError Value) : Expr → Except EvalError Value
  | .lit v => .ok v
  | .var name => lookup name
  | .field base name => do
    match ← eval lookup base with
    | .map m =>
      match Map.get? m name with
      | some v => .ok v
      | none => .error (.undefinedVariable (Expr.field base name).describe)
    | other => .error (.typeMismatch "." other.typeName)
  | .index base key => do
    let container ← eval lookup base
    let k ← eval lookup key
    indexValue container k (Expr.index base key).describe
  | .list items => (evalItems lookup items).map Value.list
  | .map entries => (evalEntries lookup entries []).map Value.map
  | .unary .not operand => do
    let v ← eval lookup operand
    .ok (.bool !v.truthy)
  | .unary .neg operand => do
    let v ← eval lookup operand
    match v.asNumber? with
    | some x => finite (-x) "-"
    | none => .error (.typeMismatch "-" v.typeName)
  | .binary .and lhs rhs => do
    let l ← eval lookup lhs
    if !l.truthy then .ok (.bool false)
    else
      let r ← eval lookup rhs
      .ok (.bool r.truthy)
  | .binary .or lhs rhs => do
    let l ← eval lookup lhs
    if l.truthy then .ok (.bool true)
    else
      let r ← eval lookup rhs
      .ok (.bool r.truthy)
  | .binary op lhs rhs => do
    let l ← eval lookup lhs
    let r ← eval lookup rhs
    applyBinary op l r

/-- The values of list items, in order. -/
def evalItems (lookup : String → Except EvalError Value) : List Expr → Except EvalError (List Value)
  | [] => .ok []
  | e :: rest => do
    let v ← eval lookup e
    let vs ← evalItems lookup rest
    .ok (v :: vs)

/-- Map entries evaluated in order into `m`; a later entry replaces an earlier one of the same key. -/
def evalEntries (lookup : String → Except EvalError Value) :
    List (String × Expr) → Map → Except EvalError Map
  | [], m => .ok m
  | (k, e) :: rest, m => do
    let v ← eval lookup e
    evalEntries lookup rest (m.insert k v)

end

end Expr

end PromptPipeline
