import PromptPipeline.Template.Builtin.Args
/-!
The global functions of templates that need no state: `range` and `dict`.

`range(stop)`, `range(start, stop)` and `range(start, stop, step)` count from `start` (zero by
default) toward `stop`, which they never reach, in steps of `step` (one by default, never zero,
downward when negative), at most 100000 numbers. `dict` makes a map of a map and of named
arguments, the named ones winning.
-/
namespace PromptPipeline.Template

open Outcome

namespace Builtin

/-- The largest number of items a range may have. -/
def rangeLimit : Nat := 100000

/-- An integer brought into the signed 64-bit range by wrapping around. -/
def wrap64 (x : Int) : Int :=
  (x + (Nat.pow 2 63 : Nat)) % (Nat.pow 2 64 : Nat) - (Nat.pow 2 63 : Nat)

/-- The number of steps of `step` from `start` that stay short of `stop`. Counting down is done
in wrapping 64-bit arithmetic, so the step `-2^63`, whose negation wraps onto itself, reaches
only a `stop` just below `start`. -/
def rangeCount (start stop step : Int) : Nat :=
  if step > 0 then (if stop > start then ((stop - start + step - 1) / step).toNat else 0)
  else if step < 0 then
    if start > stop then
      (Int.tdiv (wrap64 (wrap64 (wrap64 (start - stop) - step) - 1)) (wrap64 (-step))).toNat
    else 0
  else 0

/-- The `range` function. -/
def range (args : List Datum) : Outcome Datum := do
  let bound := Args.signed 64 "isize"
  let first ← bound (← Args.required args 0)
  let second ← Args.optionalWith bound args 1
  let step ← Args.optionalWith bound args 2
  Args.atMost 3 args
  let (start, stop) := match second with
    | some stop => (first, stop)
    | none => (0, first)
  let step := step.getD 1
  if step == 0 then fail .invalidOperation "cannot create range with step of 0"
  else
    let count := rangeCount start stop step
    if count > rangeLimit then fail .invalidOperation "range has too many elements"
    else .ok (.iter ((List.range count).map fun (k : Nat) => .int (start + (k : Int) * step)) true)

/-- The `dict` function: the entries of a map, then the named arguments over them. -/
def dict (args : List Datum) : Outcome Datum := do
  let (positional, kwargs) := Args.split args
  let base ← match positional with
    | [] | [.undefined _] | [.none] => .ok []
    | [v] =>
      match v with
      | .map es => .ok es
      | .kwargs es | .names _ es => .ok (es.map fun e => (Datum.text e.1, e.2))
      | .loopState .. => .ok ((Datum.mapView? v).getD [])
      | _ => bare .invalidOperation
    | _ => bare .tooManyArguments
  .ok (.map (kwargs.foldl (fun acc e => Datum.insertEntry acc (Datum.text e.1) e.2) base))

end Builtin

end PromptPipeline.Template
