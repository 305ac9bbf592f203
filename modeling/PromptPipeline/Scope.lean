import PromptPipeline.Value
import PromptPipeline.Expr.Error
/-!
The variables of one item's run.

A scope holds the item's seed bindings, which never change, the variables assigned by `set`
steps, the active loop frames (innermost first) and the fields parsed from responses. A name is
looked up in the loop frames, innermost first; then `loop` names the innermost frame's position,
`row` the seed and `parsed` the parsed fields; then the assigned variables; then the seed.
Assigning a name writes the innermost frame that binds it, or else the assigned variables, so an
assignment to a seed name shadows it while `row` keeps the seed.
-/
namespace PromptPipeline

/-- One active loop: its variable, the items, the position and the variable's current value. -/
structure Frame where
  var : String
  items : List Value
  index : Nat
  current : Value

/-- Position of a loop: `first`, `index`, `last` and `length`. -/
def Frame.position (f : Frame) : Value :=
  .map [("first", .bool (f.index == 0)), ("index", .ofNat f.index),
    ("last", .bool (f.index + 1 == f.items.length)), ("length", .ofNat f.items.length)]

/-- The variables of one item's run. -/
structure Scope where
  seed : Map
  assigned : Map := []
  frames : List Frame := []
  parsed : Map := []

namespace Scope

/-- Names that a `set` step may not assign. -/
def reservedNames : List String := ["row", "parsed", "loop"]

/-- The scope of an item with these seed bindings. -/
def ofSeed (seed : Map) : Scope := { seed }

/-- Lookup past the loop frames: `row`, `parsed`, the assigned variables, the seed. -/
def outerGet (s : Scope) (name : String) : Except EvalError Value :=
  if name == "row" then .ok (.map s.seed)
  else if name == "parsed" then .ok (.map s.parsed)
  else match s.assigned.get? name with
    | some v => .ok v
    | none =>
      match s.seed.get? name with
      | some v => .ok v
      | none => .error (.undefinedVariable name)

/-- The value of a name. -/
def get (s : Scope) (name : String) : Except EvalError Value :=
  match s.frames.find? (·.var == name), s.frames with
  | some f, _ => .ok f.current
  | none, f :: _ => if name == "loop" then .ok f.position else s.outerGet name
  | none, [] => s.outerGet name

/-- Writes the innermost frame whose variable is `name`, if there is one. -/
def assignFrame (name : String) (v : Value) : List Frame → Option (List Frame)
  | [] => none
  | f :: rest =>
    if f.var == name then some ({ f with current := v } :: rest)
    else (assignFrame name v rest).map (f :: ·)

/-- Assigns a name: the innermost loop variable of that name, else an assigned variable. -/
def set (s : Scope) (name : String) (v : Value) : Scope :=
  match assignFrame name v s.frames with
  | some frames => { s with frames }
  | none => { s with assigned := s.assigned.insert name v }

/-- Enters a loop over `items` with variable `var`; nothing is entered for no items. -/
def push (s : Scope) (var : String) (items : List Value) : Bool × Scope :=
  match items with
  | [] => (false, s)
  | first :: _ => (true, { s with frames := ⟨var, items, 0, first⟩ :: s.frames })

/-- Moves the innermost loop to its next item; a loop whose items are used up is left, and the
answer is then `false`. -/
def advance (s : Scope) : Bool × Scope :=
  match s.frames with
  | [] => (false, s)
  | f :: rest =>
    match f.items[f.index + 1]? with
    | some next => (true, { s with frames := { f with index := f.index + 1, current := next } :: rest })
    | none => (false, { s with frames := rest })

/-- Number of active loops. -/
def depth (s : Scope) : Nat := s.frames.length

/-- Leaves inner loops until at most `n` remain. -/
def truncate (s : Scope) (n : Nat) : Scope :=
  { s with frames := s.frames.drop (s.frames.length - n) }

/-- Adds parsed fields, replacing fields of the same name. -/
def mergeParsed (s : Scope) (fields : Map) : Scope :=
  { s with parsed := s.parsed.extend fields }

/-- Every visible binding at once, each name with the value that `get` gives it. -/
def snapshot (s : Scope) : Map :=
  let base := s.seed.extend s.assigned
  let base := (base.insert "row" (.map s.seed)).insert "parsed" (.map s.parsed)
  let base := match s.frames with
    | f :: _ => base.insert "loop" f.position
    | [] => base
  s.frames.reverse.foldl (fun m f => m.insert f.var f.current) base

end Scope

end PromptPipeline
