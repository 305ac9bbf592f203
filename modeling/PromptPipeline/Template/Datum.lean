import PromptPipeline.Value
import PromptPipeline.Decimal.Binary
/-!
Values inside templates.

A template computes with `Datum`s. Besides the data of its bindings (none, booleans, integers of
up to 128 bits, doubles, strings, lists and maps) there are the values that only templates make:
the undefined value of a name or key that is not there, iterators (what `range` and `items` give:
shown like lists, but no lists), the named arguments of a call, the groups of `groupby`,
namespaces, the state of a loop, macros and the global functions.

Maps keep their entries ordered by key (see `Datum.order`), so that they are written and
iterated in that order. A string may be *safe*: then it is written as it is even where HTML
escaping is on.

This module holds the type, the kinds of values, truth, iteration, length and the conversions of
values to machine numbers that arguments and operators use.
-/
namespace PromptPipeline.Template

/-- A value inside a template. -/
inductive Datum where
  /-- a value that is not there; a `silent` one is written as nothing even under strict rules -/
  | undefined (silent : Bool)
  | none
  | bool (value : Bool)
  | int (value : Int)
  | float (value : Float)
  /-- a string; a `safe` one is written without escaping -/
  | str (value : String) (safe : Bool)
  | seq (items : List Datum)
  /-- items given one after another, shown like a list; `sized` when its length is known -/
  | iter (items : List Datum) (sized : Bool)
  /-- a map, its entries ordered by key -/
  | map (entries : List (Datum × Datum))
  /-- the named arguments of a call, ordered by name -/
  | kwargs (entries : List (String × Datum))
  /-- a group of `groupby`: the key and the items that share it -/
  | group (grouper : Datum) (items : List Datum)
  /-- a namespace by its number, with its entries when last read, ordered by name -/
  | names (id : Nat) (entries : List (String × Datum))
  /-- the loop at one item: the loop's number, the item's position, the count of items where it
  is known ahead, the depth of recursion (from one), and the items before and after it -/
  | loopState (id index : Nat) (length : Option Nat) (depth : Nat) (previous following : Datum)
  /-- a macro by its number, with its name, the names of its parameters, and whether its body
  calls `caller` -/
  | callable (id : Nat) (name : String) (arguments : List String) (caller : Bool)
  /-- a global function by its name -/
  | builtin (name : String)

instance : Inhabited Datum := ⟨.undefined false⟩

/-- The kinds of values, in the order that values of different kinds compare in. -/
inductive Kind where
  | undefined
  | none
  | bool
  | number
  | string
  | seq
  | map
  | iterable
  | plain
  deriving DecidableEq

namespace Kind

/-- The name of a kind, as messages give it. -/
def name : Kind → String
  | .undefined => "undefined"
  | .none => "none"
  | .bool => "bool"
  | .number => "number"
  | .string => "string"
  | .seq => "sequence"
  | .map => "map"
  | .iterable => "iterator"
  | .plain => "plain object"

/-- The place of a kind in the order of values. -/
def rank : Kind → Nat
  | .undefined => 0
  | .none => 1
  | .bool => 2
  | .number => 3
  | .string => 4
  | .seq => 5
  | .map => 6
  | .iterable => 7
  | .plain => 8

end Kind

/-- The names a loop answers to, in the order it lists them. -/
def loopKeys : List String :=
  ["index0", "index", "length", "revindex", "revindex0", "first", "last", "depth", "depth0",
   "previtem", "nextitem"]

namespace Datum

/-- A plain string. -/
def text (s : String) : Datum := .str s false

/-- The value undefined by a missing name. -/
def missing : Datum := .undefined false

/-- The kind of a value. -/
def kind : Datum → Kind
  | .undefined _ => .undefined
  | .none => .none
  | .bool _ => .bool
  | .int _ | .float _ => .number
  | .str _ _ => .string
  | .seq _ | .group _ _ => .seq
  | .iter _ _ => .iterable
  | .map _ | .kwargs _ | .names _ _ | .loopState .. | .callable .. => .map
  | .builtin _ => .plain

/-- The name of a value's kind. -/
def kindName (d : Datum) : String := d.kind.name

/-- Whether a value is undefined, silently or not. -/
def isUndefined : Datum → Bool
  | .undefined _ => true
  | _ => false

/-- Whether a value is the undefined value that strict rules refuse to use. -/
def isStrictUndefined : Datum → Bool
  | .undefined false => true
  | _ => false

/-- Whether a value is a string that is written without escaping. -/
def isSafe : Datum → Bool
  | .str _ safe => safe
  | _ => false

/-- The text of a string value. -/
def asStr? : Datum → Option String
  | .str s _ => some s
  | _ => Option.none

/-- The characters of a string as one-character strings. -/
def chars (s : String) : List Datum := s.toList.map fun c => text (String.singleton c)

/-- The counts of a loop that need its length: none when the length is not known ahead. -/
def loopCounts (index : Nat) : Option Nat → List (String × Datum)
  | some n =>
    [("length", .int n), ("revindex", .int ((n : Int) - index)),
     ("revindex0", .int ((n : Int) - index - 1))]
  | Option.none => []

/-- The entries of a loop at an item. Without a known length the item is never the last. -/
def loopEntries (index : Nat) (length : Option Nat) (depth : Nat) (previous following : Datum) :
    List (String × Datum) :=
  [("index0", .int index), ("index", .int (index + 1))] ++ loopCounts index length ++
  [("first", .bool (index == 0)), ("last", .bool (length == some (index + 1))),
   ("depth", .int depth), ("depth0", .int ((depth : Int) - 1)), ("previtem", previous),
   ("nextitem", following)]

/-- The number of items a loop over a value announces: none for a string, whose characters are
not counted ahead, and for an iterator of unknown length. -/
def loopLength? (v : Datum) (items : List Datum) : Option Nat :=
  match v with
  | .str _ _ => Option.none
  | .iter _ sized => if sized then some items.length else Option.none
  | _ => some items.length

/-- The entries a macro answers to: its name, the names of its parameters, and whether it calls
`caller`. -/
def macroEntries (name : String) (arguments : List String) (caller : Bool) :
    List (String × Datum) :=
  [("name", text name), ("arguments", .seq (arguments.map text)), ("caller", .bool caller)]

/-- The items that iterating over a value gives: the characters of a string, the items of a
list or iterator, the keys of a map; none for `none` and the undefined value; nothing for the
values that cannot be iterated. -/
def items? : Datum → Option (List Datum)
  | .undefined _ | .none => some []
  | .str s _ => some (chars s)
  | .seq xs | .iter xs _ => some xs
  | .map es => some (es.map (·.1))
  | .kwargs es | .names _ es => some (es.map fun e => text e.1)
  | .group g xs => some [g, .seq xs]
  | .loopState .. => some (loopKeys.map text)
  | .callable .. => some (["name", "arguments", "caller"].map text)
  | _ => Option.none

/-- The number of items of a value, where it is known: characters of a string, items of a list
or of a sized iterator, entries of a map. -/
def length? : Datum → Option Nat
  | .str s _ => some s.length
  | .seq xs => some xs.length
  | .iter xs sized => if sized then some xs.length else Option.none
  | .map es => some es.length
  | .kwargs es | .names _ es => some es.length
  | .group _ _ => some 2
  | .loopState .. => some loopKeys.length
  | .callable .. => some 3
  | _ => Option.none

/-- Truth of a value: false for undefined, none, `False`, zero, and empty strings and
containers; an iterator of unknown length and objects are true. -/
def truthy (d : Datum) : Bool :=
  match d with
  | .undefined _ | .none => false
  | .bool b => b
  | .int i => i != 0
  | .float x => x != 0.0
  | _ =>
    match d.length? with
    | some n => n != 0
    | Option.none => true

/-- The entry of a list of named entries. -/
def named? (entries : List (String × Datum)) (name : String) : Option Datum :=
  (entries.find? (·.1 == name)).map (·.2)

/-- Whether an integer fits in `bits` bits, signed. -/
def fitsSigned (bits : Nat) (i : Int) : Bool :=
  -(Int.pow 2 (bits - 1)) ≤ i && i < Int.pow 2 (bits - 1)

/-- A double without a fractional part, once saturated to the signed 64-bit range: the value
must come back unchanged from the integer, as a cast there and back would give it. -/
def floatToI64? (x : Float) : Option Int :=
  if !Decimal.isFinite x then Option.none
  else
    let bound := Int.pow 2 63
    let t := Decimal.truncate x
    let i := if t ≥ bound then bound - 1 else if t < -bound then -bound else t
    if Decimal.ofInt i == x then some i else Option.none

/-- A value as a 128-bit integer: integers within the range, the constants as `0` and `1`,
whole doubles within the 64-bit range. -/
def asI128? : Datum → Option Int
  | .bool b => some (if b then 1 else 0)
  | .int i => if fitsSigned 128 i then some i else Option.none
  | .float x => floatToI64? x
  | _ => Option.none

/-- A value as a 64-bit integer. -/
def asI64? (d : Datum) : Option Int :=
  (asI128? d).filter (fitsSigned 64)

/-- A value as a 32-bit integer. -/
def asI32? (d : Datum) : Option Int :=
  (asI128? d).filter (fitsSigned 32)

/-- A value as an unsigned 64-bit size. -/
def asUsize? (d : Datum) : Option Nat :=
  match d with
  | .int i => if 0 ≤ i && i < Int.pow 2 64 then some i.toNat else Option.none
  | other => (asI128? other).bind fun i => if 0 ≤ i then some i.toNat else Option.none

/-- A value as an unsigned 32-bit integer. -/
def asU32? (d : Datum) : Option Nat :=
  (asUsize? d).filter (· < Nat.pow 2 32)

/-- A value as a double: numbers and the constants. A `lossy` conversion takes every integer to
its nearest double; otherwise an integer must survive the way there and back. -/
def asF64? (lossy : Bool) : Datum → Option Float
  | .bool b => some (if b then 1.0 else 0.0)
  | .int i =>
    let x := Decimal.ofInt i
    if lossy || Decimal.truncate x == i then some x else Option.none
  | .float x => some x
  | _ => Option.none

/-- A value as an integer for the operators: like `asI128?`, but integers beyond the signed range
(unsigned ones up to `2^128`) are kept. -/
def asInteger? : Datum → Option Int
  | .int i => some i
  | other => asI128? other

/-- Entries ordered by their names. -/
def sortNamed (es : List (String × α)) : List (String × α) :=
  es.mergeSort fun a b => decide (a.1 ≤ b.1)

mutual
/-- The value of a data value; the entries of maps ordered by key. -/
def ofValue : Value → Datum
  | .null => .none
  | .bool b => .bool b
  | .num (.int i) => .int i
  | .num (.float x) => .float x
  | .str s => text s
  | .list items => .seq (ofItems items)
  | .map entries => .map ((sortNamed (ofFields entries)).map fun e => (text e.1, e.2))

/-- The values of a list of data values. -/
def ofItems : List Value → List Datum
  | [] => []
  | v :: vs => ofValue v :: ofItems vs

/-- The entries of a map of data values. -/
def ofFields : List (String × Value) → List (String × Datum)
  | [] => []
  | (k, v) :: rest => (k, ofValue v) :: ofFields rest
end

end Datum

end PromptPipeline.Template
