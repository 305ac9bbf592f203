/-!
Data values.

Every piece of data that a workflow reads, computes or reports is a `Value`: null, a boolean, a
number, a string, a list or a map. A number is either an integer in the range of a signed or
unsigned 64-bit word or a double, and the two kinds stay apart: `1` and `1.0` are different
values. A map is a list of entries in ascending order of their keys, with no key twice, so that
its text and its equality do not depend on the order in which it was built.
-/
namespace PromptPipeline

/-- A number of a data value: an integer from `-2^63` to `2^64 - 1`, or a finite double. -/
inductive Number where
  | int (value : Int)
  | float (value : Float)

/-- A data value. The entries of a map are in ascending order of their keys. -/
inductive Value where
  | null
  | bool (value : Bool)
  | num (value : Number)
  | str (value : String)
  | list (items : List Value)
  | map (entries : List (String × Value))

instance : Inhabited Value := ⟨.null⟩

/-- The entries of a map value, ascending by key, each key once. -/
abbrev Map := List (String × Value)

namespace Map

/-- The value stored under a key. -/
def get? (m : Map) (key : String) : Option Value :=
  (m.find? (·.1 == key)).map (·.2)

/-- Stores a value under a key, replacing the one stored there before. -/
def insert (m : Map) (key : String) (v : Value) : Map :=
  match m with
  | [] => [(key, v)]
  | (k, w) :: rest =>
    if key < k then (key, v) :: (k, w) :: rest
    else if key == k then (key, v) :: rest
    else (k, w) :: insert rest key v

/-- Whether a key is stored. -/
def contains (m : Map) (key : String) : Bool := m.any (·.1 == key)

/-- The map of a list of entries; of two entries with one key the later one stays. -/
def ofList (entries : List (String × Value)) : Map :=
  entries.foldl (fun m (k, v) => m.insert k v) []

/-- Stores every entry of `other`, replacing what was stored under its key. -/
def extend (m other : Map) : Map :=
  other.foldl (fun acc (k, v) => acc.insert k v) m

/-- The keys in ascending order. -/
def keys (m : Map) : List String := m.map (·.1)

end Map

/-- Numbers are equal when they are of one kind and equal as such; doubles compare as doubles,
so `0.0` equals `-0.0`. -/
def Number.beq : Number → Number → Bool
  | .int a, .int b => a == b
  | .float a, .float b => a == b
  | _, _ => false

namespace Value

/-- An integer value. -/
def ofInt (i : Int) : Value := .num (.int i)

/-- A natural-number value. -/
def ofNat (n : Nat) : Value := .num (.int n)

/-- A string value. -/
def ofString (s : String) : Value := .str s

/-- The map value of a list of entries, in key order. -/
def ofEntries (entries : List (String × Value)) : Value := .map (Map.ofList entries)

mutual
/-- Structural equality: same kind, equal numbers, equal strings, equal items in order, the same
keys with equal values. -/
def beq : Value → Value → Bool
  | .null, .null => true
  | .bool a, .bool b => a == b
  | .num a, .num b => a.beq b
  | .str a, .str b => a == b
  | .list xs, .list ys => beqItems xs ys
  | .map xs, .map ys => beqEntries xs ys
  | _, _ => false

/-- Pairwise equality of two lists of values. -/
def beqItems : List Value → List Value → Bool
  | [], [] => true
  | x :: xs, y :: ys => beq x y && beqItems xs ys
  | _, _ => false

/-- Pairwise equality of two lists of entries. -/
def beqEntries : List (String × Value) → List (String × Value) → Bool
  | [], [] => true
  | (k, x) :: xs, (l, y) :: ys => k == l && beq x y && beqEntries xs ys
  | _, _ => false
end

instance : BEq Value := ⟨beq⟩

/-- The name of a value's kind: `null`, `boolean`, `number`, `string`, `list` or `map`. -/
def typeName : Value → String
  | .null => "null"
  | .bool _ => "boolean"
  | .num _ => "number"
  | .str _ => "string"
  | .list _ => "list"
  | .map _ => "map"

end Value

end PromptPipeline
