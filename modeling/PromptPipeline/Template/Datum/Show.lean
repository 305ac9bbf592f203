import PromptPipeline.Template.Datum
import PromptPipeline.Value.Decode
import PromptPipeline.Decimal.Shortest
/-!
How template values are shown.

A value has three texts. Its display is what `{{ … }}` writes: a string as it is, an integer in
decimal, a double positionally with at least one fractional digit (`inf`, `-inf` and `NaN`
aside), `True`, `False` and `None` for the constants, nothing for the undefined value. Inside a
list or map the items show their debugging form instead: strings quoted and escaped, doubles
with an exponent below `1e-4` and from `1e16` on. The pretty form (`pprint`) is the debugging
form with every item on a line of its own, indented by four spaces a level, each followed by a
comma. Loops, macros and global functions show a text of their own in all three forms.
-/
namespace PromptPipeline.Template

namespace Datum

/-- Doubles in a display: always positional. -/
def displayLayout : Decimal.Layout := ⟨Option.none, Option.none, false⟩

/-- Doubles in a debugging form: positional from `1e-4` up to below `1e16`. -/
def debugLayout : Decimal.Layout := ⟨some (-4), some 16, false⟩

/-- The text of a double under a layout; `NaN`, `inf` and `-inf` for the others. -/
def floatText (layout : Decimal.Layout) (x : Float) : String :=
  if Decimal.isFinite x then Decimal.writeFloat layout x
  else if x.toBits.toNat % Nat.pow 2 52 ≠ 0 then "NaN"
  else if x.toBits.toNat ≥ Nat.pow 2 63 then "-inf"
  else "inf"

/-- The text of a constant. -/
def boolText (b : Bool) : String := if b then "True" else "False"

/-- The text of a global function: the path of its definition. -/
def functionText (name : String) : String := "minijinja::functions::builtins::" ++ name

/-- The text of a loop: the position of the item and the count of items. -/
def loopText (index : Nat) (length : Option Nat) : String :=
  "<loop " ++ toString index ++ "/" ++ (match length with
    | some n => toString n
    | Option.none => "?") ++ ">"

mutual
/-- The debugging form of a value, as items of lists and maps show. -/
def debug : Datum → String
  | .undefined _ => "undefined"
  | .none => "None"
  | .bool b => boolText b
  | .int i => toString i
  | .float x => floatText debugLayout x
  | .str s _ => debugQuote s
  | .seq xs | .iter xs _ => "[" ++ debugItems xs ++ "]"
  | .group g xs => "[" ++ debug g ++ ", [" ++ debugItems xs ++ "]]"
  | .map es => "\x7b" ++ debugEntries es ++ "\x7d"
  | .kwargs es | .names _ es => "\x7b" ++ debugNamed es ++ "\x7d"
  | .loopState _ i n _ _ _ => loopText i n
  | .callable _ name _ _ => "<macro " ++ name ++ ">"
  | .builtin name => functionText name

/-- Items separated by commas. -/
def debugItems : List Datum → String
  | [] => ""
  | [x] => debug x
  | x :: xs => debug x ++ ", " ++ debugItems xs

/-- Entries `key: value` separated by commas. -/
def debugEntries : List (Datum × Datum) → String
  | [] => ""
  | [(k, v)] => debug k ++ ": " ++ debug v
  | (k, v) :: rest => debug k ++ ": " ++ debug v ++ ", " ++ debugEntries rest

/-- Named entries `"name": value` separated by commas. -/
def debugNamed : List (String × Datum) → String
  | [] => ""
  | [(k, v)] => debugQuote k ++ ": " ++ debug v
  | (k, v) :: rest => debugQuote k ++ ": " ++ debug v ++ ", " ++ debugNamed rest
end

/-- The display of a value, what a template writes for it; nothing for the undefined value. -/
def display : Datum → String
  | .undefined _ => ""
  | .float x => floatText displayLayout x
  | .str s _ => s
  | other => debug other

/-- Four spaces per level. -/
def pad (level : Nat) : String := String.ofList (List.replicate (4 * level) ' ')

mutual
/-- The pretty form of a value whose first line stands at `level`. -/
def pretty (level : Nat) : Datum → String
  | .seq xs | .iter xs _ =>
    if xs.isEmpty then "[]" else "[\n" ++ prettyItems (level + 1) xs ++ pad level ++ "]"
  | .group g xs =>
    let inner := if xs.isEmpty then "[]"
      else "[\n" ++ prettyItems (level + 2) xs ++ pad (level + 1) ++ "]"
    "[\n" ++ pad (level + 1) ++ pretty (level + 1) g ++ ",\n" ++ pad (level + 1) ++ inner ++
      ",\n" ++ pad level ++ "]"
  | .map es =>
    if es.isEmpty then "\x7b\x7d"
    else "\x7b\n" ++ prettyEntries (level + 1) es ++ pad level ++ "\x7d"
  | .kwargs es | .names _ es =>
    if es.isEmpty then "\x7b\x7d"
    else "\x7b\n" ++ prettyNamed (level + 1) es ++ pad level ++ "\x7d"
  | other => debug other

/-- Items on lines of their own at a level. -/
def prettyItems (level : Nat) : List Datum → String
  | [] => ""
  | x :: xs => pad level ++ pretty level x ++ ",\n" ++ prettyItems level xs

/-- Entries on lines of their own at a level. -/
def prettyEntries (level : Nat) : List (Datum × Datum) → String
  | [] => ""
  | (k, v) :: rest =>
    pad level ++ pretty level k ++ ": " ++ pretty level v ++ ",\n" ++ prettyEntries level rest

/-- Named entries on lines of their own at a level. -/
def prettyNamed (level : Nat) : List (String × Datum) → String
  | [] => ""
  | (k, v) :: rest =>
    pad level ++ debugQuote k ++ ": " ++ pretty level v ++ ",\n" ++ prettyNamed level rest
end

end Datum

end PromptPipeline.Template
