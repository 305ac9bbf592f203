import PromptPipeline.Value
import PromptPipeline.Decimal.Shortest
/-!
Compact JSON text of a value.

No blank is written between tokens, map entries come in key order, and a string escapes the
quote, the backslash and the control characters below U+0020: `\b`, `\t`, `\n`, `\f` and `\r`
by name, the others as `\u00XX` with lowercase hex digits. A double is written with its shortest
digits (`Json.numberLayout`); an integer with all of its digits.
-/
namespace PromptPipeline.Json

open Decimal

/-- Doubles in JSON text: positional while the leading digit's exponent is from -5 to 15, with an
exponent and its sign otherwise (`1e+16`, `1.5e-7`). -/
def numberLayout : Layout := ⟨some (-5), some 16, true⟩

/-- Lowercase hex digit of a number below 16. -/
def hexDigit (n : Nat) : Char :=
  if n < 10 then Char.ofNat ('0'.toNat + n) else Char.ofNat ('a'.toNat + n - 10)

/-- The escaped form of one character inside a JSON string. -/
def escapeChar (c : Char) : List Char :=
  if c == '"' then ['\\', '"']
  else if c == '\\' then ['\\', '\\']
  else if c == '\n' then ['\\', 'n']
  else if c == '\t' then ['\\', 't']
  else if c == '\r' then ['\\', 'r']
  else if c.toNat == 8 then ['\\', 'b']
  else if c.toNat == 12 then ['\\', 'f']
  else if c.toNat < 32 then ['\\', 'u', '0', '0', hexDigit (c.toNat / 16), hexDigit (c.toNat % 16)]
  else [c]

/-- A string in JSON quotes. -/
def quote (s : String) : String :=
  String.ofList ('"' :: (s.toList.flatMap escapeChar ++ ['"']))

/-- The JSON text of a number; a double that is not finite has no JSON text and is written as
`null`. -/
def Number.write : Number → String
  | .int i => toString i
  | .float x => if isFinite x then writeFloat numberLayout x else "null"

mutual
/-- The compact JSON text of a value. -/
def write : Value → String
  | .null => "null"
  | .bool b => if b then "true" else "false"
  | .num n => Number.write n
  | .str s => quote s
  | .list items => "[" ++ writeItems items ++ "]"
  | .map entries => "\x7b" ++ writeEntries entries ++ "\x7d"

/-- Items of a list, separated by commas. -/
def writeItems : List Value → String
  | [] => ""
  | [v] => write v
  | v :: rest => write v ++ "," ++ writeItems rest

/-- Entries of a map, separated by commas. -/
def writeEntries : List (String × Value) → String
  | [] => ""
  | [(k, v)] => quote k ++ ":" ++ write v
  | (k, v) :: rest => quote k ++ ":" ++ write v ++ "," ++ writeEntries rest
end

end PromptPipeline.Json
