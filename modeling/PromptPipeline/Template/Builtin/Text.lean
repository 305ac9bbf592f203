import PromptPipeline.Template.Builtin.Args
import PromptPipeline.Text.Case
import PromptPipeline.Text.Lines
import PromptPipeline.Text.Unicode
import PromptPipeline.Json.Write
import PromptPipeline.Decimal.Nearest
import PromptPipeline.Decimal.Shortest
/-!
The filters of templates that work on text.

Escaping for HTML, case (`title` and `capitalize` map character by character), trimming,
replacing, splitting (at a separator, at runs of white space, at most a number of times),
indenting, the lines of a text, a number read from its text, and a value's compact JSON text.
-/
namespace PromptPipeline.Template

open Outcome

namespace Builtin

/-- The characters that HTML escaping replaces, and their replacements. -/
def htmlEntity : Char → List Char
  | '<' => "&lt;".toList
  | '>' => "&gt;".toList
  | '&' => "&amp;".toList
  | '"' => "&quot;".toList
  | '\'' => "&#x27;".toList
  | '/' => "&#x2f;".toList
  | c => [c]

/-- A text with the characters of HTML markup escaped. -/
def escapeHtml (s : String) : String := String.ofList (s.toList.flatMap htmlEntity)

/-- The text a value writes where escaping is on: safe strings as they are, numbers, constants
and `none` by their display, everything else escaped. -/
def escapedText (v : Datum) : String :=
  match v with
  | .str s true => s
  | .undefined _ => ""
  | .none | .bool _ | .int _ | .float _ => v.display
  | other => escapeHtml other.display

/-- The `escape` filter: a safe string of the escaped text; safe strings stay. -/
def escape (v : Datum) : Datum :=
  if v.isSafe then v else .str (escapedText v) true

/-- Whether a character is ASCII punctuation. -/
def isAsciiPunctuation (c : Char) : Bool :=
  c.toNat < 128 && c.toNat > 32 && c.toNat < 127 && !c.isAlphanum

/-- Title case: the first character of every word in upper case, the others in lower case,
character by character; words are separated by white space and ASCII punctuation. -/
def titleCase (s : String) : String :=
  let step (acc : List Char × Bool) (c : Char) : List Char × Bool :=
    let (out, start) := acc
    if isAsciiPunctuation c || Text.isBlank c then (c :: out, true)
    else if start then ((Text.upperChar c).reverse ++ out, false)
    else ((Text.lowerChar c).reverse ++ out, false)
  String.ofList (s.toList.foldl step ([], true)).1.reverse

/-- The first character in upper case and the rest of the text in lower case. -/
def capitalize (s : String) : String :=
  match s.toList with
  | [] => ""
  | c :: cs => String.ofList (Text.upperChar c) ++ Text.lower (String.ofList cs)

/-- Every occurrence of `old` replaced by `new`; an empty `old` matches between all characters and
at both ends. -/
def replaceAll (s old new : String) : String :=
  if old.isEmpty then
    new ++ String.join (s.toList.map fun c => String.singleton c ++ new)
  else new.intercalate (s.splitOn old)

/-- Drops the characters of a set at both ends. -/
def trimChars (s : String) (set : String) : String :=
  let keep (c : Char) : Bool := set.toList.contains c
  String.ofList ((s.toList.dropWhile keep).reverse.dropWhile keep).reverse

/-- The words of a text: its runs of characters other than white space. -/
def words (cs : List Char) : List String :=
  let groups := cs.splitBy fun a b => Text.isBlank a == Text.isBlank b
  (groups.filter fun w => !(w.all Text.isBlank)).map String.ofList

/-- Splits at runs of white space at most `n` times: leading white space is dropped, and the
rest after the last split keeps its trailing white space. -/
def splitBlankTimes : Nat → List Char → List String
  | _, [] => []
  | 0, cs =>
    let rest := cs.dropWhile Text.isBlank
    if rest.isEmpty then [] else [String.ofList rest]
  | n + 1, cs =>
    let rest := cs.dropWhile Text.isBlank
    if rest.isEmpty then []
    else
      let word := rest.takeWhile (!Text.isBlank ·)
      String.ofList word :: splitBlankTimes n (rest.dropWhile (!Text.isBlank ·))

/-- The pieces of a text split at a separator at most `n` times. -/
def splitTimes (s sep : String) : Nat → List String
  | n =>
    let pieces := s.splitOn sep
    if pieces.length ≤ n + 1 then pieces
    else pieces.take n ++ [sep.intercalate (pieces.drop n)]

/-- Splits a text as the `split` filter does: at a separator, or at runs of white space when
there is none; at most `limit` times when a limit is given. An empty separator splits between
all characters and at both ends. -/
def splitText (s : String) (sep : Option String) (limit : Option Nat) : List String :=
  match sep, limit with
  | none, none => words s.toList
  | none, some n => splitBlankTimes n s.toList
  | some p, none =>
    if p.isEmpty then "" :: (s.toList.map String.singleton ++ [""]) else s.splitOn p
  | some p, some n =>
    if p.isEmpty then
      let pieces := "" :: (s.toList.map String.singleton ++ [""])
      if pieces.length ≤ n + 1 then pieces
      else pieces.take n ++ [String.join (pieces.drop n)]
    else splitTimes s p n

/-- The text without one final line feed, and then without one final carriage return. -/
def stripNewline (s : String) : String :=
  let cs := s.toList
  let cs := if cs.getLast? == some '\n' then cs.dropLast else cs
  let cs := if cs.getLast? == some '\r' then cs.dropLast else cs
  String.ofList cs

/-- Indents the lines of a text by `width` spaces: the first line only when `first` holds, and
empty lines only when `blank` holds. -/
def indent (s : String) (width : Nat) (first blank : Bool) : String :=
  let pad := String.ofList (List.replicate width ' ')
  let lines := (stripNewline s).splitOn "\n"
  let line (l : String) : String :=
    if l.isEmpty then (if blank then pad else "") else pad ++ l
  let body := match lines with
    | [] => ""
    | l :: ls =>
      (if first then line l else l) ++ "\n" ++ String.join (ls.map fun x => line x ++ "\n")
  stripNewline body

/-- The integer an optionally signed run of decimal digits denotes, within `bits` bits signed. -/
def parseSigned? (bits : Nat) (s : String) : Option Int :=
  let (negative, body) := match s.toList with
    | '-' :: cs => (true, cs)
    | '+' :: cs => (false, cs)
    | cs => (false, cs)
  if body.isEmpty || !body.all Char.isDigit then none
  else
    let magnitude : Int := body.foldl (fun n c => n * 10 + (c.toNat - '0'.toNat)) 0
    let value := if negative then -magnitude else magnitude
    if Datum.fitsSigned bits value then some value else none

/-- A double from its text, or the reason it is not one. -/
def parseFloat (s : String) : Except String Float :=
  if s.isEmpty then .error "cannot parse float from empty string"
  else
    match Decimal.ofString? s with
    | some x => .ok x
    | none => .error "invalid float literal"

/-- The `number` filter: numbers stay, other values are read from their trimmed display, as an
integer if they can be and else as a double. -/
def number (v : Datum) : Outcome Datum :=
  match v with
  | .int _ | .float _ => .ok v
  | other =>
    let trimmed := Text.trim other.display
    match parseSigned? 64 trimmed with
    | some i => .ok (.int i)
    | none =>
      match parseFloat trimmed with
      | .ok x => .ok (.float x)
      | .error _ => fail .invalidOperation ("'" ++ trimmed ++ "' is not a number")

/-- Doubles in JSON text: positional while the leading digit's exponent is from -5 to 15, with an
exponent without a plus sign otherwise (`1e16`, `1e-7`). -/
def jsonLayout : Decimal.Layout := ⟨some (-5), some 16, false⟩

/-- The JSON text of a number. -/
def jsonNumber : Datum → String
  | .int i => toString i
  | .float x => if Decimal.isFinite x then Decimal.writeFloat jsonLayout x else "null"
  | _ => "null"

/-- The JSON text of a map key: strings, and numbers and constants written as strings. -/
def jsonKey (k : Datum) : Except String String :=
  match k with
  | .str s _ => .ok (Json.quote s)
  | .int i => .ok (Json.quote (toString i))
  | .bool b => .ok (Json.quote (if b then "true" else "false"))
  | .float x =>
    if Decimal.isFinite x then .ok (Json.quote (jsonNumber k))
    else .error "float key must be finite (got NaN or +/-inf)"
  | _ => .error "key must be a string"

/-- The JSON texts of the counters of a loop, the entries before its neighbouring items. -/
def loopCounters (index : Nat) (length : Option Nat) (depth : Nat) : List String :=
  ((Datum.loopEntries index length depth .none .none).filter fun e =>
      e.1 != "previtem" && e.1 != "nextitem").map fun (k, v) =>
    Json.quote k ++ ":" ++
      match v with
      | .bool b => if b then "true" else "false"
      | other => jsonNumber other

mutual
/-- The compact JSON text of a value; the undefined value is `null`. -/
def json : Datum → Except String String
  | .undefined _ | .none => .ok "null"
  | .bool b => .ok (if b then "true" else "false")
  | .int i => .ok (toString i)
  | .float x => .ok (jsonNumber (.float x))
  | .str s _ => .ok (Json.quote s)
  | .seq items | .iter items _ => do
    let parts ← jsonItems items
    .ok ("[" ++ ",".intercalate parts ++ "]")
  | .group g items => do
    let first ← json g
    let parts ← jsonItems items
    .ok ("[" ++ first ++ ",[" ++ ",".intercalate parts ++ "]]")
  | .map entries => do
    let parts ← jsonEntries entries
    .ok ("\x7b" ++ ",".intercalate parts ++ "\x7d")
  | .kwargs entries | .names _ entries => do
    let parts ← jsonNamed entries
    .ok ("\x7b" ++ ",".intercalate parts ++ "\x7d")
  | .loopState _ i n d p f => do
    let before ← json p
    let after ← json f
    .ok ("\x7b" ++ ",".intercalate (loopCounters i n d ++ ["\"previtem\":" ++ before,
      "\"nextitem\":" ++ after]) ++ "\x7d")
  | .callable _ name args caller =>
    .ok ("\x7b\"name\":" ++ Json.quote name ++ ",\"arguments\":[" ++
      ",".intercalate (args.map Json.quote) ++ "],\"caller\":" ++
      (if caller then "true" else "false") ++ "\x7d")
  | .builtin name => .ok (Json.quote (Datum.functionText name))

/-- The JSON texts of the items of a list. -/
def jsonItems : List Datum → Except String (List String)
  | [] => .ok []
  | v :: vs => do
    let first ← json v
    let rest ← jsonItems vs
    .ok (first :: rest)

/-- The JSON texts `key:value` of the entries of a map. -/
def jsonEntries : List (Datum × Datum) → Except String (List String)
  | [] => .ok []
  | (k, v) :: rest => do
    let key ← jsonKey k
    let value ← json v
    let others ← jsonEntries rest
    .ok ((key ++ ":" ++ value) :: others)

/-- The JSON texts `"name":value` of named entries. -/
def jsonNamed : List (String × Datum) → Except String (List String)
  | [] => .ok []
  | (k, v) :: rest => do
    let value ← json v
    let others ← jsonNamed rest
    .ok ((Json.quote k ++ ":" ++ value) :: others)
end

end Builtin

end PromptPipeline.Template
