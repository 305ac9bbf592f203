import PromptPipeline.Json.Read
import PromptPipeline.Text.Unicode
/-!
Finding a JSON object in a model's free text.

Models wrap the object they were asked for in prose or in fenced blocks. `extractObject` looks,
in this order, inside every block opened by a fence marked `json` (three backticks and `json`),
then inside every fenced block, then at the whole text, then at every span from a `{` to its
matching `}`; the first candidate that reads as a JSON object is the answer. A fenced block may
start with a tag line, which is skipped unless it already holds the object's `{`. An opened
block without a closing fence ends the search among fences of its kind.

Matching braces skips braces inside JSON strings, where a backslash escapes the next character.
-/
namespace PromptPipeline.Response

/-- The position of the first occurrence of `needle` in `hay`. -/
def findSub (needle : List Char) : List Char → Option Nat
  | [] => if needle.isEmpty then some 0 else none
  | c :: cs =>
    if needle.isPrefixOf (c :: cs) then some 0 else (findSub needle cs).map (· + 1)

/-- The object a text holds when it is exactly one JSON object. -/
def asObject (candidate : List Char) : Option Map :=
  match Json.read (Text.trim (String.ofList candidate)) with
  | .ok (.map m) => some m
  | _ => none

/-- The three backticks that open and close a fence. -/
def fence : List Char := ['`', '`', '`']

/-- The content of a fenced block: without its first line when that line is a tag. -/
def blockContent (inside : List Char) : List Char :=
  match inside.idxOf? '\n' with
  | some i =>
    let tag := inside.take i
    if (tag.dropWhile Text.isBlank).head? == some '{' then inside else inside.drop (i + 1)
  | none => inside

/-- The first object inside blocks opened by `opener` and closed by a fence, looking at no more
than `fuel` blocks. -/
def fenced (opener : List Char) : Nat → List Char → Option Map
  | 0, _ => none
  | fuel + 1, rest =>
    match findSub opener rest with
    | none => none
    | some start =>
      let body := rest.drop (start + opener.length)
      match findSub fence body with
      | none => none
      | some stop =>
        match asObject (blockContent (body.take stop)) with
        | some m => some m
        | none => fenced opener fuel (body.drop (stop + 3))

/-- The text from its first character, a `{`, to the matching `}`, if there is one. -/
def matchingBrace (text : List Char) : Option (List Char) :=
  go text 0 0 false false
where
  /-- Scans from position `i` at brace depth `depth`, knowing whether the scan is inside a
  string and whether the previous character escapes this one. -/
  go : List Char → Nat → Nat → Bool → Bool → Option (List Char)
    | [], _, _, _, _ => none
    | c :: cs, i, depth, inString, escaped =>
      if escaped then go cs (i + 1) depth inString false
      else if c == '\\' && inString then go cs (i + 1) depth inString true
      else if c == '"' then go cs (i + 1) depth (!inString) false
      else if c == '{' && !inString then go cs (i + 1) (depth + 1) inString false
      else if c == '}' && !inString then
        if depth - 1 == 0 then some (text.take (i + 1)) else go cs (i + 1) (depth - 1) inString false
      else go cs (i + 1) depth inString false

/-- The first object spanning from some `{` to its matching `}`. -/
def balancedObject : List Char → Option Map
  | [] => none
  | c :: cs =>
    let here := if c == '{' then (matchingBrace (c :: cs)).bind asObject else none
    match here with
    | some m => some m
    | none => balancedObject cs

/-- The JSON object a model's text holds, looked for in fenced blocks, the whole text, and
balanced braces, in that order. -/
def extractObject (text : String) : Option Map :=
  let cs := text.toList
  let fuel := cs.length + 1
  (fenced "```json".toList fuel cs).orElse fun _ =>
  (fenced fence fuel cs).orElse fun _ =>
  (asObject cs).orElse fun _ =>
  balancedObject cs

end PromptPipeline.Response
