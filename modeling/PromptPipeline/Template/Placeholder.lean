import PromptPipeline.Value
import PromptPipeline.Text.Unicode
/-!
Placeholders of prompt templates.

A prompt may write a placeholder with a type hint, `{{ name:type }}`; the hint only documents
the prompt, so `normalize` rewrites every such placeholder to `{{ name }}` before the template is
read. The name starts with an ASCII letter or `_` and goes on with letters, digits, `_` and `.`;
the type is an ASCII name; blanks (Unicode white space) may stand around each part. Everything
else is left as it is.

`variablePaths` lists the dotted variable paths that placeholders start with, in the order of
the text; `resolves` says whether such a path names a value of the bindings. They name the
variable of a failed lookup.
-/
namespace PromptPipeline.Template

/-- A letter of the ASCII alphabet or `_`: the first character of a name. -/
def isNameStart (c : Char) : Bool := c.isAlpha || c == '_'

/-- An ASCII letter, digit or `_`. -/
def isNameChar (c : Char) : Bool := c.isAlphanum || c == '_'

/-- Reads `{{ name : type }}` at the start of the text, giving the name and the number of
characters read. -/
def typedPlaceholder? (cs : List Char) : Option (List Char × Nat) :=
  match cs with
  | '{' :: '{' :: rest =>
    match rest.dropWhile Text.isBlank with
    | c :: more =>
      let pathChar (d : Char) : Bool := isNameChar d || d == '.'
      if isNameStart c then
        match (more.dropWhile pathChar).dropWhile Text.isBlank with
        | ':' :: rest =>
          match rest.dropWhile Text.isBlank with
          | t :: typeRest =>
            if isNameStart t then
              match (typeRest.dropWhile isNameChar).dropWhile Text.isBlank with
              | '}' :: '}' :: after => some (c :: more.takeWhile pathChar, cs.length - after.length)
              | _ => none
            else none
          | [] => none
        | _ => none
      else none
    | [] => none
  | _ => none

/-- Rewrites every `{{ name:type }}` of a text to `{{ name }}`. -/
def normalizeChars : List Char → List Char
  | [] => []
  | c :: more =>
    match typedPlaceholder? (c :: more) with
    | some (name, n) =>
      if n > 0 then "\x7b\x7b ".toList ++ name ++ " \x7d\x7d".toList ++ normalizeChars ((c :: more).drop n)
      else c :: normalizeChars more
    | none => c :: normalizeChars more
termination_by cs => cs.length
decreasing_by
  all_goals simp_wf
  all_goals omega

/-- The template with type hints removed from its placeholders. -/
def normalize (template : String) : String := String.ofList (normalizeChars template.toList)

/-- Dropping a prefix never lengthens a list. -/
theorem dropWhile_length_le (p : Char → Bool) : ∀ l : List Char, (l.dropWhile p).length ≤ l.length
  | [] => by simp
  | c :: cs => by
    simp only [List.dropWhile_cons]
    split
    · exact Nat.le_succ_of_le (dropWhile_length_le p cs)
    · exact Nat.le_refl _

/-- Reads a dotted path of names: a name, then `.name` as long as one follows. -/
def readPath : List Char → List Char
  | '.' :: c :: more =>
    if isNameStart c then '.' :: c :: more.takeWhile isNameChar ++ readPath (more.dropWhile isNameChar)
    else []
  | _ => []
termination_by cs => cs.length
decreasing_by
  simp_wf
  have := dropWhile_length_le isNameChar more
  omega

/-- The dotted paths that placeholders start with, in the order of the text. -/
def variablePaths : List Char → List String
  | [] => []
  | '{' :: '{' :: rest =>
    let tail := variablePaths ('{' :: rest)
    match rest.dropWhile Text.isBlank with
    | c :: more =>
      if isNameStart c then
        String.ofList (c :: more.takeWhile isNameChar ++ readPath (more.dropWhile isNameChar)) :: tail
      else tail
    | [] => tail
  | _ :: more => variablePaths more

/-- Whether a dotted path names a value: its first name is bound, and each further name is a key
of the map reached so far. -/
def resolves (bindings : Map) (path : String) : Bool :=
  match path.splitOn "." with
  | [] => false
  | root :: keys =>
    match Map.get? bindings root with
    | none => false
    | some v =>
      let step : Option Value → String → Option Value := fun
        | some (.map m), k => Map.get? m k
        | _, _ => none
      (keys.foldl step (some v)).isSome

/-- The first placeholder path of a template that names no value of the bindings. -/
def firstUnresolved (source : String) (bindings : Map) : Option String :=
  (variablePaths source.toList).find? (fun p => !resolves bindings p)

end PromptPipeline.Template
