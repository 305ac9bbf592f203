import PromptPipeline.Text.Unicode
import PromptPipeline.Decimal.Nearest
/-!
Tokens of the expression language.

Blanks (Unicode white space) separate tokens and are dropped. A number is a run of ASCII digits
with at most one point, taken only when a digit follows it, so that `items.0` reads as an access.
A string is quoted with `'` or `"`; a backslash makes `n` a line feed, `t` a tab and any other
character itself. A name starts with a letter or `_` and goes on with letters, digits and `_`.
Every other token is a symbol, the first of `symbols` that the text starts with. Offsets are byte
offsets into the source.
-/
namespace PromptPipeline

/-- A token of an expression. -/
inductive Token where
  | number (value : Float)
  | str (value : String)
  | ident (name : String)
  | sym (text : String)

/-- Why an expression could not be read. -/
inductive SyntaxFault where
  | unexpectedChar (c : Char)
  | unterminatedString
  | expected (sym : String)
  | expectedField
  | unexpectedKeyword (word : String)
  | expectedKey
  | unexpectedSymbol (sym : String)
  | unexpectedEnd
  | trailingInput
  deriving DecidableEq, Repr

/-- The words for a fault. -/
def SyntaxFault.text : SyntaxFault → String
  | .unexpectedChar c => s!"unexpected character '{c}'"
  | .unterminatedString => "unterminated string"
  | .expected sym => s!"expected '{sym}'"
  | .expectedField => "expected field name after '.'"
  | .unexpectedKeyword word => s!"unexpected keyword '{word}'"
  | .expectedKey => "expected map key"
  | .unexpectedSymbol sym => s!"unexpected '{sym}'"
  | .unexpectedEnd => "unexpected end of expression"
  | .trailingInput => "unexpected trailing input"

/-- A failure to read an expression, at a byte offset of its source. -/
structure SyntaxError where
  fault : SyntaxFault
  offset : Nat
  deriving DecidableEq, Repr

/-- The message of a failure: its cause and its offset. -/
def SyntaxError.message (e : SyntaxError) : String :=
  let what := e.fault.text
  s!"{what} at offset {e.offset}"

namespace Lexer

/-- The symbols, longer ones before their prefixes. -/
def symbols : List String :=
  ["==", "!=", "<=", ">=", "&&", "||", "(", ")", "[", "]", "\x7b", "\x7d", ",", ":", ".",
    "+", "-", "*", "/", "%", "<", ">", "!"]

/-- Bytes of a run of characters. -/
def byteSize (cs : List Char) : Nat := (cs.map Char.utf8Size).foldl (· + ·) 0

/-- Whether a character may go on a name. -/
def isNameChar (c : Char) : Bool := Text.isAlphanumeric c || c == '_'

/-- The body of a string after its opening quote, up to its closing quote: the text and what
follows the quote; `none` when the string is not closed. -/
def scanString (quote : Char) (cs : List Char) (acc : List Char) :
    Option (String × {r : List Char // r.length < cs.length}) :=
  match cs with
  | [] => none
  | ['\\'] => none
  | '\\' :: c :: more =>
    let c := if c == 'n' then '\n' else if c == 't' then '\t' else c
    (scanString quote more (c :: acc)).map fun (s, r) => (s, ⟨r.1, by have := r.2; simp only [List.length_cons]; omega⟩)
  | c :: more =>
    if c == quote then some (String.ofList acc.reverse, ⟨more, by simp only [List.length_cons]; omega⟩)
    else (scanString quote more (c :: acc)).map fun (s, r) => (s, ⟨r.1, by have := r.2; simp only [List.length_cons]; omega⟩)

/-- The digits and fraction of a number after its first digit, and what follows. -/
def scanNumber (first : Char) (more : List Char) :
    Float × {r : List Char // r.length ≤ more.length} :=
  let whole := first :: more.takeWhile Char.isDigit
  let rest := more.dropWhile Char.isDigit
  have hr : rest.length ≤ more.length := (List.dropWhile_suffix _).length_le
  match rest with
  | '.' :: d :: after =>
    if d.isDigit then
      let fraction := d :: after.takeWhile Char.isDigit
      let tail := after.dropWhile Char.isDigit
      have ht : tail.length ≤ after.length := (List.dropWhile_suffix _).length_le
      (Decimal.nearest false (Decimal.digitsValue (whole ++ fraction)) (-(fraction.length : Int)),
        ⟨tail, by simp only [List.length_cons] at hr; omega⟩)
    else (Decimal.nearest false (Decimal.digitsValue whole) 0, ⟨'.' :: d :: after, hr⟩)
  | other => (Decimal.nearest false (Decimal.digitsValue whole) 0, ⟨other, hr⟩)

/-- The tokens of a text, each with the byte offset where it starts. -/
def tokenize (cs : List Char) (offset : Nat) : Except SyntaxError (List (Token × Nat)) :=
  match cs with
  | [] => .ok []
  | c :: more =>
    if Text.isBlank c then tokenize more (offset + c.utf8Size)
    else if c.isDigit then
      let (x, ⟨rest, _hrest⟩) := scanNumber c more
      (tokenize rest (offset + byteSize cs - byteSize rest)).map ((.number x, offset) :: ·)
    else if c == '\'' || c == '"' then
      match scanString c more [] with
      | none => .error ⟨.unterminatedString, offset⟩
      | some (s, ⟨rest, _hrest⟩) =>
        (tokenize rest (offset + byteSize cs - byteSize rest)).map ((.str s, offset) :: ·)
    else if Text.isAlphabetic c || c == '_' then
      let name := c :: more.takeWhile isNameChar
      have _hrest : (more.dropWhile isNameChar).length ≤ more.length :=
        (List.dropWhile_suffix _).length_le
      (tokenize (more.dropWhile isNameChar) (offset + byteSize name)).map
        ((.ident (String.ofList name), offset) :: ·)
    else
      match symbols.find? (fun s => (c :: more).take s.length == s.toList) with
      | none => .error ⟨.unexpectedChar c, offset⟩
      | some s =>
        (tokenize (more.drop (s.length - 1)) (offset + s.utf8ByteSize)).map
          ((.sym s, offset) :: ·)
termination_by cs.length
decreasing_by
  all_goals first
    | (simp_wf; omega)
    | simp_wf

end Lexer

end PromptPipeline
