import PromptPipeline.Template.Error
import PromptPipeline.Template.Placeholder
import PromptPipeline.Decimal.Nearest
/-!
Tokens of templates.

Outside tags a template is text. `{{` opens an expression to be written, closed by `}}`; `{%`
opens a statement, closed by `%}`; `{#` opens a comment, closed by `#}`. A `-` just inside a tag's
delimiter trims the blanks of the text on that side. `{% raw %}` … `{% endraw %}` passes its
contents on as text. One line break at the very end of the template is dropped.

Inside tags, ASCII blanks separate tokens: names (ASCII letters, digits and `_`), strings in
single or double quotes with backslash escapes, integers (decimal, or with a `0b`, `0o` or `0x`
prefix) and doubles (with a point not followed by a name, or an exponent), `_` allowed between
digits, and operators. A tag ends at its closing delimiter only where its brackets are balanced, so that
`{{ {'a': {'b': 1}} }}` is one expression.

`tokenize` gives the tokens with the line each starts on, and the fault that stopped it, if any:
a template is read token by token, so a fault only matters once the reader gets that far.
-/
namespace PromptPipeline.Template

/-- A token of a template. -/
inductive Token where
  | data (text : String)
  | varStart
  | varEnd
  | blockStart
  | blockEnd
  | ident (name : String)
  | str (value : String)
  | int (value : Nat)
  | float (value : Float)
  | sym (text : String)

/-- How a token is named in messages. -/
def Token.describe : Token → String
  | .data _ => "template-data"
  | .varStart => "start of variable block"
  | .varEnd => "end of variable block"
  | .blockStart => "start of block"
  | .blockEnd => "end of block"
  | .ident _ => "identifier"
  | .str _ => "string"
  | .int _ => "integer"
  | .float _ => "float"
  | .sym s => "`" ++ s ++ "`"

/-- The tokens of a template with their lines, and the fault after the last of them. -/
structure Lexed where
  tokens : List (Token × Nat)
  fault : Option EngineError

namespace Lexer

/-- Where the lexer stands: in text, inside `{{ }}`, or inside `{% %}` with the count of
brackets opened and not yet closed. -/
inductive Mode where
  | text
  | variable (depth : Int)
  | block (depth : Int)

/-- What a start marker opens. -/
inductive Marker where
  | variable
  | block
  | comment

/-- Line breaks in a piece of text. -/
def newlines (cs : List Char) : Nat := cs.count '\n'

/-- The text without its trailing blanks. -/
def trimEnd (cs : List Char) : List Char := (cs.reverse.dropWhile Text.isBlank).reverse

/-- The text without its leading blanks. -/
def trimStart (cs : List Char) : List Char := cs.dropWhile Text.isBlank

/-- ASCII white space: space, tab, line feed, form feed and carriage return. -/
def isAsciiBlank (c : Char) : Bool :=
  c == ' ' || c == '\t' || c == '\n' || c.toNat == 12 || c == '\r'

/-- A start marker at the start of the text: what it opens, whether a `-` follows it, and its
length with the `-` or `+` that may follow. -/
def markerAt : List Char → Option (Marker × Bool × Nat)
  | '{' :: c :: rest =>
    let kind : Option Marker :=
      if c == '{' then some .variable else if c == '%' then some .block
      else if c == '#' then some .comment else none
    kind.map fun k =>
      match rest with
      | '-' :: _ => (k, true, 3)
      | '+' :: _ => (k, false, 3)
      | _ => (k, false, 2)
  | _ => none

/-- The position of the first start marker, or the length of the text. -/
def markerIndex : List Char → Nat
  | [] => 0
  | c :: rest => if (markerAt (c :: rest)).isSome then 0 else markerIndex rest + 1

/-- The position of the first occurrence of `a` followed by `b`. -/
def pairIndex (a b : Char) : List Char → Option Nat
  | [] => none
  | [_] => none
  | c :: d :: rest =>
    if c == a && d == b then some 0 else (pairIndex a b (d :: rest)).map (· + 1)

/-- Reads a tag made of one name, such as ` raw %}` after its `{%`: an optional `-` or `+` when
`control` holds, blanks, the name, blanks, an optional `-` or `+`, and `%}`. Gives the length read
and whether a `-` stood before `%}`. -/
def basicTag (name : String) (control : Bool) (cs : List Char) : Option (Nat × Bool) :=
  let cs1 := if control then (match cs with
    | '-' :: r => r
    | '+' :: r => r
    | r => r) else cs
  let cs2 := cs1.dropWhile isAsciiBlank
  if name.toList.isPrefixOf cs2 then
    let cs3 := (cs2.drop name.length).dropWhile isAsciiBlank
    let (remove, cs4) := match cs3 with
      | '-' :: r => (true, r)
      | '+' :: r => (false, r)
      | r => (false, r)
    match cs4 with
    | '%' :: '}' :: r => some (cs.length - r.length, remove)
    | _ => none
  else none

/-- The first `{% endraw %}` of a text: where its `{%` stands, where the tag ends, whether a `-`
follows its `{%`, and whether a `-` precedes its `%}`. -/
def endRaw : List Char → Option (Nat × Nat × Bool × Bool)
  | [] => none
  | c :: rest =>
    let here : Option (Nat × Nat × Bool × Bool) :=
      match c, rest with
      | '{', '%' :: after =>
        (basicTag "endraw" true after).map fun (n, remove) =>
          (0, 2 + n, after.head? == some '-', remove)
      | _, _ => none
    match here with
    | some r => some r
    | none => (endRaw rest).map fun (p, e, b, a) => (p + 1, e + 1, b, a)

/-- What the lexer does at its position. -/
inductive Action where
  /-- gives a token at a line, reads `count` characters and goes on in a mode, trimming the
  blanks that follow when `trim` holds -/
  | emit (tok : Token) (line count : Nat) (mode : Mode) (trim : Bool)
  /-- reads `count` characters without a token -/
  | skip (count : Nat) (mode : Mode) (trim : Bool)
  /-- stops with a fault -/
  | fail (e : EngineError)

/-- A syntax fault of the lexer. -/
def fault (detail : String) (line : Nat) : Action := .fail (.syntaxError detail line)

/-- The step in text: the text up to the next marker, or the marker itself. -/
def textStep (trim : Bool) (line : Nat) (cs : List Char) : Action :=
  let lead := if trim then (cs.takeWhile Text.isBlank).length else 0
  let body := cs.drop lead
  let here := line + newlines (cs.take lead)
  let endLine := line + newlines cs
  match body with
  | [] => .skip lead .text false
  | _ =>
    let i := markerIndex body
    if i > 0 then
      let chunk := body.take i
      let kept := match markerAt (body.drop i) with
        | some (_, true, _) => trimEnd chunk
        | _ => chunk
      if kept.isEmpty then .skip (lead + i) .text false
      else .emit (.data (String.ofList kept)) here (lead + i) .text false
    else
      match markerAt body with
      | some (.variable, _, len) => .emit .varStart here (lead + len) (.variable 0) false
      | some (.comment, _, len) =>
        let inner := body.drop len
        match pairIndex '#' '}' inner with
        | some j => .skip (lead + len + j + 2) .text ((inner.take j).getLast? == some '-')
        | none => fault "unexpected end of comment" endLine
      | some (.block, _, len) =>
        let afterStart := body.drop len
        match basicTag "raw" false afterStart with
        | some (tagLen, trimInside) =>
          let content := afterStart.drop tagLen
          let contentLine := here + newlines (body.take (len + tagLen))
          match endRaw content with
          | some (p, e, trimBefore, trimAfter) =>
            let raw := content.take p
            let raw := if trimInside then trimStart raw else raw
            let raw := if trimBefore then trimEnd raw else raw
            .emit (.data (String.ofList raw)) contentLine (lead + len + tagLen + e) .text trimAfter
          | none => fault "unexpected end of raw block" endLine
        | none => .emit .blockStart here (lead + len) (.block 0) false
      | none => .skip (lead + 1) .text false

/-- The operators of two characters. -/
def pairSymbols : List String := ["//", "**", "==", "!=", ">=", "<="]

/-- The operators of one character. -/
def singleSymbols : List Char :=
  ['+', '-', '*', '/', '%', '.', ',', ':', '~', '|', '=', '>', '<', '(', ')', '[', ']', '{', '}']

/-- The states of reading a number. -/
inductive NumberState where
  | radix
  | integer
  | fraction
  | exponent
  | exponentSign
  deriving DecidableEq

/-- Whether a point after decimal digits belongs to the number, given what follows the point: it
does unless a name follows, as in `users.0.name`; an exponent (`1.e5`, `2.E-1`) is no name. -/
def pointStartsFraction : List Char → Bool
  | c :: rest =>
    if c == 'e' || c == 'E' then
      match rest with
      | d :: _ :: _ => if d == '+' || d == '-' then (rest.drop 1).head?.any Char.isDigit
        else d.isDigit
      | [d] => d.isDigit
      | [] => false
    else !(c.isAlpha || c == '_')
  | [] => true

/-- Reads the rest of a number after its leading digits: the count of characters, the final
state, and whether a `_` occurred. -/
def numberTail (radix : Nat) : NumberState → List Char → Nat × NumberState × Bool
  | s, [] => (0, s, false)
  | s, c :: rest =>
    let hex := (c.toNat ≥ 'a'.toNat && c.toNat ≤ 'f'.toNat) || (c.toNat ≥ 'A'.toNat && c.toNat ≤ 'F'.toNat)
    let next : Option (NumberState × Bool) :=
      if c == '.' && s == .integer && pointStartsFraction rest then some (.fraction, false)
      else if (c == 'e' || c == 'E') && (s == .integer || s == .fraction) then some (.exponent, false)
      else if (c == '+' || c == '-') && s == .exponent then some (.exponentSign, false)
      else if c.isDigit && s == .exponent then some (.exponentSign, false)
      else if c.isDigit then some (s, false)
      else if s == .radix && radix == 16 && hex then some (s, false)
      else if c == '_' then some (s, true)
      else none
    match next with
    | none => (0, s, false)
    | some (s', u) =>
      let (n, last, u') := numberTail radix s' rest
      (n + 1, last, u || u')

/-- The value of a digit in a radix. -/
def digitValue (radix : Nat) (c : Char) : Option Nat :=
  let v := if c.isDigit then some (c.toNat - '0'.toNat)
    else if c.toNat ≥ 'a'.toNat && c.toNat ≤ 'z'.toNat then some (c.toNat - 'a'.toNat + 10)
    else if c.toNat ≥ 'A'.toNat && c.toNat ≤ 'Z'.toNat then some (c.toNat - 'A'.toNat + 10)
    else none
  v.bind fun d => if d < radix then some d else none

/-- The value of a run of digits in a radix; none when empty or with a foreign digit. -/
def digitsIn (radix : Nat) (cs : List Char) : Option Nat :=
  if cs.isEmpty then none
  else cs.foldlM (fun acc c => (digitValue radix c).map (acc * radix + ·)) 0

/-- Reads a number at the start of the text, giving the token and the characters read. -/
def number (cs : List Char) : Except String (Token × Nat) :=
  let (radix, skip) := match cs with
    | '0' :: c :: _ =>
      if c == 'b' || c == 'B' then (2, 2) else if c == 'o' || c == 'O' then (8, 2)
      else if c == 'x' || c == 'X' then (16, 2) else (10, 0)
    | _ => (10, 0)
  let body := cs.drop skip
  let leading := (body.takeWhile Char.isDigit).length
  let start := if radix == 10 then NumberState.integer else .radix
  let (more, state, underscore) := numberTail radix start (body.drop leading)
  let len := leading + more
  let text := body.take len
  if underscore && text.getLast? == some '_' then .error "'_' may not occur at end of number"
  else
    let text := text.filter (· != '_')
    if state == .integer || state == .radix then
      match digitsIn radix text with
      | some v =>
        if v < Nat.pow 2 128 then .ok (.int v, skip + len) else .error "invalid integer (too large)"
      | none => .error "invalid integer (too large)"
    else
      match Decimal.ofString? (String.ofList text) with
      | some x => .ok (.float x, skip + len)
      | none => .error "invalid float"

/-- The value of four hex digits. -/
def hex4 (a b c d : Char) : Option Nat :=
  digitsIn 16 [a, b, c, d]

/-- The value of an octal digit. -/
def octalDigit? (c : Char) : Option Nat :=
  if '0' ≤ c && c ≤ '7' then some (c.toNat - '0'.toNat) else none

/-- Resolves the backslash escapes of a string: `\"`, `\\`, `\/`, `\'`, `\b`, `\f`, `\n`, `\r`,
`\t`, `\u` with four hex digits (a surrogate pair as two of them), `\x` with two hex digits,
and up to three octal digits for a code below 256. A backslash before any other character stays
as it is. None for a malformed escape. -/
def unescape : List Char → Option (List Char)
  | [] => some []
  | '\\' :: 'u' :: a :: b :: c :: d :: rest =>
    match hex4 a b c d with
    | none => none
    | some v =>
      if v ≥ 0xD800 && v < 0xDC00 then
        match rest with
        | '\\' :: 'u' :: e :: f :: g :: h :: more =>
          match hex4 e f g h with
          | some w =>
            if w ≥ 0xDC00 && w < 0xE000 then
              (Char.ofNat (0x10000 + (v - 0xD800) * 1024 + (w - 0xDC00)) :: ·) <$> unescape more
            else none
          | none => none
        | _ => none
      else if v ≥ 0xDC00 && v < 0xE000 then none
      else (Char.ofNat v :: ·) <$> unescape rest
  | '\\' :: 'u' :: _ => none
  | '\\' :: 'x' :: a :: b :: rest =>
    match digitsIn 16 [a, b] with
    | some v => (Char.ofNat v :: ·) <$> unescape rest
    | none => none
  | '\\' :: 'x' :: _ => none
  | '\\' :: d :: rest =>
    match octalDigit? d with
    | some v0 =>
      let ds := (rest.take 2).takeWhile fun c => (octalDigit? c).isSome
      let v := ds.foldl (fun acc c => acc * 8 + (octalDigit? c).getD 0) v0
      if v < 256 then (Char.ofNat v :: ·) <$> unescape (rest.drop ds.length) else none
    | none =>
      let plain : Option Char :=
        if d == '"' || d == '\\' || d == '/' || d == '\'' then some d
        else if d == 'b' then some (Char.ofNat 8)
        else if d == 'f' then some (Char.ofNat 12)
        else if d == 'n' then some '\n'
        else if d == 'r' then some '\r'
        else if d == 't' then some '\t'
        else none
      match plain with
      | some e => (e :: ·) <$> unescape rest
      | none => ('\\' :: d :: ·) <$> unescape rest
  | c :: rest => (c :: ·) <$> unescape rest
termination_by cs => cs.length
decreasing_by all_goals (simp only [List.length_cons, List.length_drop]; omega)

/-- The characters of a quoted string after its opening quote, up to its closing quote, and
whether a backslash occurs; none when it does not end. -/
def quoted (delim : Char) : List Char → Option (List Char × Bool)
  | [] => none
  | '\\' :: [] => none
  | '\\' :: c :: rest => (quoted delim rest).map fun (s, _) => ('\\' :: c :: s, true)
  | c :: rest =>
    if c == delim then some ([], false)
    else (quoted delim rest).map fun (s, e) => (c :: s, e)

/-- A token inside a tag, at the start of `body`, a non-blank text; `lead` blanks were skipped
before it. -/
def tokenStep (mode : Mode) (line lead : Nat) (body : List Char) : Action :=
  let pair := String.ofList (body.take 2)
  match body with
  | [] => .skip lead mode false
  | c :: rest =>
    if pairSymbols.contains pair then .emit (.sym pair) line (lead + 2) mode false
    else if singleSymbols.contains c then
      let shift : Int := if c == '(' || c == '[' || c == '{' then 1
        else if c == ')' || c == ']' || c == '}' then -1 else 0
      let mode' := match mode with
        | .variable n => .variable (n + shift)
        | .block n => .block (n + shift)
        | .text => .text
      .emit (.sym c.toString) line (lead + 1) mode' false
    else if c == '\'' || c == '"' then
      match quoted c rest with
      | some (s, escaped) =>
        let count := lead + s.length + 2
        if escaped then
          match unescape s with
          | some u => .emit (.str (String.ofList u)) line count mode false
          | none => .fail { kind := .badEscape, line }
        else .emit (.str (String.ofList s)) line count mode false
      | none => fault "unexpected end of string" (line + newlines body)
    else if c.isDigit then
      match number body with
      | .ok (tok, n) => .emit tok line (lead + n) mode false
      | .error msg => fault msg line
    else if isNameStart c then
      let name := c :: rest.takeWhile isNameChar
      .emit (.ident (String.ofList name)) line (lead + name.length) mode false
    else fault "unexpected character" line

/-- The step inside a tag: ASCII blanks, then the end of the tag where no bracket is open, or a
token. -/
def tagStep (mode : Mode) (line : Nat) (cs : List Char) : Action :=
  let lead := (cs.takeWhile isAsciiBlank).length
  let body := cs.drop lead
  let here := line + newlines (cs.take lead)
  match mode, body with
  | _, [] => .skip lead mode false
  | .block 0, '-' :: '%' :: '}' :: _ => .emit .blockEnd here (lead + 3) .text true
  | .block 0, '+' :: '%' :: '}' :: _ => .emit .blockEnd here (lead + 3) .text false
  | .block 0, '%' :: '}' :: _ => .emit .blockEnd here (lead + 2) .text false
  | .variable 0, '-' :: '}' :: '}' :: _ => .emit .varEnd here (lead + 3) .text true
  | .variable 0, '}' :: '}' :: _ => .emit .varEnd here (lead + 2) .text false
  | _, _ => tokenStep mode here lead body

/-- Reads the rest of a template in a mode, at a line, after the tokens `acc` (last first). -/
def run (mode : Mode) (trim : Bool) (line : Nat) (acc : List (Token × Nat)) :
    List Char → Lexed
  | [] => ⟨acc.reverse, none⟩
  | c :: more =>
    let action := match mode with
      | .text => textStep trim line (c :: more)
      | m => tagStep m line (c :: more)
    match action with
    | .emit tok here n mode' trim' =>
      if 0 < n then
        run mode' trim' (line + newlines ((c :: more).take n)) ((tok, here) :: acc) ((c :: more).drop n)
      else ⟨acc.reverse, none⟩
    | .skip n mode' trim' =>
      if 0 < n then run mode' trim' (line + newlines ((c :: more).take n)) acc ((c :: more).drop n)
      else ⟨acc.reverse, none⟩
    | .fail e => ⟨acc.reverse, some e⟩
termination_by cs => cs.length
decreasing_by
  all_goals simp_wf
  all_goals omega

end Lexer

/-- The tokens of a template; one line break at its very end is dropped first. -/
def tokenize (source : String) : Lexed :=
  let cs := source.toList
  let cs := if cs.getLast? == some '\n' then cs.dropLast else cs
  let cs := if cs.getLast? == some '\r' then cs.dropLast else cs
  Lexer.run .text false 1 [] cs

end PromptPipeline.Template
