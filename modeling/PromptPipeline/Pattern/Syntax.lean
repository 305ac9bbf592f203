import PromptPipeline.Text.Lines
/-!
The syntax of regular expressions, and their errors.

A pattern is read into a syntax tree (`Ast`): literals, `.`, assertions (`^`, `$`, `\b`, …),
Perl classes (`\d`, `\s`, `\w`), Unicode classes (`\p{Greek}`), bracketed classes with ranges,
nested classes and the set operations `&&`, `--` and `~~`, repetitions, groups (capturing, named,
or not capturing with flags), flag settings `(?i)`, concatenations and alternations.

Places in the pattern are character positions; a `Span` runs from one to another. An error names
its kind and one span, sometimes a second one (where a duplicated name or flag first appeared).
Its text quotes the pattern and marks the spans with carets under it:

    regex parse error:
        (?P<a>x)(?P<a>y)
            ^       ^
    error: duplicate capture group name

A pattern of several lines gets line numbers and rulers instead.
-/
namespace PromptPipeline.Pattern

/-- A stretch of a pattern, by character positions. -/
structure Span where
  start : Nat
  stop : Nat
  deriving BEq, Inhabited, Repr

/-- The flags a pattern can switch: `i`, `m`, `s`, `U`, `u`, `R` and `x`. -/
inductive Flag where
  | caseInsensitive
  | multiLine
  | dotAll
  | swapGreed
  | unicode
  | crlf
  | ignoreWhitespace
  deriving BEq, Inhabited, Repr

/-- One item of a flag group: a flag, or the `-` that turns the following flags off. -/
inductive FlagItem where
  | negation
  | flag (f : Flag)
  deriving BEq, Inhabited, Repr

/-- Whether a flag group turns a flag on (`some true`), off (`some false`), or leaves it. -/
def flagState (items : List FlagItem) (f : Flag) : Option Bool :=
  go items false
where
  /-- Walks the items, knowing whether a `-` came before. -/
  go : List FlagItem → Bool → Option Bool
    | [], _ => none
    | .negation :: rest, _ => go rest true
    | .flag g :: rest, negated => if g == f then some (!negated) else go rest negated

/-- The zero-width assertions. -/
inductive Assertion where
  | startLine | endLine | startText | endText
  | wordBoundary | notWordBoundary
  | wordStart | wordEnd | wordStartHalf | wordEndHalf
  deriving BEq, Inhabited, Repr

/-- The Perl classes `\d`, `\s` and `\w`. -/
inductive PerlClass where
  | digit | space | word
  deriving BEq, Inhabited, Repr

/-- How a Unicode class names its characters: `\pL`, `\p{Greek}`, `\p{sc=Greek}`. -/
inductive UnicodeQuery where
  | oneLetter (c : Char)
  | named (name : String)
  | namedValue (name value : String) (notEqual : Bool)
  deriving Inhabited, Repr

/-- The set operations of bracketed classes. -/
inductive SetOp where
  | intersection | difference | symmetricDifference
  deriving BEq, Inhabited, Repr

/-- A character as a pattern writes it: the character, the byte a two-digit `\x` escape gives
it, and its stretch. -/
structure Written where
  char : Char
  byte : Option Nat
  span : Span
  deriving Inhabited, Repr

mutual
/-- An item of a bracketed class, with its stretch of the pattern. -/
inductive ClassItem where
  | literal (c : Written)
  | range (lo hi : Written) (span : Span)
  | ascii (name : String) (negated : Bool) (span : Span)
  | perl (kind : PerlClass) (negated : Bool) (span : Span)
  | unicode (query : UnicodeQuery) (negated : Bool) (span : Span)
  | bracketed (negated : Bool) (set : ClassSet) (span : Span)

/-- The content of a bracketed class: a union of items, or a set operation. The stretch of a
union runs over its items (an empty one sits where its items would start); that of an operation
from its left side to its right. -/
inductive ClassSet where
  | union (items : List ClassItem) (span : Span)
  | op (kind : SetOp) (lhs rhs : ClassSet) (span : Span)
end

instance : Inhabited ClassSet := ⟨.union [] ⟨0, 0⟩⟩

/-- The stretch of a class item. -/
def ClassItem.span : ClassItem → Span
  | .literal c => c.span
  | .range _ _ s | .ascii _ _ s | .perl _ _ s | .unicode _ _ s | .bracketed _ _ s => s

/-- The stretch of a class set. -/
def ClassSet.span : ClassSet → Span
  | .union _ s | .op _ _ _ s => s

/-- What a group does with what it matches. -/
inductive GroupKind where
  /-- a capturing group, numbered from 1, perhaps named -/
  | capture (index : Nat) (name : Option String)
  /-- a group that does not capture, with flags for its content -/
  | plain (flags : List FlagItem)
  deriving Inhabited

/-- The syntax tree of a pattern. -/
inductive Ast where
  | empty
  /-- flags set for the rest of the enclosing group -/
  | flags (items : List FlagItem)
  /-- a character; `byte` is the value of a two-digit `\x` escape -/
  | literal (c : Char) (byte : Option Nat) (span : Span)
  | dot (span : Span)
  | assertion (kind : Assertion) (span : Span)
  | perl (kind : PerlClass) (negated : Bool) (span : Span)
  | unicode (query : UnicodeQuery) (negated : Bool) (span : Span)
  | bracketed (negated : Bool) (set : ClassSet) (span : Span)
  /-- a repetition, from its operand to the end of its operator -/
  | repetition (min : Nat) (max : Option Nat) (greedy : Bool) (sub : Ast) (span : Span)
  /-- a group, from its opening to its closing parenthesis -/
  | group (kind : GroupKind) (sub : Ast) (span : Span)
  /-- items in a row, over the stretch between the delimiters around them -/
  | concat (items : List Ast) (span : Span)
  /-- branches, from the start of the first to the end of the last -/
  | alternation (items : List Ast) (span : Span)
  deriving Inhabited

/-- The stretch of a tree; the empty tree and flag settings have none of interest. -/
def Ast.span : Ast → Span
  | .literal _ _ s | .dot s | .assertion _ s | .perl _ _ s | .unicode _ _ s | .bracketed _ _ s => s
  | .repetition _ _ _ _ s | .group _ _ s | .concat _ s | .alternation _ s => s
  | .empty | .flags _ => ⟨0, 0⟩

/-- The kinds of pattern errors. -/
inductive ErrorKind where
  | captureLimitExceeded
  | classEscapeInvalid
  | classRangeInvalid
  | classRangeLiteral
  | classUnclosed
  | decimalEmpty
  | decimalInvalid
  | escapeHexEmpty
  | escapeHexInvalid
  | escapeHexInvalidDigit
  | escapeUnexpectedEof
  | escapeUnrecognized
  | flagDanglingNegation
  | flagDuplicate
  | flagRepeatedNegation
  | flagUnexpectedEof
  | flagUnrecognized
  | groupNameDuplicate
  | groupNameEmpty
  | groupNameInvalid
  | groupNameUnexpectedEof
  | groupUnclosed
  | groupUnopened
  | nestLimitExceeded (limit : Nat)
  | repetitionCountInvalid
  | repetitionCountDecimalEmpty
  | repetitionCountUnclosed
  | repetitionMissing
  | specialWordBoundaryUnclosed
  | specialWordBoundaryUnrecognized
  | specialWordOrRepetitionUnexpectedEof
  | unicodeClassInvalid
  | unsupportedBackreference
  | unsupportedLookAround
  | unicodeNotAllowed
  | invalidUtf8
  | unicodePropertyNotFound
  | unicodePropertyValueNotFound
  deriving BEq, Inhabited, Repr

/-- The description of an error kind. -/
def ErrorKind.describe : ErrorKind → String
  | .captureLimitExceeded => "exceeded the maximum number of capturing groups (4294967295)"
  | .classEscapeInvalid => "invalid escape sequence found in character class"
  | .classRangeInvalid => "invalid character class range, the start must be <= the end"
  | .classRangeLiteral => "invalid range boundary, must be a literal"
  | .classUnclosed => "unclosed character class"
  | .decimalEmpty => "decimal literal empty"
  | .decimalInvalid => "decimal literal invalid"
  | .escapeHexEmpty => "hexadecimal literal empty"
  | .escapeHexInvalid => "hexadecimal literal is not a Unicode scalar value"
  | .escapeHexInvalidDigit => "invalid hexadecimal digit"
  | .escapeUnexpectedEof => "incomplete escape sequence, reached end of pattern prematurely"
  | .escapeUnrecognized => "unrecognized escape sequence"
  | .flagDanglingNegation => "dangling flag negation operator"
  | .flagDuplicate => "duplicate flag"
  | .flagRepeatedNegation => "flag negation operator repeated"
  | .flagUnexpectedEof => "expected flag but got end of regex"
  | .flagUnrecognized => "unrecognized flag"
  | .groupNameDuplicate => "duplicate capture group name"
  | .groupNameEmpty => "empty capture group name"
  | .groupNameInvalid => "invalid capture group character"
  | .groupNameUnexpectedEof => "unclosed capture group name"
  | .groupUnclosed => "unclosed group"
  | .groupUnopened => "unopened group"
  | .nestLimitExceeded n =>
    "exceed the maximum number of nested parentheses/brackets (" ++ toString n ++ ")"
  | .repetitionCountInvalid => "invalid repetition count range, the start must be <= the end"
  | .repetitionCountDecimalEmpty => "repetition quantifier expects a valid decimal"
  | .repetitionCountUnclosed => "unclosed counted repetition"
  | .repetitionMissing => "repetition operator missing expression"
  | .specialWordBoundaryUnclosed =>
    "special word boundary assertion is either unclosed or contains an invalid character"
  | .specialWordBoundaryUnrecognized =>
    "unrecognized special word boundary assertion, valid choices are: start, end, start-half or end-half"
  | .specialWordOrRepetitionUnexpectedEof =>
    "found either the beginning of a special word boundary or a bounded repetition on a \\b with an opening brace, but no closing brace"
  | .unicodeClassInvalid => "invalid Unicode character class"
  | .unsupportedBackreference => "backreferences are not supported"
  | .unsupportedLookAround =>
    "look-around, including look-ahead and look-behind, is not supported"
  | .unicodeNotAllowed => "Unicode not allowed here"
  | .invalidUtf8 => "pattern can match invalid UTF-8"
  | .unicodePropertyNotFound => "Unicode property not found"
  | .unicodePropertyValueNotFound => "Unicode property value not found"

/-- An error in a pattern: its kind, where, and where the thing it repeats first appeared. -/
structure PatternError where
  kind : ErrorKind
  span : Span
  aux : Option Span := none
  deriving Inhabited

/-- A position as line and column, both counted from 1, columns in characters. -/
structure LineColumn where
  line : Nat
  column : Nat
  deriving BEq, Repr

/-- The line and column of a character position. -/
def lineColumn (cs : List Char) (i : Nat) : LineColumn :=
  let before := cs.take i
  let line := 1 + before.count '\n'
  let lineStart := before.length - (before.reverse.takeWhile (· != '\n')).length
  ⟨line, 1 + (i - lineStart)⟩

/-- `n` copies of a character. -/
def repeatChar (c : Char) (n : Nat) : String := String.ofList (List.replicate n c)

/-- The caret line under one line of the pattern, for the spans on it (sorted by start). -/
def caretLine (padding : Nat) (spans : List (LineColumn × LineColumn)) : String :=
  let step (acc : String × Nat) (s : LineColumn × LineColumn) : String × Nat :=
    let (out, pos) := acc
    let gap := (s.1.column - 1) - pos
    let width := max 1 (s.2.column - s.1.column)
    (out ++ repeatChar ' ' gap ++ repeatChar '^' width, pos + gap + width)
  (spans.foldl step (repeatChar ' ' padding, 0)).1

/-- The text of a pattern error, quoting the pattern. -/
def PatternError.text (pattern : String) (e : PatternError) : String :=
  let cs := pattern.toList
  let lines := Text.lineChars cs
  let lineCount := lines.length + (if cs.getLast? == some '\n' then 1 else 0)
  let width := if lineCount ≤ 1 then 0 else (toString lineCount).length
  let spans := (e.span :: e.aux.toList).map fun s => (lineColumn cs s.start, lineColumn cs s.stop)
  let single := spans.filter fun s => s.1.line == s.2.line
  let multi := spans.filter fun s => s.1.line != s.2.line
  let sortSpans (l : List (LineColumn × LineColumn)) :=
    l.mergeSort fun a b => a.1.column < b.1.column ||
      (a.1.column == b.1.column && a.2.column ≤ b.2.column)
  let padding := if width == 0 then 4 else 2 + width
  let numbered (n : Nat) : String :=
    let s := toString n
    repeatChar ' ' (width - s.length) ++ s
  let notated := (lines.zipIdx.map fun (l, i) =>
    let lead := if width > 0 then numbered (i + 1) ++ ": " else "    "
    let onLine := sortSpans (single.filter fun s => s.1.line == i + 1)
    let carets := if onLine.isEmpty then "" else caretLine padding onLine ++ "\n"
    lead ++ String.ofList l ++ "\n" ++ carets)
  let body := String.join notated
  let what := "error: " ++ e.kind.describe
  if cs.contains '\n' then
    let ruler := repeatChar '~' 79
    let notes := (multi.mergeSort fun a b => a.1.line < b.1.line ||
      (a.1.line == b.1.line && a.1.column ≤ b.1.column)).map fun s =>
      "on line " ++ toString s.1.line ++ " (column " ++ toString s.1.column ++ ") through line " ++
        toString s.2.line ++ " (column " ++ toString (s.2.column - 1) ++ ")"
    let noteText := if notes.isEmpty then "" else "\n".intercalate notes ++ "\n"
    "regex parse error:\n" ++ ruler ++ "\n" ++ body ++ ruler ++ "\n" ++ noteText ++ what
  else
    "regex parse error:\n" ++ body ++ what

end PromptPipeline.Pattern
