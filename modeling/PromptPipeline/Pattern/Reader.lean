import PromptPipeline.Pattern.Nesting
import PromptPipeline.Text.Unicode
/-!
Reading a pattern into its syntax tree.

The reader walks the pattern once, left to right. Groups and alternations are kept on a stack: an
opening parenthesis saves the concatenation read so far, a `|` closes one branch, and a closing
parenthesis rebuilds the group. Bracketed classes have a stack of their own for nesting and for
the set operations, which group to the left. Under the `x` flag, white space and `#` comments
between the parts of a pattern are skipped.

Every loop is bounded by the length of the pattern, since each round reads at least one
character.
-/
namespace PromptPipeline.Pattern

/-- Where the reader is in a pattern, and what it has seen. -/
structure Reader where
  chars : Array Char
  pos : Nat
  ignoreSpace : Bool
  captures : Nat
  names : List (String × Span × Nat)

namespace Reader

/-- Whether every character has been read. -/
def eof (r : Reader) : Bool := r.pos ≥ r.chars.size

/-- The current character. -/
def cur (r : Reader) : Char := r.chars.getD r.pos '\x00'

/-- The character at a position. -/
def at? (r : Reader) (i : Nat) : Option Char := r.chars[i]?

/-- The position after the first line feed from `i` on, or the end. -/
def afterLine (r : Reader) (i : Nat) : Nat :=
  go i (r.chars.size - i)
where
  /-- Looks at most `fuel` characters ahead. -/
  go (j : Nat) : Nat → Nat
    | 0 => j
    | fuel + 1 =>
      match r.chars[j]? with
      | none => j
      | some c => if c == '\n' then j + 1 else go (j + 1) fuel

/-- The position after white space and comments from `i` on, under the `x` flag. -/
def skipFrom (r : Reader) (i : Nat) : Nat :=
  go i (r.chars.size - i + 1)
where
  /-- Skips at most `fuel` blanks and comments. -/
  go (j : Nat) : Nat → Nat
    | 0 => j
    | fuel + 1 =>
      match r.chars[j]? with
      | none => j
      | some c =>
        if Text.isBlank c then go (j + 1) fuel
        else if c == '#' then go (r.afterLine (j + 1)) fuel
        else j

/-- The character after the current one, skipping white space under the `x` flag; a first `#`
is skipped too, and then the first character that is not blank is it. -/
def peekSpace (r : Reader) : Option Char :=
  if !r.ignoreSpace then r.at? (r.pos + 1)
  else if r.eof then none
  else go (r.pos + 1) false (r.chars.size - r.pos)
where
  /-- Looks at most `fuel` characters ahead, knowing whether a `#` was passed. -/
  go (j : Nat) (inComment : Bool) : Nat → Option Char
    | 0 => r.at? (r.pos + 1)
    | fuel + 1 =>
      match r.chars[j]? with
      | none => r.at? (r.pos + 1)
      | some c =>
        if Text.isBlank c then go (j + 1) inComment fuel
        else if !inComment && c == '#' then go (j + 1) true fuel
        else some c

end Reader

/-- Reading that may fail with a pattern error. -/
abbrev ReadM := StateT Reader (Except PatternError)

namespace Read

/-- Fails with an error of a kind at a span. -/
def fail (kind : ErrorKind) (span : Span) : ReadM α := throw { kind, span }

/-- Fails with an error that also points at where the repeated thing first appeared. -/
def failTwice (kind : ErrorKind) (span aux : Span) : ReadM α :=
  throw { kind, span, aux := some aux }

/-- Whether every character has been read. -/
def isEof : ReadM Bool := do return (← get).eof

/-- The current character. -/
def char : ReadM Char := do return (← get).cur

/-- The current position. -/
def pos : ReadM Nat := do return (← get).pos

/-- The empty span at the current position. -/
def here : ReadM Span := do
  let p ← pos
  return ⟨p, p⟩

/-- The span of the current character. -/
def spanChar : ReadM Span := do
  let p ← pos
  return ⟨p, p + 1⟩

/-- Moves past the current character; whether a character follows. -/
def bump : ReadM Bool := do
  let r ← get
  if r.eof then return false
  set { r with pos := r.pos + 1 }
  return r.pos + 1 < r.chars.size

/-- Skips white space and comments under the `x` flag. -/
def bumpSpace : ReadM Unit :=
  modify fun r => if r.ignoreSpace then { r with pos := r.skipFrom r.pos } else r

/-- Moves past the current character and the blanks after it; whether a character follows. -/
def bumpAndSpace : ReadM Bool := do
  if !(← bump) then return false
  bumpSpace
  return !(← isEof)

/-- Moves past `s` when the pattern continues with it. -/
def bumpIf (s : String) : ReadM Bool := do
  let r ← get
  let cs := s.toList
  if (List.range cs.length).all (fun i => r.at? (r.pos + i) == cs[i]?) then
    set { r with pos := r.pos + cs.length }
    return true
  else return false

/-- The character after the current one. -/
def peek : ReadM (Option Char) := do
  let r ← get
  return r.at? (r.pos + 1)

/-- The number of the next capturing group. -/
def nextCapture (openSpan : Span) : ReadM Nat := do
  let r ← get
  if r.captures + 1 ≥ Nat.pow 2 32 then fail .captureLimitExceeded openSpan
  set { r with captures := r.captures + 1 }
  return r.captures + 1

/-- The characters from one position to another. -/
def slice (a b : Nat) : ReadM String := do
  let r ← get
  return String.ofList ((r.chars.toList.drop a).take (b - a))

/-- Whether a character may stand in a group name; the first one must be a letter or `_`. -/
def isCaptureChar (c : Char) (first : Bool) : Bool :=
  if first then c == '_' || Text.isAlphabetic c
  else c == '_' || c == '.' || c == '[' || c == ']' || Text.isAlphanumeric c

/-- Reads the characters of a group name up to `>` or the end; the position of the end. -/
def scanName (start : Nat) : Nat → ReadM Unit
  | 0 => pure ()
  | fuel + 1 => do
    if (← char) == '>' then return
    if !isCaptureChar (← char) ((← pos) == start) then fail .groupNameInvalid (← spanChar)
    if !(← bump) then return
    scanName start fuel

/-- Reads the name of a capturing group, after `(?P<` or `(?<`, and its closing `>`. -/
def captureName (index : Nat) : ReadM String := do
  if ← isEof then fail .groupNameUnexpectedEof (← here)
  let start ← pos
  scanName start ((← get).chars.size + 1)
  let stop ← pos
  if ← isEof then fail .groupNameUnexpectedEof (← here)
  let _ ← bump
  let name ← slice start stop
  if name.isEmpty then fail .groupNameEmpty ⟨start, start⟩
  let r ← get
  match r.names.find? (·.1 == name) with
  | some (_, original, _) => failTwice .groupNameDuplicate ⟨start, stop⟩ original
  | none =>
    set { r with names := r.names ++ [(name, (⟨start, stop⟩ : Span), index)] }
    return name

/-- The flag a letter names. -/
def flagOf (c : Char) : Option Flag :=
  match c with
  | 'i' => some .caseInsensitive
  | 'm' => some .multiLine
  | 's' => some .dotAll
  | 'U' => some .swapGreed
  | 'u' => some .unicode
  | 'R' => some .crlf
  | 'x' => some .ignoreWhitespace
  | _ => none

/-- Reads flag items up to `:` or `)`, each with its span; `negation` is the span of a `-` that
no flag has followed yet. -/
def flagItems (items : List (FlagItem × Span)) (negation : Option Span) :
    Nat → ReadM (List (FlagItem × Span) × Option Span)
  | 0 => return (items, negation)
  | fuel + 1 => do
    let c ← char
    if c == ':' || c == ')' then return (items, negation)
    let sc ← spanChar
    let (items, negation) ← if c == '-' then do
        match items.find? (·.1 == .negation) with
        | some (_, original) => failTwice .flagRepeatedNegation sc original
        | none => pure (items ++ [(.negation, sc)], some sc)
      else do
        match flagOf c with
        | none => fail .flagUnrecognized sc
        | some f =>
          match items.find? (·.1 == .flag f) with
          | some (_, original) => failTwice .flagDuplicate sc original
          | none => pure (items ++ [(.flag f, sc)], none)
    if !(← bump) then fail .flagUnexpectedEof (← here)
    flagItems items negation fuel

/-- Reads the flags of a group, up to its `:` or `)`. -/
def flags : ReadM (List FlagItem) := do
  let (items, negation) ← flagItems [] none ((← get).chars.size + 1)
  match negation with
  | some s => fail .flagDanglingNegation s
  | none => return items.map (·.1)

/-- Reads the opening of a group: flags set for the rest of the enclosing group, or a group
with its kind and the span of its parenthesis. -/
def group : ReadM (Sum (List FlagItem) (GroupKind × Span)) := do
  let openSpan ← spanChar
  let _ ← bump
  bumpSpace
  let ahead ← (do
    if ← bumpIf "?=" then return true
    if ← bumpIf "?!" then return true
    if ← bumpIf "?<=" then return true
    bumpIf "?<!")
  if ahead then fail .unsupportedLookAround ⟨openSpan.start, ← pos⟩
  let inner ← here
  let named ← (do
    if ← bumpIf "?P<" then return true
    bumpIf "?<")
  if named then
    let index ← nextCapture openSpan
    let name ← captureName index
    return .inr (.capture index (some name), openSpan)
  else if ← bumpIf "?" then
    if ← isEof then fail .groupUnclosed openSpan
    let items ← flags
    let close ← char
    let _ ← bump
    if close == ')' then
      if items.isEmpty then fail .repetitionMissing inner
      return .inl items
    else return .inr (.plain items, openSpan)
  else
    let index ← nextCapture openSpan
    return .inr (.capture index none, openSpan)

/-- Whether a character is a hexadecimal digit. -/
def isHex (c : Char) : Bool := c.isDigit || ('a' ≤ c && c ≤ 'f') || ('A' ≤ c && c ≤ 'F')

/-- Reads hexadecimal digits, skipping blanks under the `x` flag, up to `}`. -/
def hexBraceDigits (acc : List Char) : Nat → ReadM (List Char)
  | 0 => return acc
  | fuel + 1 => do
    if !(← bumpAndSpace) then return acc
    let c ← char
    if c == '}' then return acc
    if !isHex c then fail .escapeHexInvalidDigit (← spanChar)
    hexBraceDigits (acc ++ [c]) fuel

/-- The value of hexadecimal digits. -/
def hexValue (ds : List Char) : Nat :=
  ds.foldl (fun n c => n * 16 + (if c.isDigit then c.toNat - '0'.toNat
    else (c.toLower.toNat - 'a'.toNat) + 10)) 0

/-- Whether a number is a Unicode scalar value. -/
def isScalar (n : Nat) : Bool := n < 0xD800 || (0xDFFF < n && n ≤ 0x10FFFF)

/-- Reads exactly `count` hexadecimal digits; an escape that ends early is incomplete from
`start` to the end. -/
def hexFixedDigits (start : Nat) (acc : List Char) (first : Bool) :
    Nat → ReadM (List Char)
  | 0 => return acc
  | count + 1 => do
    if !first then
      if !(← bumpAndSpace) then fail .escapeUnexpectedEof ⟨start, ← pos⟩
    let c ← char
    if !isHex c then fail .escapeHexInvalidDigit (← spanChar)
    hexFixedDigits start (acc ++ [c]) false count

/-- Reads a hexadecimal escape after `\x`, `\u` or `\U`: the character and, for two digits
after `\x`, its byte value. -/
def hex (escapeStart : Nat) : ReadM (Char × Option Nat × Span) := do
  let letter ← char
  let width := if letter == 'x' then 2 else if letter == 'u' then 4 else 8
  if !(← bumpAndSpace) then fail .escapeUnexpectedEof (← here)
  if (← char) == '{' then
    let bracePos ← pos
    let start := bracePos + 1
    let ds ← hexBraceDigits [] ((← get).chars.size + 1)
    if ← isEof then fail .escapeUnexpectedEof ⟨bracePos, ← pos⟩
    let stop ← pos
    let _ ← bumpAndSpace
    if ds.isEmpty then fail .escapeHexEmpty ⟨bracePos, ← pos⟩
    let n := hexValue ds
    if !isScalar n then fail .escapeHexInvalid ⟨start, stop⟩
    return (Char.ofNat n, none, ⟨escapeStart, ← pos⟩)
  else
    let start ← pos
    let ds ← hexFixedDigits start [] true width
    let _ ← bumpAndSpace
    let stop ← pos
    let n := hexValue ds
    if !isScalar n then fail .escapeHexInvalid ⟨start, stop⟩
    let byte := if letter == 'x' && n ≤ 0xFF then some n else none
    return (Char.ofNat n, byte, ⟨escapeStart, stop⟩)

/-- Collects the characters of a `\p{…}` name up to `}`. -/
def braceName (acc : List Char) : Nat → ReadM (List Char)
  | 0 => return acc
  | fuel + 1 => do
    if !(← bumpAndSpace) then return acc
    let c ← char
    if c == '}' then return acc
    braceName (acc ++ [c]) fuel

/-- The position of a substring in a list of characters. -/
def indexOfSub (needle hay : List Char) : Option Nat :=
  go hay 0 (hay.length + 1)
where
  /-- Tries positions from `i` on. -/
  go (rest : List Char) (i : Nat) : Nat → Option Nat
    | 0 => none
    | fuel + 1 =>
      if needle.isPrefixOf rest then some i
      else match rest with
        | [] => none
        | _ :: more => go more (i + 1) fuel

/-- Reads a Unicode class after `\p` or `\P`. -/
def unicodeClass (escapeStart : Nat) : ReadM Ast := do
  let negated := (← char) == 'P'
  if !(← bumpAndSpace) then fail .escapeUnexpectedEof (← here)
  if (← char) == '{' then
    let name ← braceName [] ((← get).chars.size + 1)
    if ← isEof then fail .escapeUnexpectedEof (← here)
    let _ ← bump
    let span : Span := ⟨escapeStart, ← pos⟩
    let split (i k : Nat) : String × String :=
      (String.ofList (name.take i), String.ofList (name.drop (i + k)))
    let query := match indexOfSub ['!', '='] name with
      | some i => let (n, v) := split i 2; UnicodeQuery.namedValue n v true
      | none =>
        match name.idxOf? ':' with
        | some i => let (n, v) := split i 1; .namedValue n v false
        | none =>
          match name.idxOf? '=' with
          | some i => let (n, v) := split i 1; .namedValue n v false
          | none => .named (String.ofList name)
    return .unicode query negated span
  else
    let c ← char
    if c == '\\' then fail .unicodeClassInvalid (← spanChar)
    let _ ← bumpAndSpace
    return .unicode (.oneLetter c) negated ⟨escapeStart, ← pos⟩

/-- The characters that a backslash makes literal. -/
def isMeta (c : Char) : Bool := "\\.+*?()|[]{}^$#&-~".toList.contains c

/-- Whether a backslash before a character makes it literal without giving it a meaning. -/
def isEscapable (c : Char) : Bool :=
  isMeta c || (c.toNat < 128 && !c.isAlphanum && c != '<' && c != '>')

/-- The letters of the special word boundaries `\b{start}` and the like. -/
def isBoundaryChar (c : Char) : Bool := c.isAlpha || c == '-'

/-- Collects the letters of a special word boundary. -/
def boundaryName (acc : List Char) : Nat → ReadM (List Char)
  | 0 => return acc
  | fuel + 1 => do
    if (← isEof) || !isBoundaryChar (← char) then return acc
    let c ← char
    let _ ← bumpAndSpace
    boundaryName (acc ++ [c]) fuel

/-- After `\b`, reads `{start}`, `{end}`, `{start-half}` or `{end-half}`; leaves a `{` that
starts something else, such as a counted repetition, unread. -/
def specialBoundary (escapeStart : Nat) : ReadM (Option Assertion) := do
  let start ← pos
  if !(← bumpAndSpace) then fail .specialWordOrRepetitionUnexpectedEof ⟨escapeStart, ← pos⟩
  let contentStart ← pos
  if !isBoundaryChar (← char) then
    modify fun r => { r with pos := start }
    return none
  let name ← boundaryName [] ((← get).chars.size + 1)
  if (← isEof) || (← char) != '}' then fail .specialWordBoundaryUnclosed ⟨start, ← pos⟩
  let stop ← pos
  let _ ← bump
  match String.ofList name with
  | "start" => return some .wordStart
  | "end" => return some .wordEnd
  | "start-half" => return some .wordStartHalf
  | "end-half" => return some .wordEndHalf
  | _ => fail .specialWordBoundaryUnrecognized ⟨contentStart, stop⟩

/-- Reads an escape sequence, from its backslash. -/
def escape : ReadM Ast := do
  let start ← pos
  if !(← bump) then fail .escapeUnexpectedEof ⟨start, ← pos⟩
  let c ← char
  if c.isDigit then fail .unsupportedBackreference ⟨start, (← pos) + 1⟩
  if c == 'x' || c == 'u' || c == 'U' then
    let (ch, byte, span) ← hex start
    return .literal ch byte span
  if c == 'p' || c == 'P' then return ← unicodeClass start
  if "dswDSW".toList.contains c then
    let _ ← bump
    let kind := if c == 'd' || c == 'D' then PerlClass.digit
      else if c == 's' || c == 'S' then .space else .word
    return .perl kind c.isUpper ⟨start, ← pos⟩
  let _ ← bump
  let span : Span := ⟨start, ← pos⟩
  if isEscapable c then return .literal c none span
  match c with
  | 'a' => return .literal '\x07' none span
  | 'f' => return .literal '\x0C' none span
  | 't' => return .literal '\t' none span
  | 'n' => return .literal '\n' none span
  | 'r' => return .literal '\r' none span
  | 'v' => return .literal '\x0B' none span
  | 'A' => return .assertion .startText span
  | 'z' => return .assertion .endText span
  | 'b' =>
    if !(← isEof) && (← char) == '{' then
      match ← specialBoundary start with
      | some kind => return .assertion kind ⟨start, ← pos⟩
      | none => return .assertion .wordBoundary span
    else return .assertion .wordBoundary span
  | 'B' => return .assertion .notWordBoundary span
  | '<' => return .assertion .wordStart span
  | '>' => return .assertion .wordEnd span
  | _ => fail .escapeUnrecognized span

/-- Reads one primitive outside classes: an escape, `.`, `^`, `$` or a literal character. -/
def primitive : ReadM Ast := do
  let c ← char
  let sc ← spanChar
  if c == '\\' then escape
  else
    let _ ← bump
    if c == '.' then return .dot sc
    else if c == '^' then return .assertion .startLine sc
    else if c == '$' then return .assertion .endLine sc
    else return .literal c none sc

/-- Skips blanks, moving past each one plainly or, with `viaSpace`, as `bumpAndSpace` does. -/
def skipBlanks (viaSpace : Bool) : Nat → ReadM Unit
  | 0 => pure ()
  | fuel + 1 => do
    if (← isEof) || !Text.isBlank (← char) then return
    if viaSpace then
      let _ ← bumpAndSpace
    else
      let _ ← bump
    skipBlanks viaSpace fuel

/-- Collects decimal digits. -/
def digits (acc : List Char) : Nat → ReadM (List Char)
  | 0 => return acc
  | fuel + 1 => do
    if (← isEof) || !(← char).isDigit then return acc
    let c ← char
    let _ ← bumpAndSpace
    digits (acc ++ [c]) fuel

/-- Reads a decimal number, with blanks around it, for a counted repetition. -/
def decimal : ReadM Nat := do
  let size := (← get).chars.size + 1
  skipBlanks false size
  let start ← pos
  let ds ← digits [] size
  let span : Span := ⟨start, ← pos⟩
  skipBlanks true size
  if ds.isEmpty then fail .repetitionCountDecimalEmpty span
  let n := ds.foldl (fun n c => n * 10 + (c.toNat - '0'.toNat)) 0
  if n ≥ Nat.pow 2 32 then fail .decimalInvalid span
  return n

/-- The last item of a concatenation, which a repetition applies to. -/
def operand (concat : List Ast) : ReadM Ast := do
  match concat.getLast? with
  | none | some .empty | some (.flags _) => fail .repetitionMissing (← here)
  | some ast => return ast

/-- Applies `?`, `*` or `+` to the last item of a concatenation. -/
def uncounted (concat : List Ast) (min : Nat) (max : Option Nat) : ReadM (List Ast) := do
  let ast ← operand concat
  let mut greedy := true
  if (← bump) && (← char) == '?' then
    greedy := false
    let _ ← bump
  return concat.dropLast ++ [.repetition min max greedy ast ⟨ast.span.start, ← pos⟩]

/-- Applies a counted repetition `{n}`, `{n,}` or `{n,m}` to the last item of a concatenation. -/
def counted (concat : List Ast) : ReadM (List Ast) := do
  let start ← pos
  let ast ← operand concat
  if !(← bumpAndSpace) then fail .repetitionCountUnclosed ⟨start, ← pos⟩
  let low ← decimal
  if ← isEof then fail .repetitionCountUnclosed ⟨start, ← pos⟩
  let mut high : Option Nat := some low
  if (← char) == ',' then
    if !(← bumpAndSpace) then fail .repetitionCountUnclosed ⟨start, ← pos⟩
    if (← char) != '}' then
      let h ← decimal
      high := some h
    else high := none
  if (← isEof) || (← char) != '}' then fail .repetitionCountUnclosed ⟨start, ← pos⟩
  let mut greedy := true
  if (← bumpAndSpace) && (← char) == '?' then
    greedy := false
    let _ ← bump
  match high with
  | some h => if low > h then fail .repetitionCountInvalid ⟨start, ← pos⟩
  | none => pure ()
  return concat.dropLast ++ [.repetition low high greedy ast ⟨ast.span.start, ← pos⟩]

/-- The names of the ASCII classes `[:alpha:]` and the like. -/
def asciiNames : List String :=
  ["alnum", "alpha", "ascii", "blank", "cntrl", "digit", "graph", "lower", "print", "punct",
   "space", "upper", "word", "xdigit"]

/-- Reads an ASCII class `[:name:]` or `[:^name:]` at a `[`; leaves the `[` unread otherwise. -/
def asciiClass : ReadM (Option ClassItem) := do
  let r ← get
  let cs := r.chars.toList.drop (r.pos + 1)
  match cs with
  | ':' :: rest =>
    let (negated, body) := match rest with
      | '^' :: more => (true, more)
      | more => (false, more)
    let name := body.takeWhile (· != ':')
    let after := body.drop name.length
    let used := 2 + (if negated then 1 else 0) + name.length + 2
    if after.take 2 == [':', ']'] && asciiNames.contains (String.ofList name) then
      set { r with pos := r.pos + used }
      return some (.ascii (String.ofList name) negated ⟨r.pos, r.pos + used⟩)
    else return none
  | _ => return none

/-- What a bracketed class still has open: a class with the union around it (and where that
union started), or a set operation waiting for its right side. -/
inductive ClassFrame where
  | opened (parent : List ClassItem) (parentStart : Nat) (negated : Bool) (span : Span)
  | pending (kind : SetOp) (lhs : ClassSet)

/-- The error for a class that is never closed: at the innermost open bracket. -/
def unclosedClass (stack : List ClassFrame) : ReadM α :=
  match stack.find? (fun f => f matches .opened ..) with
  | some (.opened _ _ _ span) => fail .classUnclosed span
  | _ => fail .classUnclosed ⟨0, 0⟩

/-- A union of class items begun at `start`: it spans its items, or sits at `start` when it has
none. -/
def unionOf (items : List ClassItem) (start : Nat) : ClassSet :=
  match items.head?, items.getLast? with
  | some first, some last => .union items ⟨first.span.start, last.span.stop⟩
  | _, _ => .union items ⟨start, start⟩

/-- Completes a pending set operation with its right side. -/
def closeOp (rhs : ClassSet) : List ClassFrame → ClassSet × List ClassFrame
  | .pending kind lhs :: rest => (.op kind lhs rhs ⟨lhs.span.start, rhs.span.stop⟩, rest)
  | stack => (rhs, stack)

/-- Reads the `-` that open a class, literal there. -/
def dashes (start : Nat) (acc : List ClassItem) : Nat → ReadM (List ClassItem)
  | 0 => return acc
  | fuel + 1 => do
    if (← char) != '-' then return acc
    let sc ← spanChar
    if !(← bumpAndSpace) then fail .classUnclosed ⟨start, start⟩
    dashes start (acc ++ [.literal ⟨'-', none, sc⟩]) fuel

/-- Reads the opening of a bracketed class: `[`, an optional `^`, and leading `-` or `]`, which
are literal there. Also where the union of its items starts. -/
def classOpen : ReadM (Bool × Span × List ClassItem × Nat) := do
  let start ← pos
  if !(← bumpAndSpace) then fail .classUnclosed ⟨start, ← pos⟩
  let mut negated := false
  if (← char) == '^' then
    negated := true
    if !(← bumpAndSpace) then fail .classUnclosed ⟨start, ← pos⟩
  let unionStart ← pos
  let mut items ← dashes start [] ((← get).chars.size + 1)
  if items.isEmpty && (← char) == ']' then
    items := [.literal ⟨']', none, ← spanChar⟩]
    if !(← bumpAndSpace) then fail .classUnclosed ⟨start, ← pos⟩
  return (negated, ⟨start, ← pos⟩, items, unionStart)

/-- A primitive inside a class, as a class item. -/
def asItem (a : Ast) : ReadM ClassItem :=
  match a with
  | .literal c byte span => return .literal ⟨c, byte, span⟩
  | .perl kind negated span => return .perl kind negated span
  | .unicode q negated span => return .unicode q negated span
  | .dot span | .assertion _ span => fail .classEscapeInvalid span
  | _ => fail .classEscapeInvalid ⟨0, 0⟩

/-- A primitive inside a class as the bound of a range: it must be a literal. -/
def asBound (a : Ast) : ReadM Written :=
  match a with
  | .literal c byte span => return ⟨c, byte, span⟩
  | other => fail .classRangeLiteral other.span

/-- Reads one item of a class: an escape or a literal character. -/
def classPrimitive : ReadM Ast := do
  if (← char) == '\\' then escape
  else
    let c ← char
    let sc ← spanChar
    let _ ← bump
    return .literal c none sc

/-- Reads an item of a class, or a range `a-z` of two of them. -/
def classRange (stack : List ClassFrame) : ReadM ClassItem := do
  let first ← classPrimitive
  bumpSpace
  if ← isEof then unclosedClass stack
  let next := (← get).peekSpace
  if (← char) != '-' || next == some ']' || next == some '-' then return ← asItem first
  if !(← bumpAndSpace) then unclosedClass stack
  let second ← classPrimitive
  let lo ← asBound first
  let hi ← asBound second
  let span : Span := ⟨first.span.start, second.span.stop⟩
  if lo.char > hi.char then fail .classRangeInvalid span
  return .range lo hi span

/-- Reads a bracketed class from its `[`, nested classes and set operations included. The union
being read started at `start`. -/
def bracketed : Nat → List ClassItem → Nat → List ClassFrame → ReadM Ast
  | 0, _, _, stack => unclosedClass stack
  | fuel + 1, union, start, stack => do
    bumpSpace
    if ← isEof then unclosedClass stack
    let c ← char
    let pair := (← peek) == some c
    if c == '[' then
      if !stack.isEmpty then
        if let some item ← asciiClass then
          return ← bracketed fuel (union ++ [item]) start stack
      let (negated, span, items, itemsStart) ← classOpen
      bracketed fuel items itemsStart (.opened union start negated span :: stack)
    else if c == ']' then
      let (set, rest) := closeOp (unionOf union start) stack
      match rest with
      | .opened parent parentStart negated span :: outer =>
        let _ ← bump
        let full : Span := ⟨span.start, ← pos⟩
        if outer.isEmpty then return .bracketed negated set full
        else bracketed fuel (parent ++ [.bracketed negated set full]) parentStart outer
      | _ => unclosedClass stack
    else if pair && (c == '&' || c == '-' || c == '~') then
      let _ ← bump
      let _ ← bump
      let kind := if c == '&' then SetOp.intersection
        else if c == '-' then .difference else .symmetricDifference
      let (lhs, rest) := closeOp (unionOf union start) stack
      bracketed fuel [] (← pos) (.pending kind lhs :: rest)
    else
      let item ← classRange stack
      bracketed fuel (union ++ [item]) start stack

/-- A concatenation as one tree. -/
def concatAst (items : List Ast) (span : Span) : Ast :=
  match items with
  | [] => .empty
  | [a] => a
  | items => .concat items span

/-- What the reader has open: a group with the concatenation before it (and where that began),
or the branches of an alternation read so far and where the first began. -/
inductive GroupFrame where
  | opened (before : List Ast) (beforeStart : Nat) (kind : GroupKind) (span : Span)
      (oldIgnore : Bool)
  | branches (alts : List Ast) (start : Nat)

/-- Opens a group, or applies a flag setting to the rest of the enclosing group; the new
concatenation and where it begins. -/
def pushGroup (stack : List GroupFrame) (concat : List Ast) (start : Nat) :
    ReadM (List GroupFrame × List Ast × Nat) := do
  match ← group with
  | .inl items =>
    if let some v := flagState items .ignoreWhitespace then
      modify fun r => { r with ignoreSpace := v }
    return (stack, concat ++ [.flags items], start)
  | .inr (kind, span) =>
    let old := (← get).ignoreSpace
    let new := match kind with
      | .plain items => (flagState items .ignoreWhitespace).getD old
      | _ => old
    modify fun r => { r with ignoreSpace := new }
    return (.opened concat start kind span old :: stack, [], ← pos)

/-- Closes the innermost group at a `)`. -/
def popGroup (stack : List GroupFrame) (concat : List Ast) (start : Nat) :
    ReadM (List GroupFrame × List Ast × Nat) := do
  let sc ← spanChar
  let (before, beforeStart, kind, openSpan, old, branches, rest) ← match stack with
    | .opened before bs kind sp old :: rest => pure (before, bs, kind, sp, old, none, rest)
    | .branches alts altStart :: .opened before bs kind sp old :: rest =>
      pure (before, bs, kind, sp, old, some (alts, altStart), rest)
    | _ => fail .groupUnopened sc
  modify fun r => { r with ignoreSpace := old }
  let close ← pos
  let _ ← bump
  let last := concatAst concat ⟨start, close⟩
  let inner := match branches with
    | some (alts, altStart) => Ast.alternation (alts ++ [last]) ⟨altStart, close⟩
    | none => last
  return (rest, before ++ [.group kind inner ⟨openSpan.start, ← pos⟩], beforeStart)

/-- Ends a branch of an alternation at a `|`. -/
def pushBranch (stack : List GroupFrame) (concat : List Ast) (start : Nat) :
    ReadM (List GroupFrame × List Ast × Nat) := do
  let here ← pos
  let _ ← bump
  let branch := concatAst concat ⟨start, here⟩
  match stack with
  | .branches alts altStart :: rest =>
    return (.branches (alts ++ [branch]) altStart :: rest, [], ← pos)
  | _ => return (.branches [branch] start :: stack, [], ← pos)

/-- Ends the pattern: every group must be closed. -/
def finish (stack : List GroupFrame) (concat : List Ast) (start : Nat) : ReadM Ast := do
  let last := concatAst concat ⟨start, ← pos⟩
  match stack with
  | [] => return last
  | [.branches alts altStart] => return .alternation (alts ++ [last]) ⟨altStart, ← pos⟩
  | .branches _ _ :: .opened _ _ _ span _ :: _ => fail .groupUnclosed span
  | .opened _ _ _ span _ :: _ => fail .groupUnclosed span
  | _ => return last

/-- Reads the pattern, one part per round; the concatenation being read began at `start`. -/
def parts : Nat → List GroupFrame → List Ast → Nat → ReadM Ast
  | 0, stack, concat, start => finish stack concat start
  | fuel + 1, stack, concat, start => do
    bumpSpace
    if ← isEof then return ← finish stack concat start
    match ← char with
    | '(' =>
      let (stack, concat, start) ← pushGroup stack concat start
      parts fuel stack concat start
    | ')' =>
      let (stack, concat, start) ← popGroup stack concat start
      parts fuel stack concat start
    | '|' =>
      let (stack, concat, start) ← pushBranch stack concat start
      parts fuel stack concat start
    | '[' =>
      let cls ← bracketed ((← get).chars.size + 1) [] (← pos) []
      parts fuel stack (concat ++ [cls]) start
    | '?' => parts fuel stack (← uncounted concat 0 (some 1)) start
    | '*' => parts fuel stack (← uncounted concat 0 none) start
    | '+' => parts fuel stack (← uncounted concat 1 none) start
    | '{' => parts fuel stack (← counted concat) start
    | _ => parts fuel stack (concat ++ [← primitive]) start

end Read

/-- A pattern read into its syntax tree, with its number of capturing groups and the names of
the named ones with their numbers, in the order they open. -/
structure Parsed where
  ast : Ast
  groups : Nat
  names : List (Nat × String)

/-- Reads a pattern. -/
def parse (pattern : String) : Except PatternError Parsed :=
  let chars := pattern.toList.toArray
  let start : Reader := ⟨chars, 0, false, 0, []⟩
  match (Read.parts (chars.size + 1) [] [] 0).run start with
  | .ok (ast, r) => do
    ast.checkNesting
    .ok ⟨ast, r.captures, r.names.map fun (n, _, i) => (i, n)⟩
  | .error e => .error e

end PromptPipeline.Pattern
