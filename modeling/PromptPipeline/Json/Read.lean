import PromptPipeline.Value
import PromptPipeline.Decimal.Nearest
/-!
Reading JSON text into a value.

The grammar is the strict one: blanks are space, tab, line feed and carriage return; strings
take the escapes `\" \\ \/ \b \f \n \r \t \uXXXX`, with a surrogate pair for characters beyond
the basic plane; no control character stands raw in a string; nesting goes at most 127 deep.
Of two entries with one key the later one stays.

A number without point or exponent is an integer when it fits: up to `2^64 - 1`, and down to
`-2^63` (`-0` is the double `-0.0`); beyond that it is a double. A number with a point or an
exponent is always a double, computed as the reader of this format does: the first digits that
fit in 64 bits are rounded to a double, which is then multiplied or divided by the double nearest
to the power of ten; an exponent that overflows is an error, one that underflows gives zero. This
is not always the double nearest to the text.

A failure names its cause and a position: the line, counted from 1, and the column, counted in
bytes from the start of that line. A fault found by looking at the next character is reported one
byte past the position where reading stopped.
-/
namespace PromptPipeline.Json

/-- Why JSON text could not be read. -/
inductive Fault where
  | eofInList | eofInObject | eofInString | eofInValue
  | expectedColon | expectedListCommaOrEnd | expectedObjectCommaOrEnd
  | expectedIdent | expectedValue
  | invalidEscape | invalidNumber | numberOutOfRange
  | controlCharacter | keyMustBeString | loneLeadingSurrogate
  | trailingComma | trailingCharacters | unexpectedEndOfHexEscape
  | recursionLimit
  deriving DecidableEq

/-- The words for a fault. -/
def Fault.text : Fault → String
  | .eofInList => "EOF while parsing a list"
  | .eofInObject => "EOF while parsing an object"
  | .eofInString => "EOF while parsing a string"
  | .eofInValue => "EOF while parsing a value"
  | .expectedColon => "expected `:`"
  | .expectedListCommaOrEnd => "expected `,` or `]`"
  | .expectedObjectCommaOrEnd => "expected `,` or `\x7d`"
  | .expectedIdent => "expected ident"
  | .expectedValue => "expected value"
  | .invalidEscape => "invalid escape"
  | .invalidNumber => "invalid number"
  | .numberOutOfRange => "number out of range"
  | .controlCharacter => "control character (\\u0000-\\u001F) found while parsing a string"
  | .keyMustBeString => "key must be a string"
  | .loneLeadingSurrogate => "lone leading surrogate in hex escape"
  | .trailingComma => "trailing comma"
  | .trailingCharacters => "trailing characters"
  | .unexpectedEndOfHexEscape => "unexpected end of hex escape"
  | .recursionLimit => "recursion limit exceeded"

/-- A failure to read JSON text, with its position. -/
structure ReadError where
  fault : Fault
  line : Nat
  column : Nat
  deriving DecidableEq

/-- The message of a failure: its cause, then its line and column. -/
def ReadError.message (e : ReadError) : String :=
  let what := e.fault.text
  s!"{what} at line {e.line} column {e.column}"

/-! ## Scanning tokens

Strings, numbers and words are scanned on the characters that follow their first character.
A scan says how many characters it consumed; a fault says where it stopped and whether it was
found by looking one character further. -/

/-- The outcome of scanning one token. -/
inductive Scan (α : Type) where
  | done (value : α) (used : Nat)
  | fault (f : Fault) (used : Nat) (peek : Bool)

/-- The same scan, counted from `k` characters earlier. -/
def Scan.shift {α : Type} (k : Nat) : Scan α → Scan α
  | .done v n => .done v (n + k)
  | .fault f n p => .fault f (n + k) p

/-- The value of an ASCII hex digit. -/
def hexValue? (c : Char) : Option Nat :=
  if c.isDigit then some (c.toNat - '0'.toNat)
  else if 'a' ≤ c && c ≤ 'f' then some (c.toNat - 'a'.toNat + 10)
  else if 'A' ≤ c && c ≤ 'F' then some (c.toNat - 'A'.toNat + 10)
  else none

/-- Four hex digits: their value; too little text left is the end of the string. -/
def scanHex4 (cs : List Char) : Scan Nat :=
  let four := cs.take 4
  if (four.map Char.utf8Size).foldl (· + ·) 0 < 4 then .fault .eofInString cs.length false
  else match four.mapM hexValue? with
    | some [a, b, c, d] => .done (((a * 16 + b) * 16 + c) * 16 + d) 4
    | _ => .fault .invalidEscape 4 false

/-- Whether a code unit is a trailing surrogate. -/
def isTrailingSurrogate (n : Nat) : Bool := 0xDC00 ≤ n && n ≤ 0xDFFF

/-- A `\u` escape after its `u`: one character of the basic plane, or a surrogate pair written
as two escapes. -/
def scanUnicode (cs : List Char) : Scan (List Char) :=
  match scanHex4 cs with
  | .fault f n p => .fault f n p
  | .done n _ =>
    if isTrailingSurrogate n then .fault .loneLeadingSurrogate 4 false
    else if n < 0xD800 || n > 0xDBFF then .done [Char.ofNat n] 4
    else match cs.drop 4 with
      | [] => .fault .eofInString 4 false
      | '\\' :: more =>
        match more with
        | [] => .fault .eofInString 5 false
        | 'u' :: hex =>
          match scanHex4 hex with
          | .fault f k p => .fault f (k + 6) p
          | .done low _ =>
            if isTrailingSurrogate low then
              .done [Char.ofNat ((n - 0xD800) * 0x400 + (low - 0xDC00) + 0x10000)] 10
            else .fault .loneLeadingSurrogate 10 false
        | _ :: _ => .fault .unexpectedEndOfHexEscape 6 false
      | _ :: _ => .fault .unexpectedEndOfHexEscape 5 false

/-- One escape after its backslash. -/
def scanEscape : List Char → Scan (List Char)
  | [] => .fault .eofInString 0 false
  | c :: more =>
    if c == '"' then .done ['"'] 1
    else if c == '\\' then .done ['\\'] 1
    else if c == '/' then .done ['/'] 1
    else if c == 'b' then .done [Char.ofNat 8] 1
    else if c == 'f' then .done [Char.ofNat 12] 1
    else if c == 'n' then .done ['\n'] 1
    else if c == 'r' then .done ['\r'] 1
    else if c == 't' then .done ['\t'] 1
    else if c == 'u' then (scanUnicode more).shift 1
    else .fault .invalidEscape 1 false

/-- The rest of a string after its opening quote, up to and with its closing quote; `acc` holds
the characters read so far in reverse and `n` counts what was consumed. -/
def scanChars (cs : List Char) (acc : List Char) (n : Nat) : Scan String :=
  match cs with
  | [] => .fault .eofInString n false
  | c :: more =>
    if c == '"' then .done (String.ofList acc.reverse) (n + 1)
    else if c == '\\' then
      match scanEscape more with
      | .done out k => scanChars (more.drop k) (out.reverse ++ acc) (n + 1 + k)
      | .fault f k p => .fault f (n + 1 + k) p
    else if c.toNat < 32 then .fault .controlCharacter (n + 1) false
    else scanChars more (c :: acc) (n + 1)
termination_by cs.length
decreasing_by all_goals first | omega | (simp only [List.length_drop, List.length_cons]; omega)

/-- The characters of a word such as `ull` after its first letter. -/
def scanWord (expected cs : List Char) : Scan Unit :=
  go expected cs 0
where
  go : List Char → List Char → Nat → Scan Unit
    | [], _, n => .done () n
    | _ :: _, [], n => .fault .eofInValue n false
    | e :: es, c :: cs, n => if e == c then go es cs (n + 1) else .fault .expectedIdent (n + 1) false

/-- The double nearest to `10^k`, for `k ≤ 308`. -/
def powerOfTen (k : Nat) : Float := Decimal.nearest false 1 k

/-- The largest value of a 64-bit unsigned word. -/
def wordMax : Nat := Nat.pow 2 64 - 1

/-- The largest value of a 32-bit signed word. -/
def exponentMax : Int := Int.pow 2 31 - 1

/-- Keeps an exponent in the range of a 32-bit signed word. -/
def clampExponent (e : Int) : Int := max (-(Int.pow 2 31)) (min exponentMax e)

/-- Divides by `10^308` until the power left is in the table, unless the value is already zero. -/
def scaleDown (f : Float) (exponent : Int) : Float :=
  if h : exponent < -308 then
    if f == 0.0 then f else scaleDown (f / powerOfTen 308) (exponent + 308)
  else f / powerOfTen exponent.natAbs
termination_by exponent.natAbs
decreasing_by omega

/-- The double of `significand · 10^exponent` as this format computes it: the significand is
rounded to a double and scaled by the double nearest to the power of ten. -/
def ofParts (positive : Bool) (significand : Nat) (exponent : Int) : Option Float :=
  let f := significand.toUInt64.toFloat
  let scaled : Option Float :=
    if exponent ≥ 0 then
      if exponent > 308 then (if f == 0.0 then some f else none)
      else
        let g := f * powerOfTen exponent.toNat
        if Decimal.isFinite g then some g else none
    else some (scaleDown f exponent)
  scaled.map fun g => if positive then g else -g

/-- The number of `significand · 10^exponent`, consumed `n` characters so far. -/
def finishFloat (positive : Bool) (significand : Nat) (exponent : Int) (n : Nat) :
    Scan Number :=
  match ofParts positive significand exponent with
  | some f => .done (.float f) n
  | none => .fault .numberOutOfRange n false

/-- Digits after an exponent overflowed the word: the value is zero unless it would be infinite. -/
def exponentOverflow (positive zeroSignificand positiveExp : Bool) (cs : List Char) (n : Nat) :
    Scan Number :=
  if !zeroSignificand && positiveExp then .fault .numberOutOfRange n false
  else .done (.float (if positive then 0.0 else -0.0)) (n + (cs.takeWhile Char.isDigit).length)

/-- Digits of an exponent after its first one. -/
def exponentDigits (positive : Bool) (significand : Nat) (start : Int) (positiveExp : Bool)
    (exp : Nat) : List Char → Nat → Scan Number
  | c :: more, n =>
    if c.isDigit then
      let d := c.toNat - '0'.toNat
      if exp * 10 + d > exponentMax.toNat then
        exponentOverflow positive (significand == 0) positiveExp more (n + 1)
      else exponentDigits positive significand start positiveExp (exp * 10 + d) more (n + 1)
    else
      let final := clampExponent (if positiveExp then start + exp else start - exp)
      finishFloat positive significand final n
  | [], n =>
    let final := clampExponent (if positiveExp then start + exp else start - exp)
    finishFloat positive significand final n

/-- An exponent after its `e`: an optional sign and at least one digit. -/
def scanExponent (positive : Bool) (significand : Nat) (start : Int) (cs : List Char)
    (n : Nat) : Scan Number :=
  let (positiveExp, cs, n) := match cs with
    | '+' :: more => (true, more, n + 1)
    | '-' :: more => (false, more, n + 1)
    | _ => (true, cs, n)
  match cs with
  | [] => .fault .eofInValue n false
  | c :: more =>
    if c.isDigit then exponentDigits positive significand start positiveExp (c.toNat - '0'.toNat) more (n + 1)
    else .fault .invalidNumber (n + 1) false

/-- After the digits that fit: an exponent, or the end of the number. -/
def afterSignificand (positive : Bool) (significand : Nat) (exponent : Int) :
    List Char → Nat → Scan Number
  | c :: more, n =>
    if c == 'e' || c == 'E' then scanExponent positive significand exponent more (n + 1)
    else finishFloat positive significand exponent n
  | [], n => finishFloat positive significand exponent n

/-- Digits after the point; `exponent` falls by one for each digit kept, and digits that no
longer fit are skipped. -/
def fractionDigits (positive : Bool) (significand : Nat) (exponent : Int) (kept : Nat) :
    List Char → Nat → Scan Number
  | c :: more, n =>
    if c.isDigit then
      let d := c.toNat - '0'.toNat
      if significand * 10 + d > wordMax then
        let skipped := (more.takeWhile Char.isDigit).length + 1
        afterSignificand positive significand exponent ((c :: more).drop skipped) (n + skipped)
      else fractionDigits positive (significand * 10 + d) (exponent - 1) (kept + 1) more (n + 1)
    else if kept == 0 then .fault .invalidNumber n true
    else afterSignificand positive significand exponent (c :: more) n
  | [], n =>
    if kept == 0 then .fault .eofInValue n true
    else finishFloat positive significand exponent n

/-- The end of a number without point or exponent. -/
def finishInteger (positive : Bool) (significand : Nat) (n : Nat) : Scan Number :=
  if positive then .done (.int significand) n
  else if significand == 0 then .done (.float (-0.0)) n
  else if significand ≤ Nat.pow 2 63 then .done (.int (-(significand : Int))) n
  else .done (.float (-significand.toUInt64.toFloat)) n

/-- After the integer digits: a point, an exponent, or the end of an integer. -/
def afterInteger (positive : Bool) (significand : Nat) : List Char → Nat → Scan Number
  | '.' :: more, n => fractionDigits positive significand 0 0 more (n + 1)
  | c :: more, n =>
    if c == 'e' || c == 'E' then scanExponent positive significand 0 more (n + 1)
    else finishInteger positive significand n
  | [], n => finishInteger positive significand n

/-- Integer digits beyond those that fit: each one raises the exponent. -/
def longDigits (positive : Bool) (significand : Nat) (exponent : Int) :
    List Char → Nat → Scan Number
  | c :: more, n =>
    if c.isDigit then longDigits positive significand (exponent + 1) more (n + 1)
    else if c == '.' then fractionDigits positive significand exponent 0 more (n + 1)
    else if c == 'e' || c == 'E' then scanExponent positive significand exponent more (n + 1)
    else finishFloat positive significand exponent n
  | [], n => finishFloat positive significand exponent n

/-- Integer digits after a first digit other than zero. -/
def integerDigits (positive : Bool) (significand : Nat) : List Char → Nat → Scan Number
  | c :: more, n =>
    if c.isDigit then
      let d := c.toNat - '0'.toNat
      if significand * 10 + d > wordMax then longDigits positive significand 0 (c :: more) n
      else integerDigits positive (significand * 10 + d) more (n + 1)
    else afterInteger positive significand (c :: more) n
  | [], n => afterInteger positive significand [] n

/-- A number after its first digit `c`; counts start after `c`. A leading zero stands alone. -/
def scanDigits (positive : Bool) (c : Char) (more : List Char) : Scan Number :=
  if c == '0' then
    match more with
    | d :: _ => if d.isDigit then .fault .invalidNumber 0 true else afterInteger positive 0 more 0
    | [] => afterInteger positive 0 [] 0
  else integerDigits positive (c.toNat - '0'.toNat) more 0

/-- A number after its minus sign. -/
def scanNumber (positive : Bool) : List Char → Scan Number
  | [] => .fault .eofInValue 0 false
  | c :: more =>
    if c.isDigit then (scanDigits positive c more).shift 1 else .fault .invalidNumber 1 false

/-! ## The reader

A cursor holds the text left and its position. Every reading step returns the cursor after what
it read, with strictly less text left, which is what ends the recursion. -/

/-- The text left to read and the position where it starts. -/
structure Cursor where
  rest : List Char
  line : Nat
  column : Nat

namespace Cursor

/-- The cursor at the start of a text. -/
def start (s : String) : Cursor := ⟨s.toList, 1, 0⟩

/-- The cursor after one character. -/
def past (c : Cursor) (ch : Char) (more : List Char) : Cursor :=
  if ch == '\n' then ⟨more, c.line + 1, 0⟩ else ⟨more, c.line, c.column + ch.utf8Size⟩

theorem past_rest (c : Cursor) (ch : Char) (more : List Char) : (c.past ch more).rest = more := by
  unfold past; split <;> rfl

/-- The cursor after `n` characters. -/
def skip (c : Cursor) : Nat → Cursor
  | 0 => c
  | n + 1 =>
    match c.rest with
    | [] => c
    | ch :: more => (c.past ch more).skip n

theorem skip_rest (c : Cursor) (n : Nat) : (c.skip n).rest = c.rest.drop n := by
  induction n generalizing c with
  | zero => rfl
  | succ n ih =>
    unfold skip
    split
    · next h => simp [h]
    · next ch more h => rw [ih, past_rest, h]; rfl

/-- A failure where reading stopped. -/
def fail (c : Cursor) (f : Fault) : ReadError := ⟨f, c.line, c.column⟩

/-- A failure found by looking at the next character: one byte further, or at the start of the
next line when that character ends a line. -/
def failAhead (c : Cursor) (f : Fault) : ReadError :=
  match c.rest with
  | [] => ⟨f, c.line, c.column⟩
  | ch :: _ => if ch == '\n' then ⟨f, c.line + 1, 0⟩ else ⟨f, c.line, c.column + 1⟩

/-- Skips blanks: space, tab, line feed and carriage return. -/
def skipBlanks (c : Cursor) : {d : Cursor // d.rest.length ≤ c.rest.length} :=
  match h : c.rest with
  | ch :: more =>
    if ch == ' ' || ch == '\n' || ch == '\t' || ch == '\r' then
      let d := skipBlanks (c.past ch more)
      ⟨d.1, by have := d.2; simp only [past_rest] at this; simp only [List.length_cons]; omega⟩
    else ⟨c, by simp [h]⟩
  | [] => ⟨c, by simp [h]⟩
termination_by c.rest.length
decreasing_by rw [past_rest, h]; simp

end Cursor

/-- A reading step: a result and the cursor after it, with less than `bound` characters left. -/
abbrev Step (α : Type) (bound : Nat) :=
  Except ReadError {r : α × Cursor // r.2.rest.length < bound}

/-- Finishes a token scanned after the character `ch` at the front of `c`. -/
def finishScan {α β : Type} (c : Cursor) (ch : Char) (more : List Char) (h : c.rest = ch :: more)
    (bound : Nat) (hb : c.rest.length ≤ bound) (wrap : α → β) : Scan α → Step β bound
  | .done v n =>
    .ok ⟨(wrap v, (c.past ch more).skip n), by
      rw [Cursor.skip_rest, Cursor.past_rest]; rw [h] at hb; simp only [List.length_cons, List.length_drop] at hb ⊢; omega⟩
  | .fault f n peek =>
    let stop := (c.past ch more).skip n
    .error (if peek then stop.failAhead f else stop.fail f)

/-- Nesting allowed for the top value, counting each list and map. -/
def depthLimit : Nat := 128

mutual

/-- A value after optional blanks. `budget` is the nesting still allowed. -/
def readValue (budget : Nat) (c0 : Cursor) : Step Value c0.rest.length :=
  let ⟨c, hc⟩ := c0.skipBlanks
  match h : c.rest with
  | [] => .error (c.failAhead .eofInValue)
  | ch :: more =>
    have hp : (c.past ch more).rest.length < c0.rest.length := by
      rw [Cursor.past_rest]; rw [h] at hc; simp only [List.length_cons] at hc; omega
    if ch == 'n' then finishScan c ch more h _ hc (fun _ => Value.null) (scanWord ['u', 'l', 'l'] more)
    else if ch == 't' then
      finishScan c ch more h _ hc (fun _ => Value.bool true) (scanWord ['r', 'u', 'e'] more)
    else if ch == 'f' then
      finishScan c ch more h _ hc (fun _ => Value.bool false) (scanWord ['a', 'l', 's', 'e'] more)
    else if ch == '-' then finishScan c ch more h _ hc Value.num (scanNumber false more)
    else if ch.isDigit then finishScan c ch more h _ hc Value.num (scanDigits true ch more)
    else if ch == '"' then finishScan c ch more h _ hc Value.str (scanChars more [] 0)
    else if ch == '[' then
      if budget ≤ 1 then .error (c.failAhead .recursionLimit)
      else
        match readItems (budget - 1) (c.past ch more) true [] with
        | .error e => .error e
        | .ok ⟨(items, d), hd⟩ => .ok ⟨(.list items, d), by dsimp only at hd ⊢; omega⟩
    else if ch == '\x7b' then
      if budget ≤ 1 then .error (c.failAhead .recursionLimit)
      else
        match readEntries (budget - 1) (c.past ch more) true [] with
        | .error e => .error e
        | .ok ⟨(entries, d), hd⟩ => .ok ⟨(.map entries, d), by dsimp only at hd ⊢; omega⟩
    else .error (c.failAhead .expectedValue)
termination_by 2 * c0.rest.length
decreasing_by all_goals omega

/-- Items of a list after its opening bracket, up to and with its closing bracket; `acc` holds
the items read so far in reverse. -/
def readItems (budget : Nat) (c0 : Cursor) (first : Bool) (acc : List Value) :
    Step (List Value) c0.rest.length :=
  let ⟨c, hc⟩ := c0.skipBlanks
  match h : c.rest with
  | [] => .error (c.failAhead .eofInList)
  | ch :: more =>
    have hp : (c.past ch more).rest.length < c0.rest.length := by
      rw [Cursor.past_rest]; rw [h] at hc; simp only [List.length_cons] at hc; omega
    if ch == ']' then .ok ⟨(acc.reverse, c.past ch more), hp⟩
    else if first then
      match readValue budget c with
      | .error e => .error e
      | .ok ⟨(v, d), hd⟩ =>
        have : d.rest.length < c0.rest.length := by dsimp only at hd; omega
        match readItems budget d false (v :: acc) with
        | .error e => .error e
        | .ok ⟨r, hr⟩ => .ok ⟨r, by omega⟩
    else if ch == ',' then
      let ⟨c2, h2⟩ := (c.past ch more).skipBlanks
      have hc2 : c2.rest.length < c0.rest.length := by omega
      match c2.rest with
      | [] => .error (c2.failAhead .eofInValue)
      | ']' :: _ => .error (c2.failAhead .trailingComma)
      | _ :: _ =>
        match readValue budget c2 with
        | .error e => .error e
        | .ok ⟨(v, d), hd⟩ =>
          have : d.rest.length < c0.rest.length := by dsimp only at hd; omega
          match readItems budget d false (v :: acc) with
          | .error e => .error e
          | .ok ⟨r, hr⟩ => .ok ⟨r, by omega⟩
    else .error (c.failAhead .expectedListCommaOrEnd)
termination_by 2 * c0.rest.length + 1
decreasing_by all_goals omega

/-- Entries of a map after its opening brace, up to and with its closing brace. -/
def readEntries (budget : Nat) (c0 : Cursor) (first : Bool) (acc : Map) :
    Step Map c0.rest.length :=
  let ⟨c, hc⟩ := c0.skipBlanks
  match h : c.rest with
  | [] => .error (c.failAhead .eofInObject)
  | ch :: more =>
    have hp : (c.past ch more).rest.length < c0.rest.length := by
      rw [Cursor.past_rest]; rw [h] at hc; simp only [List.length_cons] at hc; omega
    if ch == '\x7d' then .ok ⟨(acc, c.past ch more), hp⟩
    else
      -- where the key starts: here for the first entry, after a comma for the others
      let keyAt : Except ReadError {k : Cursor // k.rest.length ≤ c0.rest.length} :=
        if first then .ok ⟨c, hc⟩
        else if ch == ',' then
          let ⟨c2, h2⟩ := (c.past ch more).skipBlanks
          .ok ⟨c2, by omega⟩
        else .error (c.failAhead .expectedObjectCommaOrEnd)
      match keyAt with
      | .error e => .error e
      | .ok ⟨k, hk⟩ =>
        match hkr : k.rest with
        | [] => .error (k.failAhead .eofInValue)
        | q :: keyText =>
          if q == '\x7d' then .error (k.failAhead .trailingComma)
          else if q != '"' then .error (k.failAhead .keyMustBeString)
          else
            match finishScan k q keyText hkr _ hk id (scanChars keyText [] 0) with
            | .error e => .error e
            | .ok ⟨(key, d), hd⟩ =>
              let ⟨e, he⟩ := d.skipBlanks
              match hce : e.rest with
              | [] => .error (e.failAhead .eofInObject)
              | colon :: afterColon =>
                if colon != ':' then .error (e.failAhead .expectedColon)
                else
                  have hv : (e.past colon afterColon).rest.length < c0.rest.length := by
                    rw [Cursor.past_rest]; dsimp only at hd; rw [hce] at he; simp only [List.length_cons] at he; omega
                  match readValue budget (e.past colon afterColon) with
                  | .error err => .error err
                  | .ok ⟨(v, f), hf⟩ =>
                    have : f.rest.length < c0.rest.length := by dsimp only at hf; omega
                    match readEntries budget f false (acc.insert key v) with
                    | .error err => .error err
                    | .ok ⟨r, hr⟩ => .ok ⟨r, by omega⟩
termination_by 2 * c0.rest.length + 1
decreasing_by all_goals omega

end

/-- Reads a whole text as one value; only blanks may follow it. -/
def read (s : String) : Except ReadError Value :=
  match readValue depthLimit (Cursor.start s) with
  | .error e => .error e
  | .ok ⟨(v, c), _⟩ =>
    let ⟨d, _⟩ := c.skipBlanks
    match d.rest with
    | [] => .ok v
    | _ :: _ => .error (d.failAhead .trailingCharacters)

end PromptPipeline.Json
