import PromptPipeline.Template.Builtin.Args
import PromptPipeline.Template.Builtin.Text
import PromptPipeline.Decimal.Fixed
/-!
The `format` filter: printf-style formatting of values into a text.

A directive is `%`, then a key in parentheses that names an entry of a mapping argument, flags
(`#`, `0`, `-`, space, `+`), a width, a precision after a point (a point alone sets none), length
letters (`h`, `l`, `L`) that change nothing, and a conversion: `s` and `r` for text, `d` and `i`
for decimal integers, `o`, `x` and `X` for octal and hexadecimal, `e`, `E`, `f`, `F`, `g` and `G`
for numbers, `c` for a character, and `%%` for a percent sign. Each directive without a key takes
the next argument; a directive with a key takes that entry of the first argument, whatever the
others took. Widths count bytes of UTF-8, and errors name the byte just after the directive's `%`
and its key.

A directive sees its argument as an integer (a boolean counts as `0` or `1`), a double, or text:
every other value is its text, and is called a string in errors. Integers are formatted exactly
by every numeric conversion and ignore a precision. A double under `s` is written as by `g` with a
point kept (`1.0`, `1e+16`). When the format itself is a safe string, the text of an argument
that is not safe is escaped for HTML before a precision cuts it.
-/
namespace PromptPipeline.Template

open Outcome

namespace Builtin

/-- A parsed directive: mapping key, flags, width, precision and conversion, and the byte
offset that errors about it name. -/
structure Directive where
  key : Option String := none
  alternate : Bool := false
  zeroPad : Bool := false
  leftAlign : Bool := false
  space : Bool := false
  plus : Bool := false
  width : Nat := 0
  precision : Option Nat := none
  conversion : Char := 's'
  offset : Nat := 0

/-- Reads the flags of a directive. -/
def readFlags (d : Directive) : List Char → Directive × List Char
  | '#' :: cs => readFlags { d with alternate := true } cs
  | '0' :: cs => readFlags { d with zeroPad := true } cs
  | '-' :: cs => readFlags { d with leftAlign := true } cs
  | ' ' :: cs => readFlags { d with space := true } cs
  | '+' :: cs => readFlags { d with plus := true } cs
  | cs => (d, cs)

/-- The largest width or precision that reads: the size of a machine word. -/
def countLimit : Nat := Nat.pow 2 64 - 1

/-- Reads a run of decimal digits at byte `pos` as a width or precision: the number (none
without digits), the characters after it and the byte after it. A number past the limit is
refused at the byte after its digits. -/
def readCount (pos : Nat) (cs : List Char) : Except String (Option Nat × List Char × Nat) :=
  let ds := cs.takeWhile Char.isDigit
  if ds.isEmpty then .ok (none, cs, pos)
  else
    let n := ds.foldl (fun n c => n * 10 + (c.toNat - '0'.toNat)) 0
    let after := pos + ds.length
    if n > countLimit then
      .error ("invalid integer in the format string at offset " ++ toString after)
    else .ok (some n, cs.drop ds.length, after)

/-- The conversions a directive may end with. -/
def conversions : List Char := ['s', 'r', 'd', 'i', 'o', 'x', 'X', 'e', 'E', 'f', 'F', 'g', 'G', 'c']

/-- The error of a format that ends inside a directive; `total` is the format's size in bytes. -/
def incompleteSpec (total : Nat) : String :=
  "incomplete format spec at offset " ++ toString total ++ "; missing conversion type"

/-- Reads the mapping key of a directive at byte `pos`, when it starts with one: the key, the
characters after it and the byte after it; none when the key is not closed. -/
def readKey (pos : Nat) (cs : List Char) : Option (Option String × List Char × Nat) :=
  match cs with
  | '(' :: rest =>
    let name := String.ofList (rest.takeWhile (· != ')'))
    match rest.drop name.length with
    | ')' :: after => some (some name, after, pos + name.utf8ByteSize + 2)
    | _ => none
  | _ => some (none, cs, pos)

/-- Reads a directive after its `%`, which stands just before byte `pos` of a format of `total`
bytes: key, flags, width, precision, length letters and conversion. Gives the directive, the
characters after it and the byte after it. -/
def readDirective (total pos : Nat) (cs : List Char) :
    Except String (Directive × List Char × Nat) := do
  let (key, cs, pos) ← match readKey pos cs with
    | some r => .ok r
    | none => .error (incompleteSpec total)
  let (d, rest) := readFlags { key, offset := pos } cs
  let pos := pos + (cs.length - rest.length)
  let (width, rest, pos) ← readCount pos rest
  let (precision, rest, pos) ← match rest with
    | '.' :: more => readCount (pos + 1) more
    | _ => .ok (none, rest, pos)
  let letters := rest.takeWhile fun c => c == 'h' || c == 'l' || c == 'L'
  let rest := rest.drop letters.length
  let pos := pos + letters.length
  match rest with
  | [] => .error (incompleteSpec total)
  | c :: after =>
    if conversions.contains c then
      .ok ({ d with width := width.getD 0, precision, conversion := c }, after, pos + 1)
    else
      .error ("invalid conversion type '" ++ String.singleton c ++ "' in format spec at offset " ++
        toString d.offset)

/-- The number of bytes of a text in UTF-8. -/
def byteLength (s : String) : Nat := s.utf8ByteSize

/-- Pads a text to the width of a directive, counted in bytes: spaces before it, or after it
when aligned left. -/
def padded (d : Directive) (s : String) : String :=
  let fill := String.ofList (List.replicate (d.width - byteLength s) ' ')
  if d.leftAlign then s ++ fill else fill ++ s

/-- Pads a number to the width of a directive: zeros go between the sign and the digits. -/
def paddedNumber (d : Directive) (sign body : String) : String :=
  if d.zeroPad && !d.leftAlign then
    sign ++ String.ofList (List.replicate (d.width - sign.length - body.length) '0') ++ body
  else padded d (sign ++ body)

/-- The sign a directive writes before a number. -/
def signText (d : Directive) (negative : Bool) : String :=
  if negative then "-" else if d.plus then "+" else if d.space then " " else ""

/-- What errors call a conversion's format, and the letter they show for it (`i` shows as `d`). -/
def conversionName (c : Char) : String × Char :=
  match c with
  | 'd' | 'i' => ("decimal format", 'd')
  | 'o' => ("octal format", 'o')
  | 'x' | 'X' => ("hex format", c)
  | 'e' | 'E' => ("scientific notation", c)
  | 'f' | 'F' => ("fixed-point notation", c)
  | 'g' | 'G' => ("general format", c)
  | _ => ("character format", 'c')

/-- The digits of a natural number in a base, lower case. -/
def digitsIn (base : Nat) (n : Nat) : String := String.ofList (Nat.toDigits base n)

/-- The `%e` text of a magnitude with `places` decimals. -/
def exponentText (q : Decimal.Fraction) (places : Nat) (upperCase alternate : Bool) : String :=
  let (n, k) := q.scientific places
  let mantissa := Decimal.pointed (toString n) places
  let mantissa := if alternate && places == 0 then mantissa ++ "." else mantissa
  let expDigits := toString k.natAbs
  let expDigits := if expDigits.length < 2 then "0" ++ expDigits else expDigits
  mantissa ++ (if upperCase then "E" else "e") ++ (if k < 0 then "-" else "+") ++ expDigits

/-- Drops trailing zeros after a point, and the point if nothing follows it. -/
def stripZeros (s : String) : String :=
  if s.contains '.' then
    let cs := (s.toList.reverse.dropWhile (· == '0'))
    String.ofList (if cs.head? == some '.' then cs.tail else cs).reverse
  else s

/-- The `%g` text of a magnitude with `precision` significant digits. Zero is `0`, also in the
alternate form. -/
def generalText (q : Decimal.Fraction) (precision : Nat) (upperCase alternate : Bool) : String :=
  if q.isZero then "0"
  else
    let p := if precision == 0 then 1 else precision
    let (_, k) := q.scientific (p - 1)
    if -4 ≤ k && k < p then
      let places := (p - 1 - k).toNat
      let fixed := q.fixedText places
      if alternate then (if places == 0 then fixed ++ "." else fixed) else stripZeros fixed
    else
      let text := exponentText q (p - 1) upperCase alternate
      if alternate then text
      else
        match text.splitOn (if upperCase then "E" else "e") with
        | [mantissa, exponent] =>
          stripZeros mantissa ++ (if upperCase then "E" else "e") ++ exponent
        | _ => text

/-- The text of an exact number under a floating-point directive. -/
def numberDirective (d : Directive) (negative : Bool) (q : Decimal.Fraction) : String :=
  let upperCase := d.conversion.isUpper
  let places := d.precision.getD 6
  let body := match d.conversion with
    | 'e' | 'E' => exponentText q places upperCase d.alternate
    | 'g' | 'G' => generalText q places upperCase d.alternate
    | _ =>
      let t := q.fixedText places
      if d.alternate && places == 0 then t ++ "." else t
  paddedNumber d (signText d negative) body

/-- Whether a double is below zero, `-0.0` included. -/
def isNegative (x : Float) : Bool := x < 0 || (x == 0 && 1 / x < 0)

/-- The text of a double under a floating-point directive. -/
def floatDirective (d : Directive) (x : Float) : String :=
  let upperCase := d.conversion.isUpper
  if x.isNaN then padded d (if upperCase then "NAN" else "nan")
  else if x.isInf then padded d (signText d (isNegative x) ++ if upperCase then "INF" else "inf")
  else numberDirective d (isNegative x) (Decimal.Fraction.ofFloat x)

/-- The text of a double under `s`: as by `g`, with `.0` when neither a point nor an exponent
shows; a space flag stands before a number that is not negative. -/
def shortDouble (d : Directive) (x : Float) : String :=
  if x.isNaN then padded d "nan"
  else
    let sign := if isNegative x then "-" else if d.space then " " else ""
    if x.isInf then padded d (sign ++ "inf")
    else
      let body := generalText (Decimal.Fraction.ofFloat x) (d.precision.getD 6) false false
      let body := if body.contains '.' || body.contains 'e' then body else body ++ ".0"
      padded d (sign ++ body)

/-- The text of an integer under an integer directive; a precision changes nothing. The prefix
of the alternate form stays with the sign, so zeros of the width go after it (`0x0ff`). -/
def intDirective (d : Directive) (i : Int) : String :=
  let n := i.natAbs
  let sign := signText d (i < 0)
  let (lead, digits) := match d.conversion with
    | 'o' => (if d.alternate then "0o" else "", digitsIn 8 n)
    | 'x' => (if d.alternate then "0x" else "", digitsIn 16 n)
    | 'X' => (if d.alternate then "0X" else "", (digitsIn 16 n).toUpper)
    | _ => ("", toString n)
  paddedNumber d (sign ++ lead) digits

/-- A value as an integer for a directive: integers, and booleans as `0` and `1`. -/
def directiveInteger? : Datum → Option Int
  | .int i => some i
  | .bool b => some (if b then 1 else 0)
  | _ => none

/-- The text of a value taken as text, escaped for HTML when `escaping` holds and the value is
not safe. -/
def operandText (escaping : Bool) (text : String) (v : Datum) : String :=
  if escaping && !v.isSafe then escapeHtml text else text

/-- The text one directive makes of its argument; `escaping` holds for a safe format. -/
def directiveText (escaping : Bool) (d : Directive) (v : Datum) : Outcome String :=
  let (name, letter) := conversionName d.conversion
  let mismatch : Outcome String :=
    fail .invalidOperation ("invalid format spec at offset " ++ toString d.offset ++ "; '" ++
      (match v with | .float _ => "float" | _ => "string") ++ "' cannot be formatted in " ++
      name ++ " ('" ++ String.singleton letter ++ "')")
  match d.conversion with
  | 's' | 'r' =>
    match v with
    | .int _ | .bool _ => .ok (padded d v.display)
    | .float x => .ok (shortDouble d x)
    | _ =>
      let s := operandText escaping (if d.conversion == 'r' then v.debug else v.display) v
      .ok (padded d (match d.precision with
        | some p => String.ofList (s.toList.take p)
        | none => s))
  | 'd' | 'i' | 'o' | 'x' | 'X' =>
    match directiveInteger? v with
    | some i => .ok (intDirective d i)
    | none => mismatch
  | 'c' =>
    match directiveInteger? v, v with
    | some i, _ =>
      if 0 ≤ i && i < 0x110000 && !(0xD800 ≤ i && i < 0xE000) then
        .ok (padded d (String.singleton (Char.ofNat i.toNat)))
      else fail .invalidOperation "character format ('c') arg not in range(0x110000)"
    | none, .float _ => mismatch
    | none, _ =>
      let s := v.display
      if s.length == 1 then .ok (padded d (operandText escaping s v))
      else fail .invalidOperation "character format ('c') requires integer or char"
  | _ =>
    match directiveInteger? v, v with
    | some i, _ => .ok (numberDirective d (i < 0) (Decimal.Fraction.ofNat i.natAbs))
    | none, .float x => .ok (floatDirective d x)
    | none, _ => mismatch

/-- The error of a directive left without an argument. -/
def missingArgument (d : Directive) : Outcome α :=
  fail .invalidOperation
    ("missing an argument for format spec at offset '" ++ toString d.offset ++ "'")

/-- The entry that a directive's key names in the first argument, which must be a mapping. -/
def keyedArgument (d : Directive) (key : String) (first : Option Datum) : Outcome Datum :=
  match first with
  | some (.map es) =>
    match es.find? (fun e => e.1.asStr? == some key) with
    | some (_, v) => .ok v
    | none => missingArgument d
  | some (.kwargs es) =>
    match es.find? (fun e => e.1 == key) with
    | some (_, v) => .ok v
    | none => missingArgument d
  | _ => fail .invalidOperation "format argument must be a mapping"

/-- Formats the characters of a format of `total` bytes, `pos` bytes in, with the arguments not
yet taken; `first` is the first of all arguments, which keys look into. Every step consumes a
character, so the length of the format bounds the steps. -/
def formatFrom (escaping : Bool) (total : Nat) (first : Option Datum) :
    Nat → Nat → List Char → List Datum → Outcome String
  | 0, _, _, _ => .ok ""
  | _, _, [], _ => .ok ""
  | fuel + 1, pos, '%' :: '%' :: rest, args =>
    ("%" ++ ·) <$> formatFrom escaping total first fuel (pos + 2) rest args
  | fuel + 1, pos, '%' :: rest, args =>
    match readDirective total (pos + 1) rest with
    | .error message => fail .invalidOperation message
    | .ok (d, after, next) => do
      let (v, more) ← match d.key with
        | some key => (·, args) <$> keyedArgument d key first
        | none =>
          match args with
          | [] => missingArgument d
          | v :: more => .ok (v, more)
      let text ← directiveText escaping d v
      let tail ← formatFrom escaping total first fuel next after more
      .ok (text ++ tail)
  | fuel + 1, pos, c :: rest, args =>
    (String.singleton c ++ ·) <$> formatFrom escaping total first fuel (pos + c.utf8Size) rest args

/-- The `format` filter: the format filled in with the arguments. A safe format gives a safe
text. -/
def format (v : Datum) (args : List Datum) : Outcome Datum := do
  let fmt ← Args.string v
  let text ← formatFrom v.isSafe fmt.utf8ByteSize args.head? (fmt.length + 1) 0 fmt.toList args
  .ok (.str text v.isSafe)

end Builtin

end PromptPipeline.Template
