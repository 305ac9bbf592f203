import PromptPipeline.Pattern.Property
import PromptPipeline.Pattern.Expr
/-!
From the syntax tree of a pattern to what it matches.

Translation resolves classes to sets of characters and applies the flags. Flags hold from where
they are set to the end of the enclosing group, through later branches of an alternation too; a
group with flags sets them for its content only. Under `i`, every literal and class is widened to
the case variants of its characters (before a class is negated); `U` swaps greedy and lazy
repetitions; `m` makes `^` and `$` match at line ends, `R` with line ends of `\r\n`; `s` lets `.`
match line feeds.

Without `u`, classes are ASCII, and anything that could match a byte that is not ASCII is an
error: the text searched is always valid UTF-8.
-/
namespace PromptPipeline.Pattern

/-- The flags in force at a point of a pattern. -/
structure Flags where
  caseInsensitive : Bool := false
  multiLine : Bool := false
  dotAll : Bool := false
  swapGreed : Bool := false
  unicode : Bool := true
  crlf : Bool := false
  ignoreWhitespace : Bool := false

/-- The flags after a flag group. -/
def Flags.apply (f : Flags) (items : List FlagItem) : Flags :=
  let get (flag : Flag) (old : Bool) : Bool := (flagState items flag).getD old
  { caseInsensitive := get .caseInsensitive f.caseInsensitive
    multiLine := get .multiLine f.multiLine
    dotAll := get .dotAll f.dotAll
    swapGreed := get .swapGreed f.swapGreed
    unicode := get .unicode f.unicode
    crlf := get .crlf f.crlf
    ignoreWhitespace := get .ignoreWhitespace f.ignoreWhitespace }

namespace Translate

open CharSet

/-- A failure at a span. -/
def failAt (kind : ErrorKind) (span : Span) : Except PatternError α := .error { kind, span }

/-- Case variants under `i`, in the mode the flags choose. -/
def fold (f : Flags) (s : CharSet) : CharSet :=
  if !f.caseInsensitive then s
  else if f.unicode then caseFold s
  else normalize (s ++ (s.flatMap fun (lo, hi) =>
    (List.range (hi + 1 - lo)).filterMap fun k =>
      let n := lo + k
      if 0x41 ≤ n && n ≤ 0x5A then some (n + 32, n + 32)
      else if 0x61 ≤ n && n ≤ 0x7A then some (n - 32, n - 32)
      else none))

/-- The complement of a set: of all characters, or of the bytes without `u`. -/
def negate (f : Flags) (s : CharSet) : CharSet :=
  if f.unicode then complement s else difference [(0, 0xFF)] s

/-- Case variants, then the complement when negated; without `u` the result must be ASCII. -/
def foldAndNegate (f : Flags) (negated : Bool) (span : Span) (s : CharSet) :
    Except PatternError CharSet :=
  let s := fold f s
  let s := if negated then negate f s else s
  if !f.unicode && !isAscii s then failAt .invalidUtf8 span else .ok s

/-- The set of a Perl class. -/
def perl (f : Flags) (kind : PerlClass) (negated : Bool) (span : Span) :
    Except PatternError CharSet :=
  if f.unicode then
    let s := Classes.perlUnicode kind
    .ok (if negated then complement s else s)
  else
    let s := Classes.perlAscii kind
    let s := if negated then negate f s else s
    if isAscii s then .ok s else failAt .invalidUtf8 span

/-- The set of a Unicode class. -/
def unicode (f : Flags) (q : UnicodeQuery) (negated : Bool) (span : Span) :
    Except PatternError CharSet :=
  if !f.unicode then failAt .unicodeNotAllowed span
  else
    match Classes.query q with
    | .error kind => failAt kind span
    | .ok s =>
      let notEqual := match q with
        | .namedValue _ _ ne => ne
        | _ => false
      foldAndNegate f (negated != notEqual) span s

/-- A character written in a class; without `u` it must be ASCII, and a byte escape above
`\x7F` could match a byte that is not. -/
def classChar (f : Flags) (c : Written) : Except PatternError Nat :=
  if f.unicode then .ok c.char.toNat
  else if (c.byte.map (fun b => decide (b > 0x7F))).getD false then failAt .invalidUtf8 c.span
  else if c.char.toNat > 0x7F then failAt .unicodeNotAllowed c.span
  else .ok c.char.toNat

mutual
/-- The set of a bracketed class's content. -/
def classSet (f : Flags) : ClassSet → Except PatternError CharSet
  | .union items _ => classItems f items
  | .op kind lhs rhs _ => do
    let l ← classSet f lhs
    let r ← classSet f rhs
    let l := fold f l
    let r := fold f r
    .ok (match kind with
      | .intersection => intersect l r
      | .difference => difference l r
      | .symmetricDifference => symmetricDifference l r)

/-- The union of the sets of class items. -/
def classItems (f : Flags) : List ClassItem → Except PatternError CharSet
  | [] => .ok []
  | item :: rest => do
    let s ← classItem f item
    let t ← classItems f rest
    .ok (union s t)

/-- The set of one class item. -/
def classItem (f : Flags) : ClassItem → Except PatternError CharSet
  | .literal c => do
    let n ← classChar f c
    .ok (range n n)
  | .range lo hi _ => do
    let l ← classChar f lo
    let h ← classChar f hi
    .ok (range l h)
  | .ascii name negated s => foldAndNegate f negated s (Classes.ascii name)
  | .perl kind negated s => perl f kind negated s
  | .unicode q negated s => unicode f q negated s
  | .bracketed negated set s => do
    let inner ← classSet f set
    foldAndNegate f negated s inner
end

/-- The assertion an `Assertion` denotes under the flags. -/
def assertion (f : Flags) (kind : Assertion) (span : Span) : Except PatternError Look :=
  match kind with
  | .startLine => .ok (if f.multiLine then .startLine f.crlf else .start)
  | .endLine => .ok (if f.multiLine then .endLine f.crlf else .finish)
  | .startText => .ok .start
  | .endText => .ok .finish
  | .wordBoundary => .ok (.word f.unicode)
  | .notWordBoundary => if f.unicode then .ok (.notWord true) else failAt .invalidUtf8 span
  | .wordStart => .ok (.wordStart f.unicode)
  | .wordEnd => .ok (.wordEnd f.unicode)
  | .wordStartHalf => .ok (.wordStartHalf f.unicode)
  | .wordEndHalf => .ok (.wordEndHalf f.unicode)

/-- The set of `.`: every character, or all but line ends. -/
def dot (f : Flags) (span : Span) : Except PatternError CharSet :=
  if !f.unicode then failAt .invalidUtf8 span
  else if f.dotAll then .ok [(0, maxCode)]
  else if f.crlf then .ok (complement [(0x0A, 0x0A), (0x0D, 0x0D)])
  else .ok (complement [(0x0A, 0x0A)])

/-- A literal character under the flags. -/
def literal (f : Flags) (c : Char) (byte : Option Nat) (span : Span) :
    Except PatternError CharSet :=
  if !f.unicode && (byte.map (fun b => decide (b > 0x7F))).getD false then failAt .invalidUtf8 span
  else if f.caseInsensitive && (f.unicode || c.toNat < 128) then .ok (fold f (single c))
  else .ok (single c)

mutual
/-- Translates a tree under the flags; the flags in force after it. -/
def ast (f : Flags) : Ast → Except PatternError (Expr × Flags)
  | .empty => .ok (.empty, f)
  | .flags items => .ok (.empty, f.apply items)
  | .literal c byte span => do
    let s ← literal f c byte span
    .ok (Expr.ofClass s, f)
  | .dot span => do
    let s ← dot f span
    .ok (Expr.ofClass s, f)
  | .assertion kind span => do
    let l ← assertion f kind span
    .ok (.look l, f)
  | .perl kind negated span => do
    let s ← perl f kind negated span
    .ok (Expr.ofClass s, f)
  | .unicode q negated span => do
    let s ← unicode f q negated span
    .ok (Expr.ofClass s, f)
  | .bracketed negated set span => do
    let inner ← classSet f set
    let s ← foldAndNegate f negated span inner
    .ok (Expr.ofClass s, f)
  | .repetition min max greedy sub _ => do
    let (h, f') ← ast f sub
    .ok (Expr.repeated min max (greedy != f.swapGreed) h, f')
  | .group kind sub _ =>
    match kind with
    | .capture index name => do
      let (h, _) ← ast f sub
      .ok (.capture index name h, f)
    | .plain items => do
      let (h, _) ← ast (f.apply items) sub
      .ok (h, f)
  | .concat items _ => do
    let (hs, f') ← asts f items
    .ok (Expr.sequence hs, f')
  | .alternation items _ => do
    let (hs, f') ← asts f items
    .ok (Expr.choice hs, f')

/-- Translates trees in order, each under the flags the earlier ones leave. -/
def asts (f : Flags) : List Ast → Except PatternError (List Expr × Flags)
  | [] => .ok ([], f)
  | a :: rest => do
    let (h, f') ← ast f a
    let (hs, f'') ← asts f' rest
    .ok (h :: hs, f'')
end

end Translate

/-- What a pattern's syntax tree matches, under the default flags. -/
def translate (tree : Ast) : Except PatternError Expr :=
  (·.1) <$> Translate.ast {} tree

end PromptPipeline.Pattern
