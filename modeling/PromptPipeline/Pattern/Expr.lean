import PromptPipeline.Pattern.CharSet
/-!
What a pattern matches, as an expression over characters with its classes resolved.

Expressions are kept in one canonical shape, which the constructors `Expr.ofClass`,
`Expr.sequence`, `Expr.choice` and `Expr.repeated` produce:

* a class of one character is that character as a literal, and an empty class matches nothing;
* a sequence has no empty items and no sequences inside, and literals next to each other are one
  literal;
* a choice has no choices inside; a choice of single characters, or of classes, is one class;
  and when every branch is a sequence, the items they all start with are taken out in front;
* a repetition of something that matches only the empty text repeats at most once; zero times
  is the empty expression (so a group inside is gone), and exactly once is the thing itself.

Lengths are counted in bytes of UTF-8, the way the automaton reads text.
-/
namespace PromptPipeline.Pattern

/-- The zero-width tests of a position. -/
inductive Look where
  /-- the start of the text -/
  | start
  /-- the end of the text -/
  | finish
  /-- the start of a line, after a line feed -/
  | startLine (crlf : Bool)
  /-- the end of a line, before a line feed -/
  | endLine (crlf : Bool)
  /-- a word boundary; `unicode` chooses the word characters -/
  | word (unicode : Bool)
  | notWord (unicode : Bool)
  | wordStart (unicode : Bool)
  | wordEnd (unicode : Bool)
  | wordStartHalf (unicode : Bool)
  | wordEndHalf (unicode : Bool)
  deriving BEq, Inhabited

/-- What a pattern matches. -/
inductive Expr where
  | empty
  /-- these characters in a row (never none) -/
  | literal (chars : List Char)
  /-- one character of the set; the empty set matches nothing -/
  | chars (set : CharSet)
  | look (kind : Look)
  | repetition (min : Nat) (max : Option Nat) (greedy : Bool) (sub : Expr)
  /-- a capturing group, by its number and name -/
  | capture (index : Nat) (name : Option String) (sub : Expr)
  | concat (items : List Expr)
  | alternation (items : List Expr)
  deriving Inhabited, BEq

namespace Expr

/-- The number of bytes of a code point in UTF-8. -/
def utf8Width (n : Nat) : Nat :=
  if n < 0x80 then 1 else if n < 0x800 then 2 else if n < 0x10000 then 3 else 4

/-- The bytes of a literal's characters in UTF-8. -/
def literalWidth (cs : List Char) : Nat := cs.foldl (fun n c => n + utf8Width c.toNat) 0

mutual
/-- The fewest bytes a match takes; none when nothing matches. -/
def leastLength : Expr → Option Nat
  | .empty | .look _ => some 0
  | .literal cs => some (literalWidth cs)
  | .chars s => s.head?.map fun r => utf8Width r.1
  | .repetition min _ _ sub => sub.leastLength.map (· * min)
  | .capture _ _ sub => sub.leastLength
  | .concat items => leastSum items
  | .alternation items => leastOf items

/-- The fewest bytes of items in a row. -/
def leastSum : List Expr → Option Nat
  | [] => some 0
  | e :: rest => do
    let a ← e.leastLength
    let b ← leastSum rest
    pure (a + b)

/-- The fewest bytes of any branch; none when some branch matches nothing. -/
def leastOf : List Expr → Option Nat
  | [] => none
  | [e] => e.leastLength
  | e :: rest => do
    let a ← e.leastLength
    let b ← leastOf rest
    pure (min a b)
end

mutual
/-- The most bytes a match takes; none when there is no bound or nothing matches. -/
def greatestLength : Expr → Option Nat
  | .empty | .look _ => some 0
  | .literal cs => some (literalWidth cs)
  | .chars s => s.getLast?.map fun r => utf8Width r.2
  | .repetition _ max _ sub => do
    let m ← max
    let a ← sub.greatestLength
    pure (a * m)
  | .capture _ _ sub => sub.greatestLength
  | .concat items => greatestSum items
  | .alternation items => greatestOf items

/-- The most bytes of items in a row. -/
def greatestSum : List Expr → Option Nat
  | [] => some 0
  | e :: rest => do
    let a ← e.greatestLength
    let b ← greatestSum rest
    pure (a + b)

/-- The most bytes of any branch. -/
def greatestOf : List Expr → Option Nat
  | [] => none
  | [e] => e.greatestLength
  | e :: rest => do
    let a ← e.greatestLength
    let b ← greatestOf rest
    pure (max a b)
end

mutual
/-- Whether every match must start at the start of the text. -/
def startsAnchored : Expr → Bool
  | .look k => k == .start
  | .empty | .literal _ | .chars _ => false
  | .repetition min _ _ sub => min > 0 && sub.startsAnchored
  | .capture _ _ sub => sub.startsAnchored
  | .concat items => startsAnchoredSeq items
  | .alternation items => startsAnchoredAll items

/-- Whether items in a row force the start: one of them does, before any that takes text. -/
def startsAnchoredSeq : List Expr → Bool
  | [] => false
  | e :: rest => e.startsAnchored || (e.greatestLength == some 0 && startsAnchoredSeq rest)

/-- Whether every branch forces the start. -/
def startsAnchoredAll : List Expr → Bool
  | [] => false
  | [e] => e.startsAnchored
  | e :: rest => e.startsAnchored && startsAnchoredAll rest
end

mutual
/-- Whether every match must end at the end of the text. -/
def endsAnchored : Expr → Bool
  | .look k => k == .finish
  | .empty | .literal _ | .chars _ => false
  | .repetition min _ _ sub => min > 0 && sub.endsAnchored
  | .capture _ _ sub => sub.endsAnchored
  | .concat items => endsAnchoredSeq items
  | .alternation items => endsAnchoredAll items

/-- Whether items in a row force the end: one of them does, after any that takes text. -/
def endsAnchoredSeq : List Expr → Bool
  | [] => false
  | e :: rest =>
    endsAnchoredSeq rest || (rest.all (·.greatestLength == some 0) && e.endsAnchored)

/-- Whether every branch forces the end. -/
def endsAnchoredAll : List Expr → Bool
  | [] => false
  | [e] => e.endsAnchored
  | e :: rest => e.endsAnchored && endsAnchoredAll rest
end

mutual
/-- The number of nodes of an expression. -/
def size : Expr → Nat
  | .repetition _ _ _ sub | .capture _ _ sub => sub.size + 1
  | .concat items | .alternation items => sizeAll items + 1
  | _ => 1

/-- The number of nodes of expressions. -/
def sizeAll : List Expr → Nat
  | [] => 0
  | e :: rest => e.size + sizeAll rest
end

mutual
/-- The numbered and named groups of an expression, in order. -/
def captures : Expr → List (Nat × Option String)
  | .repetition _ _ _ sub => sub.captures
  | .capture i name sub => (i, name) :: sub.captures
  | .concat items | .alternation items => capturesAll items
  | _ => []

/-- The groups of expressions, in order. -/
def capturesAll : List Expr → List (Nat × Option String)
  | [] => []
  | e :: rest => e.captures ++ capturesAll rest
end

/-- The expression of a class: a literal when it holds one character. -/
def ofClass (s : CharSet) : Expr :=
  match s with
  | [(lo, hi)] => if lo == hi then .literal [Char.ofNat lo] else .chars s
  | _ => .chars s

/-- Literals next to each other joined into one. -/
def joinLiterals : List Expr → List Expr
  | [] => []
  | .literal a :: rest =>
    match joinLiterals rest with
    | .literal b :: more => .literal (a ++ b) :: more
    | more => .literal a :: more
  | e :: rest => e :: joinLiterals rest

/-- Expressions in a row, in canonical shape. -/
def sequence (items : List Expr) : Expr :=
  let flat := items.flatMap fun e =>
    match e with
    | .concat inner => inner
    | .empty => []
    | other => [other]
  match joinLiterals flat with
  | [] => .empty
  | [e] => e
  | joined => .concat joined

/-- The characters of branches that are each one character. -/
def singleChars : List Expr → Option (List Char)
  | [] => some []
  | .literal [c] :: rest => (c :: ·) <$> singleChars rest
  | _ => none

/-- The union of branches that are each a class. -/
def classUnion : List Expr → Option CharSet
  | [] => some []
  | .chars s :: rest => (CharSet.union s ·) <$> classUnion rest
  | _ => none

/-- The items of branches that are all sequences. -/
def sequenceItems : List Expr → Option (List (List Expr))
  | [] => some []
  | .concat items :: rest => (items :: ·) <$> sequenceItems rest
  | _ => none

/-- The longest common start of two lists. -/
def commonStart : List Expr → List Expr → List Expr
  | a :: as, b :: bs => if a == b then a :: commonStart as bs else []
  | _, _ => []

/-- Branches in canonical shape; `fuel` bounds how often items in front are taken out, each
time on fewer nodes. -/
def choiceWithin : Nat → List Expr → Expr
  | fuel, items =>
    let flat := items.flatMap fun e =>
      match e with
      | .alternation inner => inner
      | other => [other]
    match flat with
    | [] => .chars []
    | [e] => e
    | _ =>
      match singleChars flat with
      | some cs => ofClass (CharSet.normalize (cs.map fun c => (c.toNat, c.toNat)))
      | none =>
        match classUnion flat with
        | some s => ofClass s
        | none =>
          match fuel, sequenceItems flat with
          | fuel + 1, some (first :: rest) =>
            let front := rest.foldl commonStart first
            if front.isEmpty then .alternation flat
            else
              let n := front.length
              let tails := (first :: rest).map fun xs => sequence (xs.drop n)
              sequence (front ++ [choiceWithin fuel tails])
          | _, _ => .alternation flat

/-- Branches in canonical shape. -/
def choice (items : List Expr) : Expr := choiceWithin (sizeAll items + 1) items

/-- A repetition in canonical shape. -/
def repeated (min : Nat) (max : Option Nat) (greedy : Bool) (sub : Expr) : Expr :=
  let (min, max) :=
    if sub.greatestLength == some 0 then (Nat.min min 1, some ((max.map (Nat.min · 1)).getD 1))
    else (min, max)
  if min == 0 && max == some 0 then .empty
  else if min == 1 && max == some 1 then sub
  else .repetition min max greedy sub

end Expr

end PromptPipeline.Pattern
