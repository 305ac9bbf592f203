import PromptPipeline.Pattern.Syntax
/-!
How deeply a pattern nests, and the limit on it.

Every group, repetition, concatenation, alternation and bracketed class opens a level, and so do
a union of several class items, a nested class and a set operation inside a class; literals,
`.`, assertions, Perl and Unicode classes, ranges and the other class items open none. A pattern
whose syntax tree goes more than 250 levels deep is refused, at the first construct (in reading
order, outer before inner) that would open level 251.
-/
namespace PromptPipeline.Pattern

/-- The deepest a syntax tree may nest. -/
def nestLimit : Nat := 250

namespace Nesting

/-- Opens a level at `depth` for a construct at `span`: the new depth, or the error when it is
past `limit`. -/
def enter (limit depth : Nat) (span : Span) : Except PatternError Nat :=
  if depth + 1 > limit then .error { kind := .nestLimitExceeded limit, span }
  else .ok (depth + 1)

mutual
/-- Checks a class item met at `depth`. -/
def item (limit depth : Nat) : ClassItem → Except PatternError Unit
  | .bracketed _ set span => do
    let d ← enter limit depth span
    classSet limit d set
  | _ => .ok ()

/-- Checks the content of a class met at `depth`: a union of one item is that item, and an
empty union opens nothing. -/
def classSet (limit depth : Nat) : ClassSet → Except PatternError Unit
  | .union [] _ => .ok ()
  | .union [x] _ => item limit depth x
  | .union (x :: y :: rest) span => do
    let d ← enter limit depth span
    items limit d (x :: y :: rest)
  | .op _ lhs rhs span => do
    let d ← enter limit depth span
    classSet limit d lhs
    classSet limit d rhs

/-- Checks class items in order. -/
def items (limit depth : Nat) : List ClassItem → Except PatternError Unit
  | [] => .ok ()
  | x :: rest => do
    item limit depth x
    items limit depth rest
end

mutual
/-- Checks a tree met at `depth`. -/
def tree (limit depth : Nat) : Ast → Except PatternError Unit
  | .bracketed _ set span => do
    let d ← enter limit depth span
    classSet limit d set
  | .repetition _ _ _ sub span | .group _ sub span => do
    let d ← enter limit depth span
    tree limit d sub
  | .concat items span | .alternation items span => do
    let d ← enter limit depth span
    trees limit d items
  | _ => .ok ()

/-- Checks trees in order. -/
def trees (limit depth : Nat) : List Ast → Except PatternError Unit
  | [] => .ok ()
  | a :: rest => do
    tree limit depth a
    trees limit depth rest
end

end Nesting

/-- Checks that a syntax tree nests at most `nestLimit` levels deep. -/
def Ast.checkNesting (a : Ast) : Except PatternError Unit := Nesting.tree nestLimit 0 a

end PromptPipeline.Pattern
