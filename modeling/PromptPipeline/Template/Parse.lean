import PromptPipeline.Template.Syntax
import PromptPipeline.Template.Lexer
import PromptPipeline.Template.Closure
/-!
Reading templates: from tokens to expressions and statements.

A template is read from its tokens by functions that each return what they read and the tokens
after it. A reading that consumes a token returns fewer tokens than it was given (`Lt`); one that
may consume none returns at most as many (`Le`). These bounds are what make the reader's
recursion end.

A syntax error names the token found and what was expected, and carries the line of that token;
running out of tokens is "end of input", unless the tokens ended at a fault of the lexer, which
is then the error.

## Expressions

Expressions bind, loosest first: conditional expressions `a if b else c`; `or`; `and`; `not`;
comparisons and `in`, `not in`; `+` and `-`; `~`; `*`, `/`, `//` and `%`; `**`; unary `-`; then
accesses (`.name`, `.0`, `[key]`, `[a:b:c]`, calls) and filters and tests, which bind tightest.
Strings written next to each other are one string.

Every function passes the tokens it does not read on; one that passes its tokens on unread ranks
above the one it passes them to, which ends the recursion.

## Statements

`Template.parse` reads the nodes of a template. Statements are `for` (with a condition on the
items, `recursive`, and `else`), `if` (with `elif` and `else`), `with`, `set` (also as a block,
and of a namespace's attribute), `filter`, `autoescape`, `macro`, `call`, `block`, `include`,
`import`, `from`, `extends` and `do`; any other word opening a statement is refused. A block
name may be used once, and never inside a macro.
-/
namespace PromptPipeline.Template

/-- Tokens with the lines they start on. -/
abbrev Tokens := List (Token × Nat)

/-- What reading needs besides the tokens: the fault that ended them, the line of the last, the
line of every token, and how many primaries and statements enclose the reading. -/
structure Source where
  fault : Option EngineError
  endLine : Nat
  lines : Array Nat := #[]
  depth : Nat := 0

namespace Parse

/-- The error of reading past the last token. -/
def atEnd (src : Source) (expected : String) : EngineError :=
  match src.fault with
  | some e => e
  | none => .syntaxError ("unexpected end of input, expected " ++ expected) src.endLine

/-- The most expressions, primaries and statements that may enclose one another while reading. -/
def nestingLimit : Nat := 150

/-- Enters one more expression, primary or statement before reading `ts`, refusing to go past the
limit. The error carries the line of the token read last, the one just before `ts`. -/
def deeper (src : Source) (ts : Tokens) : Except EngineError Source :=
  if nestingLimit < src.depth + 1 then
    .error (.syntaxError "template exceeds maximum recursion limits"
      (src.lines.getD (src.lines.size - ts.length - 1) src.endLine))
  else .ok { src with depth := src.depth + 1 }

/-- The error of an unexpected token. -/
def unexpected (tok : Token) (line : Nat) (expected : String) : EngineError :=
  .syntaxError ("unexpected " ++ tok.describe ++ ", expected " ++ expected) line

/-- A reading that used at least one token. -/
abbrev Lt (α : Type) (ts : Tokens) :=
  Except EngineError (α × {r : Tokens // r.length < ts.length})

/-- A reading that may have used no token. -/
abbrev Le (α : Type) (ts : Tokens) :=
  Except EngineError (α × {r : Tokens // r.length ≤ ts.length})

/-- Whether a token is the symbol `s`. -/
def isSym (s : String) : Token → Bool
  | .sym t => t == s
  | _ => false

/-- Whether a token is the name `s`. -/
def isIdent (s : String) : Token → Bool
  | .ident t => t == s
  | _ => false

/-- Whether a token closes a statement. -/
def isBlockEnd : Token → Bool
  | .blockEnd => true
  | _ => false

/-- Whether a token closes an expression tag. -/
def isVarEnd : Token → Bool
  | .varEnd => true
  | _ => false

/-- Whether the next token satisfies `p`. -/
def nextIs (p : Token → Bool) : Tokens → Bool
  | (tok, _) :: _ => p tok
  | [] => false

/-- Reads a token satisfying `p`, or fails naming what was expected. -/
def expect (src : Source) (p : Token → Bool) (expected : String) (ts : Tokens) :
    Except EngineError {r : Tokens // r.length < ts.length} :=
  match ts with
  | (tok, line) :: rest =>
    if p tok then .ok ⟨rest, by simp only [List.length_cons]; omega⟩ else .error (unexpected tok line expected)
  | [] => .error (atEnd src expected)

/-- Reads a token satisfying `p` when it comes next, with its line. -/
def acceptAt? (p : Token → Bool) (ts : Tokens) :
    Option (Nat × {r : Tokens // r.length < ts.length}) :=
  match ts with
  | (tok, line) :: rest => if p tok then some (line, ⟨rest, by simp only [List.length_cons]; omega⟩) else none
  | [] => none

/-- Reads a token satisfying `p` when it comes next. -/
def accept? (p : Token → Bool) (ts : Tokens) : Option {r : Tokens // r.length < ts.length} :=
  (acceptAt? p ts).map (·.2)

/-- The next token with its line, and the tokens after it. -/
def next? (ts : Tokens) : Option ((Token × Nat) × {r : Tokens // r.length < ts.length}) :=
  match ts with
  | t :: rest => some (t, ⟨rest, by simp only [List.length_cons]; omega⟩)
  | [] => none

/-- Reads one token, whatever it is; nothing at the end. -/
def advance (src : Source) (ts : Tokens) : Except EngineError {r : Tokens // r.length ≤ ts.length} :=
  match ts with
  | _ :: rest => .ok ⟨rest, by simp only [List.length_cons]; omega⟩
  | [] =>
    match src.fault with
    | some e => .error e
    | none => .ok ⟨[], Nat.le_refl _⟩

/-- Names that cannot be assigned. -/
def reservedNames : List String := ["true", "True", "false", "False", "none", "None", "loop", "self"]

/-- The attributes `.a.b` after an assigned name. -/
def attrPath (src : Source) : (ts : Tokens) → Le (List String) ts
  | (.sym ".", _) :: (.ident a, _) :: rest =>
    match attrPath src rest with
    | .error e => .error e
    | .ok (as, ⟨r, h⟩) => .ok (a :: as, ⟨r, by simp only [List.length_cons]; omega⟩)
  | (.sym ".", _) :: (tok, line) :: _ => .error (unexpected tok line "identifier")
  | [(.sym ".", _)] => .error (atEnd src "identifier")
  | other => .ok ([], ⟨other, Nat.le_refl _⟩)

/-- An assigned name, with attributes when `dotted` holds. -/
def assignName (src : Source) (dotted : Bool) (ts : Tokens) : Lt Target ts :=
  match ts with
  | (.ident name, line) :: rest =>
    if reservedNames.contains name then
      .error (.syntaxError ("cannot assign to reserved variable name " ++ name) line)
    else if dotted then
      match attrPath src rest with
      | .error e => .error e
      | .ok (as, ⟨r, h⟩) =>
        .ok (if as.isEmpty then .name name else .path name as, ⟨r, by simp only [List.length_cons]; omega⟩)
    else .ok (.name name, ⟨rest, by simp only [List.length_cons]; omega⟩)
  | (tok, line) :: _ => .error (unexpected tok line "identifier")
  | [] => .error (atEnd src "identifier")

/-- The operator of a comparison token. -/
def compareOp : Token → Option BinaryOp
  | .sym "==" => some .eq
  | .sym "!=" => some .ne
  | .sym "<" => some .lt
  | .sym "<=" => some .le
  | .sym ">" => some .gt
  | .sym ">=" => some .ge
  | .ident "in" => some .contains
  | _ => none

/-- The operator of an additive token. -/
def sumOp : Token → Option BinaryOp
  | .sym "+" => some .add
  | .sym "-" => some .sub
  | _ => none

/-- The operator of a multiplicative token. -/
def productOp : Token → Option BinaryOp
  | .sym "*" => some .mul
  | .sym "/" => some .div
  | .sym "//" => some .floorDiv
  | .sym "%" => some .rem
  | _ => none

/-- Whether a token starts the single argument that a test may take without parentheses. -/
def startsBareArgument : Token → Bool
  | .ident w => !(w == "and" || w == "or" || w == "else" || w == "is")
  | .str _ | .int _ | .float _ => true
  | .sym s => s == "+" || s == "-" || s == "[" || s == "\x7b"
  | _ => false

/-- The name a token stands for, if it is a name. -/
def identName? : Token → Option String
  | .ident n => some n
  | _ => none

end Parse

end PromptPipeline.Template

/-! ### Expressions -/

namespace PromptPipeline.Template

namespace Parse

/-- The strings that follow one another, joined, and the tokens after them. -/
def strings : (ts : Tokens) → String × {r : Tokens // r.length ≤ ts.length}
  | (.str s, _) :: rest =>
    let (more, ⟨r, h⟩) := strings rest
    (s ++ more, ⟨r, by simp only [List.length_cons]; omega⟩)
  | other => ("", ⟨other, Nat.le_refl _⟩)

mutual

/-- An expression: one more level of nesting, then an operand with conditional suffixes. -/
def expr (src : Source) (ts : Tokens) : Lt Term ts :=
  match deeper src ts with
  | .error e => .error e
  | .ok src => conditional src ts
termination_by 100 * ts.length + 51
decreasing_by all_goals omega

/-- An operand with conditional suffixes, read at the current level of nesting. -/
def conditional (src : Source) (ts : Tokens) : Lt Term ts :=
  match orLevel src ts with
  | .error e => .error e
  | .ok (e, ⟨r1, h1⟩) =>
    match ifTail src e r1 with
    | .error err => .error err
    | .ok (e2, ⟨r2, h2⟩) => .ok (e2, ⟨r2, by omega⟩)
termination_by 100 * ts.length + 50
decreasing_by all_goals omega

/-- `if test else other` after an expression, any number of times. -/
def ifTail (src : Source) (e : Term) (ts : Tokens) : Le Term ts :=
  match ts with
  | (.ident "if", _) :: rest =>
    match orLevel src rest with
    | .error err => .error err
    | .ok (test, ⟨r1, h1⟩) =>
      match accept? (isIdent "else") r1 with
      | some ⟨r2, h2⟩ =>
        have : r2.length < rest.length := by omega
        match conditional src r2 with
        | .error err => .error err
        | .ok (no, ⟨r3, h3⟩) =>
          match ifTail src (.cond test e (some no) e.line) r3 with
          | .error err => .error err
          | .ok (e2, ⟨r4, h4⟩) => .ok (e2, ⟨r4, by simp only [List.length_cons]; omega⟩)
      | none =>
        match ifTail src (.cond test e none e.line) r1 with
        | .error err => .error err
        | .ok (e2, ⟨r4, h4⟩) => .ok (e2, ⟨r4, by simp only [List.length_cons]; omega⟩)
  | other => .ok (e, ⟨other, Nat.le_refl _⟩)
termination_by 100 * ts.length + 49
decreasing_by all_goals first | omega | (simp only [List.length_cons]; omega)

/-- Operands joined by `or`. -/
def orLevel (src : Source) (ts : Tokens) : Lt Term ts :=
  match andLevel src ts with
  | .error e => .error e
  | .ok (l, ⟨r1, h1⟩) =>
    match orLoop src l r1 with
    | .error e => .error e
    | .ok (e, ⟨r2, h2⟩) => .ok (e, ⟨r2, by omega⟩)
termination_by 100 * ts.length + 48
decreasing_by all_goals omega

/-- The `or` operators after a left operand. -/
def orLoop (src : Source) (left : Term) (ts : Tokens) : Le Term ts :=
  match ts with
  | (.ident "or", _) :: rest =>
    match andLevel src rest with
    | .error e => .error e
    | .ok (right, ⟨r1, h1⟩) =>
      match orLoop src (.binary .or left right left.line) r1 with
      | .error e => .error e
      | .ok (e, ⟨r2, h2⟩) => .ok (e, ⟨r2, by simp only [List.length_cons]; omega⟩)
  | other => .ok (left, ⟨other, Nat.le_refl _⟩)
termination_by 100 * ts.length + 47
decreasing_by all_goals first | omega | (simp only [List.length_cons]; omega)

/-- Operands joined by `and`. -/
def andLevel (src : Source) (ts : Tokens) : Lt Term ts :=
  match notLevel src ts with
  | .error e => .error e
  | .ok (l, ⟨r1, h1⟩) =>
    match andLoop src l r1 with
    | .error e => .error e
    | .ok (e, ⟨r2, h2⟩) => .ok (e, ⟨r2, by omega⟩)
termination_by 100 * ts.length + 46
decreasing_by all_goals omega

/-- The `and` operators after a left operand. -/
def andLoop (src : Source) (left : Term) (ts : Tokens) : Le Term ts :=
  match ts with
  | (.ident "and", _) :: rest =>
    match notLevel src rest with
    | .error e => .error e
    | .ok (right, ⟨r1, h1⟩) =>
      match andLoop src (.binary .and left right left.line) r1 with
      | .error e => .error e
      | .ok (e, ⟨r2, h2⟩) => .ok (e, ⟨r2, by simp only [List.length_cons]; omega⟩)
  | other => .ok (left, ⟨other, Nat.le_refl _⟩)
termination_by 100 * ts.length + 45
decreasing_by all_goals first | omega | (simp only [List.length_cons]; omega)

/-- Any number of `not` before a comparison. -/
def notLevel (src : Source) (ts : Tokens) : Lt Term ts :=
  match ts with
  | (.ident "not", line) :: rest =>
    match notLevel src rest with
    | .error e => .error e
    | .ok (e, ⟨r, h⟩) => .ok (.unary .not e line, ⟨r, by simp only [List.length_cons]; omega⟩)
  | other => compareLevel src other
termination_by 100 * ts.length + 44
decreasing_by all_goals first | omega | (simp only [List.length_cons]; omega)

/-- Operands joined by comparisons. -/
def compareLevel (src : Source) (ts : Tokens) : Lt Term ts :=
  match sumLevel src ts with
  | .error e => .error e
  | .ok (l, ⟨r1, h1⟩) =>
    match compareLoop src l r1 with
    | .error e => .error e
    | .ok (e, ⟨r2, h2⟩) => .ok (e, ⟨r2, by omega⟩)
termination_by 100 * ts.length + 43
decreasing_by all_goals omega

/-- The comparisons after a left operand; `not` must be followed by `in`. -/
def compareLoop (src : Source) (left : Term) (ts : Tokens) : Le Term ts :=
  match ts with
  | (.ident "not", _) :: rest =>
    match rest with
    | (.ident "in", _) :: r1 =>
      match sumLevel src r1 with
      | .error e => .error e
      | .ok (right, ⟨r2, h2⟩) =>
        let t := Term.unary .not (.binary .contains left right left.line) left.line
        match compareLoop src t r2 with
        | .error e => .error e
        | .ok (e, ⟨r3, h3⟩) => .ok (e, ⟨r3, by simp only [List.length_cons]; omega⟩)
    | (tok, line) :: _ => .error (unexpected tok line "in")
    | [] => .error (atEnd src "in")
  | (tok, tl) :: rest =>
    match compareOp tok with
    | some op =>
      match sumLevel src rest with
      | .error e => .error e
      | .ok (right, ⟨r1, h1⟩) =>
        match compareLoop src (.binary op left right left.line) r1 with
        | .error e => .error e
        | .ok (e, ⟨r2, h2⟩) => .ok (e, ⟨r2, by simp only [List.length_cons]; omega⟩)
    | none => .ok (left, ⟨(tok, tl) :: rest, Nat.le_refl _⟩)
  | [] => .ok (left, ⟨[], Nat.le_refl _⟩)
termination_by 100 * ts.length + 42
decreasing_by all_goals first | omega | (simp only [List.length_cons]; omega)

/-- Operands joined by `+` and `-`. -/
def sumLevel (src : Source) (ts : Tokens) : Lt Term ts :=
  match concatLevel src ts with
  | .error e => .error e
  | .ok (l, ⟨r1, h1⟩) =>
    match sumLoop src l r1 with
    | .error e => .error e
    | .ok (e, ⟨r2, h2⟩) => .ok (e, ⟨r2, by omega⟩)
termination_by 100 * ts.length + 41
decreasing_by all_goals omega

/-- The `+` and `-` operators after a left operand. -/
def sumLoop (src : Source) (left : Term) (ts : Tokens) : Le Term ts :=
  match ts with
  | (tok, tl) :: rest =>
    match sumOp tok with
    | some op =>
      match concatLevel src rest with
      | .error e => .error e
      | .ok (right, ⟨r1, h1⟩) =>
        match sumLoop src (.binary op left right left.line) r1 with
        | .error e => .error e
        | .ok (e, ⟨r2, h2⟩) => .ok (e, ⟨r2, by simp only [List.length_cons]; omega⟩)
    | none => .ok (left, ⟨(tok, tl) :: rest, Nat.le_refl _⟩)
  | [] => .ok (left, ⟨[], Nat.le_refl _⟩)
termination_by 100 * ts.length + 40
decreasing_by all_goals first | omega | (simp only [List.length_cons]; omega)

/-- Operands joined by `~`. -/
def concatLevel (src : Source) (ts : Tokens) : Lt Term ts :=
  match productLevel src ts with
  | .error e => .error e
  | .ok (l, ⟨r1, h1⟩) =>
    match concatLoop src l r1 with
    | .error e => .error e
    | .ok (e, ⟨r2, h2⟩) => .ok (e, ⟨r2, by omega⟩)
termination_by 100 * ts.length + 39
decreasing_by all_goals omega

/-- The `~` operators after a left operand. -/
def concatLoop (src : Source) (left : Term) (ts : Tokens) : Le Term ts :=
  match ts with
  | (.sym "~", _) :: rest =>
    match productLevel src rest with
    | .error e => .error e
    | .ok (right, ⟨r1, h1⟩) =>
      match concatLoop src (.binary .concat left right left.line) r1 with
      | .error e => .error e
      | .ok (e, ⟨r2, h2⟩) => .ok (e, ⟨r2, by simp only [List.length_cons]; omega⟩)
  | other => .ok (left, ⟨other, Nat.le_refl _⟩)
termination_by 100 * ts.length + 38
decreasing_by all_goals first | omega | (simp only [List.length_cons]; omega)

/-- Operands joined by `*`, `/`, `//` and `%`. -/
def productLevel (src : Source) (ts : Tokens) : Lt Term ts :=
  match powerLevel src ts with
  | .error e => .error e
  | .ok (l, ⟨r1, h1⟩) =>
    match productLoop src l r1 with
    | .error e => .error e
    | .ok (e, ⟨r2, h2⟩) => .ok (e, ⟨r2, by omega⟩)
termination_by 100 * ts.length + 37
decreasing_by all_goals omega

/-- The multiplicative operators after a left operand. -/
def productLoop (src : Source) (left : Term) (ts : Tokens) : Le Term ts :=
  match ts with
  | (tok, tl) :: rest =>
    match productOp tok with
    | some op =>
      match powerLevel src rest with
      | .error e => .error e
      | .ok (right, ⟨r1, h1⟩) =>
        match productLoop src (.binary op left right left.line) r1 with
        | .error e => .error e
        | .ok (e, ⟨r2, h2⟩) => .ok (e, ⟨r2, by simp only [List.length_cons]; omega⟩)
    | none => .ok (left, ⟨(tok, tl) :: rest, Nat.le_refl _⟩)
  | [] => .ok (left, ⟨[], Nat.le_refl _⟩)
termination_by 100 * ts.length + 36
decreasing_by all_goals first | omega | (simp only [List.length_cons]; omega)

/-- Operands joined by `**`. -/
def powerLevel (src : Source) (ts : Tokens) : Lt Term ts :=
  match unary src ts with
  | .error e => .error e
  | .ok (l, ⟨r1, h1⟩) =>
    match powerLoop src l r1 with
    | .error e => .error e
    | .ok (e, ⟨r2, h2⟩) => .ok (e, ⟨r2, by omega⟩)
termination_by 100 * ts.length + 35
decreasing_by all_goals omega

/-- The `**` operators after a left operand. -/
def powerLoop (src : Source) (left : Term) (ts : Tokens) : Le Term ts :=
  match ts with
  | (.sym "**", _) :: rest =>
    match unary src rest with
    | .error e => .error e
    | .ok (right, ⟨r1, h1⟩) =>
      match powerLoop src (.binary .pow left right left.line) r1 with
      | .error e => .error e
      | .ok (e, ⟨r2, h2⟩) => .ok (e, ⟨r2, by simp only [List.length_cons]; omega⟩)
  | other => .ok (left, ⟨other, Nat.le_refl _⟩)
termination_by 100 * ts.length + 34
decreasing_by all_goals first | omega | (simp only [List.length_cons]; omega)

/-- A unary expression with its accesses, filters and tests. -/
def unary (src : Source) (ts : Tokens) : Lt Term ts :=
  match unaryOnly src ts with
  | .error e => .error e
  | .ok (e, ⟨r1, h1⟩) =>
    match accessChain src e r1 with
    | .error err => .error err
    | .ok (e2, ⟨r2, h2⟩) =>
      match filterChain src e2 r2 with
      | .error err => .error err
      | .ok (e3, ⟨r3, h3⟩) => .ok (e3, ⟨r3, by omega⟩)
termination_by 100 * ts.length + 33
decreasing_by all_goals omega

/-- A primary with any number of `-` before it. -/
def unaryOnly (src : Source) (ts : Tokens) : Lt Term ts :=
  match ts with
  | (.sym "-", line) :: rest =>
    match unaryOnly src rest with
    | .error e => .error e
    | .ok (e, ⟨r, h⟩) => .ok (.unary .neg e line, ⟨r, by simp only [List.length_cons]; omega⟩)
  | other => primary src other
termination_by 100 * ts.length + 32
decreasing_by all_goals first | omega | (simp only [List.length_cons]; omega)

/-- A constant, a name, a parenthesised expression or tuple, a list or a map. -/
def primary (src : Source) (ts : Tokens) : Lt Term ts :=
  match deeper src ts with
  | .error e => .error e
  | .ok src =>
  match ts with
  | [] => .error (atEnd src "expression")
  | (tok, line) :: rest =>
    match tok with
    | .ident "true" | .ident "True" => .ok (.const (.bool true) line, ⟨rest, by simp only [List.length_cons]; omega⟩)
    | .ident "false" | .ident "False" => .ok (.const (.bool false) line, ⟨rest, by simp only [List.length_cons]; omega⟩)
    | .ident "none" | .ident "None" => .ok (.const .none line, ⟨rest, by simp only [List.length_cons]; omega⟩)
    | .ident name => .ok (.var name line, ⟨rest, by simp only [List.length_cons]; omega⟩)
    | .str s =>
      let (more, r) := strings rest
      .ok (.const (.str (s ++ more) false) line, ⟨r.1, by have := r.2; simp only [List.length_cons]; omega⟩)
    | .int n => .ok (.const (.int n) line, ⟨rest, by simp only [List.length_cons]; omega⟩)
    | .float x => .ok (.const (.float x) line, ⟨rest, by simp only [List.length_cons]; omega⟩)
    | .sym "(" =>
      match tupleOrExpr src line rest with
      | .error e => .error e
      | .ok (e, ⟨r, h⟩) => .ok (e, ⟨r, by simp only [List.length_cons]; omega⟩)
    | .sym "[" =>
      match listLoop src [] rest with
      | .error e => .error e
      | .ok (xs, ⟨r, h⟩) => .ok (.list xs line, ⟨r, by simp only [List.length_cons]; omega⟩)
    | .sym "\x7b" =>
      match mapLoop src [] rest with
      | .error e => .error e
      | .ok (es, ⟨r, h⟩) => .ok (.map es line, ⟨r, by simp only [List.length_cons]; omega⟩)
    | other => .error (.syntaxError ("unexpected " ++ other.describe) line)
termination_by 100 * ts.length + 31
decreasing_by all_goals first | omega | (simp only [List.length_cons]; omega)

/-- Accesses after an expression: `.name`, `[key]`, slices and calls. -/
def accessChain (src : Source) (e : Term) (ts : Tokens) : Le Term ts :=
  match ts with
  | (.sym ".", _) :: rest =>
    match rest with
    | (.ident name, _) :: r1 =>
      match accessChain src (.attr e name e.line) r1 with
      | .error err => .error err
      | .ok (e2, ⟨r2, h2⟩) => .ok (e2, ⟨r2, by simp only [List.length_cons]; omega⟩)
    | (.int n, nl) :: r1 =>
      match accessChain src (.item e (.const (.int n) nl) e.line) r1 with
      | .error err => .error err
      | .ok (e2, ⟨r2, h2⟩) => .ok (e2, ⟨r2, by simp only [List.length_cons]; omega⟩)
    | (tok, line) :: _ => .error (unexpected tok line "identifier or integer")
    | [] => .error (atEnd src "identifier or integer")
  | (.sym "[", _) :: rest =>
    match subscript src e rest with
    | .error err => .error err
    | .ok (e2, ⟨r1, h1⟩) =>
      match accessChain src e2 r1 with
      | .error err => .error err
      | .ok (e3, ⟨r2, h2⟩) => .ok (e3, ⟨r2, by simp only [List.length_cons]; omega⟩)
  | (.sym "(", _) :: rest =>
    match argsLoop src [] false rest with
    | .error err => .error err
    | .ok (args, ⟨r1, h1⟩) =>
      match accessChain src (.call e args e.line) r1 with
      | .error err => .error err
      | .ok (e2, ⟨r2, h2⟩) => .ok (e2, ⟨r2, by simp only [List.length_cons]; omega⟩)
  | other => .ok (e, ⟨other, Nat.le_refl _⟩)
termination_by 100 * ts.length + 30
decreasing_by all_goals first | omega | (simp only [List.length_cons]; omega)

/-- Filters `| name(args)` and tests `is [not] name args` after an expression. -/
def filterChain (src : Source) (e : Term) (ts : Tokens) : Le Term ts :=
  match ts with
  | (.sym "|", _) :: rest =>
    match rest with
    | (.ident name, _) :: r1 =>
      match r1 with
      | (.sym "(", _) :: r2 =>
        match argsLoop src [] false r2 with
        | .error err => .error err
        | .ok (args, ⟨r3, h3⟩) =>
          match filterChain src (.filter name (some e) args e.line) r3 with
          | .error err => .error err
          | .ok (e2, ⟨r4, h4⟩) => .ok (e2, ⟨r4, by simp only [List.length_cons]; omega⟩)
      | other =>
        match filterChain src (.filter name (some e) [] e.line) other with
        | .error err => .error err
        | .ok (e2, ⟨r4, h4⟩) => .ok (e2, ⟨r4, by simp only [List.length_cons]; omega⟩)
    | (tok, line) :: _ => .error (unexpected tok line "identifier")
    | [] => .error (atEnd src "identifier")
  | (.ident "is", _) :: rest =>
    match rest with
    | (.ident "not", _) :: r1 =>
      match testTail src e true r1 with
      | .error err => .error err
      | .ok (e2, ⟨r2, h2⟩) => .ok (e2, ⟨r2, by simp only [List.length_cons]; omega⟩)
    | other =>
      match testTail src e false other with
      | .error err => .error err
      | .ok (e2, ⟨r2, h2⟩) => .ok (e2, ⟨r2, by simp only [List.length_cons]; omega⟩)
  | other => .ok (e, ⟨other, Nat.le_refl _⟩)
termination_by 100 * ts.length + 29
decreasing_by all_goals first | omega | (simp only [List.length_cons]; omega)

/-- The name and arguments of a test, then further filters and tests. -/
def testTail (src : Source) (e : Term) (negated : Bool) (ts : Tokens) : Le Term ts :=
  match ts with
  | (.ident name, _) :: r1 =>
    match testArgs src r1 with
    | .error err => .error err
    | .ok (args, ⟨r2, h2⟩) =>
      let t := Term.test name e args e.line
      let t := if negated then Term.unary .not t e.line else t
      match filterChain src t r2 with
      | .error err => .error err
      | .ok (e2, ⟨r3, h3⟩) => .ok (e2, ⟨r3, by simp only [List.length_cons]; omega⟩)
  | (tok, line) :: _ => .error (unexpected tok line "identifier")
  | [] => .error (atEnd src "identifier")
termination_by 100 * ts.length + 28
decreasing_by all_goals first | omega | (simp only [List.length_cons]; omega)

/-- The arguments of a test: in parentheses, one bare argument, or none. -/
def testArgs (src : Source) (ts : Tokens) : Le (List (Option String × Term)) ts :=
  match ts with
  | (.sym "(", _) :: rest =>
    match argsLoop src [] false rest with
    | .error err => .error err
    | .ok (args, ⟨r, h⟩) => .ok (args, ⟨r, by simp only [List.length_cons]; omega⟩)
  | (tok, tl) :: rest =>
    if startsBareArgument tok then
      match unaryOnly src ((tok, tl) :: rest) with
      | .error err => .error err
      | .ok (a, ⟨r1, h1⟩) =>
        have : r1.length < rest.length + 1 := by simp only [List.length_cons] at h1; exact h1
        match accessChain src a r1 with
        | .error err => .error err
        | .ok (a2, ⟨r2, h2⟩) => .ok ([(none, a2)], ⟨r2, by omega⟩)
    else .ok ([], ⟨(tok, tl) :: rest, Nat.le_refl _⟩)
  | [] => .ok ([], ⟨[], Nat.le_refl _⟩)
termination_by 100 * ts.length + 61
decreasing_by all_goals first | omega | (simp only [List.length_cons]; omega)

/-- The subscript after `[`: a key, or a slice `start:stop:step` with parts left out. -/
def subscript (src : Source) (base : Term) (ts : Tokens) : Lt Term ts :=
  match ts with
  | (.sym ":", cl) :: rest =>
    match sliceRest src base none rest with
    | .error err => .error err
    | .ok (e, ⟨r, h⟩) => .ok (e, ⟨r, by simp only [List.length_cons]; omega⟩)
  | other =>
    match expr src other with
    | .error err => .error err
    | .ok (start, ⟨r1, h1⟩) =>
      match accept? (isSym ":") r1 with
      | some ⟨r2, h2⟩ =>
        have : r2.length < other.length := by omega
        match sliceRest src base (some start) r2 with
        | .error err => .error err
        | .ok (e, ⟨r3, h3⟩) => .ok (e, ⟨r3, by omega⟩)
      | none =>
        match expect src (isSym "]") "`]`" r1 with
        | .error err => .error err
        | .ok ⟨r2, h2⟩ => .ok (.item base start base.line, ⟨r2, by omega⟩)
termination_by 100 * ts.length + 53
decreasing_by all_goals first | omega | (simp only [List.length_cons]; omega)

/-- The rest of a slice after its first colon. -/
def sliceRest (src : Source) (base : Term) (start : Option Term) (ts : Tokens) :
    Le Term ts :=
  let stopPart : Le (Option Term) ts :=
    if nextIs (fun t => isSym "]" t || isSym ":" t) ts then .ok (none, ⟨ts, Nat.le_refl _⟩)
    else
      match expr src ts with
      | .error err => .error err
      | .ok (e, ⟨r, h⟩) => .ok (some e, ⟨r, by omega⟩)
  match stopPart with
  | .error err => .error err
  | .ok (stop, ⟨r1, h1⟩) =>
    match accept? (isSym ":") r1 with
    | some ⟨r2, h2⟩ =>
      have : r2.length < ts.length := by omega
      let stepPart : Le (Option Term) r2 :=
        if nextIs (isSym "]") r2 then .ok (none, ⟨r2, Nat.le_refl _⟩)
        else
          match expr src r2 with
          | .error err => .error err
          | .ok (e, ⟨r, h⟩) => .ok (some e, ⟨r, by omega⟩)
      match stepPart with
      | .error err => .error err
      | .ok (step, ⟨r3, h3⟩) =>
        match expect src (isSym "]") "`]`" r3 with
        | .error err => .error err
        | .ok ⟨r4, h4⟩ => .ok (.slice base start stop step base.line, ⟨r4, by omega⟩)
    | none =>
      match expect src (isSym "]") "`]`" r1 with
      | .error err => .error err
      | .ok ⟨r2, h2⟩ => .ok (.slice base start stop none base.line, ⟨r2, by omega⟩)
termination_by 100 * ts.length + 52
decreasing_by all_goals omega

/-- Arguments of a call up to `)`; `keyword` holds once a named argument was read. -/
def argsLoop (src : Source) (acc : List (Option String × Term)) (keyword : Bool) (ts : Tokens) :
    Lt (List (Option String × Term)) ts :=
  match ts with
  | (.sym ")", _) :: rest => .ok (acc.reverse, ⟨rest, by simp only [List.length_cons]; omega⟩)
  | other =>
    if acc.isEmpty && !keyword then argItem src acc keyword other
    else
      match expect src (isSym ",") "`,`" other with
      | .error err => .error err
      | .ok ⟨r1, h1⟩ =>
        match accept? (isSym ")") r1 with
        | some ⟨r2, h2⟩ => .ok (acc.reverse, ⟨r2, by omega⟩)
        | none =>
          match argItem src acc keyword r1 with
          | .error err => .error err
          | .ok (args, ⟨r2, h2⟩) => .ok (args, ⟨r2, by omega⟩)
termination_by 100 * ts.length + 59
decreasing_by all_goals omega

/-- One argument, positional or `name=value`, then the rest of the arguments. -/
def argItem (src : Source) (acc : List (Option String × Term)) (keyword : Bool) (ts : Tokens) :
    Lt (List (Option String × Term)) ts :=
  match expr src ts with
  | .error err => .error err
  | .ok (e, ⟨r1, h1⟩) =>
    let named : Option String := match e with
      | .var name _ => some name
      | _ => none
    match named, accept? (isSym "=") r1 with
    | some name, some ⟨r2, h2⟩ =>
      have : r2.length < ts.length := by omega
      match orLevel src r2 with
      | .error err => .error err
      | .ok (v, ⟨r3, h3⟩) =>
        match argsLoop src ((some name, v) :: acc) true r3 with
        | .error err => .error err
        | .ok (args, ⟨r4, h4⟩) => .ok (args, ⟨r4, by omega⟩)
    | _, _ =>
      if keyword then .error (.syntaxError "non-keyword arg after keyword arg" e.line)
      else
        match argsLoop src ((none, e) :: acc) false r1 with
        | .error err => .error err
        | .ok (args, ⟨r2, h2⟩) => .ok (args, ⟨r2, by omega⟩)
termination_by 100 * ts.length + 58
decreasing_by all_goals omega

/-- Items of a list up to `]`. -/
def listLoop (src : Source) (acc : List Term) (ts : Tokens) : Lt (List Term) ts :=
  match ts with
  | (.sym "]", _) :: rest => .ok (acc.reverse, ⟨rest, by simp only [List.length_cons]; omega⟩)
  | other =>
    if acc.isEmpty then listItem src acc other
    else
      match expect src (isSym ",") "`,`" other with
      | .error err => .error err
      | .ok ⟨r1, h1⟩ =>
        match accept? (isSym "]") r1 with
        | some ⟨r2, h2⟩ => .ok (acc.reverse, ⟨r2, by omega⟩)
        | none =>
          match listItem src acc r1 with
          | .error err => .error err
          | .ok (xs, ⟨r2, h2⟩) => .ok (xs, ⟨r2, by omega⟩)
termination_by 100 * ts.length + 57
decreasing_by all_goals omega

/-- One item of a list, then the rest of the list. -/
def listItem (src : Source) (acc : List Term) (ts : Tokens) : Lt (List Term) ts :=
  match expr src ts with
  | .error err => .error err
  | .ok (e, ⟨r1, h1⟩) =>
    match listLoop src (e :: acc) r1 with
    | .error err => .error err
    | .ok (xs, ⟨r2, h2⟩) => .ok (xs, ⟨r2, by omega⟩)
termination_by 100 * ts.length + 56
decreasing_by all_goals omega

/-- Entries of a map up to `}`. -/
def mapLoop (src : Source) (acc : List (Term × Term)) (ts : Tokens) :
    Lt (List (Term × Term)) ts :=
  match ts with
  | (.sym "\x7d", _) :: rest => .ok (acc.reverse, ⟨rest, by simp only [List.length_cons]; omega⟩)
  | other =>
    if acc.isEmpty then mapItem src acc other
    else
      match expect src (isSym ",") "`,`" other with
      | .error err => .error err
      | .ok ⟨r1, h1⟩ =>
        match accept? (isSym "\x7d") r1 with
        | some ⟨r2, h2⟩ => .ok (acc.reverse, ⟨r2, by omega⟩)
        | none =>
          match mapItem src acc r1 with
          | .error err => .error err
          | .ok (es, ⟨r2, h2⟩) => .ok (es, ⟨r2, by omega⟩)
termination_by 100 * ts.length + 55
decreasing_by all_goals omega

/-- One entry `key: value` of a map, then the rest of the map. -/
def mapItem (src : Source) (acc : List (Term × Term)) (ts : Tokens) :
    Lt (List (Term × Term)) ts :=
  match expr src ts with
  | .error err => .error err
  | .ok (k, ⟨r1, h1⟩) =>
    match expect src (isSym ":") "`:`" r1 with
    | .error err => .error err
    | .ok ⟨r2, h2⟩ =>
      match expr src r2 with
      | .error err => .error err
      | .ok (v, ⟨r3, h3⟩) =>
        match mapLoop src ((k, v) :: acc) r3 with
        | .error err => .error err
        | .ok (es, ⟨r4, h4⟩) => .ok (es, ⟨r4, by omega⟩)
termination_by 100 * ts.length + 54
decreasing_by all_goals omega

/-- After `(`: `()` is an empty tuple, `(a)` is `a`, and `(a, b)` a tuple. -/
def tupleOrExpr (src : Source) (line : Nat) (ts : Tokens) : Lt Term ts :=
  match ts with
  | (.sym ")", _) :: rest => .ok (.list [] line, ⟨rest, by simp only [List.length_cons]; omega⟩)
  | other =>
    match expr src other with
    | .error err => .error err
    | .ok (e, ⟨r1, h1⟩) =>
      if nextIs (isSym ",") r1 then
        match tupleLoop src [e] r1 with
        | .error err => .error err
        | .ok (xs, ⟨r2, h2⟩) => .ok (.list xs line, ⟨r2, by omega⟩)
      else
        match expect src (isSym ")") "`)`" r1 with
        | .error err => .error err
        | .ok ⟨r2, h2⟩ => .ok (e, ⟨r2, by omega⟩)
termination_by 100 * ts.length + 60
decreasing_by all_goals omega

/-- Further items of a tuple up to `)`. -/
def tupleLoop (src : Source) (acc : List Term) (ts : Tokens) : Lt (List Term) ts :=
  match ts with
  | (.sym ")", _) :: rest => .ok (acc.reverse, ⟨rest, by simp only [List.length_cons]; omega⟩)
  | other =>
    match expect src (isSym ",") "`,`" other with
    | .error err => .error err
    | .ok ⟨r1, h1⟩ =>
      match accept? (isSym ")") r1 with
      | some ⟨r2, h2⟩ => .ok (acc.reverse, ⟨r2, by omega⟩)
      | none =>
        match expr src r1 with
        | .error err => .error err
        | .ok (e, ⟨r2, h2⟩) =>
          match tupleLoop src (e :: acc) r2 with
          | .error err => .error err
          | .ok (xs, ⟨r3, h3⟩) => .ok (xs, ⟨r3, by omega⟩)
termination_by 100 * ts.length + 53
decreasing_by all_goals omega

end

end Parse

/-- What a kind of expression is called in messages. -/
def Term.describe : Term → String
  | .var .. => "variable"
  | .const .. => "constant"
  | .call .. => "call"
  | .list .. => "list literal"
  | .map .. => "map literal"
  | .test .. => "test expression"
  | .filter .. => "filter expression"
  | _ => "expression"

end PromptPipeline.Template

/-! ### Statements -/

namespace PromptPipeline.Template

namespace Parse

/-- Reads `with context` or `without context` where it stands. -/
def skipContext (src : Source) (ts : Tokens) : Except EngineError {r : Tokens // r.length ≤ ts.length} :=
  match ts with
  | (.ident w, l) :: rest =>
    if w == "with" || w == "without" then
      match expect src (isIdent "context") "context" rest with
      | .error e => .error e
      | .ok ⟨r, h⟩ => .ok ⟨r, by simp only [List.length_cons]; omega⟩
    else .ok ⟨(.ident w, l) :: rest, Nat.le_refl _⟩
  | other => .ok ⟨other, Nat.le_refl _⟩

mutual
/-- The parameters of a macro up to `)`: names, each with a default value once an earlier one
has one. -/
def paramsLoop (src : Source) (names : List String) (defaults : List Term) (ts : Tokens) :
    Lt Params ts :=
  match accept? (isSym ")") ts with
  | some r => .ok (⟨names.reverse, defaults.reverse⟩, r)
  | none =>
    if names.isEmpty then paramItem src names defaults ts
    else
      match expect src (isSym ",") "`,`" ts with
      | .error e => .error e
      | .ok ⟨r1, h1⟩ =>
        match accept? (isSym ")") r1 with
        | some ⟨r2, h2⟩ => .ok (⟨names.reverse, defaults.reverse⟩, ⟨r2, by omega⟩)
        | none =>
          match paramItem src names defaults r1 with
          | .error e => .error e
          | .ok (p, ⟨r2, h2⟩) => .ok (p, ⟨r2, by omega⟩)
termination_by 2 * ts.length + 1
decreasing_by all_goals omega

/-- One parameter with its default, then the others. -/
def paramItem (src : Source) (names : List String) (defaults : List Term) (ts : Tokens) :
    Lt Params ts :=
  match assignName src false ts with
  | .error e => .error e
  | .ok (target, ⟨r1, h1⟩) =>
    let name := match target with
      | .name n => n
      | _ => ""
    match accept? (isSym "=") r1 with
    | some ⟨r2, h2⟩ =>
      match expr src r2 with
      | .error e => .error e
      | .ok (d, ⟨r3, h3⟩) =>
        match paramsLoop src (name :: names) (d :: defaults) r3 with
        | .error e => .error e
        | .ok (p, ⟨r4, h4⟩) => .ok (p, ⟨r4, by omega⟩)
    | none =>
      if defaults.isEmpty then
        match paramsLoop src (name :: names) defaults r1 with
        | .error e => .error e
        | .ok (p, ⟨r2, h2⟩) => .ok (p, ⟨r2, by omega⟩)
      else
        .error (match r1 with
          | (tok, l) :: _ => unexpected tok l "`=`"
          | [] => atEnd src "`=`")
termination_by 2 * ts.length
decreasing_by all_goals omega
end

/-- Whether the tokens start with `with` or `without`. -/
def startsContext : Tokens → Bool
  | (.ident w, _) :: _ => w == "with" || w == "without"
  | _ => false

/-- Whether the names after `from … import` end here: at a context marker, the end of the tag,
or the end of the tokens. -/
def endsImports (ts : Tokens) : Bool :=
  startsContext ts || nextIs isBlockEnd ts || ts.isEmpty

/-- The names after `from … import`: names with an optional `as` alias, separated by commas,
up to the end of the tag or a context marker. -/
def importNames (src : Source) (first : Bool) (ts : Tokens) :
    Except EngineError {r : Tokens // r.length ≤ ts.length} :=
  if endsImports ts then
    if startsContext ts then skipContext src ts else .ok ⟨ts, Nat.le_refl _⟩
  else
    let afterComma : Except EngineError {r : Tokens // r.length ≤ ts.length} :=
      if first then .ok ⟨ts, Nat.le_refl _⟩
      else (expect src (isSym ",") "`,`" ts).map fun ⟨r, h⟩ => ⟨r, by omega⟩
    match afterComma with
    | .error e => .error e
    | .ok ⟨r1, h1⟩ =>
      if endsImports r1 then
        if startsContext r1 then (skipContext src r1).map fun ⟨r, h⟩ => ⟨r, by omega⟩
        else .ok ⟨r1, h1⟩
      else
        match assignName src false r1 with
        | .error e => .error e
        | .ok (_, ⟨r2, h2⟩) =>
          match accept? (isIdent "as") r2 with
          | some ⟨ra, ha⟩ =>
            match assignName src false ra with
            | .error e => .error e
            | .ok (_, ⟨rb, hb⟩) =>
              match importNames src false rb with
              | .error e => .error e
              | .ok ⟨r, h⟩ => .ok ⟨r, by omega⟩
          | none =>
            match importNames src false r2 with
            | .error e => .error e
            | .ok ⟨r, h⟩ => .ok ⟨r, by omega⟩
termination_by ts.length
decreasing_by all_goals omega

/-- `include name [ignore missing] [with context]`. -/
def includeStmt (src : Source) (line : Nat) (ts : Tokens) : Le Node ts :=
  match expr src ts with
  | .error e => .error e
  | .ok (name, ⟨r1, h1⟩) =>
    let ignored : Except EngineError (Bool × {r : Tokens // r.length ≤ r1.length}) :=
      match accept? (isIdent "ignore") r1 with
      | some ⟨r2, h2⟩ =>
        match expect src (isIdent "missing") "missing keyword" r2 with
        | .error e => .error e
        | .ok ⟨r3, h3⟩ => .ok (true, ⟨r3, by omega⟩)
      | none => .ok (false, ⟨r1, Nat.le_refl _⟩)
    match ignored with
    | .error e => .error e
    | .ok (ignore, ⟨r2, h2⟩) =>
      match skipContext src r2 with
      | .error e => .error e
      | .ok ⟨r3, h3⟩ => .ok (.load name ignore line, ⟨r3, by omega⟩)

/-- `import name as alias [with context]`. -/
def importStmt (src : Source) (line : Nat) (ts : Tokens) : Le Node ts :=
  match expr src ts with
  | .error e => .error e
  | .ok (name, ⟨r1, h1⟩) =>
    match expect src (isIdent "as") "as" r1 with
    | .error e => .error e
    | .ok ⟨r2, h2⟩ =>
      match expr src r2 with
      | .error e => .error e
      | .ok (_, ⟨r3, h3⟩) =>
        match skipContext src r3 with
        | .error e => .error e
        | .ok ⟨r4, h4⟩ => .ok (.load name false line, ⟨r4, by omega⟩)

/-- `from name import a, b as c [with context]`. -/
def fromStmt (src : Source) (line : Nat) (ts : Tokens) : Le Node ts :=
  match expr src ts with
  | .error e => .error e
  | .ok (name, ⟨r1, h1⟩) =>
    match expect src (isIdent "import") "import" r1 with
    | .error e => .error e
    | .ok ⟨r2, h2⟩ =>
      match importNames src true r2 with
      | .error e => .error e
      | .ok ⟨r3, h3⟩ => .ok (.load name false line, ⟨r3, by omega⟩)

/-- `extends name`. -/
def extendsStmt (src : Source) (line : Nat) (ts : Tokens) : Le Node ts :=
  match expr src ts with
  | .error e => .error e
  | .ok (name, ⟨r1, h1⟩) => .ok (.extend name line, ⟨r1, by omega⟩)

/-- `do call`: a call evaluated for its effect. -/
def doStmt (src : Source) (line : Nat) (ts : Tokens) : Le Node ts :=
  match expr src ts with
  | .error e => .error e
  | .ok (call, ⟨r1, h1⟩) =>
    match call with
    | .call .. => .ok (.exec call line, ⟨r1, by omega⟩)
    | other =>
      .error (.syntaxError ("expected call expression in call block, got " ++ other.describe)
        other.line)

/-- The condition of a loop's items, `if condition`, when one comes next. -/
def loopFilter (src : Source) (ts : Tokens) : Le (Option Term) ts :=
  match ts with
  | (.ident "if", _) :: r =>
    match expr src r with
    | .error e => .error e
    | .ok (c, ⟨r', h'⟩) => .ok (some c, ⟨r', by simp only [List.length_cons]; omega⟩)
  | other => .ok (none, ⟨other, Nat.le_refl _⟩)

/-- Whether a loop is marked `recursive`, and the tokens after the mark. -/
def loopRecursive (ts : Tokens) : Bool × {r : Tokens // r.length ≤ ts.length} :=
  match ts with
  | (.ident "recursive", _) :: r => (true, ⟨r, by simp only [List.length_cons]; omega⟩)
  | other => (false, ⟨other, Nat.le_refl _⟩)

mutual

/-- A target in parentheses, or a plain name. -/
def targetOrParen (src : Source) (ts : Tokens) : Lt Target ts :=
  match ts with
  | (.sym "(", _) :: rest =>
    match assignment src rest with
    | .error err => .error err
    | .ok (t, ⟨r1, h1⟩) =>
      match expect src (isSym ")") "`)`" r1 with
      | .error err => .error err
      | .ok ⟨r2, h2⟩ => .ok (t, ⟨r2, by simp only [List.length_cons]; omega⟩)
  | other => assignName src false other
termination_by 100 * ts.length + 70
decreasing_by all_goals first | omega | (simp only [List.length_cons]; omega)

/-- The targets of a loop or a parenthesised assignment: one name, or several separated by
commas. -/
def assignment (src : Source) (ts : Tokens) : Le Target ts :=
  match assignmentLoop src [] false ts with
  | .error err => .error err
  | .ok ((items, tuple), ⟨r, h⟩) =>
    let t := match items, tuple with
      | [t], false => t
      | items, _ => .tuple items
    .ok (t, ⟨r, h⟩)
termination_by 100 * ts.length + 73
decreasing_by all_goals omega

/-- Targets separated by commas, after those in `acc`. -/
def assignmentLoop (src : Source) (acc : List Target) (tuple : Bool) (ts : Tokens) :
    Le (List Target × Bool) ts :=
  if acc.isEmpty then assignmentItem src acc tuple ts
  else
    match expect src (isSym ",") "`,`" ts with
    | .error err => .error err
    | .ok ⟨r1, h1⟩ =>
      match assignmentItem src acc tuple r1 with
      | .error err => .error err
      | .ok (x, ⟨r2, h2⟩) => .ok (x, ⟨r2, by omega⟩)
termination_by 100 * ts.length + 72
decreasing_by all_goals omega

/-- One target unless the targets end here. -/
def assignmentItem (src : Source) (acc : List Target) (tuple : Bool) (ts : Tokens) :
    Le (List Target × Bool) ts :=
  if nextIs (fun t => isSym ")" t || isVarEnd t || isBlockEnd t || isIdent "in" t) ts then
    .ok ((acc.reverse, tuple), ⟨ts, Nat.le_refl _⟩)
  else
    match targetOrParen src ts with
    | .error err => .error err
    | .ok (t, ⟨r1, h1⟩) =>
      if nextIs (isSym ",") r1 then
        match assignmentLoop src (t :: acc) true r1 with
        | .error err => .error err
        | .ok (x, ⟨r2, h2⟩) => .ok (x, ⟨r2, by omega⟩)
      else .ok (((t :: acc).reverse, tuple), ⟨r1, by omega⟩)
termination_by 100 * ts.length + 71
decreasing_by all_goals omega

/-- Nodes up to the end of the tokens or to a statement opened by a word for which `stop`
holds; the tokens left start at that word. -/
def body (src : Source) (stop : String → Bool) (acc : List Node) (ts : Tokens) :
    Le (List Node) ts :=
  match ts with
  | [] =>
    match src.fault with
    | some e => .error e
    | none => .ok (acc.reverse, ⟨[], Nat.le_refl _⟩)
  | (.data s, _) :: rest =>
    match body src stop (.text s :: acc) rest with
    | .error e => .error e
    | .ok (ns, ⟨r, h⟩) => .ok (ns, ⟨r, by simp only [List.length_cons]; omega⟩)
  | (.varStart, _) :: rest =>
    match expr src rest with
    | .error e => .error e
    | .ok (e, ⟨r1, h1⟩) =>
      match expect src isVarEnd "end of variable block" r1 with
      | .error err => .error err
      | .ok ⟨r2, h2⟩ =>
        match body src stop (.emit e e.line :: acc) r2 with
        | .error err => .error err
        | .ok (ns, ⟨r3, h3⟩) => .ok (ns, ⟨r3, by simp only [List.length_cons]; omega⟩)
  | (.blockStart, line) :: rest =>
    match rest with
    | [] =>
      match src.fault with
      | some e => .error e
      | none => .error (.syntaxError "unexpected end of input, expected keyword" line)
    | (tok, tl) :: r1 =>
      let stops := match tok with
        | .ident k => stop k
        | _ => false
      if stops then .ok (acc.reverse, ⟨(tok, tl) :: r1, by simp only [List.length_cons]; omega⟩)
      else
        match statement src ((tok, tl) :: r1) with
        | .error e => .error e
        | .ok (node, ⟨r2, h2⟩) =>
          match expect src isBlockEnd "end of block" r2 with
          | .error err => .error err
          | .ok ⟨r3, h3⟩ =>
            have : r3.length < r1.length + 1 := by simp only [List.length_cons] at h2; omega
            match body src stop (node :: acc) r3 with
            | .error err => .error err
            | .ok (ns, ⟨r4, h4⟩) => .ok (ns, ⟨r4, by simp only [List.length_cons]; omega⟩)
  | (tok, line) :: _ => .error (.syntaxError ("unexpected " ++ tok.describe) line)
termination_by 100 * ts.length + 87
decreasing_by all_goals first | omega | (simp only [List.length_cons]; omega)

/-- A statement, at its opening word. -/
def statement (src : Source) (ts : Tokens) : Le Node ts :=
  match deeper src ts with
  | .error e => .error e
  | .ok src =>
  match ts with
  | [] => .error (atEnd src "block keyword")
  | (.ident word, line) :: rest =>
    let inner : Le Node rest :=
      if word == "for" then forStmt src line rest
      else if word == "if" then ifStmt src line rest
      else if word == "with" then withStmt src line rest
      else if word == "set" then setStmt src line rest
      else if word == "filter" then filterStmt src line rest
      else if word == "autoescape" then autoescapeStmt src line rest
      else if word == "macro" then macroStmt src line rest
      else if word == "call" then callStmt src line rest
      else if word == "block" then blockStmt src line rest
      else if word == "include" then includeStmt src line rest
      else if word == "import" then importStmt src line rest
      else if word == "from" then fromStmt src line rest
      else if word == "extends" then extendsStmt src line rest
      else if word == "do" then doStmt src line rest
      else .error (.syntaxError ("unknown statement " ++ word) line)
    match inner with
    | .error e => .error e
    | .ok (n, ⟨r, h⟩) => .ok (n, ⟨r, by simp only [List.length_cons]; omega⟩)
  | (tok, line) :: _ => .error (.syntaxError ("unknown " ++ tok.describe ++ ", expected statement") line)
termination_by 100 * ts.length + 86
decreasing_by all_goals first | omega | (simp only [List.length_cons]; omega)

/-- `for targets in iterable [if condition] [recursive]`, its body, an optional `else` body, and
`endfor`. -/
def forStmt (src : Source) (line : Nat) (ts : Tokens) : Le Node ts :=
  match assignment src ts with
  | .error e => .error e
  | .ok (target, ⟨r1, h1⟩) =>
    match expect src (isIdent "in") "in" r1 with
    | .error e => .error e
    | .ok ⟨r2, h2⟩ =>
      match orLevel src r2 with
      | .error e => .error e
      | .ok (iter, ⟨r3, h3⟩) =>
        match loopFilter src r3 with
        | .error e => .error e
        | .ok (filter, ⟨r4, h4⟩) =>
          let (recursive, r5) := loopRecursive r4
          match expect src isBlockEnd "end of block" r5.1 with
          | .error e => .error e
          | .ok ⟨r6, h6⟩ =>
            have : r6.length < ts.length := by have := r5.2; omega
            match body src (fun k => k == "endfor" || k == "else") [] r6 with
            | .error e => .error e
            | .ok (nodes, ⟨r7, h7⟩) =>
              match accept? (isIdent "else") r7 with
              | some ⟨r8, h8⟩ =>
                have : r8.length < ts.length := by omega
                match expect src isBlockEnd "end of block" r8 with
                | .error e => .error e
                | .ok ⟨r9, h9⟩ =>
                  match body src (· == "endfor") [] r9 with
                  | .error e => .error e
                  | .ok (others, ⟨r10, h10⟩) =>
                    match advance src r10 with
                    | .error e => .error e
                    | .ok ⟨r11, h11⟩ =>
                      .ok (.forLoop target iter filter recursive nodes others line, ⟨r11, by omega⟩)
              | none =>
                match advance src r7 with
                | .error e => .error e
                | .ok ⟨r8, h8⟩ =>
                  .ok (.forLoop target iter filter recursive nodes [] line, ⟨r8, by omega⟩)
termination_by 100 * ts.length + 85
decreasing_by all_goals omega

/-- `if condition`, its body, then `elif`, `else` or `endif`. -/
def ifStmt (src : Source) (line : Nat) (ts : Tokens) : Le Node ts :=
  match orLevel src ts with
  | .error e => .error e
  | .ok (test, ⟨r1, h1⟩) =>
    match expect src isBlockEnd "end of block" r1 with
    | .error e => .error e
    | .ok ⟨r2, h2⟩ =>
      match body src (fun k => k == "elif" || k == "else" || k == "endif") [] r2 with
      | .error e => .error e
      | .ok (yes, ⟨r3, h3⟩) =>
        match acceptAt? (isIdent "else") r3, acceptAt? (isIdent "elif") r3 with
        | some (_, ⟨r4, h4⟩), _ =>
          have : r4.length < ts.length := by omega
          match expect src isBlockEnd "end of block" r4 with
          | .error e => .error e
          | .ok ⟨r5, h5⟩ =>
            match body src (· == "endif") [] r5 with
            | .error e => .error e
            | .ok (no, ⟨r6, h6⟩) =>
              match advance src r6 with
              | .error e => .error e
              | .ok ⟨r7, h7⟩ => .ok (.ifElse test yes no line, ⟨r7, by omega⟩)
        | none, some (l2, ⟨r4, h4⟩) =>
          have : r4.length < ts.length := by omega
          match ifStmt src l2 r4 with
          | .error e => .error e
          | .ok (nested, ⟨r5, h5⟩) => .ok (.ifElse test yes [nested] line, ⟨r5, by omega⟩)
        | none, none =>
          match advance src r3 with
          | .error e => .error e
          | .ok ⟨r4, h4⟩ => .ok (.ifElse test yes [] line, ⟨r4, by omega⟩)
termination_by 100 * ts.length + 84
decreasing_by all_goals omega

/-- `with` and its assignments, its body, and `endwith`. -/
def withStmt (src : Source) (line : Nat) (ts : Tokens) : Le Node ts :=
  match withLoop src [] ts with
  | .error e => .error e
  | .ok (bindings, ⟨r1, h1⟩) =>
    match expect src isBlockEnd "end of block" r1 with
    | .error e => .error e
    | .ok ⟨r2, h2⟩ =>
      match body src (· == "endwith") [] r2 with
      | .error e => .error e
      | .ok (nodes, ⟨r3, h3⟩) =>
        match advance src r3 with
        | .error e => .error e
        | .ok ⟨r4, h4⟩ => .ok (.scope bindings nodes line, ⟨r4, by omega⟩)
termination_by 100 * ts.length + 83
decreasing_by all_goals omega

/-- The assignments of a `with`, separated by commas, up to the end of the tag. -/
def withLoop (src : Source) (acc : List (Target × Term)) (ts : Tokens) :
    Le (List (Target × Term)) ts :=
  match ts with
  | (.blockEnd, l) :: rest => .ok (acc.reverse, ⟨(.blockEnd, l) :: rest, Nat.le_refl _⟩)
  | other =>
    if acc.isEmpty then
      match withItem src acc other with
      | .error e => .error e
      | .ok (xs, ⟨r, h⟩) => .ok (xs, ⟨r, by omega⟩)
    else
      match expect src (isSym ",") "comma" other with
      | .error e => .error e
      | .ok ⟨r1, h1⟩ =>
        match withItem src acc r1 with
        | .error e => .error e
        | .ok (xs, ⟨r2, h2⟩) => .ok (xs, ⟨r2, by omega⟩)
termination_by 100 * ts.length + 82
decreasing_by all_goals omega

/-- One assignment of a `with`, then the others. -/
def withItem (src : Source) (acc : List (Target × Term)) (ts : Tokens) :
    Lt (List (Target × Term)) ts :=
  match targetOrParen src ts with
  | .error e => .error e
  | .ok (t, ⟨r1, h1⟩) =>
    match expect src (isSym "=") "assignment operator" r1 with
    | .error e => .error e
    | .ok ⟨r2, h2⟩ =>
      match expr src r2 with
      | .error e => .error e
      | .ok (v, ⟨r3, h3⟩) =>
        match withLoop src ((t, v) :: acc) r3 with
        | .error e => .error e
        | .ok (xs, ⟨r4, h4⟩) => .ok (xs, ⟨r4, by omega⟩)
termination_by 100 * ts.length + 81
decreasing_by all_goals omega

/-- `set target = value`, or `set target [| filters]` with a body up to `endset`. -/
def setStmt (src : Source) (line : Nat) (ts : Tokens) : Le Node ts :=
  match ts with
  | (.sym "(", _) :: rest =>
    match assignment src rest with
    | .error e => .error e
    | .ok (t, ⟨r1, h1⟩) =>
      match expect src (isSym ")") "`)`" r1 with
      | .error e => .error e
      | .ok ⟨r2, h2⟩ =>
        match setValue src t line r2 with
        | .error e => .error e
        | .ok (n, ⟨r3, h3⟩) => .ok (n, ⟨r3, by simp only [List.length_cons]; omega⟩)
  | other =>
    match assignName src true other with
    | .error e => .error e
    | .ok (t, ⟨r1, h1⟩) =>
      if nextIs (fun tok => isBlockEnd tok || isSym "|" tok) r1 then
        match acceptAt? (isSym "|") r1 with
        | some (pl, ⟨r2, h2⟩) =>
          have : r2.length < other.length := by omega
          match filterBlockLoop src none r2 with
          | .error e => .error e
          | .ok (none, _) => .error (.syntaxError "expected a filter" pl)
          | .ok (some f, ⟨r3, h3⟩) =>
            match captureBody src t (some f) line r3 with
            | .error e => .error e
            | .ok (n, ⟨r4, h4⟩) => .ok (n, ⟨r4, by omega⟩)
        | none =>
          match captureBody src t none line r1 with
          | .error e => .error e
          | .ok (n, ⟨r2, h2⟩) => .ok (n, ⟨r2, by omega⟩)
      else
        match setValue src t line r1 with
        | .error e => .error e
        | .ok (n, ⟨r2, h2⟩) => .ok (n, ⟨r2, by omega⟩)
termination_by 100 * ts.length + 80
decreasing_by all_goals omega

/-- `= value` of an assignment. -/
def setValue (src : Source) (t : Target) (line : Nat) (ts : Tokens) : Lt Node ts :=
  match expect src (isSym "=") "assignment operator" ts with
  | .error e => .error e
  | .ok ⟨r1, h1⟩ =>
    match expr src r1 with
    | .error e => .error e
    | .ok (v, ⟨r2, h2⟩) => .ok (.assign t v line, ⟨r2, by omega⟩)

/-- The body of a block assignment, up to `endset`. -/
def captureBody (src : Source) (t : Target) (filter : Option Term) (line : Nat) (ts : Tokens) :
    Le Node ts :=
  match expect src isBlockEnd "end of block" ts with
  | .error e => .error e
  | .ok ⟨r1, h1⟩ =>
    match body src (· == "endset") [] r1 with
    | .error e => .error e
    | .ok (nodes, ⟨r2, h2⟩) =>
      match advance src r2 with
      | .error e => .error e
      | .ok ⟨r3, h3⟩ => .ok (.capture t filter nodes line, ⟨r3, by omega⟩)
termination_by 100 * ts.length + 75
decreasing_by all_goals omega

/-- Filters separated by `|` up to the end of the tag, each applied to the previous one. -/
def filterBlockLoop (src : Source) (acc : Option Term) (ts : Tokens) : Le (Option Term) ts :=
  match ts with
  | (.blockEnd, l) :: rest => .ok (acc, ⟨(.blockEnd, l) :: rest, Nat.le_refl _⟩)
  | other =>
    let afterBar : Except EngineError {r : Tokens // r.length ≤ other.length} :=
      match acc with
      | none => .ok ⟨other, Nat.le_refl _⟩
      | some _ =>
        match expect src (isSym "|") "`|`" other with
        | .error e => .error e
        | .ok ⟨r, h⟩ => .ok ⟨r, by omega⟩
    match afterBar with
    | .error e => .error e
    | .ok ⟨r1, h1⟩ =>
      match next? r1 with
      | none => .error (atEnd src "identifier")
      | some ((tok, nl), ⟨r2, h2⟩) =>
        have : r2.length < other.length := by omega
        match identName? tok with
        | some name =>
          -- the filter's arguments, if it has parentheses, and what follows them
          let withArgs : Except EngineError
              (List (Option String × Term) × {r : Tokens // r.length < other.length}) :=
            match accept? (isSym "(") r2 with
            | some ⟨r3, h3⟩ =>
              match argsLoop src [] false r3 with
              | .error e => .error e
              | .ok (args, ⟨r4, h4⟩) => .ok (args, ⟨r4, by omega⟩)
            | none => .ok ([], ⟨r2, this⟩)
          match withArgs with
          | .error e => .error e
          | .ok (args, ⟨r4, h4⟩) =>
            match filterBlockLoop src (some (.filter name acc args nl)) r4 with
            | .error e => .error e
            | .ok (f, ⟨r5, h5⟩) => .ok (f, ⟨r5, by omega⟩)
        | none => .error (unexpected tok nl "identifier")
termination_by 100 * ts.length + 78
decreasing_by all_goals omega

/-- `filter` with its filters, its body, and `endfilter`. -/
def filterStmt (src : Source) (line : Nat) (ts : Tokens) : Le Node ts :=
  match filterBlockLoop src none ts with
  | .error e => .error e
  | .ok (none, _) => .error (.syntaxError "expected a filter" line)
  | .ok (some f, ⟨r1, h1⟩) =>
    match expect src isBlockEnd "end of block" r1 with
    | .error e => .error e
    | .ok ⟨r2, h2⟩ =>
      match body src (· == "endfilter") [] r2 with
      | .error e => .error e
      | .ok (nodes, ⟨r3, h3⟩) =>
        match advance src r3 with
        | .error e => .error e
        | .ok ⟨r4, h4⟩ => .ok (.filtered f nodes line, ⟨r4, by omega⟩)
termination_by 100 * ts.length + 79
decreasing_by all_goals omega

/-- `autoescape flag`, its body, and `endautoescape`. -/
def autoescapeStmt (src : Source) (line : Nat) (ts : Tokens) : Le Node ts :=
  match expr src ts with
  | .error e => .error e
  | .ok (flag, ⟨r1, h1⟩) =>
    match expect src isBlockEnd "end of block" r1 with
    | .error e => .error e
    | .ok ⟨r2, h2⟩ =>
      match body src (· == "endautoescape") [] r2 with
      | .error e => .error e
      | .ok (nodes, ⟨r3, h3⟩) =>
        match advance src r3 with
        | .error e => .error e
        | .ok ⟨r4, h4⟩ => .ok (.autoescape flag nodes line, ⟨r4, by omega⟩)
termination_by 100 * ts.length + 81
decreasing_by all_goals omega


/-- `macro name(parameters)`, its body, and `endmacro`. -/
def macroStmt (src : Source) (line : Nat) (ts : Tokens) : Le Node ts :=
  match ts with
  | (.ident name, _) :: rest =>
    match expect src (isSym "(") "`(`" rest with
    | .error e => .error e
    | .ok ⟨r1, h1⟩ =>
      match paramsLoop src [] [] r1 with
      | .error e => .error e
      | .ok (params, ⟨r2, h2⟩) =>
        match expect src isBlockEnd "end of block" r2 with
        | .error e => .error e
        | .ok ⟨r3, h3⟩ =>
          match body src (· == "endmacro") [] r3 with
          | .error e => .error e
          | .ok (nodes, ⟨r4, h4⟩) =>
            match advance src r4 with
            | .error e => .error e
            | .ok ⟨r5, h5⟩ =>
              let free := freeNames params nodes
              .ok (.define name params nodes (free.filter (· != "caller")) (free.contains "caller")
                line, ⟨r5, by simp only [List.length_cons]; omega⟩)
  | (tok, l) :: _ => .error (unexpected tok l "identifier")
  | [] => .error (atEnd src "identifier")
termination_by 100 * ts.length + 69
decreasing_by all_goals first | omega | (simp only [List.length_cons]; omega)

/-- `call [(parameters)] macro(arguments)`, the body it passes as `caller`, and `endcall`. -/
def callStmt (src : Source) (line : Nat) (ts : Tokens) : Le Node ts :=
  let paramsPart : Except EngineError (Params × {r : Tokens // r.length ≤ ts.length}) :=
    match accept? (isSym "(") ts with
    | some ⟨r1, h1⟩ =>
      match paramsLoop src [] [] r1 with
      | .error e => .error e
      | .ok (p, ⟨r2, h2⟩) => .ok (p, ⟨r2, by omega⟩)
    | none => .ok (⟨[], []⟩, ⟨ts, Nat.le_refl _⟩)
  match paramsPart with
  | .error e => .error e
  | .ok (params, ⟨r1, h1⟩) =>
    match expr src r1 with
    | .error e => .error e
    | .ok (call, ⟨r2, h2⟩) =>
      match call with
      | .call .. =>
        match expect src isBlockEnd "end of block" r2 with
        | .error e => .error e
        | .ok ⟨r3, h3⟩ =>
          match body src (· == "endcall") [] r3 with
          | .error e => .error e
          | .ok (nodes, ⟨r4, h4⟩) =>
            match advance src r4 with
            | .error e => .error e
            | .ok ⟨r5, h5⟩ =>
              let free := freeNames params nodes
              .ok (.callBlock call params nodes (free.filter (· != "caller"))
                (free.contains "caller") line, ⟨r5, by omega⟩)
      | other =>
        .error (.syntaxError ("expected call expression in call block, got " ++ other.describe)
          other.line)
termination_by 100 * ts.length + 68
decreasing_by all_goals omega

/-- `block name`, its body, and `endblock` with the name repeated or not. -/
def blockStmt (src : Source) (line : Nat) (ts : Tokens) : Le Node ts :=
  match ts with
  | (.ident name, _) :: rest =>
    match expect src isBlockEnd "end of block" rest with
    | .error e => .error e
    | .ok ⟨r1, h1⟩ =>
      match body src (· == "endblock") [] r1 with
      | .error e => .error e
      | .ok (nodes, ⟨r2, h2⟩) =>
        match advance src r2 with
        | .error e => .error e
        | .ok ⟨r3, h3⟩ =>
          match r3 with
          | (.ident trailing, tl) :: r4 =>
            if trailing == name then
              .ok (.block name nodes line, ⟨r4, by simp only [List.length_cons] at h3 ⊢; omega⟩)
            else .error (.syntaxError ("mismatching name on block. Got `" ++ trailing ++
              "`, expected `" ++ name ++ "`") tl)
          | other => .ok (.block name nodes line, ⟨other, by simp only [List.length_cons]; omega⟩)
  | (tok, l) :: _ => .error (unexpected tok l "identifier")
  | [] => .error (atEnd src "identifier")
termination_by 100 * ts.length + 67
decreasing_by all_goals first | omega | (simp only [List.length_cons]; omega)

end

end Parse

mutual
/-- The names and lines of the blocks of nodes, in order. -/
def Node.blocks : Node → List (String × Nat)
  | .block name body line => (name, line) :: Node.blocksAll body
  | .forLoop _ _ _ _ body orElse _ => Node.blocksAll body ++ Node.blocksAll orElse
  | .ifElse _ yes no _ => Node.blocksAll yes ++ Node.blocksAll no
  | .capture _ _ body _ | .scope _ body _ | .filtered _ body _ | .autoescape _ body _
  | .define _ _ body _ _ _ | .callBlock _ _ body _ _ _ => Node.blocksAll body
  | _ => []

/-- The blocks of a list of nodes. -/
def Node.blocksAll : List Node → List (String × Nat)
  | [] => []
  | n :: ns => n.blocks ++ Node.blocksAll ns
end

/-- The blocks inside macros and call bodies among nodes. -/
def Node.blocksInMacros : List Node → List (String × Nat)
  | [] => []
  | n :: ns =>
    let here := match n with
      | .define _ _ body _ _ _ | .callBlock _ _ body _ _ _ => Node.blocksAll body
      | other => (Node.blocksAll [other]).filter fun _ => false
    here ++ Node.blocksInMacros ns

/-- The first name in a list that occurs earlier in it, with its line. -/
def firstRepeated : List (String × Nat) → List String → Option (String × Nat)
  | [], _ => none
  | (n, l) :: rest, seen => if seen.contains n then some (n, l) else firstRepeated rest (n :: seen)

/-- Refuses a block inside a macro and a block name used twice. -/
def checkBlocks (nodes : List Node) : Except EngineError (List Node) :=
  match (Node.blocksInMacros nodes).head? with
  | some (_, line) => .error (.syntaxError "block tags in macros are not allowed" line)
  | none =>
    match firstRepeated (Node.blocksAll nodes) [] with
    | some (name, line) => .error (.syntaxError ("block '" ++ name ++ "' defined twice") line)
    | none => .ok nodes

/-- Reads the nodes of a template. -/
def parse (source : String) : Except EngineError (List Node) :=
  let lexed := tokenize source
  let src : Source :=
    { fault := lexed.fault, endLine := (lexed.tokens.getLast?.map (·.2)).getD 1,
      lines := (lexed.tokens.map (·.2)).toArray }
  match Parse.body src (fun _ => false) [] lexed.tokens with
  | .ok (nodes, _) => checkBlocks nodes
  | .error e => .error e

end PromptPipeline.Template
