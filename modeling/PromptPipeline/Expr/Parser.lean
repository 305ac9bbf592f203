import PromptPipeline.Expr.Syntax
import PromptPipeline.Expr.Lexer
import PromptPipeline.Decimal.Binary
/-!
Reading an expression from its tokens.

The reader climbs precedences: an expression at level `p` is a unary expression followed by
binary operators of level `p` or more, each with a right operand at the next level, so that
operators of one level group to the left. `not` and `!` apply to an expression at the level of the
comparisons, `-` to a unary expression. After a primary come accesses: `.name`, `.0` (an integral
number read as an index) and `[key]`. Lists and maps allow a comma before their closing bracket.
A number literal becomes an integer when it is integral and below `2^63`, a double otherwise, and
`null` when it is too large to be a double.

Every reading function returns the tokens left after what it read, with fewer tokens than it
started with; a function that reads a smaller unit first ranks lower, which ends the recursion.
-/
namespace PromptPipeline

/-- Tokens with the byte offsets where they start. -/
abbrev Tokens := List (Token × Nat)

namespace Parser

/-- The result of reading from `ts`: a value and the tokens left, fewer than in `ts`. -/
abbrev Read (α : Type) (ts : Tokens) :=
  Except SyntaxError (α × {r : Tokens // r.length < ts.length})

/-- The offset of the next token, or `stop` at the end of the text. -/
def offsetOf (stop : Nat) : Tokens → Nat
  | [] => stop
  | (_, off) :: _ => off

/-- Consumes the symbol `s`, or fails at the next token. -/
def expect (stop : Nat) (s : String) (ts : Tokens) :
    Except SyntaxError {r : Tokens // r.length < ts.length} :=
  match ts with
  | (.sym t, _) :: rest => if t == s then .ok ⟨rest, by simp only [List.length_cons]; omega⟩ else .error ⟨.expected s, offsetOf stop ts⟩
  | _ => .error ⟨.expected s, offsetOf stop ts⟩

/-- Consumes the symbol `s` when it comes next. -/
def skip? (s : String) (ts : Tokens) : Option {r : Tokens // r.length < ts.length} :=
  match ts with
  | (.sym t, _) :: rest => if t == s then some ⟨rest, by simp only [List.length_cons]; omega⟩ else none
  | _ => none

/-- The binary operator a token stands for. -/
def binaryOf : Token → Option BinOp
  | .sym "+" => some .add
  | .sym "-" => some .sub
  | .sym "*" => some .mul
  | .sym "/" => some .div
  | .sym "%" => some .rem
  | .sym "==" => some .eq
  | .sym "!=" => some .ne
  | .sym "<" => some .lt
  | .sym "<=" => some .le
  | .sym ">" => some .gt
  | .sym ">=" => some .ge
  | .sym "&&" => some .and
  | .sym "||" => some .or
  | .ident "and" => some .and
  | .ident "or" => some .or
  | _ => none

/-- The value of a number literal: an integer when integral and below `2^63`, else a double;
`null` for a value too large to be a double. -/
def numberLiteral (x : Float) : Value :=
  if !Decimal.isFinite x then .null
  else if Decimal.isIntegral x && (Decimal.truncate x).natAbs < Nat.pow 2 63 then .ofInt (Decimal.truncate x)
  else .num (.float x)

mutual

/-- An expression whose binary operators have precedence at least `minPrec`. -/
def expression (stop minPrec : Nat) (ts : Tokens) : Read Expr ts :=
  match unary stop ts with
  | .error e => .error e
  | .ok (lhs, ⟨rest, h⟩) =>
    match climb stop minPrec lhs rest with
    | .error e => .error e
    | .ok (e, ⟨r, hr⟩) => .ok (e, ⟨r, by omega⟩)
termination_by 8 * ts.length + 3
decreasing_by all_goals omega

/-- Binary operators of precedence at least `minPrec` after `lhs`, grouped to the left. -/
def climb (stop minPrec : Nat) (lhs : Expr) (ts : Tokens) :
    Except SyntaxError (Expr × {r : Tokens // r.length ≤ ts.length}) :=
  match ts with
  | (tok, off) :: rest =>
    match binaryOf tok with
    | some op =>
      if op.precedence < minPrec then .ok (lhs, ⟨(tok, off) :: rest, Nat.le_refl _⟩)
      else
        match expression stop (op.precedence + 1) rest with
        | .error e => .error e
        | .ok (rhs, ⟨r1, h1⟩) =>
          match climb stop minPrec (.binary op lhs rhs) r1 with
          | .error e => .error e
          | .ok (e, ⟨r2, h2⟩) => .ok (e, ⟨r2, by simp only [List.length_cons]; omega⟩)
    | none => .ok (lhs, ⟨(tok, off) :: rest, Nat.le_refl _⟩)
  | [] => .ok (lhs, ⟨[], Nat.le_refl _⟩)
termination_by 8 * ts.length
decreasing_by all_goals first | omega | (simp only [List.length_cons]; omega)

/-- A unary expression: `!` or `not` before a comparison, `-` before a unary expression, or an
access chain. -/
def unary (stop : Nat) (ts : Tokens) : Read Expr ts :=
  match ts with
  | (.sym "!", _) :: rest => negation stop rest
  | (.ident "not", _) :: rest => negation stop rest
  | (.sym "-", _) :: rest =>
    match unary stop rest with
    | .error e => .error e
    | .ok (e, ⟨r, h⟩) => .ok (.unary .neg e, ⟨r, by simp only [List.length_cons]; omega⟩)
  | other => accessChain stop other
termination_by 8 * ts.length + 2
decreasing_by all_goals first | omega | (simp only [List.length_cons]; omega)

/-- The operand of a logical negation, after the `!` or `not` that preceded `ts`. -/
def negation (stop : Nat) (ts : Tokens) :
    Except SyntaxError (Expr × {r : Tokens // r.length < ts.length + 1}) :=
  match expression stop 3 ts with
  | .error e => .error e
  | .ok (e, ⟨r, h⟩) => .ok (.unary .not e, ⟨r, by omega⟩)
termination_by 8 * ts.length + 4
decreasing_by all_goals omega

/-- A primary followed by accesses. -/
def accessChain (stop : Nat) (ts : Tokens) : Read Expr ts :=
  match primary stop ts with
  | .error e => .error e
  | .ok (e, ⟨rest, h⟩) =>
    match accesses stop e rest with
    | .error err => .error err
    | .ok (e, ⟨r, hr⟩) => .ok (e, ⟨r, by omega⟩)
termination_by 8 * ts.length + 1
decreasing_by all_goals omega

/-- Accesses after `e`: `.name`, `.0` and `[key]`. -/
def accesses (stop : Nat) (e : Expr) (ts : Tokens) :
    Except SyntaxError (Expr × {r : Tokens // r.length ≤ ts.length}) :=
  match ts with
  | (.sym ".", _) :: rest =>
    match rest with
    | (.ident name, _) :: r =>
      match accesses stop (.field e name) r with
      | .error err => .error err
      | .ok (e, ⟨r2, h⟩) => .ok (e, ⟨r2, by simp only [List.length_cons]; omega⟩)
    | (.number x, off) :: r =>
      if Decimal.isIntegral x then
        match accesses stop (.index e (.lit (.num (.float x)))) r with
        | .error err => .error err
        | .ok (e, ⟨r2, h⟩) => .ok (e, ⟨r2, by simp only [List.length_cons]; omega⟩)
      else .error ⟨.expectedField, off⟩
    | _ => .error ⟨.expectedField, offsetOf stop rest⟩
  | (.sym "[", _) :: rest =>
    match expression stop 0 rest with
    | .error err => .error err
    | .ok (key, ⟨r1, h1⟩) =>
      match expect stop "]" r1 with
      | .error err => .error err
      | .ok ⟨r2, h2⟩ =>
        match accesses stop (.index e key) r2 with
        | .error err => .error err
        | .ok (e, ⟨r3, h3⟩) => .ok (e, ⟨r3, by simp only [List.length_cons]; omega⟩)
  | other => .ok (e, ⟨other, Nat.le_refl _⟩)
termination_by 8 * ts.length
decreasing_by all_goals first | omega | (simp only [List.length_cons]; omega)

/-- A literal, a name, a parenthesised expression, a list or a map. -/
def primary (stop : Nat) (ts : Tokens) : Read Expr ts :=
  match ts with
  | [] => .error ⟨.unexpectedEnd, stop⟩
  | (.number x, _) :: rest => .ok (.lit (numberLiteral x), ⟨rest, by simp only [List.length_cons]; omega⟩)
  | (.str s, _) :: rest => .ok (.lit (.str s), ⟨rest, by simp only [List.length_cons]; omega⟩)
  | (.ident word, off) :: rest =>
    if word == "true" then .ok (.lit (.bool true), ⟨rest, by simp only [List.length_cons]; omega⟩)
    else if word == "false" then .ok (.lit (.bool false), ⟨rest, by simp only [List.length_cons]; omega⟩)
    else if word == "null" || word == "none" then .ok (.lit .null, ⟨rest, by simp only [List.length_cons]; omega⟩)
    else if word == "and" || word == "or" || word == "not" then
      .error ⟨.unexpectedKeyword word, off⟩
    else .ok (.var word, ⟨rest, by simp only [List.length_cons]; omega⟩)
  | (.sym "(", _) :: rest =>
    match expression stop 0 rest with
    | .error e => .error e
    | .ok (inner, ⟨r1, h1⟩) =>
      match expect stop ")" r1 with
      | .error e => .error e
      | .ok ⟨r2, h2⟩ => .ok (inner, ⟨r2, by simp only [List.length_cons]; omega⟩)
  | (.sym "[", _) :: rest =>
    match items stop rest [] with
    | .error e => .error e
    | .ok (xs, ⟨r, h⟩) => .ok (.list xs, ⟨r, by simp only [List.length_cons]; omega⟩)
  | (.sym "\x7b", _) :: rest =>
    match entries stop rest [] with
    | .error e => .error e
    | .ok (es, ⟨r, h⟩) => .ok (.map es, ⟨r, by simp only [List.length_cons]; omega⟩)
  | (.sym s, off) :: _ => .error ⟨.unexpectedSymbol s, off⟩
termination_by 8 * ts.length
decreasing_by all_goals first | omega | (simp only [List.length_cons]; omega)

/-- Items of a list up to its closing bracket; `acc` holds those read, last first. -/
def items (stop : Nat) (ts : Tokens) (acc : List Expr) : Read (List Expr) ts :=
  match ts with
  | (.sym "]", _) :: rest => .ok (acc.reverse, ⟨rest, by simp only [List.length_cons]; omega⟩)
  | other =>
    match expression stop 0 other with
    | .error e => .error e
    | .ok (item, ⟨r1, h1⟩) =>
      match skip? "," r1 with
      | some ⟨r2, h2⟩ =>
        have : r2.length < other.length := by omega
        match items stop r2 (item :: acc) with
        | .error e => .error e
        | .ok (xs, ⟨r3, h3⟩) => .ok (xs, ⟨r3, by omega⟩)
      | none =>
        match expect stop "]" r1 with
        | .error e => .error e
        | .ok ⟨r2, h2⟩ => .ok ((item :: acc).reverse, ⟨r2, by omega⟩)
termination_by 8 * ts.length + 5
decreasing_by all_goals omega

/-- Entries of a map up to its closing brace; `acc` holds those read, last first. -/
def entries (stop : Nat) (ts : Tokens) (acc : List (String × Expr)) :
    Read (List (String × Expr)) ts :=
  match ts with
  | (.sym "\x7d", _) :: rest => .ok (acc.reverse, ⟨rest, by simp only [List.length_cons]; omega⟩)
  | [] => .error ⟨.expectedKey, stop⟩
  | (tok, off) :: rest =>
    let key? : Option String := match tok with
      | .ident k => some k
      | .str k => some k
      | _ => none
    match key? with
    | none => .error ⟨.expectedKey, off⟩
    | some key =>
      match expect stop ":" rest with
      | .error e => .error e
      | .ok ⟨r1, h1⟩ =>
        match expression stop 0 r1 with
        | .error e => .error e
        | .ok (value, ⟨r2, h2⟩) =>
          match skip? "," r2 with
          | some ⟨r3, h3⟩ =>
            have : r3.length < rest.length := by omega
            match entries stop r3 ((key, value) :: acc) with
            | .error e => .error e
            | .ok (es, ⟨r4, h4⟩) => .ok (es, ⟨r4, by simp only [List.length_cons]; omega⟩)
          | none =>
            match expect stop "\x7d" r2 with
            | .error e => .error e
            | .ok ⟨r3, h3⟩ => .ok (((key, value) :: acc).reverse, ⟨r3, by simp only [List.length_cons]; omega⟩)
termination_by 8 * ts.length + 5
decreasing_by all_goals first | omega | (simp only [List.length_cons]; omega)

end

end Parser

/-- Reads an expression from its source text; all of the text must be used. -/
def Expr.parse (source : String) : Except SyntaxError Expr :=
  match Lexer.tokenize source.toList 0 with
  | .error e => .error e
  | .ok tokens =>
    let stop := source.utf8ByteSize
    match Parser.expression stop 0 tokens with
    | .error e => .error e
    | .ok (e, ⟨[], _⟩) => .ok e
    | .ok (_, ⟨(_, off) :: _, _⟩) => .error ⟨.trailingInput, off⟩

end PromptPipeline
