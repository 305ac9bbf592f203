import PromptPipeline.Template.Datum
/-!
The syntax of templates.

A template is a list of nodes: text, an expression to write, and statements. Expressions (`Term`)
are those of the template language: names, constants, list and map literals, attribute and item
access, slices, unary and binary operators, conditional expressions, filters (`x | f(a)`), tests
(`x is t`) and calls. Statements are loops, conditionals, assignments, scopes, filter and
escaping blocks, macros and calls with a body, blocks, and the statements that load other
templates (`include`, `import`, `from`, `extends`). Every expression and statement carries the
line it starts on, for its errors.
-/
namespace PromptPipeline.Template

/-- Unary operators. -/
inductive UnaryOp where
  | not
  | neg

/-- Binary operators. -/
inductive BinaryOp where
  | eq | ne | lt | le | gt | ge
  | and | or
  | add | sub | mul | div | floorDiv | rem | pow
  | concat
  | contains
  deriving DecidableEq

/-- The symbol of an operator, as messages show it. -/
def BinaryOp.symbol : BinaryOp → String
  | .add => "+" | .sub => "-" | .mul => "*" | .div => "/" | .floorDiv => "//"
  | .rem => "%" | .pow => "**" | .concat => "~" | .eq => "==" | .ne => "!="
  | .lt => "<" | .le => "<=" | .gt => ">" | .ge => ">=" | .and => "and" | .or => "or"
  | .contains => "in"

/-- An expression of a template. Arguments of filters, tests and calls are positional or named. -/
inductive Term where
  | var (name : String) (line : Nat)
  | const (value : Datum) (line : Nat)
  | list (items : List Term) (line : Nat)
  | map (entries : List (Term × Term)) (line : Nat)
  | attr (base : Term) (name : String) (line : Nat)
  | item (base key : Term) (line : Nat)
  | slice (base : Term) (start stop step : Option Term) (line : Nat)
  | unary (op : UnaryOp) (arg : Term) (line : Nat)
  | binary (op : BinaryOp) (left right : Term) (line : Nat)
  | cond (test yes : Term) (no : Option Term) (line : Nat)
  | filter (name : String) (arg : Option Term) (args : List (Option String × Term)) (line : Nat)
  | test (name : String) (arg : Term) (args : List (Option String × Term)) (line : Nat)
  | call (callee : Term) (args : List (Option String × Term)) (line : Nat)
  deriving Inhabited

/-- The line an expression starts on. -/
def Term.line : Term → Nat
  | .var _ l | .const _ l | .list _ l | .map _ l | .attr _ _ l | .item _ _ l | .slice _ _ _ _ l
  | .unary _ _ l | .binary _ _ _ l | .cond _ _ _ l | .filter _ _ _ l | .test _ _ _ l
  | .call _ _ l => l

/-- Where a statement assigns: a name, an attribute path of a name, or several targets that take
the items of a list. -/
inductive Target where
  | name (name : String)
  | path (root : String) (attrs : List String)
  | tuple (items : List Target)
  deriving Inhabited

/-- The parameters of a macro: their names, and the default values of the last of them. -/
structure Params where
  names : List String
  defaults : List Term
  deriving Inhabited

/-- A node of a template. -/
inductive Node where
  /-- text written as it is -/
  | text (text : String)
  /-- an expression whose value is written -/
  | emit (term : Term) (line : Nat)
  /-- a loop over the items of a value, with an optional condition on the items, whether the
  body may loop again over other items (`recursive`), and a body for no items -/
  | forLoop (target : Target) (iter : Term) (filter : Option Term) (recursive : Bool)
      (body orElse : List Node) (line : Nat)
  /-- a conditional -/
  | ifElse (test : Term) (yes no : List Node) (line : Nat)
  /-- an assignment -/
  | assign (target : Target) (value : Term) (line : Nat)
  /-- an assignment of the text of a body, passed through filters -/
  | capture (target : Target) (filter : Option Term) (body : List Node) (line : Nat)
  /-- a body with names bound for it only -/
  | scope (bindings : List (Target × Term)) (body : List Node) (line : Nat)
  /-- a body whose text is passed through filters -/
  | filtered (filter : Term) (body : List Node) (line : Nat)
  /-- a body with escaping switched on or off -/
  | autoescape (flag : Term) (body : List Node) (line : Nat)
  /-- the definition of a macro: its name, parameters and body, the free names of the body that
  it keeps, and whether the body calls `caller` -/
  | define (name : String) (params : Params) (body : List Node) (free : List String)
      (callsCaller : Bool) (line : Nat)
  /-- a call of a macro given a body to call back as `caller`, with that body's parameters -/
  | callBlock (call : Term) (params : Params) (body : List Node) (free : List String)
      (callsCaller : Bool) (line : Nat)
  /-- a named block, rendered where it stands -/
  | block (name : String) (body : List Node) (line : Nat)
  /-- the loading of another template: `include` (which may ignore a missing one), `import`
  and `from` -/
  | load (name : Term) (ignoreMissing : Bool) (line : Nat)
  /-- the template this one extends -/
  | extend (name : Term) (line : Nat)
  /-- an expression evaluated for its effect only -/
  | exec (term : Term) (line : Nat)
  deriving Inhabited

end PromptPipeline.Template
