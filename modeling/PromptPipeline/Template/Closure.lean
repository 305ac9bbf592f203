import PromptPipeline.Template.Syntax
/-!
The names a macro takes from where it is defined.

A macro sees its parameters, the names it assigns itself, and the names that were bound where it
was defined, kept for it at that moment (and updated by later assignments there). The names it
keeps are the free names of its body: those it reads before any assignment in the body binds
them. A loop binds `loop` and its targets for its body; `with` binds its targets for its body;
`set`, `import` and `from` bind their targets from there on; a nested macro binds its own name,
and what its body reads is its own affair, as is the body of a call block.
-/
namespace PromptPipeline.Template

/-- The names bound so far, innermost scope first, and the free names read so far. -/
structure Tracker where
  scopes : List (List String) := [[]]
  free : List String := []

namespace Tracker

/-- Whether a name is bound in some scope. -/
def bound (t : Tracker) (name : String) : Bool := t.scopes.any (·.contains name)

/-- Binds a name in the innermost scope. -/
def bind (t : Tracker) (name : String) : Tracker :=
  match t.scopes with
  | [] => { t with scopes := [[name]] }
  | s :: ss => { t with scopes := (name :: s) :: ss }

/-- Reads a name: free unless bound. -/
def read (t : Tracker) (name : String) : Tracker :=
  if t.bound name || t.free.contains name then t else { t with free := t.free ++ [name] }

/-- Opens a scope. -/
def push (t : Tracker) : Tracker := { t with scopes := [] :: t.scopes }

/-- Closes the innermost scope. -/
def pop (t : Tracker) : Tracker := { t with scopes := t.scopes.tail }

end Tracker

mutual
/-- Reads the names of an expression. -/
def Term.track (t : Tracker) : Term → Tracker
  | .var name _ => t.read name
  | .const .. => t
  | .list items _ => Term.trackAll t items
  | .map entries _ => Term.trackEntries t entries
  | .attr base _ _ => base.track t
  | .item base key _ => key.track (base.track t)
  | .slice base start stop step _ =>
    Term.trackOpt (Term.trackOpt (Term.trackOpt (base.track t) start) stop) step
  | .unary _ arg _ => arg.track t
  | .binary _ left right _ => right.track (left.track t)
  | .cond c yes no _ => Term.trackOpt (yes.track (c.track t)) no
  | .filter _ arg args _ => Term.trackArgs (Term.trackOpt t arg) args
  | .test _ arg args _ => Term.trackArgs (arg.track t) args
  | .call callee args _ => Term.trackArgs (callee.track t) args

/-- Reads the names of expressions in order. -/
def Term.trackAll (t : Tracker) : List Term → Tracker
  | [] => t
  | x :: xs => Term.trackAll (x.track t) xs

/-- Reads the names of an optional expression. -/
def Term.trackOpt (t : Tracker) : Option Term → Tracker
  | some x => x.track t
  | none => t

/-- Reads the names of the entries of a map. -/
def Term.trackEntries (t : Tracker) : List (Term × Term) → Tracker
  | [] => t
  | (k, v) :: rest => Term.trackEntries (v.track (k.track t)) rest

/-- Reads the names of arguments. -/
def Term.trackArgs (t : Tracker) : List (Option String × Term) → Tracker
  | [] => t
  | (_, x) :: rest => Term.trackArgs (x.track t) rest
end

/-- Binds the names of a target; an attribute path binds nothing. -/
def Target.bindIn (t : Tracker) : Target → Tracker
  | .name n => t.bind n
  | .path _ _ => t
  | .tuple items => items.attach.foldl (fun acc ⟨x, _⟩ => x.bindIn acc) t

mutual
/-- Reads and binds the names of a node. -/
def Node.track (t : Tracker) : Node → Tracker
  | .text _ => t
  | .emit term _ => term.track t
  | .forLoop target iter filter _ body orElse _ =>
    let inner := Term.trackOpt ((target.bindIn ((iter.track t).push.bind "loop"))) filter
    Node.trackAll (Node.trackAll inner body).pop orElse
  | .ifElse test yes no _ => Node.trackAll (Node.trackAll (test.track t) yes) no
  | .assign target value _ => target.bindIn (value.track t)
  | .capture target filter body _ =>
    target.bindIn (Term.trackOpt (Node.trackAll t.push body).pop filter)
  | .scope bindings body _ => (Node.trackAll (Node.trackBindings t.push bindings) body).pop
  | .filtered filter body _ => Node.trackAll (filter.track t) body
  | .autoescape flag body _ => Node.trackAll (flag.track t) body
  | .define name .. => t.bind name
  | .callBlock call .. => call.track t
  | .block _ body _ => (Node.trackAll t.push body).pop
  | .load name _ _ => name.track t
  | .extend name _ => name.track t
  | .exec term _ => term.track t

/-- Reads and binds the names of nodes in order. -/
def Node.trackAll (t : Tracker) : List Node → Tracker
  | [] => t
  | n :: ns => Node.trackAll (n.track t) ns

/-- Binds the targets of `with`, reading each value first. -/
def Node.trackBindings (t : Tracker) : List (Target × Term) → Tracker
  | [] => t
  | (target, value) :: rest => Node.trackBindings (target.bindIn (value.track t)) rest
end

/-- The free names of a macro with these parameters and body: the default values of the
parameters are read with the parameters bound, then the body. -/
def freeNames (params : Params) (body : List Node) : List String :=
  (Node.trackAll (Term.trackAll (params.names.foldl Tracker.bind {}) params.defaults) body).free

end PromptPipeline.Template
