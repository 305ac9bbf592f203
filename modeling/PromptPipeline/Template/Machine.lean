import PromptPipeline.Template.Syntax
import PromptPipeline.Template.Builtin.Filters
import PromptPipeline.Template.Builtin.Functions
/-!
The machine that renders templates: frames of names, the heap, and what rendering can look up.

Names live in a stack of frames, innermost first. A frame binds names of its own; a loop frame
also answers to `loop`; and a frame may look further in the bindings the template is rendered
with (the outermost frame) or in the names a macro keeps (the first frame of a macro call).
After all frames come the global functions `range`, `dict`, `debug` and `namespace`.

An assignment binds in the innermost frame. A frame in which a macro was defined keeps the
names that macro reads, in a table of the heap (its closure); assignments in that frame update
the table too, so a macro sees later assignments of the frame it was defined in, and itself.

The heap holds what outlives a frame and is shared: namespaces (which assignments change in
place), closures, macros, and the memory of `loop.changed`. Identities are numbers handed out
in order.

Frames are limited: a stack more than 500 deep cannot grow, and a macro call counts four more
than the frames it adds.
-/
namespace PromptPipeline.Template

open Outcome

/-- Where a frame looks for the names it does not bind itself. -/
inductive Scope where
  /-- the bindings the template is rendered with -/
  | context
  /-- the names kept by a macro, a closure of the heap -/
  | closure (id : Nat)
  /-- nowhere -/
  | plain

/-- The parts of a recursive loop that `loop(items)` renders again: its target, body and
line. -/
structure LoopBody where
  target : Target
  body : List Node
  line : Nat

/-- A loop being rendered, at an item. -/
structure LoopFrame where
  /-- identity, for the memory of `loop.changed` -/
  id : Nat
  index : Nat
  /-- the count of items, where it is known ahead -/
  length : Option Nat
  /-- how deep `loop(...)` has recursed, from one -/
  depth : Nat
  previous : Datum
  following : Datum
  /-- the loop's parts when it is recursive -/
  recursion : Option LoopBody
  /-- whether the frame answers to `loop`; the pass that filters a loop's items does not -/
  visible : Bool

/-- The state of a loop as a value. -/
def LoopFrame.value (l : LoopFrame) : Datum :=
  .loopState l.id l.index l.length l.depth l.previous l.following

/-- A frame of names. -/
structure Frame where
  locals : List (String × Datum) := []
  scope : Scope := .plain
  /-- the closure of the frame, once a macro was defined in it -/
  closure : Option Nat := none
  loop : Option LoopFrame := none

/-- A macro: its name, parameters, body, the closure it reads and whether it calls
`caller`. -/
structure Routine where
  name : String
  params : Params
  body : List Node
  closure : Option Nat
  callsCaller : Bool

/-- What outlives frames: namespaces, closures, macros, loop memories, and the next free
identity. -/
structure Heap where
  namespaces : List (Nat × List (String × Datum)) := []
  closures : List (Nat × List (String × Datum)) := []
  routines : List (Nat × Routine) := []
  memories : List (Nat × List Datum) := []
  next : Nat := 1

/-- The entry under an identity. -/
def entryOf? (table : List (Nat × α)) (id : Nat) : Option α :=
  (table.find? (·.1 == id)).map (·.2)

/-- A table with the entry under an identity set. -/
def setEntry (table : List (Nat × α)) (id : Nat) (v : α) : List (Nat × α) :=
  if table.any (·.1 == id) then table.map fun e => if e.1 == id then (id, v) else e
  else table ++ [(id, v)]

namespace Heap

/-- A value with the entries of a namespace read afresh from the heap. -/
def refresh (heap : Heap) (v : Datum) : Datum :=
  match v with
  | .names id _ => .names id ((entryOf? heap.namespaces id).getD [])
  | other => other

/-- The names of a closure. -/
def closure (heap : Heap) (id : Nat) : List (String × Datum) :=
  (entryOf? heap.closures id).getD []

end Heap

/-- What names mean while a template renders. -/
structure Env where
  /-- the bindings the template is rendered with -/
  context : List (String × Datum)
  /-- the frames, innermost first -/
  frames : List Frame := [{ scope := .context }]
  /-- the depth counted outside these frames -/
  outer : Nat := 0
  /-- whether written values are escaped for HTML -/
  escape : Bool := false
  /-- the block being rendered -/
  block : Option String := none

/-- The global functions. -/
def globalNames : List String := ["range", "dict", "debug", "namespace"]

/-- The deepest a stack of frames may be before it can grow no more. -/
def recursionLimit : Nat := 500

/-- Rendering: a computation on the heap that may fail. -/
abbrev Run := StateT Heap (Except EngineError)

namespace Run

/-- Fails at a line. -/
def throwAt (line : Nat) (kind : ErrorKind) (detail : Option String := none) : Run α :=
  StateT.lift (.error { kind, detail, line })

/-- An outcome, its fault placed at a line. -/
def lift (line : Nat) (o : Outcome α) : Run α := StateT.lift (Outcome.atLine line o)

/-- A fresh identity. -/
def fresh : Run Nat := do
  let heap ← get
  set { heap with next := heap.next + 1 }
  pure heap.next

end Run

namespace Env

/-- How deep the stack of frames is. -/
def depth (env : Env) : Nat := env.outer + env.frames.length

/-- The value a frame gives a name. -/
def frameValue? (env : Env) (heap : Heap) (f : Frame) (name : String) : Option Datum :=
  match f.locals.lookup name with
  | some v => some v
  | none =>
    let loopValue := match f.loop with
      | some l => if l.visible && name == "loop" then some l.value else none
      | none => none
    match loopValue with
    | some v => some v
    | none =>
      match f.scope with
      | .context => env.context.lookup name
      | .closure id => (heap.closure id).lookup name
      | .plain => none

/-- The value of a name: the innermost frame that gives one, else a global function. -/
def lookup (env : Env) (heap : Heap) (name : String) : Option Datum :=
  match env.frames.findSome? (env.frameValue? heap · name) with
  | some v => some (heap.refresh v)
  | none => if globalNames.contains name then some (.builtin name) else none

/-- Opens a frame, unless the stack is already too deep. -/
def push (env : Env) (f : Frame) (line : Nat) : Run Env :=
  if env.depth > recursionLimit then
    Run.throwAt line .invalidOperation (some "recursion limit exceeded")
  else pure { env with frames := f :: env.frames }

/-- Closes the innermost frame. -/
def pop (env : Env) : Env := { env with frames := env.frames.tail }

/-- The innermost frame. -/
def top (env : Env) : Frame := env.frames.headD {}

/-- The environment with its innermost frame replaced. -/
def withTop (env : Env) (f : Frame) : Env := { env with frames := f :: env.frames.tail }

/-- Binds a name in the innermost frame, and in its closure if it has one. -/
def store (env : Env) (name : String) (v : Datum) : Run Env := do
  let f := env.top
  match f.closure with
  | some id =>
    modify fun heap =>
      { heap with closures := setEntry heap.closures id (Datum.insertNamed (heap.closure id) name v) }
  | none => pure ()
  pure (env.withTop { f with locals := Datum.insertNamed f.locals name v })

/-- Keeps names in the closure of the innermost frame (made if there is none), each with the
value it has now unless the closure has it already. -/
def enclose (env : Env) (names : List String) : Run Env := do
  let f := env.top
  let (id, env) ← match f.closure with
    | some id => pure (id, env)
    | none => do
      let id ← Run.fresh
      modify fun heap => { heap with closures := setEntry heap.closures id [] }
      pure (id, env.withTop { f with closure := some id })
  for name in names do
    let heap ← get
    if ((heap.closure id).lookup name).isNone then
      let v := (env.lookup heap name).getD Datum.missing
      set { heap with closures := setEntry heap.closures id (Datum.insertNamed (heap.closure id) name v) }
  pure env

/-- The innermost loop. -/
def currentLoop? (env : Env) : Option LoopFrame := env.frames.findSome? (·.loop)

end Env

/-- Truth of a value; the undefined value has none, unless it is the silent one. -/
def truth (v : Datum) : Outcome Bool :=
  if v.isStrictUndefined then bare .undefinedValue else .ok v.truthy

/-- The items a loop goes over; the undefined value has none only when it is the silent one. -/
def loopItems (v : Datum) : Outcome (List Datum) :=
  if v.isStrictUndefined then bare .undefinedValue
  else
    match v.items? with
    | some xs => .ok xs
    | none => fail .invalidOperation (v.kindName ++ " is not iterable")

/-- A binary operator other than `and` and `or`, on evaluated operands. -/
def applyBinary (op : BinaryOp) (a b : Datum) : Outcome Datum :=
  match op with
  | .eq => .ok (.bool (Datum.same a b))
  | .ne => .ok (.bool !(Datum.same a b))
  | .lt => .ok (.bool (Datum.order a b == .lt))
  | .le => .ok (.bool (Datum.order a b != .gt))
  | .gt => .ok (.bool (Datum.order a b == .gt))
  | .ge => .ok (.bool (Datum.order a b != .lt))
  | .add => Ops.add a b
  | .sub => Ops.sub a b
  | .mul => Ops.mul a b
  | .div => Ops.div a b
  | .floorDiv => Ops.floorDiv a b
  | .rem => Ops.rem a b
  | .pow => Ops.pow a b
  | .concat =>
    if a.isStrictUndefined || b.isStrictUndefined then bare .undefinedValue
    else .ok (Ops.concat a b)
  | .contains =>
    if b.isStrictUndefined then bare .undefinedValue else .bool <$> Ops.contains b a
  | .and | .or => .ok b

/-- The text that writing a value adds: escaped for HTML when escaping is on. -/
def written (escape : Bool) (v : Datum) : String :=
  if escape then Builtin.escapedText v else v.display

/-- Whether escaping is on after an `autoescape` statement with this value: `"html"` and true
switch it on, `"none"` and other values off, other strings are refused. -/
def escapeSetting (v : Datum) : Outcome Bool :=
  match v with
  | .str "html" _ => .ok true
  | .str "none" _ => .ok false
  | .str _ _ => fail .invalidOperation "invalid value to autoescape tag"
  | other => .ok (Datum.same other (.bool true))

/-- The items a target list takes from a value: the items of a list or the keys of a map; a
string is not taken apart. -/
def unpackItems (v : Datum) : Outcome (List Datum) :=
  match v with
  | .str .. | .undefined _ | .none | .bool _ | .int _ | .float _ | .callable .. | .builtin _ =>
    fail .cannotUnpack "value is not iterable"
  | other =>
    match other.items? with
    | some xs => .ok xs
    | none => fail .cannotUnpack "value is not iterable"

/-- Named arguments gathered into one value after the positional ones; of a name given twice
the last stays. -/
def gatherArgs (positional : List Datum) (named : List (String × Datum)) : List Datum :=
  if named.isEmpty then positional
  else positional ++ [.kwargs (named.foldl (fun acc e => Datum.insertNamed acc e.1 e.2) [])]

end PromptPipeline.Template
