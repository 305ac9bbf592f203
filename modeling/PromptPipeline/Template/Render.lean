import PromptPipeline.Template.Machine
/-!
Rendering templates.

Rendering walks the nodes of a template in order and writes text, with names looked up in the
frames of the machine. Expressions are evaluated left to right; a call evaluates its arguments
before it looks at what it calls, except that a method's object comes first.

Undefined values are strict: writing one, asking for its truth, looping over it, reaching into
it (`x.a`, `x[0]`), joining it with `~` or looking into it with `in` is an error. The silent
undefined value of `a if b` without `else` writes nothing and is false.

Loops bind their target and `loop` in a frame of their own, which lasts for all items; a
condition on the items is tested in a frame of its own first. A recursive loop renders its
body again for the items given to `loop(...)`, one level deeper. A macro call runs the body in
new frames that see only the parameters, `caller` and the names the macro keeps; its text is
the value of the call. Blocks render where they stand, in a frame of their own. No other
template exists, so including, importing and extending fail.

Every evaluation and rendering step takes one unit of a budget that bounds how deeply
expressions, statements and calls nest; the limit on frames keeps real templates far from it.
-/
namespace PromptPipeline.Template

open Outcome

/-- The parameters a routine gives: positional arguments in order, named ones by name, the
undefined value for the rest; the second part tells which came by name. -/
def pickArguments (names : List String) (positional : List Datum)
    (kwargs : List (String × Datum)) (line : Nat) : Run (List (Datum × Bool)) :=
  names.zipIdx.mapM fun (pname, i) =>
    match positional[i]?, Datum.named? kwargs pname with
    | some _, some _ =>
      Run.throwAt line .tooManyArguments (some ("duplicate argument `" ++ pname ++ "`"))
    | some a, none => pure (a, false)
    | none, some k => pure (k, true)
    | none, none => pure (Datum.missing, false)

/-- The namespace a call of `namespace` makes: from a map or named arguments. -/
def namespaceEntries (args : List Datum) (line : Nat) : Run (List (String × Datum)) :=
  match args with
  | [] | [.none] | [.undefined _] => pure []
  | [v] =>
    match Datum.mapView? v with
    | some es =>
      pure ((es.filterMap fun e => e.1.asStr?.map (·, e.2)).foldl
        (fun acc e => Datum.insertNamed acc e.1 e.2) [])
    | none => Run.throwAt line .invalidOperation (some ("expected object, got " ++ v.kindName))
  | _ => Run.throwAt line .tooManyArguments

/-- Calls a global function. -/
def callBuiltin (env : Env) (name : String) (args : List Datum) (line : Nat) : Run Datum :=
  match name with
  | "range" => Run.lift line (Builtin.range args)
  | "dict" => Run.lift line (Builtin.dict args)
  | "namespace" => do
    let entries ← namespaceEntries args line
    let id ← Run.fresh
    modify fun heap => { heap with namespaces := setEntry heap.namespaces id entries }
    pure (.names id entries)
  | _ => pure (Datum.text (Datum.pretty 0 (.kwargs env.context)))

/-- Calls a method of a loop: `changed` (whether the arguments differ from the last call's)
and `cycle` (the argument at the loop's position, counted round; with no arguments the engine
aborts). -/
def loopMethod (l : Datum) (name : String) (args : List Datum) (line : Nat) : Run Datum :=
  match l, name with
  | .loopState id _ _ _ _ _, "changed" => do
    let heap ← get
    let same := match entryOf? heap.memories id with
      | some last => last.length == args.length && (last.zip args).all fun p => Datum.same p.1 p.2
      | none => false
    if same then pure (.bool false)
    else do
      set { heap with memories := setEntry heap.memories id args }
      pure (.bool true)
  | .loopState _ index _ _ _ _, "cycle" =>
    if args.isEmpty then Run.throwAt line .aborted
    else pure ((args[index % args.length]?).getD Datum.missing)
  | _, _ => Run.throwAt line .unknownMethod (some (l.kindName ++ " has no method named " ++ name))

mutual
/-- Binds a target to a value: a name in the innermost frame, an attribute of a namespace, or
several targets to the items of a list. -/
def assign (env : Env) (line : Nat) : Target → Datum → Run Env
  | .name n, v => env.store n v
  | .path root attrs, v => do
    let heap ← get
    let base := (env.lookup heap root).getD Datum.missing
    let owner ← attrs.dropLast.foldlM (fun o a =>
      match Ops.attr? o a with
      | some x => pure (heap.refresh x)
      | none => if o.isUndefined then Run.throwAt line .undefinedValue else pure Datum.missing) base
    match owner, attrs.getLast? with
    | .names id _, some last => do
      modify fun heap =>
        let entries := Datum.insertNamed ((entryOf? heap.namespaces id).getD []) last v
        { heap with namespaces := setEntry heap.namespaces id entries }
      pure env
    | other, _ =>
      Run.throwAt line .invalidOperation
        (some ("can only assign to namespaces, not " ++ other.kindName))
  | .tuple targets, v => do
    let items ← Run.lift line (unpackItems v)
    if items.length != targets.length then
      Run.throwAt line .cannotUnpack (some ("sequence of wrong length (expected " ++
        toString targets.length ++ ", got " ++ toString items.length ++ ")"))
    else assignItems env line targets items

/-- Binds targets to items, pairwise. -/
def assignItems (env : Env) (line : Nat) : List Target → List Datum → Run Env
  | t :: ts, x :: xs => do
    let env ← assign env line t x
    assignItems env line ts xs
  | _, _ => pure env
end

/-- Steps enough for any template: one step for each level of nesting of expressions,
statements, calls and loops. -/
def stepBudget : Nat := 1000000

mutual
/-- The value of an expression. -/
def eval : Nat → Env → Term → Run Datum
  | 0, _, t => Run.throwAt t.line .invalidOperation (some "recursion limit exceeded")
  | fuel + 1, env, t =>
    match t with
    | .var name _ => do
      let heap ← get
      pure ((env.lookup heap name).getD Datum.missing)
    | .const v _ => pure v
    | .list items _ => do
      let vs ← items.mapM (eval fuel env)
      pure (.seq vs)
    | .map entries _ => do
      let es ← entries.mapM fun e => do
        let k ← eval fuel env e.1
        let v ← eval fuel env e.2
        pure (k, v)
      pure (Datum.mapOf es)
    | .attr base name line => do
      let b ← eval fuel env base
      let heap ← get
      match Ops.attr? b name with
      | some v => pure (heap.refresh v)
      | none => if b.isUndefined then Run.throwAt line .undefinedValue else pure Datum.missing
    | .item base key line => do
      let b ← eval fuel env base
      let k ← eval fuel env key
      let heap ← get
      match Ops.item? b k with
      | some v => pure (heap.refresh v)
      | none => if b.isUndefined then Run.throwAt line .undefinedValue else pure Datum.missing
    | .slice base start stop step line => do
      let b ← eval fuel env base
      let s ← match start with
        | some x => eval fuel env x
        | none => pure .none
      let e ← match stop with
        | some x => eval fuel env x
        | none => pure .none
      let st ← match step with
        | some x => eval fuel env x
        | none => pure .none
      Run.lift line (Ops.slice b s e st)
    | .unary .not arg line => do
      let v ← eval fuel env arg
      let holds ← Run.lift line (truth v)
      pure (.bool !holds)
    | .unary .neg arg line => do
      let v ← eval fuel env arg
      Run.lift line (Ops.neg v)
    | .binary .and left right line => do
      let a ← eval fuel env left
      if ← Run.lift line (truth a) then eval fuel env right else pure a
    | .binary .or left right line => do
      let a ← eval fuel env left
      if ← Run.lift line (truth a) then pure a else eval fuel env right
    | .binary op left right line => do
      let a ← eval fuel env left
      let b ← eval fuel env right
      Run.lift line (applyBinary op a b)
    | .cond test yes no line => do
      let c ← eval fuel env test
      if ← Run.lift line (truth c) then eval fuel env yes
      else
        match no with
        | some n => eval fuel env n
        | none => pure (.undefined true)
    | .filter name arg args line => do
      let v ← match arg with
        | some a => eval fuel env a
        | none => pure Datum.missing
      let vals ← evalArgs fuel env args []
      Run.lift line (Builtin.filter name v vals env.escape)
    | .test name arg args line => do
      let v ← eval fuel env arg
      let vals ← evalArgs fuel env args []
      let holds ← Run.lift line (Builtin.test name v vals)
      pure (.bool holds)
    | .call callee args line => callTerm fuel env callee args [] line

/-- The values of arguments, the named ones (and `extra`) gathered at the end. -/
def evalArgs : Nat → Env → List (Option String × Term) → List (String × Datum) →
    Run (List Datum)
  | 0, _, _, _ => Run.throwAt 0 .invalidOperation (some "recursion limit exceeded")
  | fuel + 1, env, args, extra => do
    let vals ← args.mapM fun a => do
      let v ← eval fuel env a.2
      pure (a.1, v)
    let positional := vals.filterMap fun a => if a.1.isNone then some a.2 else none
    let named := vals.filterMap fun a => a.1.map (·, a.2)
    pure (gatherArgs positional (named ++ extra))

/-- A call: `loop(...)` recurses into the loop, a name calls what it names or a global
function, `x.m(...)` calls a method, anything else calls its value. -/
def callTerm : Nat → Env → Term → List (Option String × Term) → List (String × Datum) → Nat →
    Run Datum
  | 0, _, _, _, _, line => Run.throwAt line .invalidOperation (some "recursion limit exceeded")
  | fuel + 1, env, callee, args, extra, line =>
    match callee with
    | .var "loop" _ => do
      let vals ← evalArgs fuel env args extra
      match vals with
      | [items] => recurse fuel env items line
      | _ => Run.throwAt line .invalidOperation (some "loop() takes one argument")
    | .var "super" _ => do
      let _ ← evalArgs fuel env args extra
      Run.throwAt line .invalidOperation (some (if env.block.isSome then
        "no parent block exists" else "cannot super outside of block"))
    | .var name _ => do
      let vals ← evalArgs fuel env args extra
      let heap ← get
      match env.lookup heap name with
      | some f => callValue fuel env f vals line
      | none => Run.throwAt line .unknownFunction (some (name ++ " is unknown"))
    | .attr base name _ => do
      let b ← eval fuel env base
      let vals ← evalArgs fuel env args extra
      match b with
      | .loopState .. => loopMethod b name vals line
      | _ =>
        match Ops.attr? b name with
        | some f => do
          let heap ← get
          callValue fuel env (heap.refresh f) vals line
        | none =>
          Run.throwAt line .unknownMethod (some (b.kindName ++ " has no method named " ++ name))
    | other => do
      let f ← eval fuel env other
      let vals ← evalArgs fuel env args extra
      callValue fuel env f vals line

/-- Calls a value: a macro, or a global function. -/
def callValue : Nat → Env → Datum → List Datum → Nat → Run Datum
  | 0, _, _, _, line => Run.throwAt line .invalidOperation (some "recursion limit exceeded")
  | fuel + 1, env, f, args, line =>
    match f with
    | .callable id .. => do
      let heap ← get
      match entryOf? heap.routines id with
      | some r => invoke fuel env r args line
      | none => Run.throwAt line .invalidOperation (some "cannot call this macro")
    | .builtin name => callBuiltin env name args line
    | other =>
      Run.throwAt line .invalidOperation
        (some ("value of type " ++ other.kindName ++ " is not callable"))

/-- Calls a macro: binds its parameters (defaults filled in from the last parameter to the
first) in new frames over its closure and renders its body. -/
def invoke : Nat → Env → Routine → List Datum → Nat → Run Datum
  | 0, _, _, _, line => Run.throwAt line .invalidOperation (some "recursion limit exceeded")
  | fuel + 1, env, r, args, line => do
    let (positional, kwargs) := Args.split args
    let names := r.params.names
    if positional.length > names.length then Run.throwAt line .tooManyArguments
    else
      let picked ← pickArguments names positional kwargs line
      let byName := (names.zip picked).filterMap fun p => if p.2.2 then some p.1 else none
      let used := if r.callsCaller then "caller" :: byName else byName
      match kwargs.find? (fun e => !used.contains e.1) with
      | some (k, _) =>
        Run.throwAt line .tooManyArguments (some ("unknown keyword argument `" ++ k ++ "`"))
      | none =>
        let outer := env.depth + 4
        if outer + 1 > recursionLimit then
          Run.throwAt line .invalidOperation (some "recursion limit exceeded")
        else do
          let base : Frame := { scope := match r.closure with
            | some id => .closure id
            | none => .plain }
          let callerLocal := if r.callsCaller then
              [("caller", (Datum.named? kwargs "caller").getD Datum.missing)]
            else []
          let inner : Env :=
            { context := env.context
              frames := [{ locals := callerLocal }, base]
              outer
              escape := env.escape }
          let firstDefault := names.length - r.params.defaults.length
          let inner ← ((names.zip picked).zipIdx.reverse).foldlM (fun e p => do
            let ((pname, (v, _)), i) := p
            let v ← if v.isUndefined && i ≥ firstDefault then
                match r.params.defaults[i - firstDefault]? with
                | some d => eval fuel e d
                | none => pure v
              else pure v
            e.store pname v) inner
          let (_, text) ← renderNodes fuel inner r.body
          pure (.str text env.escape)

/-- `loop(items)`: renders the innermost loop's body again over other items, one level
deeper; its text is the value. -/
def recurse : Nat → Env → Datum → Nat → Run Datum
  | 0, _, _, line => Run.throwAt line .invalidOperation (some "recursion limit exceeded")
  | fuel + 1, env, v, line =>
    match env.currentLoop? with
    | some l =>
      match l.recursion with
      | some parts => do
        let items ← Run.lift line (loopItems v)
        let (_, text, _) ← runLoop fuel env parts.target items (Datum.loopLength? v items)
          (some parts) parts.body (l.depth + 1) parts.line
        pure (.str text env.escape)
      | none => Run.throwAt line .invalidOperation (some "cannot recurse outside of recursive loop")
    | none => Run.throwAt line .invalidOperation (some "cannot recurse outside of recursive loop")

/-- A value passed through a chain of filters whose innermost one takes `input`. -/
def applyChain : Nat → Env → Datum → Term → Run Datum
  | 0, _, _, t => Run.throwAt t.line .invalidOperation (some "recursion limit exceeded")
  | fuel + 1, env, input, t =>
    match t with
    | .filter name arg args line => do
      let v ← match arg with
        | some a => applyChain fuel env input a
        | none => pure input
      let vals ← evalArgs fuel env args []
      Run.lift line (Builtin.filter name v vals env.escape)
    | other => eval fuel env other

/-- The items for which a loop's condition holds, tested with the target bound in a frame of
their own. -/
def keptItems : Nat → Env → Target → Term → List Datum → Nat → Run (List Datum)
  | 0, _, _, _, _, line => Run.throwAt line .invalidOperation (some "recursion limit exceeded")
  | fuel + 1, env, target, cond, items, line => do
    let id ← Run.fresh
    let filtering : LoopFrame :=
      { id
        index := 0
        length := some items.length
        depth := 1
        previous := Datum.missing
        following := Datum.missing
        recursion := none
        visible := false }
    let frame : Frame := { loop := some filtering }
    let env ← env.push frame line
    let (_, kept) ← items.foldlM (fun (acc : Env × List Datum) x => do
      let e ← assign acc.1 line target x
      let c ← eval fuel e cond
      let holds ← Run.lift cond.line (truth c)
      pure (e, if holds then x :: acc.2 else acc.2)) (env, [])
    pure kept.reverse

/-- Renders a loop's body once per item in a loop frame at a depth, announcing the count of items
where it is known; the environment after it, the text, and whether there was an item. -/
def runLoop : Nat → Env → Target → List Datum → Option Nat → Option LoopBody → List Node →
    Nat → Nat → Run (Env × String × Bool)
  | 0, _, _, _, _, _, _, _, line =>
    Run.throwAt line .invalidOperation (some "recursion limit exceeded")
  | fuel + 1, env, target, items, length, recursion, body, depth, line => do
    let id ← Run.fresh
    let state (index : Nat) (previous following : Datum) : LoopFrame :=
      { id, index, length, depth, previous, following, recursion, visible := true }
    let env ← env.push { loop := some (state 0 Datum.missing Datum.missing) } line
    let steps := items.zip ((Datum.missing :: items).zip (items.drop 1 ++ [Datum.missing]))
    let (env, text, _) ← steps.foldlM (fun (acc : Env × String × Nat) step => do
      let (e, out, index) := acc
      let (x, previous, following) := step
      let e := e.withTop { e.top with loop := some (state index previous following) }
      let e ← assign e line target x
      let (e, s) ← renderNodes fuel e body
      pure (e, out ++ s, index + 1)) (env, "", 0)
    pure (env.pop, text, !items.isEmpty)

/-- Renders nodes in order; the environment after them and their text. -/
def renderNodes : Nat → Env → List Node → Run (Env × String)
  | 0, _, _ => Run.throwAt 0 .invalidOperation (some "recursion limit exceeded")
  | fuel + 1, env, nodes =>
    nodes.foldlM (fun (acc : Env × String) n => do
      let (e, s) ← renderNode fuel acc.1 n
      pure (e, acc.2 ++ s)) (env, "")

/-- Renders one node; the environment after it and its text. -/
def renderNode : Nat → Env → Node → Run (Env × String)
  | 0, _, _ => Run.throwAt 0 .invalidOperation (some "recursion limit exceeded")
  | fuel + 1, env, node =>
    match node with
    | .text s => pure (env, s)
    | .emit t _ => do
      let v ← eval fuel env t
      if v.isStrictUndefined then Run.throwAt t.line .undefinedValue
      else pure (env, written env.escape v)
    | .ifElse test yes no _ => do
      let c ← eval fuel env test
      if ← Run.lift test.line (truth c) then renderNodes fuel env yes
      else renderNodes fuel env no
    | .assign target value line => do
      let v ← eval fuel env value
      let env ← assign env line target v
      pure (env, "")
    | .forLoop target iter filter recursive body orElse line => do
      let v ← eval fuel env iter
      let all ← Run.lift iter.line (loopItems v)
      let (items, length) ← match filter with
        | some cond => do
          let kept ← keptItems fuel env target cond all line
          pure (kept, some kept.length)
        | none => pure (all, Datum.loopLength? v all)
      let recursion := if recursive then some { target, body, line } else none
      let (env, text, iterated) ← runLoop fuel env target items length recursion body 1 line
      if iterated then pure (env, text)
      else do
        let (env, more) ← renderNodes fuel env orElse
        pure (env, text ++ more)
    | .capture target filter body line => do
      let (env, text) ← renderNodes fuel env body
      let captured := Datum.str text env.escape
      let v ← match filter with
        | some f => applyChain fuel env captured f
        | none => pure captured
      let env ← assign env line target v
      pure (env, "")
    | .scope bindings body line => do
      let inner ← env.push {} line
      let inner ← bindings.foldlM (fun e b => do
        let v ← eval fuel e b.2
        assign e b.2.line b.1 v) inner
      let (inner, text) ← renderNodes fuel inner body
      pure (inner.pop, text)
    | .filtered filter body line => do
      let (env, text) ← renderNodes fuel env body
      let v ← applyChain fuel env (.str text env.escape) filter
      if v.isStrictUndefined then Run.throwAt line .undefinedValue
      else pure (env, written env.escape v)
    | .autoescape flag body line => do
      let v ← eval fuel env flag
      let on ← Run.lift line (escapeSetting v)
      let (inner, text) ← renderNodes fuel { env with escape := on } body
      pure ({ inner with escape := env.escape }, text)
    | .define name params body free callsCaller _ => do
      let env ← if free.isEmpty then pure env else env.enclose free
      let id ← Run.fresh
      let routine : Routine := { name, params, body, closure := env.top.closure, callsCaller }
      modify fun heap => { heap with routines := setEntry heap.routines id routine }
      let env ← env.store name (.callable id name params.names callsCaller)
      pure (env, "")
    | .callBlock call params body free callsCaller line => do
      let env ← if free.isEmpty then pure env else env.enclose free
      let id ← Run.fresh
      let routine : Routine :=
        { name := "caller", params, body, closure := env.top.closure, callsCaller }
      modify fun heap => { heap with routines := setEntry heap.routines id routine }
      let v ← match call with
        | .call callee args callLine =>
          callTerm fuel env callee args
            [("caller", .callable id "caller" params.names callsCaller)] callLine
        | other => eval fuel env other
      if v.isStrictUndefined then Run.throwAt line .undefinedValue
      else pure (env, written env.escape v)
    | .block name body line => do
      let inner ← env.push {} line
      let (inner, text) ← renderNodes fuel { inner with block := some name } body
      pure ({ inner.pop with block := env.block }, text)
    | .load name ignoreMissing line => do
      let v ← eval fuel env name
      let choices := match v with
        | .seq xs => xs
        | other => [other]
      let names ← choices.mapM fun c =>
        match c with
        | .str s _ => pure s
        | _ => Run.throwAt line .invalidOperation (some "template name was not a string")
      match names, ignoreMissing with
      | [], _ | _, true => pure (env, "")
      | [single], false =>
        Run.throwAt line .templateNotFound
          (some ("tried to include non-existing template " ++ debugQuote single))
      | several, false =>
        Run.throwAt line .templateNotFound
          (some ("tried to include one of multiple templates, none of which existed " ++
            (Datum.seq (several.map Datum.text)).debug))
    | .extend name line => do
      let v ← eval fuel env name
      match v with
      | .str s _ =>
        Run.throwAt line .templateNotFound
          (some ("template " ++ debugQuote s ++ " does not exist"))
      | _ => Run.throwAt line .invalidOperation (some "template name was not a string")
    | .exec term _ => do
      let _ ← eval fuel env term
      pure (env, "")
end

/-- The text of a template's nodes rendered with bindings. -/
def render (context : List (String × Datum)) (nodes : List Node) : Except EngineError String :=
  match renderNodes stepBudget { context } nodes |>.run {} with
  | .ok ((_, text), _) => .ok text
  | .error e => .error e

end PromptPipeline.Template
