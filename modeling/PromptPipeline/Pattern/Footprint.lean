import PromptPipeline.Pattern.Expr
import PromptPipeline.Pattern.Utf8Ranges
/-!
The memory a pattern's byte automaton takes while it is built, and the limit on it.

A pattern is compiled twice to an automaton over the bytes of UTF-8 text: once forward, with a
pair of states around every group, and once backward, without groups. Both start with a lazy
loop over any byte, unless every match is anchored at that end. Building charges 32 bytes for
every state, 8 for every transition of a state with several byte ranges, and 4 for every
alternative of a union state; a pattern whose automaton passes `sizeLimit` bytes in either
direction is refused.

The states are those of the usual construction, numbered in the order they are made:

* a literal is a chain of one state per byte; a look-around test and the empty expression are
  one state;
* an ASCII class is one state with a transition per range and a state after it;
* any other class is, forward, a small automaton over its UTF-8 byte sequences in which equal
  states are shared through a table of 10000 slots, and backward, a union of the sequences,
  where the same byte range leading to the same state is shared through a table of 1000 slots
  (a slot keeps the latest state put in it, so sharing depends on the state numbers);
* a choice of literals only is a trie of their bytes, each state a union of its stretches
  between matches; other choices are a union of their branches and a state after them;
* repetitions unroll: `e{n}` is `n` copies, `e{n,m}` adds `m - n` optional copies, each behind
  a union, and `e{n,}` ends in a loop through a union.

Memory only grows as the automaton is built, so whether it ever passes the limit is decided by
the end; the count stops as soon as it does.
-/
namespace PromptPipeline.Pattern

/-- The most memory, in bytes, that building a pattern's automaton may take. -/
def sizeLimit : Nat := 10485760

namespace Footprint

/-- Bytes a state takes. -/
def stateBytes : Nat := 32

/-- Bytes of each transition of a state with several byte ranges. -/
def transitionBytes : Nat := 8

/-- Bytes of each alternative of a union state. -/
def alternativeBytes : Nat := 4

/-- A byte range and the state it leads to. -/
abbrev Transition := Nat × Nat × Nat

/-- The meter of an automaton being built: its states so far, the bytes charged beyond their
own, and the tables that share states of classes, each slot with the class it was filled for. -/
structure Meter where
  states : Nat := 0
  extra : Nat := 0
  /-- which class the shared-state tables belong to now -/
  classes : Nat := 0
  forwardTable : Array (Nat × List Transition × Nat) := #[]
  backwardTable : Array (Nat × (Nat × Nat × Nat) × Nat) := #[]

/-- The bytes a meter has charged. -/
def Meter.bytes (m : Meter) : Nat := stateBytes * m.states + m.extra

/-- Building an automaton: fails once the limit is passed. -/
abbrev Build := StateT Meter (Except Unit)

/-- Charges bytes beyond a state's own. -/
def charge (bytes : Nat) : Build Unit := do
  let m ← get
  let m := { m with extra := m.extra + bytes }
  set m
  if m.bytes > sizeLimit then throw ()

/-- Adds a state with `extra` bytes of its own transitions or alternatives; its number. -/
def addState (extra : Nat) : Build Nat := do
  let m ← get
  set { m with states := m.states + 1 }
  charge extra
  pure m.states

/-- A piece of automaton: its first and last state, and whether the last is a union, which
gains an alternative when it is linked onward. -/
structure Piece where
  start : Nat
  stop : Nat
  openUnion : Bool := false

/-- Links a piece's last state onward. -/
def link (p : Piece) : Build Unit := if p.openUnion then charge alternativeBytes else pure ()

/-- A piece of one state. -/
def single : Build Piece := do
  let s ← addState 0
  pure ⟨s, s, false⟩

/-- An ASCII class, or any set of bytes: a state after it, then one state with a transition per
range. -/
def byteClass (ranges : Nat) : Build Piece := do
  let stop ← addState 0
  let start ← addState (transitionBytes * ranges)
  pure ⟨start, stop, false⟩

/-- Starts a class with fresh sharing tables. -/
def freshTables : Build Nat := do
  let m ← get
  let forwardTable := if m.forwardTable.isEmpty then Array.replicate 10000 (0, [], 0)
    else m.forwardTable
  let backwardTable := if m.backwardTable.isEmpty then Array.replicate 1000 (0, (0, 0, 0), 0)
    else m.backwardTable
  set { m with classes := m.classes + 1, forwardTable, backwardTable }
  pure (m.classes + 1)

/-- The FNV-1a step over one number. -/
def mix (h : UInt64) (x : Nat) : UInt64 := (h ^^^ x.toUInt64) * 1099511628211

/-- The FNV-1a offset. -/
def fnvStart : UInt64 := 14695981039346656037

/-! ### Forward classes -/

/-- A state of a class not yet built: its finished transitions and the byte range of its last
one, whose target is not known yet. -/
structure Pending where
  done : List Transition := []
  last : Option (Nat × Nat) := none
  deriving Inhabited

/-- The state for a list of transitions: one already built for an equal list in the same slot,
or a new one. -/
def shared (table : Nat) (trans : List Transition) : Build Nat := do
  let slot := ((trans.foldl (fun h (a, b, n) => mix (mix (mix h a) b) n) fnvStart).toNat) % 10000
  let m ← get
  match m.forwardTable[slot]? with
  | some (owner, key, id) =>
    if owner == table && key == trans then return id
  | none => pure ()
  let id ← addState (transitionBytes * trans.length)
  modify fun m => { m with forwardTable := m.forwardTable.set! slot (table, trans, id) }
  pure id

/-- A pending state with its last transition pointed at `next`. -/
def Pending.close (p : Pending) (next : Nat) : List Transition :=
  match p.last with
  | some (a, b) => p.done ++ [(a, b, next)]
  | none => p.done

/-- Builds the pending states above the first `keep`, deepest first, each pointing at the one
built before; the top kept state then points at the last one built. -/
def freeze (table target keep : Nat) (stack : Array Pending) : Build (Array Pending) := do
  let mut stack := stack
  let mut next := target
  for _ in [0:stack.size] do
    if keep + 1 < stack.size then
      let top := stack.back!
      stack := stack.pop
      next ← shared table (top.close next)
  let top := stack.back!
  pure (stack.pop.push { done := top.close next })

/-- Adds one byte sequence, sorted after the ones before: the part it shares with the previous
sequence stays pending, the rest of the previous one is built. -/
def addSequence (table target : Nat) (stack : Array Pending) (seq : List (Nat × Nat)) :
    Build (Array Pending) := do
  let common := ((seq.zip stack.toList).takeWhile fun (r, p) => p.last == some r).length
  let stack ← freeze table target common stack
  let rest := seq.drop common
  let top := stack.back!
  let stack := stack.pop.push { top with last := rest.head? }
  pure ((rest.drop 1).foldl (fun st r => st.push { last := some r }) stack)

/-- A class that is not ASCII, forward. -/
def forwardClass (s : CharSet) : Build Piece := do
  let target ← addState 0
  let table ← freshTables
  let mut stack : Array Pending := #[{}]
  for (lo, hi) in s do
    for seq in utf8Sequences lo hi do
      stack ← addSequence table target stack seq
  let frozen ← freeze table target 0 stack
  let start ← shared table (frozen.back!.done)
  pure ⟨start, target, false⟩

/-! ### Backward classes -/

/-- The state for a byte range leading to `next`: one already made for the same in the same
slot, or a new one. -/
def sharedStep (table next a b : Nat) : Build Nat := do
  let slot := (mix (mix (mix fnvStart next) a) b).toNat % 1000
  let m ← get
  match m.backwardTable[slot]? with
  | some (owner, key, id) =>
    if owner == table && key == (next, a, b) then return id
  | none => pure ()
  let id ← addState 0
  modify fun m => { m with backwardTable := m.backwardTable.set! slot (table, (next, a, b), id) }
  pure id

/-- A class that is not ASCII, backward: a union of its byte sequences, each built from its
first byte range to its last. -/
def backwardClass (s : CharSet) : Build Piece := do
  let union ← addState 0
  let stop ← addState 0
  let table ← freshTables
  for (lo, hi) in s do
    for seq in utf8Sequences lo hi do
      let mut next := stop
      for (a, b) in seq do
        next ← sharedStep table next a b
      charge alternativeBytes
  pure ⟨union, stop, false⟩

/-- A class in either direction. -/
def charClass (backward : Bool) (s : CharSet) : Build Piece :=
  if CharSet.isAscii s then byteClass s.length
  else if backward then backwardClass s else forwardClass s

/-! ### Choices of literals -/

/-- A state of a trie of literals: its transitions by byte, sorted within each stretch, and
where the stretches end; a match closes a stretch. -/
structure TrieNode where
  edges : Array (Nat × Nat) := #[]
  stretches : Array Nat := #[]
  deriving Inhabited

/-- Where the open stretch of a trie state starts. -/
def TrieNode.openStart (t : TrieNode) : Nat := t.stretches.back?.getD 0

/-- The stretches of a trie state, the open one last. -/
def TrieNode.parts (t : TrieNode) : List (List (Nat × Nat)) :=
  let ends := t.stretches.toList ++ [t.edges.size]
  let starts := 0 :: t.stretches.toList
  (starts.zip ends).map fun (a, b) => ((t.edges.toList.drop a).take (b - a))

/-- Marks a trie state as a match, closing its open stretch (a leaf that matches already stays
as it is). -/
def TrieNode.markMatch (t : TrieNode) : TrieNode :=
  if t.edges.isEmpty && !t.stretches.isEmpty then t
  else { t with stretches := t.stretches.push t.edges.size }

/-- The trie after following byte `b` from state `at_`, adding a state when the open stretch
has no transition on it; the state reached. -/
def trieStep (trie : Array TrieNode) (at_ b : Nat) : Array TrieNode × Nat :=
  let t := trie[at_]!
  let openPart := t.edges.toList.drop t.openStart
  match openPart.find? (·.1 == b) with
  | some (_, next) => (trie, next)
  | none =>
    let before := (openPart.filter (·.1 < b)).length
    let i := t.openStart + before
    let next := trie.size
    let edges := (t.edges.toList.take i ++ [(b, next)] ++ t.edges.toList.drop i).toArray
    ((trie.set! at_ { t with edges }).push {}, next)

/-- The trie of some byte strings. -/
def trieOf (words : List (List Nat)) : Array TrieNode :=
  words.foldl (fun trie w =>
    let (trie, last) := w.foldl (fun (trie, at_) b => trieStep trie at_ b) (trie, 0)
    trie.set! last (trie[last]!.markMatch)) #[{}]

/-- Builds the states of a trie state and below it, `fuel` bounding the depth; the union state
that starts it. -/
def trieState (trie : Array TrieNode) (stop : Nat) : Nat → Nat → Build Nat
  | 0, _ => addState 0
  | fuel + 1, at_ => do
    let mut alternatives := 0
    let mut first := true
    for part in trie[at_]!.parts do
      if !first then alternatives := alternatives + 1
      first := false
      let mut ranges := 0
      for (_, next) in part do
        if !trie[next]!.edges.isEmpty then
          let _ ← trieState trie stop fuel next
        ranges := ranges + 1
      if ranges == 1 then
        let _ ← addState 0
        alternatives := alternatives + 1
      else if ranges > 1 then
        let _ ← addState (transitionBytes * ranges)
        alternatives := alternatives + 1
    addState (alternativeBytes * alternatives)

/-- A choice of literals, given by their bytes in the order they are read. -/
def literalChoice (words : List (List Nat)) : Build Piece := do
  let stop ← addState 0
  let trie := trieOf words
  let start ← trieState trie stop (trie.size + 1) 0
  pure ⟨start, stop, false⟩

/-! ### Repetitions -/

/-- `n` copies in a row; none is one empty state. -/
def copies (once : Build Piece) (n : Nat) : Build Piece := do
  if n == 0 then return ← single
  let first ← once
  let mut last := first
  for _ in [1:n] do
    let next ← once
    link last
    last := next
  pure ⟨first.start, last.stop, last.openUnion⟩

/-- At most one copy. -/
def optional (once : Build Piece) : Build Piece := do
  let union ← addState 0
  let p ← once
  let stop ← addState 0
  charge (2 * alternativeBytes)
  link p
  pure ⟨union, stop, false⟩

/-- At least `n` copies; `least` is the fewest bytes a copy takes. -/
def atLeast (once : Build Piece) (least : Option Nat) (n : Nat) : Build Piece := do
  if n == 0 then
    if least.any (fun n => n > 0) then
      let union ← addState 0
      let p ← once
      charge alternativeBytes
      link p
      return ⟨union, union, true⟩
    let p ← once
    let _ ← addState 0
    link p
    charge alternativeBytes
    let question ← addState 0
    let stop ← addState 0
    charge (3 * alternativeBytes)
    return ⟨question, stop, false⟩
  else if n == 1 then
    let p ← once
    let union ← addState 0
    link p
    charge alternativeBytes
    return ⟨p.start, union, true⟩
  else
    let front ← copies once (n - 1)
    let last ← once
    let union ← addState 0
    link front
    link last
    charge alternativeBytes
    return ⟨front.start, union, true⟩

/-- From `n` to `m` copies, `n < m`: the optional ones each behind a union that can skip to the
end. -/
def between (once : Build Piece) (n m : Nat) : Build Piece := do
  let front ← copies once n
  let stop ← addState 0
  let mut previous := front
  for _ in [n:m] do
    let _ ← addState 0
    let p ← once
    link previous
    charge (2 * alternativeBytes)
    previous := p
  link previous
  pure ⟨front.start, stop, false⟩

/-- A repetition of a piece. -/
def repetition (once : Build Piece) (least : Option Nat) (min : Nat) (max : Option Nat) :
    Build Piece :=
  match min, max with
  | 0, some 1 => optional once
  | n, none => atLeast once least n
  | n, some m => if n == m then copies once n else between once n m

/-! ### Expressions -/

/-- The literals of a choice made of literals only, at least two of them. -/
def literalsOnly (items : List Expr) : Option (List (List Char)) :=
  let words := items.filterMap fun e =>
    match e with
    | .literal cs => some cs
    | _ => none
  if words.length > 1 && words.length == items.length then some words else none

/-- The bytes of characters in UTF-8. -/
def bytesOf (cs : List Char) : List Nat := cs.flatMap fun c => Utf8Ranges.encode c.toNat

mutual
/-- The piece of an expression, forward or backward. -/
def piece (backward : Bool) : Expr → Build Piece
  | .empty | .look _ => single
  | .literal cs => do
    let n := (bytesOf cs).length
    let first ← addState 0
    for _ in [1:n] do
      let _ ← addState 0
    pure ⟨first, first + n - 1, false⟩
  | .chars s => charClass backward s
  | .repetition min max _ sub => repetition (piece backward sub) sub.leastLength min max
  | .capture _ _ sub =>
    if backward then piece backward sub
    else do
      let start ← addState 0
      let inner ← piece backward sub
      let stop ← addState 0
      link inner
      pure ⟨start, stop, false⟩
  | .concat items => do
    let ps ← if backward then piecesFromLast items else pieces backward items
    match ps.head?, ps.getLast? with
    | some first, some last =>
      for p in ps.dropLast do
        link p
      pure ⟨first.start, last.stop, last.openUnion⟩
    | _, _ => single
  | .alternation items =>
    match literalsOnly items with
    | some words =>
      literalChoice (words.map fun w => if backward then (bytesOf w).reverse else bytesOf w)
    | none => do
      let (ps, union, stop) ← branches backward 0 items
      for p in ps do
        charge alternativeBytes
        link p
      pure ⟨union, stop, false⟩

/-- The pieces of expressions in order. -/
def pieces (backward : Bool) : List Expr → Build (List Piece)
  | [] => pure []
  | e :: rest => do
    let p ← piece backward e
    let ps ← pieces backward rest
    pure (p :: ps)

/-- The pieces of expressions built backward, the last first; in the order built. -/
def piecesFromLast : List Expr → Build (List Piece)
  | [] => pure []
  | e :: rest => do
    let ps ← piecesFromLast rest
    let p ← piece true e
    pure (ps ++ [p])

/-- The pieces of the branches of a choice, with its union and the state after it, which are
made once two branches are built; `seen` branches came before. -/
def branches (backward : Bool) (seen : Nat) : List Expr → Build (List Piece × Nat × Nat)
  | [] => pure ([], 0, 0)
  | e :: rest => do
    let p ← piece backward e
    if seen == 1 then
      let union ← addState 0
      let stop ← addState 0
      let (ps, _, _) ← branches backward (seen + 1) rest
      pure (p :: ps, union, stop)
    else
      let (ps, union, stop) ← branches backward (seen + 1) rest
      pure (p :: ps, union, stop)
end

/-- The lazy loop over any byte that lets a match start anywhere. -/
def anyStart : Build Piece := do
  let union ← addState 0
  let _ ← byteClass 1
  charge alternativeBytes
  pure ⟨union, union, true⟩

/-- The whole automaton of an expression, forward with its groups and the group of the whole
match, or backward without groups. -/
def automaton (backward : Bool) (e : Expr) : Build Unit := do
  let anchored := if backward then e.endsAnchored else e.startsAnchored
  let front ← if anchored then single else anyStart
  if backward then
    let inner ← piece true e
    let _ ← addState 0
    link inner
  else
    let _ ← addState 0
    let inner ← piece false e
    let _ ← addState 0
    link inner
    let _ ← addState 0
  link front

end Footprint

/-- Whether building the automaton of an expression, forward or backward, passes
`sizeLimit`. -/
def Expr.exceedsSizeLimit (e : Expr) : Bool :=
  let passes (backward : Bool) : Bool :=
    match (Footprint.automaton backward e).run {} with
    | .ok _ => false
    | .error _ => true
  passes false || passes true

end PromptPipeline.Pattern
