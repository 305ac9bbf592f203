import PromptPipeline.Pattern.Translate
import PromptPipeline.Pattern.Footprint
import PromptPipeline.Pattern.Reader
/-!
Compiling a pattern to an automaton, and searching text with it.

The automaton has numbered states: a character set with its successor, an assertion, a union of
alternatives in order of preference, a capture that records the position in a slot, and accept.
It is built backwards: each part is compiled knowing the state that follows it. A repetition is a
union that loops back; greedy repetitions prefer another round, lazy ones prefer to stop. When the
repeated part can match the empty text, the loop is entered through its own union, so that a round
that matched nothing reaches a state already being explored and is cut off there.

The search tries the start positions from left to right. From a start it explores the states
depth first, in order of preference, and the first accept found is the match: the leftmost match,
and among those the preferred one, with the captures recorded on the way. A state is explored at
most once at each position over the whole search: exploring it again could only fail again, or
go round a loop that matched nothing. This also bounds the search.
-/
namespace PromptPipeline.Pattern

/-- A state of the automaton. -/
inductive State where
  /-- one character of the set, then the successor -/
  | chars (set : Array (Nat × Nat)) (next : Nat)
  | look (kind : Look) (next : Nat)
  /-- the alternatives, most preferred first -/
  | union (alts : List Nat)
  /-- records the position in a slot: slot `2i` opens group `i`, `2i + 1` closes it -/
  | capture (slot : Nat) (next : Nat)
  | fail
  | accept
  deriving Inhabited

/-- The shortest text an expression can match, in characters; none when it matches nothing. -/
def Expr.minLength : Expr → Option Nat
  | .empty | .look _ => some 0
  | .literal cs => some cs.length
  | .chars s => if s.isEmpty then none else some 1
  | .capture _ _ sub => sub.minLength
  | .repetition min _ _ sub => if min == 0 then some 0 else sub.minLength.map (· * min)
  | .concat items => go items
  | .alternation items => least items
where
  /-- The total of the shortest lengths. -/
  go : List Expr → Option Nat
    | [] => some 0
    | h :: rest => do
      let a ← h.minLength
      let b ← go rest
      pure (a + b)
  /-- The least of the shortest lengths that exist. -/
  least : List Expr → Option Nat
    | [] => none
    | h :: rest =>
      match h.minLength, least rest with
      | some a, some b => some (min a b)
      | some a, none => some a
      | none, other => other

namespace Build

/-- Adds a state; its number. -/
def add (states : Array State) (s : State) : Nat × Array State := (states.size, states.push s)

/-- The alternatives of a repetition's union: another round first when greedy. -/
def choice (greedy : Bool) (again leave : Nat) : State :=
  .union (if greedy then [again, leave] else [leave, again])

mutual
/-- Compiles an expression followed by the state `next`; its first state. -/
def compile (next : Nat) (states : Array State) : Expr → Nat × Array State
  | .empty => (next, states)
  | .literal cs => cs.foldr (fun c acc => add acc.2 (.chars #[(c.toNat, c.toNat)] acc.1)) (next, states)
  | .chars s => add states (.chars s.toArray next)
  | .look k => add states (.look k next)
  | .capture i _ sub =>
    let (close, states) := add states (.capture (2 * i + 1) next)
    let (body, states) := compile close states sub
    add states (.capture (2 * i) body)
  | .concat items => sequence next states items
  | .alternation items =>
    let (starts, states) := branches next states items
    add states (.union starts)
  | .repetition min max greedy sub =>
    let copies (count : Nat) (after : Nat) (states : Array State) : Nat × Array State :=
      (List.range count).foldl (fun acc _ => compile acc.1 acc.2 sub) (after, states)
    match max with
    | some hi =>
      if hi ≤ min then copies min next states
      else
        let (optional, states) := (List.range (hi - min)).foldl (fun acc _ =>
          let (body, states) := compile acc.1 acc.2 sub
          add states (choice greedy body next)) (next, states)
        copies min optional states
    | none =>
      let (loop, states) := add states .fail
      if min == 0 then
        let (body, states) := compile loop states sub
        if (sub.minLength.map fun n => decide (n > 0)).getD false then
          (loop, states.set! loop (choice greedy body next))
        else
          let states := states.set! loop (choice greedy body next)
          add states (choice greedy body next)
      else
        let (last, states) := compile loop states sub
        let states := states.set! loop (choice greedy last next)
        copies (min - 1) last states

/-- Compiles expressions in a row followed by `next`, the last one first. -/
def sequence (next : Nat) (states : Array State) : List Expr → Nat × Array State
  | [] => (next, states)
  | h :: rest =>
    let (after, states) := sequence next states rest
    compile after states h

/-- Compiles the branches of an alternation, each followed by `next`; their first states. -/
def branches (next : Nat) (states : Array State) : List Expr → List Nat × Array State
  | [] => ([], states)
  | h :: rest =>
    let (start, states) := compile next states h
    let (starts, states) := branches next states rest
    (start :: starts, states)
end

end Build

/-- A compiled pattern: its automaton, its number of groups, and the named groups. -/
structure Regex where
  states : Array State
  start : Nat
  groups : Nat
  names : List (Nat × String)

/-- Why a pattern cannot be compiled: it is malformed, or its automaton would pass the size
limit. -/
inductive CompileError where
  | malformed (e : PatternError)
  | tooLarge (limit : Nat)

/-- The text of a compile error, quoting the pattern when it is malformed. -/
def CompileError.text (pattern : String) : CompileError → String
  | .malformed e => e.text pattern
  | .tooLarge limit => "Compiled regex exceeds size limit of " ++ toString limit ++ " bytes."

/-- The named groups of an expression, by number. -/
def Expr.namedGroups (e : Expr) : List (Nat × String) :=
  (e.captures.filterMap fun (i, name) => name.map (i, ·)).mergeSort fun a b => a.1 ≤ b.1

/-- Compiles a pattern. Only the groups that remain in its expression are named: one repeated
zero times is gone. -/
def Regex.compile (pattern : String) : Except CompileError Regex := do
  let parsed ← (parse pattern).mapError .malformed
  let e ← (translate parsed.ast).mapError .malformed
  if e.exceedsSizeLimit then throw (.tooLarge sizeLimit)
  let (accept, states) := Build.add #[] .accept
  let (start, states) := Build.compile accept states (.capture 0 none e)
  pure ⟨states, start, parsed.groups, e.namedGroups⟩

namespace Search

/-- Whether a character is a word character, in Unicode or in ASCII. -/
def isWord (unicode : Bool) (c : Char) : Bool :=
  if unicode then Text.inClass Tables.wordBounds c else c.isAlphanum || c == '_'

/-- Whether an assertion holds at a position of a text. -/
def holds (hay : Array Char) (at_ : Nat) : Look → Bool
  | .start => at_ == 0
  | .finish => at_ == hay.size
  | .startLine false => at_ == 0 || hay[at_ - 1]? == some '\n'
  | .endLine false => at_ == hay.size || hay[at_]? == some '\n'
  | .startLine true =>
    at_ == 0 || hay[at_ - 1]? == some '\n' ||
      (hay[at_ - 1]? == some '\r' && hay[at_]? != some '\n')
  | .endLine true =>
    at_ == hay.size || hay[at_]? == some '\r' ||
      (hay[at_]? == some '\n' && (at_ == 0 || hay[at_ - 1]? != some '\r'))
  | .word u => before u != after u
  | .notWord u => before u == after u
  | .wordStart u => !before u && after u
  | .wordEnd u => before u && !after u
  | .wordStartHalf u => !before u
  | .wordEndHalf u => !after u
where
  /-- Whether a word character precedes the position. -/
  before (u : Bool) : Bool := at_ > 0 && ((hay[at_ - 1]?.map (isWord u)).getD false)
  /-- Whether a word character follows the position. -/
  after (u : Bool) : Bool := (hay[at_]?.map (isWord u)).getD false

/-- Work left for the explorer: a state to explore at a position, or a slot to restore when
backing out of a capture. -/
inductive Frame where
  | step (sid at_ : Nat)
  | restore (slot : Nat) (old : Option Nat)

/-- What exploring leaves: where a match ended, if one was found, the states explored so far,
and the slots. -/
structure Outcome where
  found : Option Nat
  visited : Array Bool
  slots : Array (Option Nat)

/-- Explores frames depth first, at most `fuel` of them. -/
def explore (re : Regex) (hay : Array Char) :
    Nat → List Frame → Array Bool → Array (Option Nat) → Outcome
  | 0, _, visited, slots => ⟨none, visited, slots⟩
  | _ + 1, [], visited, slots => ⟨none, visited, slots⟩
  | fuel + 1, .restore slot old :: rest, visited, slots =>
    explore re hay fuel rest visited (slots.set! slot old)
  | fuel + 1, .step sid at_ :: rest, visited, slots =>
    let key := sid * (hay.size + 1) + at_
    if visited.getD key true then explore re hay fuel rest visited slots
    else
      let visited := visited.set! key true
      match re.states.getD sid .fail with
      | .chars set next =>
        match hay[at_]? with
        | some c =>
          if CharSet.memArray set c.toNat then explore re hay fuel (.step next (at_ + 1) :: rest) visited slots
          else explore re hay fuel rest visited slots
        | none => explore re hay fuel rest visited slots
      | .look kind next =>
        if holds hay at_ kind then explore re hay fuel (.step next at_ :: rest) visited slots
        else explore re hay fuel rest visited slots
      | .union alts => explore re hay fuel (alts.map (Frame.step · at_) ++ rest) visited slots
      | .capture slot next =>
        explore re hay fuel (.step next at_ :: .restore slot (slots.getD slot none) :: rest) visited
          (slots.set! slot (some at_))
      | .fail => explore re hay fuel rest visited slots
      | .accept => ⟨some at_, visited, slots⟩

/-- The most alternatives of a union, at least one. -/
def widest (re : Regex) : Nat :=
  re.states.foldl (fun m s => match s with
    | .union alts => max m alts.length
    | _ => m) 1

/-- Tries the start positions from `from_` on, at most `count` of them. -/
def starts (re : Regex) (hay : Array Char) (fuel : Nat) :
    Nat → Nat → Array Bool → Option (Array (Option Nat))
  | _, 0, _ => none
  | from_, count + 1, visited =>
    let slots := Array.replicate (2 * (re.groups + 1)) none
    let out := explore re hay fuel [.step re.start from_] visited slots
    match out.found with
    | some _ => some out.slots
    | none => starts re hay fuel (from_ + 1) count out.visited

end Search

/-- The first match of a pattern in a text, leftmost and then preferred: the start and end of
every group, for groups that took part. -/
def Regex.captures (re : Regex) (text : String) : Option (Array (Option (Nat × Nat))) :=
  let hay := text.toList.toArray
  let cells := re.states.size * (hay.size + 1)
  let fuel := cells * (Search.widest re + 2) + 16
  (Search.starts re hay fuel 0 (hay.size + 1) (Array.replicate cells false)).map fun slots =>
    (Array.range (re.groups + 1)).map fun i =>
      match slots.getD (2 * i) none, slots.getD (2 * i + 1) none with
      | some a, some b => some (a, b)
      | _, _ => none

end PromptPipeline.Pattern
