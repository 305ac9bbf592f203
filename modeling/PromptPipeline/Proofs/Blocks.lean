import PromptPipeline.Workflow.Program
/-!
Block trees.

A workflow writes its blocks flat: `if` … [`else` …] `end_if` and `for_each` … `end_for_each`.
Read left to right with a stack of the blocks still open, a list is well nested when every `else`
meets an open `if` that has no `else` yet, every `end_if` an open `if`, every `end_for_each` an
open `for_each`, and nothing is open at the end. The well nested lists are exactly the lists that
block trees write: `Stmt.parse` reads the tree, `Stmt.itemsAll` writes it (`parse_eq_some_iff`).
-/
namespace PromptPipeline

/-- The items that delimit blocks, with the condition or collection they carry. -/
inductive Mark (ε : Type) where
  | openIf (condition : ε)
  | elseBranch
  | closeIf
  | openLoop (var : String) (collection : ε)
  | closeLoop

/-- Items among which some delimit blocks: a mark is written as an item, and an item that
delimits a block is read back as its mark. -/
class Brackets (ε : outParam Type) (α : Type) where
  mark : Mark ε → α
  markOf? : α → Option (Mark ε)
  markOf?_mark : ∀ m, markOf? (mark m) = some m
  mark_of_markOf? : ∀ {a m}, markOf? a = some m → mark m = a

open Brackets

/-- A block tree over items `α` whose blocks carry conditions and collections `ε`. -/
inductive Stmt (ε α : Type) [Brackets ε α] where
  | plain (a : α) (unmarked : markOf? a = none)
  | cond (condition : ε) (yes : List (Stmt ε α)) (no : Option (List (Stmt ε α)))
  | loop (var : String) (collection : ε) (body : List (Stmt ε α))

namespace Stmt

variable {ε α : Type} [Brackets ε α]

mutual
/-- The items that write a block. -/
def items : Stmt ε α → List α
  | .plain a _ => [a]
  | .cond c yes none => mark (.openIf c) :: itemsAll yes ++ [mark .closeIf]
  | .cond c yes (some no) =>
    mark (.openIf c) :: itemsAll yes ++ mark .elseBranch :: itemsAll no ++ [mark .closeIf]
  | .loop v c body => mark (.openLoop v c) :: itemsAll body ++ [mark .closeLoop]
def itemsAll : List (Stmt ε α) → List α
  | [] => []
  | b :: bs => items b ++ itemsAll bs
end

mutual
/-- The number of items of a block. -/
def size : Stmt ε α → Nat
  | .plain .. => 1
  | .cond _ yes none => sizeAll yes + 2
  | .cond _ yes (some no) => sizeAll yes + sizeAll no + 3
  | .loop _ _ body => sizeAll body + 2
def sizeAll : List (Stmt ε α) → Nat
  | [] => 0
  | b :: bs => size b + sizeAll bs
end

@[simp] theorem itemsAll_nil : itemsAll ([] : List (Stmt ε α)) = [] := by simp [itemsAll]

@[simp] theorem itemsAll_cons (b : Stmt ε α) (bs : List (Stmt ε α)) :
    itemsAll (b :: bs) = items b ++ itemsAll bs := by simp [itemsAll]

@[simp] theorem itemsAll_append (bs cs : List (Stmt ε α)) :
    itemsAll (bs ++ cs) = itemsAll bs ++ itemsAll cs := by
  induction bs with
  | nil => simp
  | cons b bs ih => simp [ih]

@[simp] theorem sizeAll_nil : sizeAll ([] : List (Stmt ε α)) = 0 := by simp [sizeAll]

@[simp] theorem sizeAll_cons (b : Stmt ε α) (bs : List (Stmt ε α)) :
    sizeAll (b :: bs) = size b + sizeAll bs := by simp [sizeAll]

mutual
theorem length_items : ∀ b : Stmt ε α, (items b).length = size b
  | .plain .. => by simp [items, size]
  | .cond _ yes none => by simp [items, size, length_itemsAll yes]
  | .cond _ yes (some no) => by simp [items, size, length_itemsAll yes, length_itemsAll no]; omega
  | .loop _ _ body => by simp [items, size, length_itemsAll body]
theorem length_itemsAll : ∀ bs : List (Stmt ε α), (itemsAll bs).length = sizeAll bs
  | [] => by simp
  | b :: bs => by simp [length_items b, length_itemsAll bs]
end

theorem size_pos (b : Stmt ε α) : 0 < size b := by
  cases b with
  | plain => simp [size]
  | cond _ _ no => cases no <;> simp [size]
  | loop => simp [size]

/-- A block still open while a list is read, with the blocks before it in the enclosing body: the
`yes` branch of an `if`, its `no` branch after the `else`, or a loop's body. -/
inductive Open (ε α : Type) [Brackets ε α] where
  | yes (condition : ε) (before : List (Stmt ε α))
  | no (condition : ε) (yes before : List (Stmt ε α))
  | body (var : String) (collection : ε) (before : List (Stmt ε α))

/-- The state of reading a list: the open blocks, innermost first, and the blocks read so far in
the innermost body. -/
structure Reading (ε α : Type) [Brackets ε α] where
  opened : List (Open ε α) := []
  done : List (Stmt ε α) := []

namespace Reading

/-- Reads a mark: opens a block, starts the `else` branch of the open `if`, or closes the open
block of the mark's kind. Fails when the open block is of another kind, or none is open. -/
def enter (r : Reading ε α) : Mark ε → Option (Reading ε α)
  | .openIf c => some ⟨.yes c r.done :: r.opened, []⟩
  | .elseBranch =>
    match r.opened with
    | .yes c before :: rest => some ⟨.no c r.done before :: rest, []⟩
    | _ => none
  | .closeIf =>
    match r.opened with
    | .yes c before :: rest => some ⟨rest, before ++ [.cond c r.done none]⟩
    | .no c yes before :: rest => some ⟨rest, before ++ [.cond c yes (some r.done)]⟩
    | _ => none
  | .openLoop v c => some ⟨.body v c r.done :: r.opened, []⟩
  | .closeLoop =>
    match r.opened with
    | .body v c before :: rest => some ⟨rest, before ++ [.loop v c r.done]⟩
    | _ => none

/-- Reads one item. -/
def push (r : Reading ε α) (a : α) : Option (Reading ε α) :=
  match unmarked : markOf? a with
  | none => some { r with done := r.done ++ [.plain a unmarked] }
  | some m => r.enter m

theorem push_plain (r : Reading ε α) {a : α} (unmarked : markOf? a = none) :
    r.push a = some { r with done := r.done ++ [.plain a unmarked] } := by
  unfold push
  split
  · rfl
  · rename_i m marked
    rw [unmarked] at marked
    cases marked

theorem push_mark (r : Reading ε α) (m : Mark ε) : r.push (mark m) = r.enter m := by
  unfold push
  split
  · rename_i unmarked
    rw [markOf?_mark] at unmarked
    cases unmarked
  · rename_i m' marked
    rw [markOf?_mark] at marked
    cases marked
    rfl

end Reading

/-- The block tree of a list, if the list is well nested. -/
def parse (l : List α) : Option (List (Stmt ε α)) := do
  let r ← l.foldlM Reading.push {}
  if r.opened.isEmpty then some r.done else none

/-- Whether a list is well nested. -/
def Nested (l : List α) : Prop := (parse l : Option (List (Stmt ε α))).isSome

instance (l : List α) : Decidable (Nested (ε := ε) l) := inferInstanceAs (Decidable (_ = true))

mutual
/-- Reading the items of a block adds the block to the innermost body. -/
theorem read_items : ∀ (b : Stmt ε α) (r : Reading ε α),
    (items b).foldlM Reading.push r = some { r with done := r.done ++ [b] }
  | .plain a unmarked, r => by simp [items, Reading.push_plain r unmarked]
  | .cond c yes none, r => by
    simp only [items, List.cons_append, List.foldlM_cons, Reading.push_mark, Reading.enter,
      List.foldlM_append, read_itemsAll yes, List.foldlM_nil, Option.pure_def, Option.bind_eq_bind,
      Option.bind_fun_some, Option.bind_some, List.nil_append]
  | .cond c yes (some no), r => by
    simp only [items, List.cons_append, List.append_assoc, List.foldlM_cons, Reading.push_mark,
      Reading.enter, List.foldlM_append, read_itemsAll yes, read_itemsAll no, List.foldlM_nil,
      Option.pure_def, Option.bind_eq_bind, Option.bind_fun_some, Option.bind_some, List.nil_append]
  | .loop v c body, r => by
    simp only [items, List.cons_append, List.foldlM_cons, Reading.push_mark, Reading.enter,
      List.foldlM_append, read_itemsAll body, List.foldlM_nil, Option.pure_def, Option.bind_eq_bind,
      Option.bind_fun_some, Option.bind_some, List.nil_append]
theorem read_itemsAll : ∀ (bs : List (Stmt ε α)) (r : Reading ε α),
    (itemsAll bs).foldlM Reading.push r = some { r with done := r.done ++ bs }
  | [], r => by simp
  | b :: bs, r => by simp [List.foldlM_append, read_items b, read_itemsAll bs]
end

theorem parse_itemsAll (bs : List (Stmt ε α)) : parse (itemsAll bs) = some bs := by
  simp [parse, read_itemsAll bs]

/-- The items before the body of an open block: the blocks before it and its opening marks. -/
def Open.written : Open ε α → List α
  | .yes c before => itemsAll before ++ [mark (.openIf c)]
  | .no c taken before => itemsAll before ++ mark (.openIf c) :: itemsAll taken ++ [mark .elseBranch]
  | .body v c before => itemsAll before ++ [mark (.openLoop v c)]

/-- The items read so far. -/
def Reading.written (r : Reading ε α) : List α :=
  r.opened.reverse.flatMap Open.written ++ itemsAll r.done

theorem Reading.enter_written {r r' : Reading ε α} {m : Mark ε} (entered : r.enter m = some r') :
    r'.written = r.written ++ [mark m] := by
  obtain ⟨opened, done⟩ := r
  cases m with
  | openIf c => cases entered; simp [written, Open.written]
  | openLoop v c => cases entered; simp [written, Open.written]
  | elseBranch =>
    rcases opened with _ | ⟨_ | _ | _, rest⟩ <;> simp [enter] at entered
    subst r'
    simp [written, Open.written]
  | closeIf =>
    rcases opened with _ | ⟨_ | _ | _, rest⟩ <;> simp [enter] at entered <;> subst r' <;>
      simp [written, Open.written, items]
  | closeLoop =>
    rcases opened with _ | ⟨_ | _ | _, rest⟩ <;> simp [enter] at entered
    subst r'
    simp [written, Open.written, items]

theorem Reading.push_written {r r' : Reading ε α} {a : α} (pushed : r.push a = some r') :
    r'.written = r.written ++ [a] := by
  cases marked : markOf? a with
  | none =>
    rw [push_plain r marked] at pushed
    cases pushed
    simp [written, items]
  | some m =>
    rw [← mark_of_markOf? marked, push_mark] at pushed
    rw [enter_written pushed, mark_of_markOf? marked]

theorem Reading.read_written {r r' : Reading ε α} {l : List α}
    (read : l.foldlM push r = some r') : r'.written = r.written ++ l := by
  induction l generalizing r with
  | nil => cases read; simp
  | cons a l ih =>
    obtain ⟨next, pushed, rest⟩ := Option.bind_eq_some_iff.mp read
    rw [ih rest, push_written pushed]
    simp

theorem itemsAll_of_parse {l : List α} {bs : List (Stmt ε α)} (parsed : parse l = some bs) :
    itemsAll bs = l := by
  obtain ⟨r, read, closed⟩ := Option.bind_eq_some_iff.mp parsed
  have empty : r.opened = [] := by
    cases opened : r.opened <;> simp_all
  have done : r.done = bs := by simp_all
  have written := Reading.read_written read
  simpa [Reading.written, empty, done] using written

/-- A well nested list is written by exactly one block tree. -/
theorem parse_eq_some_iff {l : List α} {bs : List (Stmt ε α)} : parse l = some bs ↔ itemsAll bs = l :=
  ⟨itemsAll_of_parse, fun written => written ▸ parse_itemsAll bs⟩

theorem itemsAll_injective {bs cs : List (Stmt ε α)} (equal : itemsAll bs = itemsAll cs) : bs = cs := by
  have parsed := parse_itemsAll bs
  rw [equal, parse_itemsAll] at parsed
  exact (Option.some.inj parsed).symm

end Stmt

/-- The steps of a definition that delimit blocks; conditions and collections are source texts. -/
instance : Brackets String Step where
  mark
    | .openIf c => .openIf c
    | .elseBranch => .elseBranch
    | .closeIf => .closeIf
    | .openLoop v c => .openLoop v c
    | .closeLoop => .closeLoop
  markOf?
    | .openIf c => some (.openIf c)
    | .elseBranch => some .elseBranch
    | .closeIf => some .closeIf
    | .openLoop v c => some (.openLoop v c)
    | .closeLoop => some .closeLoop
    | _ => none
  markOf?_mark m := by cases m <;> rfl
  mark_of_markOf? {a m} marked := by cases a <;> cases marked <;> rfl

/-- The instructions of a program that delimit blocks; conditions and collections are parsed. -/
instance : Brackets Expr Instruction where
  mark
    | .openIf c => .openIf c
    | .elseBranch => .elseBranch
    | .closeIf => .closeIf
    | .openLoop v c => .openLoop v c
    | .closeLoop => .closeLoop
  markOf?
    | .openIf c => some (.openIf c)
    | .elseBranch => some .elseBranch
    | .closeIf => some .closeIf
    | .openLoop v c => some (.openLoop v c)
    | .closeLoop => some .closeLoop
    | _ => none
  markOf?_mark m := by cases m <;> rfl
  mark_of_markOf? {a m} marked := by cases a <;> cases marked <;> rfl

end PromptPipeline
