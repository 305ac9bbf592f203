import PromptPipeline.Template.Suggest
import Mathlib
/-!
Suggestions and the edit distance.

An edit turns a text into another by deleting, inserting or replacing one character
(`Edit.Step`); `Edit.Edits a b n` says that `n` edits turn `a` into `b`. `Edit.dist` is the
distance by the usual recursion on first characters, and it is the least number of edits
(`Edit.dist_isLeast`): it is reached by following the recursion, and one edit of a text changes
its distance to any other by at most one.

`Template.editDistance` fills the table of distances between the prefixes of two texts row after
row, keeping only the last row. Read from their ends, prefixes are texts of their own, so each row
holds `Edit.dist` of the reversed prefixes (`Template.foldl_nextRow`), and the table's last entry
is the distance of the reversed texts. Reversing both texts keeps every sequence of edits, so
`editDistance` is the least number of edits between the texts themselves
(`Template.editDistance_isLeast`).

`Template.suggest` offers the first candidate nearest to the misspelt name, when it lies within the
limit (`Template.suggest_spec`).
-/
namespace PromptPipeline.Template

namespace Edit

/-- One edit of a single character: deleting one, inserting one, or replacing one. -/
inductive Step : List Char → List Char → Prop
  | delete (pre post : List Char) (c : Char) : Step (pre ++ c :: post) (pre ++ post)
  | insert (pre post : List Char) (c : Char) : Step (pre ++ post) (pre ++ c :: post)
  | replace (pre post : List Char) (c d : Char) : Step (pre ++ c :: post) (pre ++ d :: post)

/-- `n` single-character edits turn `a` into `b`. -/
inductive Edits : List Char → List Char → Nat → Prop
  | refl (a : List Char) : Edits a a 0
  | step {a b c : List Char} {n : Nat} : Step a b → Edits b c n → Edits a c (n + 1)

/-- The cost of putting `y` where `x` stands. -/
def cost (x y : Char) : Nat := if x == y then 0 else 1

/-- The edit distance, by recursion on the first characters: the first character of `a` is
deleted, or the first of `b` inserted, or the one replaced by the other. -/
def dist : List Char → List Char → Nat
  | [], b => b.length
  | _ :: a, [] => a.length + 1
  | x :: a, y :: b => min (min (dist a (y :: b) + 1) (dist (x :: a) b + 1)) (dist a b + cost x y)
termination_by a b => a.length + b.length

@[simp] theorem dist_nil_left (b : List Char) : dist [] b = b.length := by
  rw [dist]

@[simp] theorem dist_nil_right (a : List Char) : dist a [] = a.length := by
  cases a <;> rw [dist]; rfl

theorem dist_cons_cons (x y : Char) (a b : List Char) :
    dist (x :: a) (y :: b) =
      min (min (dist a (y :: b) + 1) (dist (x :: a) b + 1)) (dist a b + cost x y) := by
  rw [dist]

theorem cost_le (x y : Char) : cost x y ≤ 1 := by
  unfold cost
  split <;> omega

@[simp] theorem cost_self (x : Char) : cost x x = 0 := by simp [cost]

theorem dist_self : ∀ a : List Char, dist a a = 0
  | [] => by simp
  | x :: a => by
    have := dist_self a
    rw [dist_cons_cons, cost_self]
    omega

/-! Reaching the distance. -/

theorem Step.cons {a b : List Char} (x : Char) : Step a b → Step (x :: a) (x :: b)
  | .delete pre post c => .delete (x :: pre) post c
  | .insert pre post c => .insert (x :: pre) post c
  | .replace pre post c d => .replace (x :: pre) post c d

theorem Edits.single {a b : List Char} (step : Step a b) : Edits a b 1 := .step step (.refl b)

theorem Edits.trans {a b c : List Char} {n m : Nat} (first : Edits a b n) (second : Edits b c m) :
    Edits a c (n + m) := by
  induction first with
  | refl => rw [Nat.zero_add]; exact second
  | step step _ ih => rw [Nat.add_right_comm]; exact .step step (ih second)

theorem Edits.cons {a b : List Char} {n : Nat} (x : Char) (edits : Edits a b n) :
    Edits (x :: a) (x :: b) n := by
  induction edits with
  | refl => exact .refl _
  | step step _ ih => exact .step (step.cons x) ih

/-- Inserting the characters of `b` one by one, from the last. -/
theorem edits_nil_left : ∀ b : List Char, Edits [] b b.length
  | [] => .refl []
  | y :: b => (edits_nil_left b).trans (.single (.insert [] b y))

/-- Deleting the characters of `a` one by one, from the first. -/
theorem edits_nil_right : ∀ a : List Char, Edits a [] a.length
  | [] => .refl []
  | x :: a => by
    rw [List.length_cons, Nat.add_comm]
    exact (Edits.single (.delete [] a x)).trans (edits_nil_right a)

/-- The distance is reached: following the branch that gives the minimum. -/
theorem edits_dist (a b : List Char) : Edits a b (dist a b) := by
  induction a, b using dist.induct with
  | case1 b => rw [dist_nil_left]; exact edits_nil_left b
  | case2 x a => rw [dist_nil_right]; exact edits_nil_right (x :: a)
  | case3 x a y b dropFirst dropSecond dropBoth =>
    rw [dist_cons_cons]
    have deleted : Edits (x :: a) (y :: b) (dist a (y :: b) + 1) := by
      rw [Nat.add_comm]
      exact (Edits.single (.delete [] a x)).trans dropFirst
    have inserted : Edits (x :: a) (y :: b) (dist (x :: a) b + 1) :=
      dropSecond.trans (.single (.insert [] b y))
    have replaced : Edits (x :: a) (y :: b) (dist a b + cost x y) := by
      by_cases same : x = y
      · subst same
        rw [cost_self]
        exact dropBoth.cons x
      · have : cost x y = 1 := by simp [cost, same]
        rw [this]
        exact (dropBoth.cons x).trans (.single (.replace [] b x y))
    rcases min_choice (min (dist a (y :: b) + 1) (dist (x :: a) b + 1)) (dist a b + cost x y) with
      outer | outer <;> rw [outer]
    · rcases min_choice (dist a (y :: b) + 1) (dist (x :: a) b + 1) with inner | inner <;> rw [inner]
      · exact deleted
      · exact inserted
    · exact replaced

/-! No fewer edits will do: one edit moves the distance by at most one. -/

/-- A second character with the same effect on every distance as the first, up to one. -/
theorem dist_cons_congr {a b : List Char} (z : Char) (close : ∀ c, dist a c ≤ dist b c + 1) :
    ∀ c, dist (z :: a) c ≤ dist (z :: b) c + 1
  | [] => by
    have := close []
    simp only [dist_nil_right, List.length_cons] at this ⊢
    omega
  | y :: c => by
    have first := close (y :: c)
    have both := close c
    have second := dist_cons_congr z close c
    rw [dist_cons_cons, dist_cons_cons]
    omega

theorem dist_append_congr {a b : List Char} (close : ∀ c, dist a c ≤ dist b c + 1) :
    ∀ (pre : List Char) (c : List Char), dist (pre ++ a) c ≤ dist (pre ++ b) c + 1
  | [] => close
  | z :: pre => dist_cons_congr z (dist_append_congr close pre)

theorem dist_cons_le (x : Char) (a : List Char) : ∀ c, dist (x :: a) c ≤ dist a c + 1
  | [] => by simp
  | y :: c => by
    rw [dist_cons_cons]
    omega

/-- Inserting into the second text costs at most one. -/
theorem dist_le_cons (a : List Char) (y : Char) (c : List Char) : dist a (y :: c) ≤ dist a c + 1 := by
  cases a with
  | nil => simp
  | cons x a =>
    rw [dist_cons_cons]
    omega

theorem dist_le_cons_left (x : Char) (a : List Char) : ∀ c, dist a c ≤ dist (x :: a) c + 1
  | [] => by
    simp only [dist_nil_right, List.length_cons]
    omega
  | y :: c => by
    have inserted := dist_le_cons a y c
    have shorter := dist_le_cons_left x a c
    have := cost_le x y
    rw [dist_cons_cons]
    omega

theorem dist_replace_le (x x' : Char) (a : List Char) : ∀ c, dist (x :: a) c ≤ dist (x' :: a) c + 1
  | [] => by simp
  | y :: c => by
    have shorter := dist_replace_le x x' a c
    have := cost_le x y
    rw [dist_cons_cons, dist_cons_cons]
    omega

/-- One edit of the first text changes its distance to any text by at most one. -/
theorem dist_le_of_step {a b : List Char} (step : Step a b) (c : List Char) : dist a c ≤ dist b c + 1 := by
  cases step with
  | delete pre post x => exact dist_append_congr (dist_cons_le x post) pre c
  | insert pre post x => exact dist_append_congr (dist_le_cons_left x post) pre c
  | replace pre post x x' => exact dist_append_congr (dist_replace_le x x' post) pre c

theorem dist_le_of_edits {a b : List Char} {n : Nat} (edits : Edits a b n) : dist a b ≤ n := by
  induction edits with
  | refl a => rw [dist_self]
  | step step _ ih => exact (dist_le_of_step step _).trans (Nat.add_le_add_right ih 1)

/-- The distance is the least number of single-character edits between two texts. -/
theorem dist_isLeast (a b : List Char) : IsLeast {n | Edits a b n} (dist a b) :=
  ⟨edits_dist a b, fun _ edits => dist_le_of_edits edits⟩

/-! Edits read backwards. -/

theorem Step.reverse {a b : List Char} : Step a b → Step a.reverse b.reverse
  | .delete pre post c => by
    simpa using Step.delete post.reverse pre.reverse c
  | .insert pre post c => by
    simpa using Step.insert post.reverse pre.reverse c
  | .replace pre post c d => by
    simpa using Step.replace post.reverse pre.reverse c d

theorem Edits.reverse {a b : List Char} {n : Nat} (edits : Edits a b n) :
    Edits a.reverse b.reverse n := by
  induction edits with
  | refl => exact .refl _
  | step step _ ih => exact .step step.reverse ih

theorem edits_reverse_iff {a b : List Char} {n : Nat} : Edits a.reverse b.reverse n ↔ Edits a b n :=
  ⟨fun edits => by simpa using edits.reverse, Edits.reverse⟩

end Edit

/-! The table of distances between prefixes. -/

open Edit

/-- The distance between two prefixes, read from their ends. -/
theorem dist_reverse_concat (p q : List Char) (x y : Char) :
    dist (p ++ [x]).reverse (q ++ [y]).reverse =
      min (min (dist p.reverse (q ++ [y]).reverse + 1) (dist (p ++ [x]).reverse q.reverse + 1))
        (dist p.reverse q.reverse + cost x y) := by
  simp only [List.reverse_concat]
  rw [dist_cons_cons]

theorem inits_eq_nil_cons (b : List Char) : b.inits = [] :: b.inits.tail := by
  cases b <;> rfl

/-- The inner loop of a row: from the entries of the row before for the prefixes of `b` that
extend `q`, and the new row's entry for `q`, it gives the new row's entries for the longer
prefixes. -/
theorem nextRow_go (c : Char) (p : List Char) :
    ∀ (rest q : List Char),
      nextRow.go c rest (rest.inits.map fun s => dist p.reverse (q ++ s).reverse)
          (dist (p ++ [c]).reverse q.reverse) =
        rest.inits.tail.map fun s => dist (p ++ [c]).reverse (q ++ s).reverse
  | [], q => rfl
  | d :: rest, q => by
    have more := nextRow_go c p rest (q ++ [d])
    have here := dist_reverse_concat p q c d
    rw [inits_eq_nil_cons rest] at more
    rw [List.inits_cons, inits_eq_nil_cons rest]
    simp only [List.map_cons, List.map_map, List.tail_cons, nextRow.go, List.append_nil,
      Function.comp_def] at more ⊢
    simp only [List.append_assoc, List.singleton_append] at more here
    rw [cost] at here
    rw [← here, more]

/-- One row of the table, for the prefix `p ++ [c]`, from the row for `p`. -/
theorem nextRow_eq (c : Char) (p b : List Char) :
    nextRow c b (b.inits.map fun s => dist p.reverse s.reverse) p.length =
      b.inits.map fun s => dist (p ++ [c]).reverse s.reverse := by
  have go := nextRow_go c p b []
  -- the row starts with the distance to the empty prefix
  have start : dist (p ++ [c]).reverse ([] : List Char).reverse = p.length + 1 := by simp
  simp only [List.nil_append] at go
  rw [start] at go
  rw [nextRow, go, inits_eq_nil_cons b, List.map_cons, List.tail_cons, ← start]

/-- The rows of the table, one for each prefix of `a` read so far. -/
theorem foldl_nextRow (b : List Char) : ∀ (a p : List Char),
    a.foldl (fun (row, i) c => (nextRow c b row i, i + 1))
        (b.inits.map (fun s => dist p.reverse s.reverse), p.length) =
      (b.inits.map (fun s => dist (p ++ a).reverse s.reverse), (p ++ a).length)
  | [], p => by simp
  | c :: a, p => by
    rw [List.foldl_cons]
    dsimp only
    rw [nextRow_eq, show p.length + 1 = (p ++ [c]).length by simp, foldl_nextRow b a (p ++ [c])]
    simp

theorem getLastD_map_inits {β : Type} (f : List Char → β) : ∀ (b : List Char) (d : β),
    (b.inits.map f).getLastD d = f b
  | [], d => rfl
  | y :: b, d => by
    rw [List.inits_cons, List.map_cons, List.map_map, List.getLastD_cons]
    exact getLastD_map_inits (f ∘ (y :: ·)) b _

theorem map_length_inits : ∀ b : List Char, b.inits.map List.length = List.range (b.length + 1)
  | [] => rfl
  | y :: b => by
    rw [List.inits_cons, List.map_cons, List.map_map, List.length_cons, List.range_succ_eq_map,
      ← map_length_inits b, List.map_map]
    rfl

/-- The table's last entry is the distance between the texts read from their ends. -/
theorem editDistance_eq (a b : String) :
    editDistance a b = dist a.toList.reverse b.toList.reverse := by
  -- the first row holds the distances from the empty text
  have first : List.range (b.toList.length + 1) =
      b.toList.inits.map fun s => dist ([] : List Char).reverse s.reverse := by
    rw [← map_length_inits]
    simp
  simp only [editDistance, first]
  rw [show (0 : Nat) = ([] : List Char).length from rfl, foldl_nextRow, getLastD_map_inits]
  simp

/-- The table gives the least number of single-character edits between two texts. -/
theorem editDistance_isLeast (a b : String) :
    IsLeast {n | Edits a.toList b.toList n} (editDistance a b) := by
  rw [editDistance_eq]
  obtain ⟨reached, least⟩ := dist_isLeast a.toList.reverse b.toList.reverse
  exact ⟨edits_reverse_iff.1 reached, fun n edits => least (edits_reverse_iff.2 edits)⟩

/-! The candidate offered. -/

/-- `x` is the first element of `l` with the least key: the elements before it have larger keys,
and none after it has a smaller one. -/
def FirstLeast {α : Type} (key : α → Nat) (l : List α) (x : α) : Prop :=
  ∃ pre post, l = pre ++ x :: post ∧ (∀ y ∈ pre, key x < key y) ∧ ∀ y ∈ post, key x ≤ key y

section FirstLeast

variable {α : Type} {key : α → Nat}

theorem FirstLeast.le {l : List α} {x : α} (first : FirstLeast key l x) :
    ∀ y ∈ l, key x ≤ key y := by
  obtain ⟨pre, post, rfl, before, after⟩ := first
  intro y mem
  simp only [List.mem_append, List.mem_cons] at mem
  rcases mem with inPre | rfl | inPost
  · exact (before y inPre).le
  · exact le_refl _
  · exact after y inPost

theorem firstLeast_cons {l : List α} {c x : α} :
    FirstLeast key (c :: l) x ↔ (x = c ∧ ∀ y ∈ l, key c ≤ key y) ∨ (key x < key c ∧ FirstLeast key l x) := by
  constructor
  · rintro ⟨pre, post, split, before, after⟩
    cases pre with
    | nil =>
      obtain ⟨rfl, rfl⟩ := List.cons.inj split.symm
      exact .inl ⟨rfl, after⟩
    | cons z pre =>
      obtain ⟨rfl, rfl⟩ := List.cons.inj split
      exact .inr ⟨before _ List.mem_cons_self, pre, post, rfl, fun y mem => before y (by simp [mem]), after⟩
  · rintro (⟨rfl, after⟩ | ⟨nearer, pre, post, rfl, before, after⟩)
    · exact ⟨[], l, rfl, by simp, after⟩
    · refine ⟨c :: pre, post, rfl, ?_, after⟩
      simp only [List.mem_cons, forall_eq_or_imp]
      exact ⟨nearer, before⟩

/-- An element standing after another of no larger key that everything before it exceeds. -/
private theorem eq_of_first_before {pre pre' gap post post' : List α} {x x' : α}
    (before' : ∀ y ∈ pre', key x' < key y) (after : ∀ y ∈ post, key x ≤ key y)
    (left : pre' = pre ++ gap) (right : x :: post = gap ++ x' :: post') : x = x' := by
  cases gap with
  | nil => exact (List.cons.inj right).1
  | cons z gap =>
    obtain ⟨rfl, rfl⟩ := List.cons.inj right
    have later := after x' (by simp)
    have earlier := before' x (by simp [left])
    omega

/-- The first least element is unique. -/
theorem FirstLeast.unique {l : List α} {x x' : α} (first : FirstLeast key l x)
    (first' : FirstLeast key l x') : x = x' := by
  obtain ⟨pre, post, rfl, before, after⟩ := first
  obtain ⟨pre', post', same, before', after'⟩ := first'
  rcases List.append_eq_append_iff.1 same.symm with ⟨gap, left, right⟩ | ⟨gap, left, right⟩
  · exact (eq_of_first_before before after' left right).symm
  · exact eq_of_first_before before' after left right

/-- One candidate more: it replaces the best so far only when strictly nearer. -/
theorem FirstLeast.pick {seen : List (Nat × α)} {best : Nat × α} (y : Nat × α)
    (first : FirstLeast Prod.fst seen best) :
    FirstLeast Prod.fst (seen ++ [y]) (if y.1 < best.1 then y else best) := by
  split
  case isTrue nearer =>
    exact ⟨seen, [], rfl, fun z mem => lt_of_lt_of_le nearer (first.le z mem), by simp⟩
  case isFalse farther =>
    obtain ⟨pre, post, rfl, before, after⟩ := first
    refine ⟨pre, post ++ [y], by simp, before, ?_⟩
    intro z mem
    simp only [List.mem_append, List.mem_singleton] at mem
    rcases mem with inPost | rfl
    · exact after z inPost
    · omega

/-- The fold keeps the first least of the candidates seen so far. -/
theorem FirstLeast.foldl : ∀ (rest seen : List (Nat × α)) (best : Nat × α),
    FirstLeast Prod.fst seen best →
      FirstLeast Prod.fst (seen ++ rest)
        (rest.foldl (fun best next => if next.1 < best.1 then next else best) best)
  | [], seen, best, first => by simpa using first
  | y :: rest, seen, best, first => by
    rw [List.foldl_cons, show seen ++ y :: rest = seen ++ [y] ++ rest by simp]
    exact FirstLeast.foldl rest _ _ (first.pick y)

variable (key) (limit : Nat)

theorem mem_filterMap_near {l : List α} {y : Nat × α} :
    y ∈ l.filterMap (fun c => if key c ≤ limit then some (key c, c) else none) ↔
      y.2 ∈ l ∧ key y.2 ≤ limit ∧ y.1 = key y.2 := by
  obtain ⟨d, c⟩ := y
  simp only [List.mem_filterMap, Option.ite_none_right_eq_some, Option.some.injEq, Prod.mk.injEq]
  constructor
  · rintro ⟨c, mem, within, rfl, rfl⟩
    exact ⟨mem, within, rfl⟩
  · rintro ⟨mem, within, rfl⟩
    exact ⟨c, mem, within, rfl, rfl⟩

/-- The first least of the elements within the limit is the first least of all, and within it. -/
theorem firstLeast_of_near : ∀ (l : List α) (x : Nat × α),
    FirstLeast Prod.fst (l.filterMap fun c => if key c ≤ limit then some (key c, c) else none) x →
      x.1 = key x.2 ∧ key x.2 ≤ limit ∧ FirstLeast key l x.2
  | [], x, first => by
    obtain ⟨pre, post, split, -⟩ := first
    simp at split
  | c :: l, x, first => by
    by_cases within : key c ≤ limit
    · rw [List.filterMap_cons, if_pos within, firstLeast_cons] at first
      rcases first with ⟨rfl, after⟩ | ⟨nearer, rest⟩
      · -- the new element is the least: those left out are beyond the limit
        refine ⟨rfl, within, firstLeast_cons.2 (.inl ⟨rfl, fun y mem => ?_⟩)⟩
        by_cases near : key y ≤ limit
        · exact after (key y, y) ((mem_filterMap_near key limit).2 ⟨mem, near, rfl⟩)
        · omega
      · obtain ⟨same, below, least⟩ := firstLeast_of_near l x rest
        exact ⟨same, below, firstLeast_cons.2 (.inr ⟨same ▸ nearer, least⟩)⟩
    · rw [List.filterMap_cons, if_neg within] at first
      obtain ⟨same, below, least⟩ := firstLeast_of_near l x first
      exact ⟨same, below, firstLeast_cons.2 (.inr ⟨by omega, least⟩)⟩

end FirstLeast

theorem suggest_eq_some_iff (typo : String) (candidates : List String) (c : String) :
    suggest typo candidates = some c ↔
      FirstLeast (editDistance typo) candidates c ∧
        editDistance typo c ≤ max (typo.utf8ByteSize / 2) 2 := by
  unfold suggest
  dsimp only
  split
  case h_1 empty =>
    rw [List.filterMap_eq_nil_iff] at empty
    simp only [reduceCtorEq, false_iff, not_and]
    intro first within
    obtain ⟨pre, post, rfl, -⟩ := first
    simpa [within] using empty c
  case h_2 best rest near =>
    have chosen := FirstLeast.foldl rest [best] best ⟨[], [], rfl, by simp, by simp⟩
    rw [List.singleton_append, ← near] at chosen
    obtain ⟨-, within, least⟩ := firstLeast_of_near _ _ candidates _ chosen
    constructor
    · rintro ⟨⟩
      exact ⟨least, within⟩
    · rintro ⟨first, -⟩
      rw [least.unique first]

theorem suggest_eq_none_iff (typo : String) (candidates : List String) :
    suggest typo candidates = none ↔
      ∀ c ∈ candidates, max (typo.utf8ByteSize / 2) 2 < editDistance typo c := by
  unfold suggest
  dsimp only
  split
  case h_1 empty =>
    rw [List.filterMap_eq_nil_iff] at empty
    simp only [true_iff]
    intro c mem
    simpa using empty c mem
  case h_2 best rest near =>
    simp only [reduceCtorEq, false_iff, not_forall, not_lt]
    have mem : best ∈ best :: rest := List.mem_cons_self
    rw [← near, mem_filterMap_near] at mem
    exact ⟨best.2, mem.1, mem.2.1⟩

/-- The suggestion is the first candidate nearest to the misspelt name, counted in the fewest
single-character edits, when that nearest distance is within the limit; there is none when every
candidate lies beyond it. -/
theorem suggest_spec (typo : String) (candidates : List String) :
    (∀ a b : String, IsLeast {n | Edits a.toList b.toList n} (editDistance a b)) ∧
    (∀ c, suggest typo candidates = some c ↔
      FirstLeast (editDistance typo) candidates c ∧
        editDistance typo c ≤ max (typo.utf8ByteSize / 2) 2) ∧
    (suggest typo candidates = none ↔
      ∀ c ∈ candidates, max (typo.utf8ByteSize / 2) 2 < editDistance typo c) :=
  ⟨editDistance_isLeast, suggest_eq_some_iff typo candidates, suggest_eq_none_iff typo candidates⟩

end PromptPipeline.Template
