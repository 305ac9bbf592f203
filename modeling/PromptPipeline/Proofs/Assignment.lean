import PromptPipeline.Proofs.Snapshot
/-!
Assignment in a scope.

`Scope.set` writes the innermost loop frame whose variable is the name, or else the assigned
variables. Lookup finds the value again unless it answers the name before it reaches the assigned
variables, which happens when no loop binds the name and it is `row`, `parsed`, or `loop` inside
a loop; every other name reads as before. A write to a loop frame lasts as long as the frame:
truncating it away or moving the loop on forgets it. A write to the assigned variables outlasts
every loop entered or left afterwards. Main statement: `Scope.assignment_law`.
-/
namespace PromptPipeline

namespace Scope

/-- Some active loop has the variable `name`. -/
def Binds (s : Scope) (name : String) : Prop := ∃ f ∈ s.frames, f.var = name

/-- Lookup answers `name` before it reaches the assigned variables, although no loop binds it:
the name is `row` or `parsed`, or `loop` inside a loop. -/
def Reserved (s : Scope) (name : String) : Prop :=
  ¬ s.Binds name ∧ (name = "row" ∨ name = "parsed" ∨ (name = "loop" ∧ s.frames ≠ []))

/-- A change to the loops of a scope: entering a loop, moving the innermost one on, or leaving
inner loops. -/
inductive LoopMove where
  | push (var : String) (items : List Value)
  | advance
  | truncate (n : Nat)

/-- The scope after one change to its loops. -/
def LoopMove.apply (s : Scope) : LoopMove → Scope
  | .push var items => (s.push var items).2
  | .advance => s.advance.2
  | .truncate n => s.truncate n

/-- The scope after a sequence of changes to its loops. -/
def moveAll (s : Scope) (moves : List LoopMove) : Scope := moves.foldl LoopMove.apply s

section Frames

variable {name : String} {v : Value}

/-- No frame takes a write exactly when no frame has the variable. -/
theorem assignFrame_eq_none (frames : List Frame) :
    assignFrame name v frames = none ↔ ∀ f ∈ frames, f.var ≠ name := by
  induction frames with
  | nil => simp [assignFrame]
  | cons f rest ih =>
    by_cases hit : f.var = name
    · simp [assignFrame, hit]
    · simp [assignFrame, hit, ih]

/-- A write goes to the first frame with the variable. -/
theorem assignFrame_split {inner outer : List Frame} {f : Frame} (bound : f.var = name)
    (above : ∀ g ∈ inner, g.var ≠ name) :
    assignFrame name v (inner ++ f :: outer) = some (inner ++ { f with current := v } :: outer) := by
  induction inner with
  | nil => simp [assignFrame, bound]
  | cons g rest ih =>
    have miss : g.var ≠ name := above g (List.mem_cons_self ..)
    simp [assignFrame, miss, ih fun g' mem => above g' (List.mem_cons_of_mem _ mem)]

/-- A bound variable has an innermost frame, below frames with other variables. -/
theorem split_of_binds {s : Scope} (bound : s.Binds name) :
    ∃ inner f outer, s.frames = inner ++ f :: outer ∧ f.var = name ∧ ∀ g ∈ inner, g.var ≠ name := by
  cases found : s.frames.find? (·.var == name) with
  | none =>
    obtain ⟨f, mem, var⟩ := bound
    exact absurd (by simpa using var) (List.find?_eq_none.mp found f mem)
  | some f =>
    obtain ⟨var, inner, outer, frames, above⟩ := List.find?_eq_some_iff_append.mp found
    refine ⟨inner, f, outer, frames, by simpa using var, fun g mem => ?_⟩
    simpa using above g mem

theorem set_of_split {s : Scope} {inner outer : List Frame} {f : Frame}
    (frames : s.frames = inner ++ f :: outer) (bound : f.var = name)
    (above : ∀ g ∈ inner, g.var ≠ name) :
    s.set name v = { s with frames := inner ++ { f with current := v } :: outer } := by
  simp only [set, frames, assignFrame_split bound above]

theorem set_of_unbound {s : Scope} (free : ¬ s.Binds name) :
    s.set name v = { s with assigned := s.assigned.insert name v } := by
  have none : assignFrame name v s.frames = none :=
    (assignFrame_eq_none _).mpr fun f mem var => free ⟨f, mem, var⟩
  simp only [set, none]

/-- Looking past frames whose variables differ. -/
theorem find?_split {inner outer : List Frame} {f : Frame} (bound : f.var = name)
    (above : ∀ g ∈ inner, g.var ≠ name) :
    (inner ++ f :: outer).find? (·.var == name) = some f := by
  have skipped : inner.find? (·.var == name) = none :=
    List.find?_eq_none.mpr fun g mem => by simpa using above g mem
  simp [List.find?_append, skipped, bound]

/-- A frame whose variable differs from `other` is passed over whatever its value. -/
theorem find?_replace {inner outer : List Frame} {f g : Frame} {other : String}
    (same : g.var = f.var) (differs : f.var ≠ other) :
    (inner ++ g :: outer).find? (·.var == other) = (inner ++ f :: outer).find? (·.var == other) := by
  simp [List.find?_append, same, differs]

end Frames

section Lookup

variable {s t : Scope} {name : String} {v : Value}

/-- A name bound by a loop reads as the innermost such loop's value. -/
theorem get_of_found {f : Frame} (found : s.frames.find? (·.var == name) = some f) :
    s.get name = .ok f.current := by
  simp only [get, found]

theorem get_of_unfound_nil (frames : s.frames = []) :
    s.get name = s.outerGet name := by
  simp only [get, frames, List.find?_nil]

/-- Inside a loop, a name no loop binds is the position of the innermost loop when it is `loop`,
and is looked up past the frames otherwise. -/
theorem get_of_unfound_cons {f : Frame} {rest : List Frame}
    (none : s.frames.find? (·.var == name) = none) (frames : s.frames = f :: rest) :
    s.get name = if name = "loop" then .ok f.position else s.outerGet name := by
  have none' : (f :: rest).find? (·.var == name) = Option.none := frames ▸ none
  simp only [get, frames, none', beq_iff_eq]

/-- Lookup reads the frames only through the innermost frame binding the name, for its value,
and the innermost frame of all, for its position. -/
theorem get_congr
    (found : (t.frames.find? (·.var == name)).map (·.current) =
      (s.frames.find? (·.var == name)).map (·.current))
    (top : t.frames.head?.map (·.position) = s.frames.head?.map (·.position))
    (outer : t.outerGet name = s.outerGet name) : t.get name = s.get name := by
  rcases ht : t.frames.find? (·.var == name) with _ | ft <;>
    rcases hs : s.frames.find? (·.var == name) with _ | fs <;>
    simp only [ht, hs, Option.map_none, Option.map_some, reduceCtorEq, Option.some.injEq] at found
  · rcases tf : t.frames with _ | ⟨g, tr⟩ <;> rcases sf : s.frames with _ | ⟨g', sr⟩ <;>
      simp only [tf, sf, List.head?_nil, List.head?_cons, Option.map_none, Option.map_some,
        reduceCtorEq, Option.some.injEq] at top
    · rw [get_of_unfound_nil tf, get_of_unfound_nil sf, outer]
    · rw [get_of_unfound_cons ht tf, get_of_unfound_cons hs sf, top, outer]
  · rw [get_of_found ht, get_of_found hs, found]

/-- Lookup of a name that no loop binds, other than `loop` inside a loop. -/
theorem get_of_unbound (free : ¬ s.Binds name) (plain : name ≠ "loop" ∨ s.frames = []) :
    s.get name = s.outerGet name := by
  have none : s.frames.find? (·.var == name) = none :=
    List.find?_eq_none.mpr fun f mem var => free ⟨f, mem, by simpa using var⟩
  rcases frames : s.frames with _ | ⟨f, rest⟩
  · exact get_of_unfound_nil frames
  · have notLoop : name ≠ "loop" := by simpa [frames] using plain
    rw [get_of_unfound_cons none frames, if_neg notLoop]

theorem get_loop (free : ¬ s.Binds "loop") {f : Frame} {rest : List Frame}
    (frames : s.frames = f :: rest) : s.get "loop" = .ok f.position := by
  have none : s.frames.find? (·.var == "loop") = none :=
    List.find?_eq_none.mpr fun f mem var => free ⟨f, mem, by simpa using var⟩
  rw [get_of_unfound_cons none frames, if_pos rfl]

/-- Past the frames, an assigned variable other than `row` and `parsed` reads as assigned. -/
theorem outerGet_of_assigned (row : name ≠ "row") (parsed : name ≠ "parsed")
    (assigned : s.assigned.get? name = some v) : s.outerGet name = .ok v := by
  simp [outerGet, row, parsed, assigned]

theorem outerGet_row : s.outerGet "row" = .ok (.map s.seed) := by
  simp [outerGet]

/-- Past the frames, lookup reads the assigned variables only for names other than `row` and
`parsed`. -/
theorem outerGet_insert (other : String) (h : other ≠ name ∨ other = "row" ∨ other = "parsed") :
    { s with assigned := s.assigned.insert name v }.outerGet other = s.outerGet other := by
  rcases h with differs | row | parsed
  · simp [outerGet, Map.get?_insert, Ne.symm differs]
  · subst row; simp [outerGet]
  · subst parsed; simp [outerGet]

/-- A name held by the assigned variables reads as held, unless a loop binds it or lookup answers
it before reaching them. -/
theorem get_of_assigned (assigned : s.assigned.get? name = some v) (free : ¬ s.Binds name)
    (open_ : ¬ s.Reserved name) : s.get name = .ok v := by
  have kinds : name ≠ "row" ∧ name ≠ "parsed" ∧ (name = "loop" → s.frames = []) := by
    simp only [Reserved, not_and, not_or] at open_
    obtain ⟨row, parsed, loop⟩ := open_ free
    exact ⟨row, parsed, fun isLoop => by simpa using loop isLoop⟩
  obtain ⟨row, parsed, loop⟩ := kinds
  rw [get_of_unbound free (by by_cases isLoop : name = "loop" <;> simp_all),
    outerGet_of_assigned row parsed assigned]

end Lookup

section Moves

/-- Loops come and go without touching the assigned variables. -/
theorem assigned_moveAll (s : Scope) (moves : List LoopMove) :
    (s.moveAll moves).assigned = s.assigned := by
  induction moves generalizing s with
  | nil => rfl
  | cons m rest ih =>
    show (moveAll (m.apply s) rest).assigned = s.assigned
    rw [ih]
    cases m with
    | push var items => exact assigned_push s var items
    | advance => exact assigned_advance s
    | truncate n => rfl

/-- Truncating to at most the loops outside a frame leaves the same scope whatever that frame
and the frames inside it hold. -/
theorem truncate_replace {s : Scope} {inner outer : List Frame} {f : Frame}
    (frames : s.frames = inner ++ f :: outer) (f' : Frame) {k : Nat} (within : k ≤ outer.length) :
    { s with frames := inner ++ f' :: outer }.truncate k = s.truncate k := by
  simp only [truncate, frames, List.length_append, List.length_cons]
  -- both drop `inner` and the frame, then the same part of `outer`
  have past : ∀ g : Frame, (inner ++ g :: outer).drop (inner.length + (outer.length + 1) - k) =
      outer.drop (outer.length - k) := by
    intro g
    rw [List.drop_append, List.drop_eq_nil_of_le (by omega), List.nil_append,
      show inner.length + (outer.length + 1) - k - inner.length = (outer.length - k) + 1 by omega,
      List.drop_succ_cons]
  rw [past f', past f]

/-- Moving the innermost loop on forgets what was written to its variable. -/
theorem advance_replace {s : Scope} {f : Frame} {outer : List Frame} (frames : s.frames = f :: outer)
    (v : Value) : { s with frames := { f with current := v } :: outer }.advance = s.advance := by
  unfold advance
  rw [frames]

end Moves

/-- The seed of a reachable scope is the one it started from. -/
theorem Reachable.seed_eq {seed : Map} {s : Scope} (reached : s.Reachable seed) : s.seed = seed := by
  induction reached with
  | start => rfl
  | set name v _ ih =>
    unfold Scope.set
    split <;> exact ih
  | push var items _ ih =>
    unfold Scope.push
    split <;> exact ih
  | advance _ ih =>
    unfold Scope.advance
    split
    · exact ih
    · split <;> exact ih
  | truncate n _ ih => exact ih
  | mergeParsed fields _ ih => exact ih

/-- What an assignment of `v` to `name` does to a scope reached from `seed`, read through
lookup. -/
structure AssignmentLaw (seed : Map) (s : Scope) (name : String) (v : Value) : Prop where
  /-- the name reads back the value, unless lookup answers it before the assigned variables -/
  reads : ¬ s.Reserved name → (s.set name v).get name = .ok v
  /-- in which case it reads as before -/
  reserved : s.Reserved name → (s.set name v).get name = s.get name
  /-- every other name reads as before -/
  others : ∀ other, other ≠ name → (s.set name v).get other = s.get other
  /-- the innermost loop binding the name takes the write; leaving that loop, or moving it on
  when it is innermost, forgets the write -/
  inFrame : ∀ inner f outer, s.frames = inner ++ f :: outer → f.var = name →
    (∀ g ∈ inner, g.var ≠ name) →
    s.set name v = { s with frames := inner ++ { f with current := v } :: outer } ∧
    (∀ k ≤ outer.length, (s.set name v).truncate k = s.truncate k) ∧
    (inner = [] → (s.set name v).advance = s.advance)
  /-- with no loop binding the name the assigned variables take the write, and it outlasts
  every loop entered or left afterwards -/
  inScope : ¬ s.Binds name →
    s.set name v = { s with assigned := s.assigned.insert name v } ∧
    ∀ moves, ¬ ((s.set name v).moveAll moves).Binds name →
      ¬ ((s.set name v).moveAll moves).Reserved name → ((s.set name v).moveAll moves).get name = .ok v
  /-- `row` is the seed whenever no loop binds it -/
  row : ¬ (s.set name v).Binds "row" → (s.set name v).get "row" = .ok (.map seed)

section Law

variable {seed : Map} {s : Scope} {name : String} {v : Value}

theorem get_set_self (open_ : ¬ s.Reserved name) : (s.set name v).get name = .ok v := by
  by_cases bound : s.Binds name
  · obtain ⟨inner, f, outer, frames, var, above⟩ := split_of_binds bound
    rw [set_of_split frames var above]
    exact get_of_found (s := { s with frames := _ }) (find?_split (f := { f with current := v }) var above)
  · rw [set_of_unbound bound]
    exact get_of_assigned (by simp [Map.get?_insert]) bound open_

theorem get_set_reserved (hidden : s.Reserved name) : (s.set name v).get name = s.get name := by
  obtain ⟨free, kind⟩ := hidden
  rw [set_of_unbound free]
  rcases kind with row | parsed | ⟨rfl, active⟩
  · exact get_congr rfl rfl (outerGet_insert name (.inr (.inl row)))
  · exact get_congr rfl rfl (outerGet_insert name (.inr (.inr parsed)))
  · obtain ⟨f, rest, frames⟩ := List.exists_cons_of_ne_nil active
    rw [get_loop free frames, get_loop (s := { s with assigned := s.assigned.insert "loop" v })
      free frames]

theorem get_set_other {other : String} (differs : other ≠ name) :
    (s.set name v).get other = s.get other := by
  by_cases bound : s.Binds name
  · obtain ⟨inner, f, outer, frames, var, above⟩ := split_of_binds bound
    rw [set_of_split frames var above]
    refine get_congr ?_ ?_ rfl
    · rw [frames]
      exact congrArg _ (find?_replace (f := f) (g := { f with current := v }) rfl
        (var ▸ Ne.symm differs))
    · rw [frames]
      cases inner <;> rfl
  · rw [set_of_unbound bound]
    exact get_congr rfl rfl (outerGet_insert other (.inl differs))

/-- An assignment reads back as the value, changes no other name, lives in the innermost loop
that binds the name for as long as that loop, and otherwise in the assigned variables for good;
`row` stays the seed. -/
theorem assignment_law (reached : s.Reachable seed) (name : String) (v : Value) :
    s.AssignmentLaw seed name v where
  reads := get_set_self
  reserved := get_set_reserved
  others := fun _ differs => get_set_other differs
  inFrame := fun inner f outer frames var above => by
    rw [set_of_split frames var above]
    refine ⟨rfl, fun k within => truncate_replace frames _ within, fun top => ?_⟩
    subst top
    exact advance_replace frames v
  inScope := fun free => by
    refine ⟨set_of_unbound free, fun moves free' open_ => get_of_assigned ?_ free' open_⟩
    rw [assigned_moveAll, set_of_unbound free, Map.get?_insert, if_pos rfl]
  row := fun free => by
    have seeded : (s.set name v).seed = seed := (reached.set name v).seed_eq
    rw [get_of_unbound free (.inl (by decide)), outerGet_row, seeded]

/-- Assigning the variable of a loop over two items, in a scope whose seed binds `row`. -/
theorem assignment_law_in_loop :
    ((Scope.ofSeed [("row", .bool true)]).push "x" [.ofNat 1, .ofNat 2]).2.Reachable
        [("row", .bool true)] ∧
      ((Scope.ofSeed [("row", .bool true)]).push "x" [.ofNat 1, .ofNat 2]).2.AssignmentLaw
        [("row", .bool true)] "x" (.bool false) :=
  have reached : ((Scope.ofSeed [("row", .bool true)]).push "x" [.ofNat 1, .ofNat 2]).2.Reachable
      [("row", .bool true)] := .push _ _ .start
  ⟨reached, assignment_law reached "x" (.bool false)⟩

end Law

end Scope

end PromptPipeline
