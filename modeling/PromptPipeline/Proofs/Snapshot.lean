import PromptPipeline.Scope
/-!
The flattened view of a scope.

Templates see a scope as one map, `Scope.snapshot`, built from the outside in: the seed, the
assigned variables laid over it, then `row`, `parsed`, `loop` and the loop variables, the
innermost last. Expressions look a name up with `Scope.get`, from the inside out. In every scope
that a run can reach the two agree on every name: `get` succeeds exactly on the names of the
snapshot, with the value stored there, and fails on the others as an undefined variable
(`Scope.get_eq_snapshot`). Reaching matters only through the assigned variables: `Scope.set`
keeps them an ordered map, and laying a list with a key twice over the seed would let its later
entry win where `get` finds the earlier one.
-/
namespace PromptPipeline

namespace Map

/-- The keys ascend strictly, as in the entries of every map value. -/
def Ordered (m : Map) : Prop := (m.map (·.1)).Pairwise (· < ·)

theorem get?_cons (k : String) (v : Value) (m : Map) (key : String) :
    get? ((k, v) :: m) key = if k = key then some v else m.get? key := by
  by_cases same : k = key <;> simp [get?, same]

theorem get?_eq_none {m : Map} {key : String} (absent : key ∉ m.map (·.1)) : m.get? key = none := by
  induction m with
  | nil => rfl
  | cons entry rest ih =>
    simp only [List.map_cons, List.mem_cons, not_or] at absent
    rw [get?_cons, if_neg (Ne.symm absent.1), ih absent.2]

/-- Inserting before, at or after the first entry. -/
theorem insert_cons (k' : String) (w : Value) (rest : Map) (k : String) (v : Value) :
    insert ((k', w) :: rest) k v =
      if k < k' then (k, v) :: (k', w) :: rest
      else if k = k' then (k, v) :: rest else (k', w) :: rest.insert k v := by
  simp only [insert, beq_iff_eq]

/-- Inserting stores under its key and keeps the value of every other key, whatever the order of
the entries. -/
theorem get?_insert (m : Map) (k : String) (v : Value) (key : String) :
    (m.insert k v).get? key = if k = key then some v else m.get? key := by
  induction m with
  | nil => simp [insert, get?_cons]
  | cons entry rest ih =>
    obtain ⟨k', w⟩ := entry
    rw [insert_cons]
    by_cases below : k < k'
    · rw [if_pos below, get?_cons]
    by_cases same : k = k'
    · subst same
      by_cases hit : k = key <;> simp [get?_cons, hit]
    · rw [if_neg below, if_neg same, get?_cons, ih, get?_cons]
      by_cases hit : k = key
      · subst hit
        simp [Ne.symm same]
      · simp [hit]

/-- The keys after an insertion are the new key and the keys before. -/
theorem mem_keys_insert {m : Map} {k x : String} {v : Value} (member : x ∈ (m.insert k v).map (·.1)) :
    x = k ∨ x ∈ m.map (·.1) := by
  induction m with
  | nil => simpa [insert] using member
  | cons entry rest ih =>
    obtain ⟨k', w⟩ := entry
    rw [insert_cons] at member
    simp only [List.map_cons, List.mem_cons]
    by_cases below : k < k'
    · rw [if_pos below] at member
      simpa using member
    by_cases same : k = k'
    · rw [if_neg below, if_pos same] at member
      simp only [List.map_cons, List.mem_cons] at member
      rcases member with new | old
      · exact .inl new
      · exact .inr (.inr old)
    · rw [if_neg below, if_neg same] at member
      simp only [List.map_cons, List.mem_cons] at member
      rcases member with here | later
      · exact .inr (.inl here)
      · rcases ih later with new | old
        · exact .inl new
        · exact .inr (.inr old)

/-- Inserting keeps a map ordered. -/
theorem Ordered.insert {m : Map} (ordered : m.Ordered) (k : String) (v : Value) :
    (m.insert k v).Ordered := by
  induction m with
  | nil => simp [Map.insert, Ordered]
  | cons entry rest ih =>
    obtain ⟨k', w⟩ := entry
    simp only [Ordered, List.map_cons, List.pairwise_cons] at ordered
    obtain ⟨above, orderedRest⟩ := ordered
    rw [insert_cons]
    by_cases below : k < k'
    · rw [if_pos below]
      simp only [Ordered, List.map_cons, List.pairwise_cons, List.mem_cons]
      refine ⟨?_, above, orderedRest⟩
      rintro x (rfl | later)
      · exact below
      · exact String.lt_trans below (above x later)
    by_cases same : k = k'
    · subst same
      rw [if_neg below, if_pos rfl]
      simp only [Ordered, List.map_cons, List.pairwise_cons]
      exact ⟨above, orderedRest⟩
    · rw [if_neg below, if_neg same]
      -- the new key goes after `k'`, which stays first
      have after : k' < k := Std.lt_of_le_of_ne (Std.not_lt.1 below) (Ne.symm same)
      simp only [Ordered, List.map_cons, List.pairwise_cons]
      refine ⟨fun x member => ?_, ih orderedRest⟩
      rcases mem_keys_insert member with rfl | old
      · exact after
      · exact above x old

/-- Laying an ordered map over another: its own keys win, the others keep their values. -/
theorem get?_extend (m : Map) {o : Map} (ordered : o.Ordered) (key : String) :
    (m.extend o).get? key = (o.get? key).or (m.get? key) := by
  induction o generalizing m with
  | nil => rfl
  | cons entry rest ih =>
    obtain ⟨k, v⟩ := entry
    simp only [Ordered, List.map_cons, List.pairwise_cons] at ordered
    obtain ⟨above, orderedRest⟩ := ordered
    show (extend (m.insert k v) rest).get? key = _
    rw [ih _ orderedRest, get?_insert, get?_cons]
    by_cases hit : k = key
    · subst hit
      -- a key of an ordered map comes once
      have absent : k ∉ rest.map (·.1) := fun member => String.lt_irrefl k (above k member)
      simp [get?_eq_none absent]
    · simp [hit]

end Map

namespace Scope

/-- The scopes a run can reach from the seed bindings, by any sequence of assignments, loop
entries and moves, truncations and merges of parsed fields, with any names. -/
inductive Reachable (seed : Map) : Scope → Prop
  | start : Reachable seed (ofSeed seed)
  | set {s : Scope} (name : String) (v : Value) : Reachable seed s → Reachable seed (s.set name v)
  | push {s : Scope} (var : String) (items : List Value) :
      Reachable seed s → Reachable seed (s.push var items).2
  | advance {s : Scope} : Reachable seed s → Reachable seed s.advance.2
  | truncate {s : Scope} (n : Nat) : Reachable seed s → Reachable seed (s.truncate n)
  | mergeParsed {s : Scope} (fields : Map) : Reachable seed s → Reachable seed (s.mergeParsed fields)

theorem assigned_set (s : Scope) (name : String) (v : Value) :
    (s.set name v).assigned = s.assigned ∨ (s.set name v).assigned = s.assigned.insert name v := by
  unfold set
  split
  · exact .inl rfl
  · exact .inr rfl

theorem assigned_push (s : Scope) (var : String) (items : List Value) :
    (s.push var items).2.assigned = s.assigned := by
  unfold push
  split <;> rfl

theorem assigned_advance (s : Scope) : s.advance.2.assigned = s.assigned := by
  unfold advance
  split
  · rfl
  · split <;> rfl

/-- The assigned variables of a reachable scope form an ordered map. -/
theorem Reachable.ordered {seed : Map} {s : Scope} (reached : s.Reachable seed) : s.assigned.Ordered := by
  induction reached with
  | start => exact List.Pairwise.nil
  | set name v _ ordered =>
    rcases assigned_set _ name v with same | inserted
    · rwa [same]
    · rw [inserted]
      exact ordered.insert name v
  | push var items _ ordered => rwa [assigned_push]
  | advance _ ordered => rwa [assigned_advance]
  | truncate n _ ordered => exact ordered
  | mergeParsed fields _ ordered => exact ordered

/-- Laying the loop variables over a map, outermost first: a name bound by a loop takes the
innermost such loop's value. -/
theorem get?_foldl_frames (frames : List Frame) (base : Map) (name : String) :
    (frames.reverse.foldl (fun m f => m.insert f.var f.current) base).get? name =
      ((frames.find? (·.var == name)).map (·.current)).or (base.get? name) := by
  induction frames with
  | nil => rfl
  | cons f rest ih =>
    rw [List.reverse_cons, List.foldl_append, List.foldl_cons, List.foldl_nil, Map.get?_insert, ih,
      List.find?_cons]
    by_cases bound : f.var = name
    · simp [bound]
    · simp [bound, beq_false_of_ne bound]

/-- The snapshot without the loop variables and `loop` answers as lookup past the loop frames. -/
theorem get?_outer (s : Scope) (ordered : s.assigned.Ordered) (name : String) :
    (((s.seed.extend s.assigned).insert "row" (.map s.seed)).insert "parsed" (.map s.parsed)).get? name =
      (s.outerGet name).toOption := by
  rw [Map.get?_insert, Map.get?_insert, Map.get?_extend _ ordered]
  unfold outerGet
  by_cases row : name = "row"
  · subst row
    rfl
  by_cases parsed : name = "parsed"
  · subst parsed
    rfl
  simp only [Ne.symm row, Ne.symm parsed, if_false, beq_iff_eq, row, parsed]
  cases s.assigned.get? name <;> cases s.seed.get? name <;> rfl

/-- Lookup fails only on an undefined variable, named as looked up. -/
theorem get_eq_error {s : Scope} {name : String} {e : EvalError} (failed : s.get name = .error e) :
    e = .undefinedVariable name := by
  have outer : ∀ e, s.outerGet name = .error e → e = .undefinedVariable name := by
    intro e failed
    unfold outerGet at failed
    split at failed
    · cases failed
    split at failed
    · cases failed
    split at failed
    · cases failed
    split at failed
    · cases failed
    · cases failed
      rfl
  unfold get at failed
  split at failed
  · cases failed
  · split at failed
    · cases failed
    · exact outer e failed
  · exact outer e failed

/-- The snapshot holds what lookup finds, in a scope whose assigned variables are ordered. -/
theorem get?_snapshot (s : Scope) (ordered : s.assigned.Ordered) (name : String) :
    s.snapshot.get? name = (s.get name).toOption := by
  unfold snapshot get
  dsimp only
  rw [get?_foldl_frames]
  cases found : s.frames.find? (·.var == name) with
  | some f => rfl
  | none =>
    cases frames : s.frames with
    | nil => simpa [frames] using get?_outer s ordered name
    | cons f rest =>
      simp only [Option.map_none, Option.none_or]
      rw [Map.get?_insert]
      by_cases loop : name = "loop"
      · subst loop
        rfl
      · simp only [Ne.symm loop, if_false, beq_iff_eq, loop]
        exact get?_outer s ordered name

end Scope

/-- In every scope a run can reach, with any names assigned and any loop variables, `row`,
`parsed` and `loop` among them, lookup succeeds exactly on the names of the flattened view that
templates get, with the value stored there, and fails on the others as an undefined variable. -/
theorem Scope.get_eq_snapshot {seed : Map} {s : Scope} (reached : s.Reachable seed) (name : String) :
    s.get name = match s.snapshot.get? name with
      | some v => .ok v
      | none => .error (.undefinedVariable name) := by
  rw [Scope.get?_snapshot s reached.ordered name]
  cases looked : s.get name with
  | ok v => rfl
  | error e => rw [Scope.get_eq_error looked]; rfl

/-- A loop variable named `row` over a seed with a key `row`, after an assignment to `row`: the
snapshot gives `row` the loop's item, as lookup does. -/
theorem Scope.get_eq_snapshot_row_loop :
    ((((Scope.ofSeed [("row", .bool true)]).set "row" (.bool false)).push "row" [.ofNat 7]).2).Reachable
        [("row", .bool true)] ∧
      (((Scope.ofSeed [("row", .bool true)]).set "row" (.bool false)).push "row" [.ofNat 7]).2.get "row" =
        .ok (.ofNat 7) :=
  have reached : (((Scope.ofSeed [("row", .bool true)]).set "row" (.bool false)).push "row"
      [.ofNat 7]).2.Reachable [("row", .bool true)] :=
    .push _ _ (.set _ _ .start)
  ⟨reached, (Scope.get_eq_snapshot reached "row").trans rfl⟩

end PromptPipeline
