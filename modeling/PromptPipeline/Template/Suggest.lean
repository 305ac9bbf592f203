/-!
Suggestions for misspelt names.

`editDistance` is the Levenshtein distance over characters: the fewest insertions, deletions and
substitutions of single characters that turn one text into the other. `suggest` offers the
candidate nearest to a misspelt name, provided it lies within half the name's length in bytes
(and at least within two edits); of equally near candidates the first one is offered.
-/
namespace PromptPipeline.Template

/-- One row of the distance table: the distances from the prefixes of `b` to `a` extended by the
character `c`, given the row `prev` for `a` and the row index `i` of the new row. -/
def nextRow (c : Char) (b : List Char) (prev : List Nat) (i : Nat) : List Nat :=
  let rec go : List Char → List Nat → Nat → List Nat
    | d :: ds, diag :: up :: ups, left =>
      let cost := if c == d then 0 else 1
      let here := min (min (up + 1) (left + 1)) (diag + cost)
      here :: go ds (up :: ups) here
    | _, _, _ => []
  (i + 1) :: go b prev (i + 1)

/-- The Levenshtein distance between two texts, counted in characters. -/
def editDistance (a b : String) : Nat :=
  let bs := b.toList
  let first := List.range (bs.length + 1)
  let (last, _) := a.toList.foldl (fun (row, i) c => (nextRow c bs row i, i + 1)) (first, 0)
  last.getLastD 0

/-- The candidate to offer for a misspelt name, if one is near enough. -/
def suggest (typo : String) (candidates : List String) : Option String :=
  let limit := max (typo.utf8ByteSize / 2) 2
  let near := candidates.filterMap fun c =>
    let d := editDistance typo c
    if d ≤ limit then some (d, c) else none
  match near with
  | [] => none
  | first :: rest =>
    some (rest.foldl (fun best next => if next.1 < best.1 then next else best) first).2

end PromptPipeline.Template
