import PromptPipeline.Template.Builtin.Tests
/-!
The filters of templates that work on collections.

Lengths, first and last items, reversal, conversion to a list, joining into text, the entries of
a map, sorting (by the value, an attribute path or several, with or without regard to case),
sorting a map's entries, grouping by an attribute, dropping repeats, the least and greatest item,
sums, batches and slices, and chaining and zipping collections.

An attribute path is a dotted list of names and positions (`user.address.0`), looked up one
step at a time; a step into an undefined value fails, a step that finds nothing gives the
undefined value.
-/
namespace PromptPipeline.Template

open Outcome

namespace Builtin

/-- A step of an attribute path read as a position: ASCII digits after an optional `+`, within
64 bits. -/
def positionStep? (part : String) : Option Nat :=
  let digits := match part.toList with
    | '+' :: rest => rest
    | cs => cs
  if digits.isEmpty || !digits.all Char.isDigit then none
  else
    let n := digits.foldl (fun n c => n * 10 + (c.toNat - '0'.toNat)) 0
    if n < Nat.pow 2 64 then some n else none

/-- One step of an attribute path: a position when the step reads as one, else a name. -/
def pathStep (v : Datum) (part : String) : Outcome Datum :=
  if v.isUndefined then bare .undefinedValue
  else
    match positionStep? part with
    | some n => .ok ((Ops.item? v (.int n)).getD Datum.missing)
    | none => .ok ((Ops.attr? v part).getD Datum.missing)

/-- The value at a dotted attribute path. -/
def path (v : Datum) (p : String) : Outcome Datum :=
  (p.splitOn ".").foldlM pathStep v

/-- The value at a dotted attribute path, or a fallback where the path fails. -/
def pathOr (v : Datum) (p : String) (fallback : Datum) : Datum :=
  match path v p with
  | .ok r => if r.isUndefined then fallback else r
  | .error _ => fallback

/-- The order used to sort: strings compared by their ASCII lower case unless case counts,
all else by the order of values. -/
def sortOrder (caseSensitive : Bool) (a b : Datum) : Ordering :=
  match caseSensitive, a, b with
  | false, .str x _, .str y _ =>
    compare (String.ofList (x.toList.map Char.toLower)) (String.ofList (y.toList.map Char.toLower))
  | _, _, _ => Datum.order a b

/-- A stable sort by an order. -/
def sortBy (order : Datum → Datum → Ordering) (xs : List Datum) : List Datum :=
  xs.mergeSort fun a b => order a b != .gt

/-- An order, or its opposite when `reverse`; items that are equal keep their places either
way. -/
def directed (reverse : Bool) (order : Datum → Datum → Ordering) (a b : Datum) : Ordering :=
  if reverse then order b a else order a b

/-- The attribute paths named by a text: the parts between commas that are not empty, each
trimmed afterwards (so a part of blanks names the empty path). Without any such part, the empty
path. -/
def attributePaths (attr : String) : List String :=
  match (attr.splitOn ",").filter (!·.isEmpty) with
  | [] => [""]
  | parts => parts.map Text.trim

/-- The items of a value to iterate; the undefined value cannot be iterated under strict rules,
unless it is the silent one, which has no items. -/
def iterate (v : Datum) : Outcome (List Datum) :=
  match v with
  | .undefined true => .ok []
  | .undefined false => bare .undefinedValue
  | other =>
    match other.items? with
    | some xs => .ok xs
    | none => fail .invalidOperation (other.kindName ++ " is not iterable")

/-- The items of a value to iterate, where every failure reads as a value that is no list. -/
def listItems (v : Datum) : Outcome (List Datum) :=
  match iterate v with
  | .ok xs => .ok xs
  | .error _ => fail .invalidOperation "cannot convert value to list"

/-- The items of a value, none when it cannot be iterated; the undefined value has none. -/
def itemsOrNone (v : Datum) : List Datum := (v.items?).getD []

/-- The `length` filter: the number of items of a value. -/
def length (v : Datum) : Outcome Datum :=
  match v.length? with
  | some n => .ok (.int n)
  | none => fail .invalidOperation ("cannot calculate length of value of type " ++ v.kindName)

/-- The `first` filter: the first character of a string, the first item of a list or iterator,
the first key of a map; the undefined value when there is none. -/
def first (v : Datum) : Outcome Datum :=
  match v with
  | .str s _ => .ok ((s.toList.head?.map fun c => Datum.text (String.singleton c)).getD Datum.missing)
  | .undefined _ | .none | .bool _ | .int _ | .float _ | .builtin _ =>
    fail .invalidOperation "cannot get first item from value"
  | other => .ok ((itemsOrNone other).head?.getD Datum.missing)

/-- The `last` filter: the last character of a string, the last item of a list or iterator; a
map has no last item. -/
def last (v : Datum) : Outcome Datum :=
  match v with
  | .str s _ => .ok ((s.toList.getLast?.map fun c => Datum.text (String.singleton c)).getD Datum.missing)
  | other =>
    match Ops.sequence? other with
    | some (xs, _) => .ok (xs.getLast?.getD Datum.missing)
    | none => fail .invalidOperation "cannot get last item from value"

/-- The `reverse` filter: a string's characters and a list's items in reverse; a map gives its
keys in order; `none` and the undefined value stay as they are. -/
def reverse (v : Datum) : Outcome Datum :=
  match v with
  | .undefined _ | .none => .ok v
  | .str s _ => .ok (Datum.text (String.ofList s.toList.reverse))
  | other =>
    match Ops.sequence? other with
    | some (xs, _) => .ok (.iter xs.reverse true)
    | none =>
      match Datum.mapView? other with
      | some es => .ok (.seq (es.map (·.1)))
      | none => fail .invalidOperation ("cannot reverse values of type " ++ other.kindName)

/-- The `list` filter: the items of a value as a list. -/
def toList (v : Datum) : Outcome Datum := .seq <$> listItems v

/-- The `join` filter: the texts of the items with a separator between each two. -/
def join (v : Datum) (sep : String) : Outcome Datum :=
  let piece (d : Datum) : String := match d with
    | .str s _ => s
    | other => other.display
  match v with
  | .undefined _ | .none => .ok (Datum.text "")
  | .str s _ => .ok (Datum.text (sep.intercalate ((Datum.chars s).map piece)))
  | other =>
    match other.items? with
    | some xs => .ok (Datum.text (sep.intercalate (xs.map piece)))
    | none => fail .invalidOperation ("cannot join value of type " ++ other.kindName)

/-- The `items` filter: the entries of a map as pairs. -/
def items (v : Datum) : Outcome Datum :=
  match Datum.mapView? v with
  | some es => .ok (.iter (es.map fun e => .seq [e.1, e.2]) true)
  | none => fail .invalidOperation "cannot convert value into pairs"

/-- The `sort` filter: the items in order, by an attribute path or by several separated by
commas, whose values then compare together as a list (so case counts there); `reverse` sorts
the other way round. -/
def sort (v : Datum) (args : List Datum) : Outcome Datum := do
  let (positional, kwargs) := Args.split args
  Args.atMost 0 positional
  let xs ← listItems v
  let caseSensitive ← Args.namedWith Args.flag kwargs "case_sensitive"
  let caseSensitive := caseSensitive.getD false
  let attrName ← Args.namedWith Args.string kwargs "attribute"
  let reverse ← Args.namedWith Args.flag kwargs "reverse"
  let reverse := reverse == some true
  let order : Datum → Datum → Ordering := match attrName.map attributePaths with
    | none => sortOrder caseSensitive
    | some [attr] => fun a b => match path a attr, path b attr with
      | .ok x, .ok y => sortOrder caseSensitive x y
      | _, _ => .eq
    | some attrs => fun a b =>
      Datum.order (.seq (attrs.map (pathOr a · Datum.missing)))
        (.seq (attrs.map (pathOr b · Datum.missing)))
  Args.allUsed kwargs ["case_sensitive", "attribute", "reverse"]
  .ok (.seq (sortBy (directed reverse order) xs))

/-- The `dictsort` filter: the entries of a map as pairs, sorted by value when `by` is
`value` and by key otherwise; `reverse` sorts the other way round. -/
def dictsort (v : Datum) (args : List Datum) : Outcome Datum := do
  let (positional, kwargs) := Args.split args
  Args.atMost 0 positional
  match Datum.mapView? v with
  | none => fail .invalidOperation "cannot convert value into pair list"
  | some es =>
    let byKey ← Args.namedWith Args.string kwargs "by"
    let byValue := byKey == some "value"
    let caseSensitive ← Args.namedWith Args.flag kwargs "case_sensitive"
    let order := sortOrder (caseSensitive.getD false)
    let reverse ← Args.namedWith Args.flag kwargs "reverse"
    let reverse := reverse == some true
    let entryOrder (a b : Datum × Datum) : Ordering :=
      if byValue then order a.2 b.2 else order a.1 b.1
    let sorted := es.mergeSort fun a b =>
      (if reverse then entryOrder b a else entryOrder a b) != .gt
    Args.allUsed kwargs ["by", "case_sensitive", "reverse"]
    .ok (.seq (sorted.map fun e => .seq [e.1, e.2]))

/-- Runs of items with equal keys, each with the key of its last item. -/
def groupRuns (order : Datum → Datum → Ordering) : List (Datum × Datum) → List Datum
  | [] => []
  | (k, x) :: rest =>
    let run := rest.takeWhile fun e => order k e.1 == .eq
    let key := ((run.getLast?.map (·.1)).getD k)
    .group key (x :: run.map (·.2)) :: groupRuns order (rest.drop run.length)
termination_by es => es.length
decreasing_by
  simp only [List.length_cons, List.length_drop]
  omega

/-- The `groupby` filter: the items sorted by an attribute path and grouped where it is equal. -/
def groupBy (v : Datum) (args : List Datum) : Outcome Datum := do
  let (positional, kwargs) := Args.split args
  let attrName ← Args.optionalWith Args.string positional 0
  Args.atMost 1 positional
  let fallback := (Datum.named? kwargs "default").getD Datum.missing
  let caseSensitive ← Args.namedWith Args.flag kwargs "case_sensitive"
  let order := sortOrder (caseSensitive.getD false)
  let attr ← match attrName with
    | some a => .ok a
    | none =>
      match Datum.named? kwargs "attribute" with
      | some a => Args.string a
      | none => fail .missingArgument "missing keyword argument 'attribute'"
  let xs ← match v with
    | .undefined _ => .ok []
    | other => iterate other
  let sorted := sortBy (fun a b => order (pathOr a attr fallback) (pathOr b attr fallback)) xs
  Args.allUsed kwargs ["default", "case_sensitive", "attribute"]
  .ok (.seq (groupRuns order (sorted.map fun x => (pathOr x attr fallback, x))))

/-- The items whose keys were not seen before, in order. Keys are told apart by the order of
values, so a boolean is never the same key as a number. -/
def firstOfEach (key : Datum → Datum) : List Datum → List Datum → List Datum
  | _, [] => []
  | seen, x :: xs =>
    let k := key x
    if seen.any (fun s => Datum.order k s == .eq) then firstOfEach key seen xs
    else x :: firstOfEach key (k :: seen) xs

/-- The `unique` filter: the items without repeats, strings compared in lower case unless case
counts, optionally by an attribute path. -/
def unique (v : Datum) (args : List Datum) : Outcome Datum := do
  let (positional, kwargs) := Args.split args
  let xs ← iterate v
  Args.atMost 0 positional
  let attrName ← Args.namedWith Args.string kwargs "attribute"
  let caseSensitive ← Args.namedWith Args.flag kwargs "case_sensitive"
  let key (x : Datum) : Datum :=
    let k := match attrName with
      | some attr => pathOr x attr Datum.missing
      | none => x
    match caseSensitive, k with
    | some true, _ => k
    | _, .str s _ => Datum.text (Text.lower s)
    | _, _ => k
  Args.allUsed kwargs ["attribute", "case_sensitive"]
  .ok (.seq (firstOfEach key [] xs))

/-- The first least item by an order. -/
def least (order : Datum → Datum → Ordering) : List Datum → Option Datum
  | [] => none
  | x :: xs => some (xs.foldl (fun m y => if order y m == .lt then y else m) x)

/-- The last greatest item by an order. -/
def greatest (order : Datum → Datum → Ordering) : List Datum → Option Datum
  | [] => none
  | x :: xs => some (xs.foldl (fun m y => if order y m != .lt then y else m) x)

/-- The `min` and `max` filters: the first least or the last greatest item by the order of
values, in which case counts; the undefined value for no items. -/
def extreme (pickGreatest : Bool) (v : Datum) (args : List Datum) : Outcome Datum := do
  Args.atMost 0 args
  let xs ← listItems v
  let found := if pickGreatest then greatest Datum.order xs else least Datum.order xs
  .ok (found.getD Datum.missing)

/-- The `sum` filter: the sum of the numbers, skipping undefined items. -/
def sum (v : Datum) (args : List Datum) : Outcome Datum := do
  Args.atMost 0 args
  let xs ← iterate v
  xs.foldlM (fun acc x =>
    if x.isUndefined then .ok acc
    else if x.kind == .number then Ops.add acc x
    else fail .invalidOperation ("can only sum numbers, got " ++ x.kindName)) (.int 0)

/-- Cuts a list into pieces of `k + 1` items; the last may be shorter. -/
def chunks (k : Nat) : List Datum → List (List Datum)
  | [] => []
  | x :: rest => (x :: rest.take k) :: chunks k (rest.drop k)
termination_by xs => xs.length
decreasing_by
  simp only [List.length_cons, List.length_drop]
  omega

/-- The `batch` filter: lists of `count` items, the last filled up with a value if one is
given. -/
def batch (v : Datum) (args : List Datum) : Outcome Datum := do
  let count ← Args.usize (← Args.required args 0)
  let filler := Args.optional args 1
  Args.atMost 2 args
  if count == 0 then fail .invalidOperation "count cannot be 0"
  else
    let xs ← iterate v
    let pieces := chunks (count - 1) xs
    let pieces := match filler, pieces.getLast? with
      | some f, some lastPiece =>
        pieces.dropLast ++ [lastPiece ++ List.replicate (count - lastPiece.length) f]
      | _, _ => pieces
    .ok (.seq (pieces.map .seq))

/-- The `slice` filter: `count` lists of nearly equal length, the first ones one item longer;
the shorter ones get a value added if one is given. -/
def sliceInto (v : Datum) (args : List Datum) : Outcome Datum := do
  let count ← Args.usize (← Args.required args 0)
  let filler := Args.optional args 1
  Args.atMost 2 args
  if count == 0 then fail .invalidOperation "count cannot be 0"
  else
    let xs ← iterate v
    let per := xs.length / count
    let extra := xs.length % count
    let piece (i : Nat) : Datum :=
      let start := i * per + min i extra
      let stop := (i + 1) * per + min (i + 1) extra
      let part := (xs.drop start).take (stop - start)
      match filler with
      | some f => if i ≥ extra then .seq (part ++ [f]) else .seq part
      | none => .seq part
    .ok (.seq ((List.range count).map piece))

/-- The `chain` filter: maps merged (the first entry of a key wins), lists joined into a list,
anything else joined into an iterator over the items of each part that has items. -/
def chain (v : Datum) (args : List Datum) : Outcome Datum :=
  let parts := v :: args
  if parts.all (fun p => p.kind == .map) then
    let merged := parts.foldl (fun acc p =>
      ((Datum.mapView? p).getD []).foldl (fun m e =>
        if (Datum.lookup m e.1).isSome then m else m ++ [e]) acc) []
    .ok (Datum.mapOf merged)
  else if parts.all (fun p => p.kind == .seq) then
    .ok (.seq (parts.flatMap itemsOrNone))
  else .ok (.iter (parts.flatMap itemsOrNone) false)

/-- Rows of the items at the same position of several lists, as long as the shortest. -/
def transpose : Nat → List (List Datum) → List Datum
  | 0, _ => []
  | fuel + 1, lists =>
    match lists.mapM List.head? with
    | some row => .seq row :: transpose fuel (lists.map List.tail)
    | none => []

/-- The `zip` filter: rows of the items at the same position, as long as the shortest part. -/
def zip (v : Datum) (args : List Datum) : Outcome Datum := do
  let items (p : Datum) : Option (List Datum) := match p with
    | .undefined _ => some []
    | other => other.items?
  let first ← match items v with
    | some xs => .ok xs
    | none => fail .invalidOperation (v.kindName ++ " is not iterable")
  let others ← args.mapM fun p =>
    match items p with
    | some xs => .ok xs
    | none =>
      fail .invalidOperation ("zip filter argument must be iterable, got " ++ p.kindName)
  let lists := first :: others
  let shortest := (lists.map List.length).min?.getD 0
  .ok (.iter (transpose shortest lists) false)

end Builtin

end PromptPipeline.Template
