import PromptPipeline.Job.Item
import PromptPipeline.Json.Read
import PromptPipeline.Text.Lines
import PromptPipeline.Text.Unicode
/-!
Item inputs from datasets and repeat counts.

A dataset is a file of rows, each a JSON object. A file whose extension is `jsonl` or `ndjson`
holds one row per line, blank lines skipped; any other file holds one JSON array of rows. The
rows become items in file order. A repeated run has `count` items, numbered from 0, with `count`
at least 1 and at most the cap.
-/
namespace PromptPipeline

/-- Why items could not be made. -/
inductive DatasetError where
  | noRepeats
  | overCap (count cap : Nat)
  /-- a line of a line-delimited file, numbered from 1, that is not JSON -/
  | badLine (file : String) (line : Nat) (e : Json.ReadError)
  /-- a file that is not JSON -/
  | unreadable (file : String) (e : Json.ReadError)
  /-- a file whose JSON is not an array, with the kind of value it holds -/
  | notArray (file : String) (found : String)
  /-- a row, numbered from 0, that is not an object -/
  | notObject (file : String) (row : Nat) (found : String)

/-- The message of a dataset error, causes after their context. -/
def DatasetError.message : DatasetError → String
  | .noRepeats => "repeat count must be at least 1"
  | .overCap count cap => s!"repeat count {count} exceeds the cap of {cap}"
  | .badLine file line e => s!"{file}:{line}: invalid JSON: " ++ e.message
  | .unreadable file e => s!"parsing dataset {file}: " ++ e.message
  | .notArray file found => s!"dataset {file} must be a JSON array of objects, found {found}"
  | .notObject file row found => s!"dataset {file} row {row} is {found}, expected an object"

/-- `count` items of a repeated run, bounded by `cap`. -/
def repeatItems (count cap : Nat) : Except DatasetError (List ItemInput) :=
  if count = 0 then .error .noRepeats
  else if count > cap then .error (.overCap count cap)
  else .ok ((List.range count).map ItemInput.pass)

/-- One item per row, in order. -/
def rowsToItems (rows : List Map) : List ItemInput :=
  rows.zipIdx.map fun (bindings, index) => .row index bindings

/-- The extension of a file name: what follows its last dot, unless the dot starts the name. -/
def extension (file : String) : Option String :=
  let cs := file.toList
  match cs.reverse.idxOf? '.' with
  | some k =>
    let dot := cs.length - 1 - k
    if dot = 0 then none else some (String.ofList (cs.drop (dot + 1)))
  | none => none

/-- The rows of a dataset file with this name and content. -/
def loadRows (file content : String) : Except DatasetError (List Map) := do
  let lineDelimited := extension file == some "jsonl" || extension file == some "ndjson"
  let values ← if lineDelimited then
      ((Text.lines content).zipIdx.filter fun (line, _) => !(Text.trim line).isEmpty).mapM
        fun (line, n) => (Json.read line).mapError (.badLine file (n + 1))
    else
      match Json.read content with
      | .error e => .error (.unreadable file e)
      | .ok (.list values) => .ok values
      | .ok other => .error (.notArray file other.typeName)
  values.zipIdx.mapM fun (v, i) =>
    match v with
    | .map row => .ok row
    | other => .error (.notObject file i other.typeName)

end PromptPipeline
