import PromptPipeline.Value
import PromptPipeline.Json.Write
import PromptPipeline.Text.Escaped
/-!
Typed data out of values.

A `Decoder α` reads an `α` out of a data value or says why it cannot. Records are read from maps,
or from lists that give their fields in declaration order; plain enumerations from the name of
the alternative; tagged unions from a map whose tag entry names the alternative. The first fault
met is the one reported: map entries are visited in ascending key order and each value is read
when its entry is reached; absent fields are looked at after all entries, in declaration order.
-/
namespace PromptPipeline

/-- The value that a decoder met where it expected something else, with the detail that its
messages show. -/
inductive Found where
  | null
  | bool (value : Bool)
  | int (value : Int)
  | float (value : Float)
  | str (value : String)
  | list
  | map

/-- The kind and detail of a value. -/
def Found.ofValue : Value → Found
  | .null => .null
  | .bool b => .bool b
  | .num (.int i) => .int i
  | .num (.float x) => .float x
  | .str s => .str s
  | .list _ => .list
  | .map _ => .map

/-- A string between double quotes as a debugging display shows it: the quote, the backslash, NUL,
tab, line feed and carriage return by their short escapes; the characters that do not print or
that extend the character before them as `\u` with the hex code in braces. -/
def debugQuote (s : String) : String :=
  let escape (c : Char) : String :=
    if c == '"' then "\\\""
    else if c == '\\' then "\\\\"
    else if c.toNat == 0 then "\\0"
    else if c == '\t' then "\\t"
    else if c == '\n' then "\\n"
    else if c == '\r' then "\\r"
    else if Text.isEscaped c then
      "\\u\x7b" ++ String.ofList (Nat.toDigits 16 c.toNat) ++ "\x7d"
    else c.toString
  "\"" ++ String.join (s.toList.map escape) ++ "\""

/-- How a found value is named in a message: ``integer `5` ``, `string "x"`, `sequence`. -/
def Found.describe : Found → String
  | .null => "null"
  | .bool b => "boolean `" ++ toString b ++ "`"
  | .int i => "integer `" ++ toString i ++ "`"
  | .float x => "floating point `" ++ Decimal.writeFloat Json.numberLayout x ++ "`"
  | .str s => "string " ++ debugQuote s
  | .list => "sequence"
  | .map => "map"

/-- Why a value does not decode. -/
inductive DecodeError where
  /-- a value of the wrong kind -/
  | invalidType (found : Found) (expected : String)
  /-- a value of the right kind out of range -/
  | invalidValue (found : Found) (expected : String)
  /-- a list of the wrong length -/
  | invalidLength (length : Nat) (expected : String)
  /-- a record without one of its required fields -/
  | missingField (field : String)
  /-- a record with an entry that is none of its fields -/
  | unknownField (field : String) (known : List String)
  /-- a name that is none of the alternatives -/
  | unknownVariant (variant : String) (known : List String)

/-- A name between backticks. -/
def ticked (name : String) : String := "`" ++ name ++ "`"

/-- A list of names as a message offers them: `` `a` ``, `` `a` or `b` ``, or
`` one of `a`, `b`, `c` ``. -/
def oneOf : List String → String
  | [a] => ticked a
  | [a, b] => ticked a ++ " or " ++ ticked b
  | names => "one of " ++ ", ".intercalate (names.map ticked)

/-- The text of a decoding fault. -/
def DecodeError.message : DecodeError → String
  | .invalidType found expected => "invalid type: " ++ found.describe ++ ", expected " ++ expected
  | .invalidValue found expected => "invalid value: " ++ found.describe ++ ", expected " ++ expected
  | .invalidLength n expected => "invalid length " ++ toString n ++ ", expected " ++ expected
  | .missingField field => "missing field " ++ ticked field
  | .unknownField field [] => "unknown field " ++ ticked field ++ ", there are no fields"
  | .unknownField field known => "unknown field " ++ ticked field ++ ", expected " ++ oneOf known
  | .unknownVariant v [] => "unknown variant " ++ ticked v ++ ", there are no variants"
  | .unknownVariant v known => "unknown variant " ++ ticked v ++ ", expected " ++ oneOf known

/-- Reads an `α` out of a value. -/
abbrev Decoder (α : Type) := Value → Except DecodeError α

namespace Decoder

/-- Any value as it is. -/
def any : Decoder Value := .ok

/-- A string. -/
def string : Decoder String
  | .str s => .ok s
  | v => .error (.invalidType (.ofValue v) "a string")

/-- A boolean. -/
def boolean : Decoder Bool
  | .bool b => .ok b
  | v => .error (.invalidType (.ofValue v) "a boolean")

/-- An unsigned integer below `2^bits`, of the type called `name`. -/
def word (name : String) (bits : Nat) : Decoder Nat
  | .num (.int i) =>
    if i < 0 || i ≥ Int.pow 2 bits then .error (.invalidValue (.int i) name) else .ok i.toNat
  | v => .error (.invalidType (.ofValue v) name)

/-- An index or count: an unsigned 64-bit integer. -/
def size : Decoder Nat := word "usize" 64

/-- An unsigned 64-bit integer. -/
def word64 : Decoder Nat := word "u64" 64

/-- Null as none, anything else as what `d` reads. -/
def option (d : Decoder α) : Decoder (Option α)
  | .null => .ok none
  | v => some <$> d v

/-- A list, each item read by `d`. -/
def list (d : Decoder α) : Decoder (List α)
  | .list items => items.mapM d
  | v => .error (.invalidType (.ofValue v) "a sequence")

/-- A map, each value read by `d`, in key order. -/
def entries (d : Decoder α) : Decoder (List (String × α))
  | .map es => es.mapM fun (k, v) => (k, ·) <$> d v
  | v => .error (.invalidType (.ofValue v) "a map")

/-- The alternative of an enumeration named `name`. -/
def pick (alternatives : List (String × α)) (name : String) : Except DecodeError α :=
  match alternatives.lookup name with
  | some a => .ok a
  | none => .error (.unknownVariant name (alternatives.map (·.1)))

/-- An alternative of an enumeration whose alternatives carry nothing: its name, or a map with the
name as its only key and null as its value. -/
def choice (alternatives : List (String × α)) : Decoder α
  | .str s => pick alternatives s
  | .map [(k, v)] => do
    let a ← pick alternatives k
    match v with
    | .null => pure a
    | other => .error (.invalidType (.ofValue other) "unit")
  | .map _ => .error (.invalidValue .map "map with a single key")
  | v => .error (.invalidType (.ofValue v) "string or map")

end Decoder

/-- The part of a tagged record other than its tag: the remaining entries of a map, or the
remaining items of a list. -/
inductive Content where
  | keyed (entries : List (String × Value))
  | positional (items : List Value)

/-- The length a list of fields was expected to have, as a message says it. -/
def elementCount (n : Nat) (place : String) : String :=
  if n = 1 then "1 element" ++ place else toString n ++ " elements" ++ place

/-- A record as a decoder visits it. -/
structure Record where
  /-- How the record's type is named in messages, such as `struct Point`. -/
  what : String
  /-- The field names in declaration order. -/
  fields : List String
  /-- Whether an entry that is no field is a fault; otherwise it is passed over. -/
  strict : Bool
  /-- The given entries in the order in which they are visited. -/
  given : List (String × Value)
  /-- Whether the fields came as a list in declaration order. -/
  positional : Bool
  /-- The fault of a list with more items than fields, found after all fields are read. -/
  surplus : Option DecodeError

namespace Record

/-- A record read from a part of a tagged record; a list longer than the fields is reported with
the count of fields it was expected to have. -/
def ofContent (what : String) (fields : List String) (strict : Bool) : Content → Record
  | .keyed es => ⟨what, fields, strict, es, false, none⟩
  | .positional items =>
    let surplus := if items.length > fields.length then
      some (.invalidLength items.length (elementCount fields.length " in sequence"))
      else none
    ⟨what, fields, strict, fields.zip items, true, surplus⟩

/-- Opens a value as the record `what`: a map, or a list of its fields in declaration order. -/
def ofValue (what : String) (fields : List String) (strict : Bool) : Decoder Record
  | .map es => .ok ⟨what, fields, strict, es, false, none⟩
  | .list items =>
    let surplus := if items.length > fields.length then
      some (.invalidLength items.length "fewer elements in array") else none
    .ok ⟨what, fields, strict, fields.zip items, true, surplus⟩
  | v => .error (.invalidType (.ofValue v) what)

/-- What reading a field gives: nothing when the record does not give it. -/
def field (r : Record) (name : String) (d : Decoder α) : Option (Except DecodeError α) :=
  (r.given.lookup name).map d

/-- Visits the given entries in order: an entry that is no field is a fault when the record is
strict, and an entry whose value did not decode reports that fault. `faults` lists the fault of
each field in declaration order. -/
def check (r : Record) (faults : List (Option DecodeError)) : Except DecodeError Unit :=
  let table := r.fields.zip faults
  r.given.forM fun (key, _) =>
    match table.lookup key with
    | some (some e) => .error e
    | some none => .ok ()
    | none => if r.strict then .error (.unknownField key r.fields) else .ok ()

/-- The fault of reading a field, if any. -/
def faultOf : Option (Except DecodeError α) → Option DecodeError
  | some (.error e) => some e
  | _ => none

/-- The fault of an absent field that has no default. -/
def absent (r : Record) (name : String) : DecodeError :=
  if r.positional then
    .invalidLength (r.fields.idxOf name) (r.what ++ " with " ++ elementCount r.fields.length "")
  else .missingField name

/-- A field the record must give. -/
def required (r : Record) (name : String) : Option (Except DecodeError α) → Except DecodeError α
  | some result => result
  | none => .error (r.absent name)

/-- A field that reads as none when a map does not give it. -/
def optional (r : Record) (name : String) :
    Option (Except DecodeError (Option α)) → Except DecodeError (Option α)
  | some result => result
  | none => if r.positional then .error (r.absent name) else .ok none

/-- A field that takes a default when the record does not give it. -/
def withDefault (fallback : α) : Option (Except DecodeError α) → Except DecodeError α
  | some result => result
  | none => .ok fallback

/-- The fault of surplus items, after all fields are read. -/
def finish (r : Record) : Except DecodeError Unit :=
  match r.surplus with
  | some e => .error e
  | none => .ok ()

end Record

/-- Splits a tagged record into the alternative its tag names and the rest: a map with the tag
under the key `tag`, or a list whose first item is the tag. `what` names the union in messages. -/
def Decoder.tagged (what tag : String) (alternatives : List (String × α)) :
    Decoder (α × Content) := fun v =>
  let name : Decoder α := fun
    | .str s => Decoder.pick alternatives s
    | other => .error (.invalidType (.ofValue other) "variant identifier")
  match v with
  | .map es =>
    match es.lookup tag with
    | some t => do
      let a ← name t
      pure (a, .keyed (es.filter (·.1 != tag)))
    | none => .error (.missingField tag)
  | .list (t :: rest) => do
    let a ← name t
    pure (a, .positional rest)
  | .list [] => .error (.missingField tag)
  | other => .error (.invalidType (.ofValue other) what)

/-- An alternative of a tagged union that carries nothing: any further entries are passed over,
while further items of a list are a fault. -/
def Content.unit : Content → Except DecodeError Unit
  | .keyed _ => .ok ()
  | .positional [] => .ok ()
  | .positional items => .error (.invalidLength items.length (elementCount 0 " in sequence"))

end PromptPipeline
