import PromptPipeline.Template.Ops
/-!
Arguments of filters, tests and functions.

A filter, test or function receives its positional arguments in order; named arguments arrive
together as one last argument, a `Datum.kwargs`. One that takes named arguments splits them off;
one that does not sees them as one more positional value, a map. Arguments are decoded in order,
each to what the callee needs: a value, text, a count, a flag. Missing arguments, arguments left
over and named arguments nobody asked for are errors, each with its own text.

Under strict rules a value that must be read (as text, as a number, or by looking at it) may not
be undefined; a value that is only passed along may.
-/
namespace PromptPipeline.Template

open Outcome

namespace Args

/-- The positional arguments and the named ones, when the last argument holds them. -/
def split (args : List Datum) : List Datum × List (String × Datum) :=
  match args.getLast? with
  | some (.kwargs es) => (args.dropLast, es)
  | _ => (args, [])

/-- Fails unless at most `n` arguments were given. -/
def atMost (n : Nat) (args : List Datum) : Outcome Unit :=
  if args.length > n then bare .tooManyArguments else .ok ()

/-- The value itself, unless it is undefined. -/
def defined (v : Datum) : Outcome Datum :=
  if v.isUndefined then bare .undefinedValue else .ok v

/-- The argument at a position, which must be given. -/
def required (args : List Datum) (i : Nat) : Outcome Datum :=
  match args[i]? with
  | some v => .ok v
  | none => bare .missingArgument

/-- The argument at a position; absent when not given or when it is `none` or undefined. -/
def optional (args : List Datum) (i : Nat) : Option Datum :=
  match args[i]? with
  | some .none | some (.undefined _) | none => none
  | some v => some v

/-- The fault of a value that cannot become what an argument needs. -/
def cannotConvert (v : Datum) (target : String) : Outcome α :=
  fail .invalidOperation ("cannot convert " ++ v.kindName ++ " to " ++ target)

/-- A value read as text: a string as it is, other values by their display. -/
def text (v : Datum) : Outcome String :=
  match v with
  | .undefined _ => bare .undefinedValue
  | .kwargs _ => fail .invalidOperation "cannot convert kwargs to string"
  | .str s _ => .ok s
  | other => .ok other.display

/-- A value that must be a string. -/
def string (v : Datum) : Outcome String :=
  match v with
  | .undefined _ => bare .undefinedValue
  | .str s _ => .ok s
  | _ => fail .invalidOperation "value is not a string"

/-- A value that must be a string, the undefined value included. -/
def stringOnly (v : Datum) : Outcome String :=
  match v with
  | .str s _ => .ok s
  | _ => fail .invalidOperation "value is not a string"

/-- A value read as a flag: only the constants are flags. -/
def flag (v : Datum) : Outcome Bool :=
  match v with
  | .undefined _ => bare .undefinedValue
  | .bool b => .ok b
  | other => cannotConvert other "bool"

/-- A value read as an unsigned size. -/
def usize (v : Datum) : Outcome Nat :=
  match v with
  | .undefined _ => bare .undefinedValue
  | other =>
    match other.asUsize? with
    | some n => .ok n
    | none => cannotConvert other "usize"

/-- A value read as a signed integer of `bits` bits, named `name` in messages. -/
def signed (bits : Nat) (name : String) (v : Datum) : Outcome Int :=
  match v with
  | .undefined _ => bare .undefinedValue
  | other =>
    match other.asI128? with
    | some i => if Datum.fitsSigned bits i then .ok i else cannotConvert other name
    | none => cannotConvert other name

/-- An optional argument decoded when present. -/
def optionalWith (decode : Datum → Outcome α) (args : List Datum) (i : Nat) :
    Outcome (Option α) :=
  match optional args i with
  | some v => some <$> decode v
  | none => .ok none

/-- A named argument; absent when not given or `none` or undefined. -/
def named? (kwargs : List (String × Datum)) (name : String) : Option Datum :=
  match Datum.named? kwargs name with
  | some .none | some (.undefined _) | none => none
  | some v => some v

/-- A named argument decoded when present. -/
def namedWith (decode : Datum → Outcome α) (kwargs : List (String × Datum)) (name : String) :
    Outcome (Option α) :=
  match named? kwargs name with
  | some v => some <$> decode v
  | none => .ok none

/-- Fails at the first named argument, by name, that is not among `used`. -/
def allUsed (kwargs : List (String × Datum)) (used : List String) : Outcome Unit :=
  match kwargs.find? (fun e => !used.contains e.1) with
  | some (k, _) => fail .tooManyArguments ("unknown keyword argument '" ++ k ++ "'")
  | none => .ok ()

end Args

end PromptPipeline.Template
