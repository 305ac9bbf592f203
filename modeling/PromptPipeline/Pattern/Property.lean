import PromptPipeline.Pattern.CharSet
import PromptPipeline.Pattern.Syntax
import PromptPipeline.Pattern.Tables.Age
import PromptPipeline.Pattern.Tables.Boundary
import PromptPipeline.Pattern.Tables.Category
import PromptPipeline.Pattern.Tables.Script
import PromptPipeline.Pattern.Tables.Extension
import PromptPipeline.Pattern.Tables.Property
import PromptPipeline.Text.Unicode
/-!
The character classes that patterns name.

Perl classes are Unicode-aware: `\d` the decimal digits, `\s` white space, `\w` word characters;
without the `u` flag they are their ASCII counterparts. ASCII classes are `[:alpha:]` and its kin.

A Unicode class `\p{…}` is looked up by its name after loose matching: case, blanks, `_` and `-`
are ignored, and so is a leading `is`. A bare name is tried as a property, which must be binary,
then as a general category, then as a script (its own characters only; `\p{scx=Greek}` adds
the characters used with it). A name with a value (`\p{sc=Greek}`, `\p{gc:Lu}`, `\p{age=6.0}`,
`\p{wb=ALetter}`) asks the property given. A name that is not found is an error, and so is an
unknown value of a known property.
-/
namespace PromptPipeline.Pattern

namespace Classes

open CharSet

/-- The set a Perl class denotes, Unicode-aware. -/
def perlUnicode : PerlClass → CharSet
  | .digit => ofBounds Tables.decimalDigitBounds
  | .space => ofBounds Text.whiteSpaceBounds
  | .word => ofBounds Tables.wordBounds

/-- The set an ASCII class denotes. -/
def ascii (name : String) : CharSet :=
  normalize <| match name with
  | "alnum" => [(0x30, 0x39), (0x41, 0x5A), (0x61, 0x7A)]
  | "alpha" => [(0x41, 0x5A), (0x61, 0x7A)]
  | "ascii" => [(0x00, 0x7F)]
  | "blank" => [(0x09, 0x09), (0x20, 0x20)]
  | "cntrl" => [(0x00, 0x1F), (0x7F, 0x7F)]
  | "digit" => [(0x30, 0x39)]
  | "graph" => [(0x21, 0x7E)]
  | "lower" => [(0x61, 0x7A)]
  | "print" => [(0x20, 0x7E)]
  | "punct" => [(0x21, 0x2F), (0x3A, 0x40), (0x5B, 0x60), (0x7B, 0x7E)]
  | "space" => [(0x09, 0x0D), (0x20, 0x20)]
  | "upper" => [(0x41, 0x5A)]
  | "word" => [(0x30, 0x39), (0x41, 0x5A), (0x5F, 0x5F), (0x61, 0x7A)]
  | "xdigit" => [(0x30, 0x39), (0x41, 0x46), (0x61, 0x66)]
  | _ => []

/-- The set a Perl class denotes in ASCII. -/
def perlAscii : PerlClass → CharSet
  | .digit => ascii "digit"
  | .space => ascii "space"
  | .word => ascii "word"

/-- A name under loose matching: ASCII letters in lower case, blanks, `_` and `-` dropped, other
non-ASCII characters dropped, and a leading `is` ignored (but `isc` stays, an alias of the
category Other). -/
def looseName (name : String) : String :=
  let cs := name.toList
  let startsWithIs := cs.length ≥ 2 && (cs.take 2).map Char.toLower == ['i', 's']
  let body := if startsWithIs then cs.drop 2 else cs
  let kept := (body.filter fun c => c != ' ' && c != '_' && c != '-' && c.toNat < 128).map
    Char.toLower
  if startsWithIs && kept == ['c'] then "isc" else String.ofList kept

/-- The one-letter groups of general categories and their members. -/
def categoryGroups : List (String × List String) :=
  [("C", ["Cc", "Cf", "Cs", "Co", "Cn"]), ("L", ["Lu", "Ll", "Lt", "Lm", "Lo"]),
   ("LC", ["Lu", "Ll", "Lt"]), ("M", ["Mn", "Mc", "Me"]), ("N", ["Nd", "Nl", "No"]),
   ("P", ["Pc", "Pd", "Ps", "Pe", "Pi", "Pf", "Po"]), ("S", ["Sm", "Sc", "Sk", "So"]),
   ("Z", ["Zs", "Zl", "Zp"])]

/-- The loose names of the groups of general categories. -/
def groupNames : List (String × String) :=
  [("c", "C"), ("other", "C"), ("l", "L"), ("letter", "L"), ("lc", "LC"), ("casedletter", "LC"),
   ("l&", "LC"), ("m", "M"), ("mark", "M"), ("combiningmark", "M"), ("n", "N"), ("number", "N"),
   ("p", "P"), ("punctuation", "P"), ("punct", "P"), ("s", "S"), ("symbol", "S"), ("z", "Z"),
   ("separator", "Z")]

/-- The set of a general category, by its short name. -/
def categorySet (short : String) : CharSet :=
  match categoryGroups.lookup short with
  | some members =>
    normalize (members.flatMap fun m => ((Tables.categoryBounds.lookup m).map ofBounds).getD [])
  | none => ((Tables.categoryBounds.lookup short).map ofBounds).getD []

/-- A general category by its loose name, with the extra names `any`, `assigned` and `ascii`. -/
def category? (loose : String) : Option CharSet :=
  match loose with
  | "any" => some [(0, maxCode)]
  | "assigned" => some (complement (categorySet "Cn"))
  | "ascii" => some [(0, 0x7F)]
  | _ =>
    match (groupNames ++ Tables.categoryNames).lookup loose with
    | some short => some (categorySet short)
    | none => none

/-- The set of a table's entry by its name; none when the table has no such entry. -/
def tableSet? (table : List (String × Array Nat)) (key : String) : Option CharSet :=
  (table.lookup key).map ofBounds

/-- The set of a value that has one, or the error for a value without a set. -/
def found : Option CharSet → Except ErrorKind CharSet
  | some s => .ok s
  | none => .error .unicodePropertyValueNotFound

/-- A script by its loose name, with or without its extensions. A name of no script, and the
name of a script that no character has, are both unknown values. -/
def script (extensions : Bool) (loose : String) : Except ErrorKind CharSet :=
  found <| (Tables.scriptNames.lookup loose).bind
    (tableSet? (if extensions then Tables.extensionBounds else Tables.scriptBounds))

/-- The code points assigned by a version, by its long name: those that it and every version
before it added. -/
def age? (long : String) : Option CharSet :=
  (Tables.ageBounds.findIdx? (·.1 == long)).map fun i =>
    normalize ((Tables.ageBounds.take (i + 1)).flatMap fun e => ofBounds e.2)

/-- A value of a property with one table per value, by the value's loose name. -/
def valueSet? (names : List (String × String)) (table : List (String × Array Nat))
    (loose : String) : Option CharSet :=
  (names.lookup loose).bind (tableSet? table)

/-- A class named without a value: a property, a general category, or a script. A property
name asks for a binary property and is not found when the property is not binary; `cf`, `sc`
and `lc` are read as general categories although properties have these names too. A script
named alone is the characters of that script, without its extensions. -/
def bare (name : String) : Except ErrorKind CharSet :=
  let loose := looseName name
  let property := if loose == "cf" || loose == "sc" || loose == "lc" then none
    else Tables.propertyNames.lookup loose
  match property with
  | some long => (tableSet? Tables.propertyBounds long).elim (.error .unicodePropertyNotFound) .ok
  | none =>
    match category? loose with
    | some s => .ok s
    | none =>
      if (Tables.scriptNames.lookup loose).isSome then script false loose
      else .error .unicodePropertyNotFound

/-- A class named by a property and a value. Only the general category, the scripts, the ages
and the classes of the boundary rules have values; another known property has none. -/
def byValue (name value : String) : Except ErrorKind CharSet :=
  let v := looseName value
  match Tables.propertyNames.lookup (looseName name) with
  | none => .error .unicodePropertyNotFound
  | some "General_Category" => found (category? v)
  | some "Script" => script false v
  | some "Script_Extensions" => script true v
  | some "Age" => found ((Tables.ageNames.lookup v).bind age?)
  | some "Grapheme_Cluster_Break" =>
    found (valueSet? Tables.graphemeBreakNames Tables.graphemeBreakBounds v)
  | some "Word_Break" => found (valueSet? Tables.wordBreakNames Tables.wordBreakBounds v)
  | some "Sentence_Break" =>
    found (valueSet? Tables.sentenceBreakNames Tables.sentenceBreakBounds v)
  | some _ => .error .unicodePropertyValueNotFound

/-- The set a Unicode class query denotes, before negation. -/
def query : UnicodeQuery → Except ErrorKind CharSet
  | .oneLetter c => bare (String.singleton c)
  | .named name => bare name
  | .namedValue name value _ => byValue name value

end Classes

end PromptPipeline.Pattern
