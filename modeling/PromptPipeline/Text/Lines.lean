/-!
The lines of a text.

A text is cut at its line feeds. A carriage return just before a line feed belongs to the line
break and is dropped; one that ends the text stays on the last line. A line feed at the very end
ends the last line and starts no empty one.
-/
namespace PromptPipeline.Text

/-- The lines of a text, as characters. -/
def lineChars (cs : List Char) : List (List Char) :=
  let parts := cs.splitOn '\n'
  let ended := parts.getLast? == some []
  let parts := if ended then parts.dropLast else parts
  let count := parts.length
  parts.zipIdx.map fun (l, i) =>
    if (ended || i + 1 < count) && l.getLast? == some '\r' then l.dropLast else l

/-- The lines of a text. -/
def lines (s : String) : List String := (lineChars s.toList).map String.ofList

end PromptPipeline.Text
