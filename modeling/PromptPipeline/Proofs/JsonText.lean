import PromptPipeline.Json.Read
import PromptPipeline.Json.Write
import PromptPipeline.Proofs.Snapshot
import PromptPipeline.Proofs.NumberScan
import PromptPipeline.Proofs.NumberText
/-!
JSON texts of a value, and reading them back.

`Json.Spelled v t` says that `t` is a JSON text of `v`: its tokens in order, with any blanks
between them. The compact and the pretty text are two (`write_spelled`, `writePretty_spelled`).
The reader takes each such text back to `v`, whatever follows, when `v` is plain (`Json.Plain`):
doubles whose text reads back as them, integers of a 64-bit word, the keys of each map in
ascending order, and nesting within the budget (`readValue_spelled`).
-/
namespace PromptPipeline.Json

/-- The characters the reader skips between tokens: space, line feed, tab and carriage return. -/
def blank (c : Char) : Bool := c == ' ' || c == '\n' || c == '\t' || c == '\r'

/-- A run of blanks. -/
def Blanks (b : List Char) : Prop := ∀ c ∈ b, blank c = true

end PromptPipeline.Json

namespace PromptPipeline.Text

/-- Tab, line feed, line tabulation, form feed and carriage return make up the first range of
the white space. -/
theorem countAtOrBelow_control {n : Nat} (lo : 9 ≤ n) (hi : n < 14) :
    countAtOrBelow whiteSpaceBounds n = 1 := by
  unfold countAtOrBelow
  rw [show whiteSpaceBounds.size = 20 from rfl]
  rw [countAtOrBelow.go, if_pos (by decide),
    if_neg (by rw [show whiteSpaceBounds.getD 10 0 = 8192 from rfl]; omega)]
  rw [countAtOrBelow.go, if_pos (by decide),
    if_neg (by rw [show whiteSpaceBounds.getD 5 0 = 134 from rfl]; omega)]
  rw [countAtOrBelow.go, if_pos (by decide),
    if_neg (by rw [show whiteSpaceBounds.getD 2 0 = 32 from rfl]; omega)]
  rw [countAtOrBelow.go, if_pos (by decide),
    if_neg (by rw [show whiteSpaceBounds.getD 1 0 = 14 from rfl]; omega)]
  rw [countAtOrBelow.go, if_pos (by decide),
    if_pos (by rw [show whiteSpaceBounds.getD 0 0 = 9 from rfl]; omega)]
  rw [countAtOrBelow.go, if_neg (by decide)]

/-- The space is a range of the white space on its own. -/
theorem countAtOrBelow_space : countAtOrBelow whiteSpaceBounds 32 = 3 := by
  unfold countAtOrBelow
  rw [show whiteSpaceBounds.size = 20 from rfl]
  rw [countAtOrBelow.go, if_pos (by decide),
    if_neg (by rw [show whiteSpaceBounds.getD 10 0 = 8192 from rfl]; omega)]
  rw [countAtOrBelow.go, if_pos (by decide),
    if_neg (by rw [show whiteSpaceBounds.getD 5 0 = 134 from rfl]; omega)]
  rw [countAtOrBelow.go, if_pos (by decide),
    if_pos (by rw [show whiteSpaceBounds.getD 2 0 = 32 from rfl])]
  rw [countAtOrBelow.go, if_pos (by decide),
    if_neg (by rw [show whiteSpaceBounds.getD 4 0 = 133 from rfl]; omega)]
  rw [countAtOrBelow.go, if_pos (by decide),
    if_neg (by rw [show whiteSpaceBounds.getD 3 0 = 33 from rfl]; omega)]
  rw [countAtOrBelow.go, if_neg (by decide)]

/-- What the JSON reader skips as blank is white space. -/
theorem isBlank_of_blank {c : Char} (skipped : Json.blank c = true) : isBlank c = true := by
  simp only [Json.blank, Bool.or_eq_true, beq_iff_eq] at skipped
  rcases skipped with ((rfl | rfl) | rfl) | rfl
  · simp [isBlank, inClass, show (' ').toNat = 32 from rfl, countAtOrBelow_space]
  · simp [isBlank, inClass, countAtOrBelow_control (n := 10) (by decide) (by decide)]
  · simp [isBlank, inClass, countAtOrBelow_control (n := 9) (by decide) (by decide)]
  · simp [isBlank, inClass, countAtOrBelow_control (n := 13) (by decide) (by decide)]

theorem blank_eq_false {c : Char} (visible : isBlank c = false) : Json.blank c = false := by
  cases skipped : Json.blank c with
  | false => rfl
  | true => simp [isBlank_of_blank skipped] at visible

end PromptPipeline.Text

namespace PromptPipeline.Json

/-- Two blanks for each level of nesting. -/
def indent (level : Nat) : String := String.ofList (List.replicate (2 * level) ' ')

mutual
/-- The pretty JSON text of a value at a level of nesting: a non-empty list or map puts each item
or entry on a line of its own, indented one level deeper, and its closing bracket on a line
indented as the value; an entry has a blank after its colon. -/
def writePrettyAt (level : Nat) : Value → String
  | .list [] => "[]"
  | .list items => "[\n" ++ writePrettyItems (level + 1) items ++ "\n" ++ indent level ++ "]"
  | .map [] => "\x7b\x7d"
  | .map entries =>
    "\x7b\n" ++ writePrettyEntries (level + 1) entries ++ "\n" ++ indent level ++ "\x7d"
  | v => write v

/-- Items of a list, each on a line of its own. -/
def writePrettyItems (level : Nat) : List Value → String
  | [] => ""
  | [v] => indent level ++ writePrettyAt level v
  | v :: rest => indent level ++ writePrettyAt level v ++ ",\n" ++ writePrettyItems level rest

/-- Entries of a map, each on a line of its own. -/
def writePrettyEntries (level : Nat) : List (String × Value) → String
  | [] => ""
  | [(k, v)] => indent level ++ quote k ++ ": " ++ writePrettyAt level v
  | (k, v) :: rest =>
    indent level ++ quote k ++ ": " ++ writePrettyAt level v ++ ",\n" ++ writePrettyEntries level rest
end

/-- The pretty JSON text of a value. -/
def writePretty (v : Value) : String := writePrettyAt 0 v

mutual
/-- `t` is a JSON text of `v`: the tokens of `v` in order, each after a run of blanks. -/
inductive Spelled : Value → List Char → Prop
  | null {b : List Char} : Blanks b → Spelled .null (b ++ (write .null).toList)
  | bool {b : List Char} (x : Bool) : Blanks b → Spelled (.bool x) (b ++ (write (.bool x)).toList)
  | num {b : List Char} (n : Number) : Blanks b → Spelled (.num n) (b ++ (Number.write n).toList)
  | str {b : List Char} (s : String) : Blanks b → Spelled (.str s) (b ++ (quote s).toList)
  | list {b t : List Char} {items : List Value} : Blanks b → ListBody items t →
      Spelled (.list items) (b ++ '[' :: t)
  | map {b t : List Char} {entries : List (String × Value)} : Blanks b → MapBody entries t →
      Spelled (.map entries) (b ++ '{' :: t)

/-- `t` is what follows the opening bracket of a list of `items`, up to and with its closing
bracket: the closing bracket at once, or the first item and the rest. -/
inductive ListBody : List Value → List Char → Prop
  | close {b : List Char} : Blanks b → ListBody [] (b ++ [']'])
  | item {v : Value} {t u : List Char} {rest : List Value} : Spelled v t → ListTail rest u →
      ListBody (v :: rest) (t ++ u)

/-- `t` is what follows an item of a list when `items` come after it: the closing bracket, or a
comma and the next item. -/
inductive ListTail : List Value → List Char → Prop
  | close {b : List Char} : Blanks b → ListTail [] (b ++ [']'])
  | comma {b t u : List Char} {v : Value} {rest : List Value} : Blanks b → Spelled v t →
      ListTail rest u → ListTail (v :: rest) (b ++ ',' :: t ++ u)

/-- `t` is what follows the opening brace of a map of `entries`, up to and with its closing
brace: the closing brace at once, or the first entry (a key, a colon and a value) and the rest. -/
inductive MapBody : List (String × Value) → List Char → Prop
  | close {b : List Char} : Blanks b → MapBody [] (b ++ ['}'])
  | entry {k : String} {v : Value} {b b' t u : List Char} {rest : List (String × Value)} :
      Blanks b → Blanks b' → Spelled v t → MapTail rest u →
      MapBody ((k, v) :: rest) (b ++ (quote k).toList ++ b' ++ ':' :: t ++ u)

/-- `t` is what follows an entry of a map when `entries` come after it: the closing brace, or a
comma and the next entry. -/
inductive MapTail : List (String × Value) → List Char → Prop
  | close {b : List Char} : Blanks b → MapTail [] (b ++ ['}'])
  | comma {k : String} {v : Value} {b b' b'' t u : List Char} {rest : List (String × Value)} :
      Blanks b → Blanks b' → Blanks b'' → Spelled v t → MapTail rest u →
      MapTail ((k, v) :: rest) (b ++ ',' :: b' ++ (quote k).toList ++ b'' ++ ':' :: t ++ u)
end

/-! ## Blanks -/

@[simp] theorem blanks_nil : Blanks [] := by simp [Blanks]

theorem Blanks.append {b b' : List Char} (first : Blanks b) (second : Blanks b') : Blanks (b ++ b') := by
  intro c mem
  rcases List.mem_append.1 mem with inFirst | inSecond
  · exact first c inFirst
  · exact second c inSecond

theorem blanks_replicate (n : Nat) : Blanks (List.replicate n ' ') := by
  intro c mem
  rw [List.eq_of_mem_replicate mem]
  rfl

theorem blanks_indent (level : Nat) : Blanks (indent level).toList := by
  simpa [indent] using blanks_replicate (2 * level)

theorem blanks_newline_indent (level : Nat) : Blanks ('\n' :: (indent level).toList) := by
  intro c mem
  rcases List.mem_cons.1 mem with rfl | inIndent
  · rfl
  · exact blanks_indent level c inIndent

/-! ## Blanks in front of a text

Every text may take more blanks in front, and a first item or entry with a comma before it
follows another. -/

theorem Spelled.blanks_append {v : Value} {t : List Char} (spelled : Spelled v t) {b : List Char}
    (more : Blanks b) : Spelled v (b ++ t) := by
  cases spelled with
  | null front => simpa using Spelled.null (more.append front)
  | bool x front => simpa using Spelled.bool x (more.append front)
  | num n front => simpa using Spelled.num n (more.append front)
  | str s front => simpa using Spelled.str s (more.append front)
  | list front body => simpa using Spelled.list (more.append front) body
  | map front body => simpa using Spelled.map (more.append front) body

theorem ListBody.blanks_append {items : List Value} {t : List Char} (body : ListBody items t)
    {b : List Char} (more : Blanks b) : ListBody items (b ++ t) := by
  cases body with
  | close front => simpa using ListBody.close (more.append front)
  | item first tail => simpa using ListBody.item (first.blanks_append more) tail

theorem MapBody.blanks_append {entries : List (String × Value)} {t : List Char}
    (body : MapBody entries t) {b : List Char} (more : Blanks b) : MapBody entries (b ++ t) := by
  cases body with
  | close front => simpa using MapBody.close (more.append front)
  | entry front colon value tail => simpa using MapBody.entry (more.append front) colon value tail

theorem ListBody.tail {v : Value} {rest : List Value} {t : List Char} (body : ListBody (v :: rest) t)
    {b : List Char} (blanks : Blanks b) : ListTail (v :: rest) (b ++ ',' :: t) := by
  cases body with
  | item first tail => simpa using ListTail.comma blanks first tail

theorem MapBody.tail {k : String} {v : Value} {rest : List (String × Value)} {t : List Char}
    (body : MapBody ((k, v) :: rest) t) {b : List Char} (blanks : Blanks b) :
    MapTail ((k, v) :: rest) (b ++ ',' :: t) := by
  cases body with
  | entry front colon value tail => simpa using MapTail.comma blanks front colon value tail

/-! ## The two writers -/

theorem blanks_space : Blanks [' '] := by simp [Blanks, blank]

theorem blanks_newline : Blanks ['\n'] := by simp [Blanks, blank]

mutual
theorem write_spelled : ∀ v : Value, Spelled v (write v).toList
  | .null => by simpa using Spelled.null blanks_nil
  | .bool x => by simpa using Spelled.bool x blanks_nil
  | .num n => by simpa [write] using Spelled.num n blanks_nil
  | .str s => by simpa [write] using Spelled.str s blanks_nil
  | .list [] => by simpa [write, writeItems] using Spelled.list blanks_nil (ListBody.close blanks_nil)
  | .list (v :: rest) => by
    simpa [write] using Spelled.list blanks_nil (writeItems_body (v :: rest) (by simp))
  | .map [] => by
    simpa [write, writeEntries] using Spelled.map blanks_nil (MapBody.close blanks_nil)
  | .map (entry :: rest) => by
    simpa [write] using Spelled.map blanks_nil (writeEntries_body (entry :: rest) (by simp))

theorem writeItems_body : ∀ items : List Value, items ≠ [] →
    ListBody items ((writeItems items).toList ++ [']'])
  | [], nonempty => absurd rfl nonempty
  | [v], _ => by
    simpa [writeItems] using ListBody.item (write_spelled v) (ListTail.close blanks_nil)
  | v :: w :: rest, _ => by
    simpa [writeItems] using
      ListBody.item (write_spelled v) ((writeItems_body (w :: rest) (by simp)).tail blanks_nil)

theorem writeEntries_body : ∀ entries : List (String × Value), entries ≠ [] →
    MapBody entries ((writeEntries entries).toList ++ ['}'])
  | [], nonempty => absurd rfl nonempty
  | [(k, v)], _ => by
    simpa [writeEntries] using
      MapBody.entry (k := k) blanks_nil blanks_nil (write_spelled v) (MapTail.close blanks_nil)
  | (k, v) :: (k', w) :: rest, _ => by
    simpa [writeEntries] using
      MapBody.entry (k := k) blanks_nil blanks_nil (write_spelled v)
        ((writeEntries_body ((k', w) :: rest) (by simp)).tail blanks_nil)
end

mutual
theorem writePrettyAt_spelled (level : Nat) : ∀ v : Value, Spelled v (writePrettyAt level v).toList
  | .null => by simpa [writePrettyAt] using write_spelled .null
  | .bool x => by simpa [writePrettyAt] using write_spelled (.bool x)
  | .num n => by simpa [writePrettyAt] using write_spelled (.num n)
  | .str s => by simpa [writePrettyAt] using write_spelled (.str s)
  | .list [] => by simpa [writePrettyAt] using Spelled.list blanks_nil (ListBody.close blanks_nil)
  | .list (v :: rest) => by
    have body := (writePrettyItems_body (level + 1) level (v :: rest) (by simp)).blanks_append
      blanks_newline
    simpa [writePrettyAt] using Spelled.list blanks_nil body
  | .map [] => by simpa [writePrettyAt] using Spelled.map blanks_nil (MapBody.close blanks_nil)
  | .map (entry :: rest) => by
    have body := (writePrettyEntries_body (level + 1) level (entry :: rest) (by simp)).blanks_append
      blanks_newline
    simpa [writePrettyAt] using Spelled.map blanks_nil body

/-- The items at one level, then the closing bracket on its own line at the level `outer`. -/
theorem writePrettyItems_body (level outer : Nat) : ∀ items : List Value, items ≠ [] →
    ListBody items ((writePrettyItems level items).toList ++ '\n' :: (indent outer).toList ++ [']'])
  | [], nonempty => absurd rfl nonempty
  | [v], _ => by
    simpa [writePrettyItems] using
      ListBody.item ((writePrettyAt_spelled level v).blanks_append (blanks_indent level))
        (ListTail.close (blanks_newline_indent outer))
  | v :: w :: rest, _ => by
    have more := ((writePrettyItems_body level outer (w :: rest) (by simp)).blanks_append
      blanks_newline).tail blanks_nil
    simpa [writePrettyItems] using
      ListBody.item ((writePrettyAt_spelled level v).blanks_append (blanks_indent level)) more

/-- The entries at one level, then the closing brace on its own line at the level `outer`. -/
theorem writePrettyEntries_body (level outer : Nat) : ∀ entries : List (String × Value), entries ≠ [] →
    MapBody entries ((writePrettyEntries level entries).toList ++ '\n' :: (indent outer).toList ++ ['}'])
  | [], nonempty => absurd rfl nonempty
  | [(k, v)], _ => by
    simpa [writePrettyEntries] using
      MapBody.entry (k := k) (blanks_indent level) blanks_nil
        ((writePrettyAt_spelled level v).blanks_append blanks_space)
        (MapTail.close (blanks_newline_indent outer))
  | (k, v) :: (k', w) :: rest, _ => by
    have more := ((writePrettyEntries_body level outer ((k', w) :: rest) (by simp)).blanks_append
      blanks_newline).tail blanks_nil
    simpa [writePrettyEntries] using
      MapBody.entry (k := k) (blanks_indent level) blanks_nil
        ((writePrettyAt_spelled level v).blanks_append blanks_space) more
end

theorem writePretty_spelled (v : Value) : Spelled v (writePretty v).toList :=
  writePrettyAt_spelled 0 v

/-! ## Plain values -/

mutual
/-- A value that each of its JSON texts reads back as, when the reader may still open `budget`
levels of lists and maps: doubles whose text reads back as them, integers of a 64-bit word, the
keys of each map in ascending order, and each list or map within the budget. -/
def Plain : Nat → Value → Prop
  | _, .null => True
  | _, .bool _ => True
  | _, .str _ => True
  -- from the least signed to the greatest unsigned integer of a 64-bit word
  | _, .num (.int i) => -9223372036854775808 ≤ i ∧ i ≤ 18446744073709551615
  -- the reader rounds the digits to a double before it scales them, which can miss the double
  | _, .num (.float x) => read (Number.write (.float x)) = .ok (.num (.float x))
  | budget, .list items => 1 < budget ∧ PlainItems (budget - 1) items
  | budget, .map entries => 1 < budget ∧ Map.Ordered entries ∧ PlainEntries (budget - 1) entries

/-- Plain items. -/
def PlainItems (budget : Nat) : List Value → Prop
  | [] => True
  | v :: rest => Plain budget v ∧ PlainItems budget rest

/-- Plain values of entries. -/
def PlainEntries (budget : Nat) : List (String × Value) → Prop
  | [] => True
  | (_, v) :: rest => Plain budget v ∧ PlainEntries budget rest
end

/-! ## Reading: blanks -/

theorem dropWhile_blanks {b : List Char} (blanks : Blanks b) (r : List Char) :
    (b ++ r).dropWhile blank = r.dropWhile blank := by
  induction b with
  | nil => rfl
  | cons c b ih =>
    rw [List.cons_append, List.dropWhile_cons, if_pos (blanks c List.mem_cons_self)]
    exact ih (fun d mem => blanks d (List.mem_cons_of_mem c mem))

theorem dropWhile_visible {c : Char} (visible : blank c = false) (r : List Char) :
    (c :: r).dropWhile blank = c :: r := by
  rw [List.dropWhile_cons, if_neg (by simp [visible])]

namespace Cursor

theorem skipBlanks_cons (ch : Char) (more : List Char) (line column : Nat) :
    (Cursor.skipBlanks ⟨ch :: more, line, column⟩).1 =
      if blank ch then (Cursor.skipBlanks ((⟨ch :: more, line, column⟩ : Cursor).past ch more)).1
      else ⟨ch :: more, line, column⟩ := by
  rw [Cursor.skipBlanks]
  dsimp only
  by_cases isBlank : blank ch
  · rw [if_pos isBlank]
    rw [blank] at isBlank
    rw [if_pos isBlank]
  · rw [if_neg isBlank]
    rw [blank] at isBlank
    rw [if_neg isBlank]

theorem skipBlanks_nil (line column : Nat) :
    (Cursor.skipBlanks ⟨[], line, column⟩).1 = ⟨[], line, column⟩ := by
  rw [Cursor.skipBlanks]

private theorem skipBlanks_rest_of_length : ∀ (n : Nat) (c : Cursor), c.rest.length = n →
    (c.skipBlanks).1.rest = c.rest.dropWhile blank
  | n, ⟨[], line, column⟩, _ => by rw [skipBlanks_nil]; rfl
  | n, ⟨ch :: more, line, column⟩, len => by
    rw [skipBlanks_cons]
    by_cases isBlank : blank ch
    · rw [if_pos isBlank, skipBlanks_rest_of_length more.length _ (by rw [Cursor.past_rest]),
        Cursor.past_rest]
      simp [isBlank]
    · rw [if_neg isBlank]
      simp [isBlank]
termination_by n => n
decreasing_by simp at len; omega

theorem skipBlanks_rest (c : Cursor) : (c.skipBlanks).1.rest = c.rest.dropWhile blank :=
  skipBlanks_rest_of_length _ c rfl

/-- Skipping blanks stops at the first character that is no blank. -/
theorem skipBlanks_eq {c0 : Cursor} {ch : Char} {more : List Char}
    (first : c0.rest.dropWhile blank = ch :: more) :
    ∃ line column h, c0.skipBlanks = ⟨⟨ch :: more, line, column⟩, h⟩ := by
  have restEq := skipBlanks_rest c0
  rw [first] at restEq
  generalize c0.skipBlanks = s at restEq ⊢
  obtain ⟨⟨rest, line, column⟩, h⟩ := s
  dsimp only at restEq
  subst restEq
  exact ⟨line, column, h, rfl⟩

end Cursor

/-! ## Reading: tokens -/

/-- A reading step that succeeds with `v` and leaves `rest` to read. -/
def Leaves {α : Type} {n : Nat} (step : Step α n) (v : α) (rest : List Char) : Prop :=
  ∃ d h, step = .ok ⟨(v, d), h⟩ ∧ d.rest = rest

theorem leaves_ok {α : Type} {n : Nat} {v v' : α} {d : Cursor} {h : d.rest.length < n} {rest : List Char}
    (same : v' = v) (dRest : d.rest = rest) : Leaves (.ok ⟨(v', d), h⟩ : Step α n) v rest := by
  subst same
  exact ⟨d, h, rfl, dRest⟩

theorem leaves_finishScan {α β : Type} (c : Cursor) (ch : Char) (more : List Char) (h : c.rest = ch :: more)
    (bound : Nat) (hb : c.rest.length ≤ bound) (wrap : α → β) (v : α) (n : Nat) :
    Leaves (finishScan c ch more h bound hb wrap (.done v n)) (wrap v) (more.drop n) :=
  ⟨_, _, rfl, by rw [Cursor.skip_rest, Cursor.past_rest]⟩

theorem readValue_null (budget : Nat) (c0 : Cursor) (rest : List Char)
    (first : c0.rest.dropWhile blank = (write .null).toList ++ rest) :
    Leaves (readValue budget c0) .null rest := by
  obtain ⟨line, column, h, skipped⟩ := Cursor.skipBlanks_eq first
  rw [readValue, skipped]
  dsimp only
  rw [if_pos (by decide)]
  exact leaves_finishScan _ _ _ _ _ _ _ () 3

theorem readValue_bool (budget : Nat) (c0 : Cursor) (x : Bool) (rest : List Char)
    (first : c0.rest.dropWhile blank = (write (.bool x)).toList ++ rest) :
    Leaves (readValue budget c0) (.bool x) rest := by
  cases x
  · obtain ⟨line, column, h, skipped⟩ := Cursor.skipBlanks_eq first
    rw [readValue, skipped]
    dsimp only
    rw [if_neg (by decide), if_neg (by decide), if_pos (by decide)]
    exact leaves_finishScan _ _ _ _ _ _ _ () 4
  · obtain ⟨line, column, h, skipped⟩ := Cursor.skipBlanks_eq first
    rw [readValue, skipped]
    dsimp only
    rw [if_neg (by decide), if_pos (by decide)]
    exact leaves_finishScan _ _ _ _ _ _ _ () 3

/-! Strings: each escape the writer makes reads back as its character. -/

theorem hexValue_hexDigit : ∀ n, n < 16 → hexValue? (hexDigit n) = some n := by decide
theorem utf8Size_hexDigit : ∀ n, n < 16 → (hexDigit n).utf8Size = 1 := by decide

theorem scanChars_cons_plain {c : Char} (r acc : List Char) (n : Nat) (notQuote : c ≠ '"')
    (notBackslash : c ≠ '\\') (visible : 32 ≤ c.toNat) :
    scanChars (c :: r) acc n = scanChars r (c :: acc) (n + 1) := by
  rw [scanChars]
  simp [notQuote, notBackslash, Nat.not_lt.2 visible]

theorem scanChars_escape (x : Char) (out : Char) (r acc : List Char) (n : Nat)
    (esc : scanEscape (x :: r) = .done [out] 1) :
    scanChars ('\\' :: x :: r) acc n = scanChars r (out :: acc) (n + 2) := by
  rw [scanChars]
  simp [esc]

theorem scanHex4_small {m : Nat} (small : m < 256) (r : List Char) :
    scanHex4 ('0' :: '0' :: hexDigit (m / 16) :: hexDigit (m % 16) :: r) = .done m 4 := by
  have high := hexValue_hexDigit (m / 16) (by omega)
  have low := hexValue_hexDigit (m % 16) (by omega)
  have highSize := utf8Size_hexDigit (m / 16) (by omega)
  have lowSize := utf8Size_hexDigit (m % 16) (by omega)
  have zero : hexValue? '0' = some 0 := rfl
  have zeroSize : '0'.utf8Size = 1 := rfl
  simp [scanHex4, high, low, highSize, lowSize, zero, zeroSize]
  omega

theorem scanUnicode_control {m : Nat} (control : m < 32) (r : List Char) :
    scanUnicode ('0' :: '0' :: hexDigit (m / 16) :: hexDigit (m % 16) :: r) = .done [Char.ofNat m] 4 := by
  have notTrailing : isTrailingSurrogate m = false := by
    simp only [isTrailingSurrogate, Bool.and_eq_false_iff, decide_eq_false_iff_not]
    omega
  have basic : (decide (m < 0xD800) || decide (m > 0xDBFF)) = true := by simp; omega
  simp only [scanUnicode, scanHex4_small (show m < 256 by omega), notTrailing, basic, if_true,
    Bool.false_eq_true, if_false]

/-- What a character is written as inside a string: as it is, if it is no quote, no backslash and
no control character; else as a backslash and a letter that reads back as it, or as `\u00` and two
hex digits. -/
theorem escapeChar_cases (c : Char) :
    (c ≠ '"' ∧ c ≠ '\\' ∧ 32 ≤ c.toNat ∧ escapeChar c = [c]) ∨
      (∃ x, escapeChar c = ['\\', x] ∧ ∀ r, scanEscape (x :: r) = .done [c] 1) ∨
      (c.toNat < 32 ∧
        escapeChar c = ['\\', 'u', '0', '0', hexDigit (c.toNat / 16), hexDigit (c.toNat % 16)]) := by
  by_cases quote : c = '"'
  · subst quote
    exact .inr (.inl ⟨'"', rfl, fun r => by simp [scanEscape]⟩)
  by_cases backslash : c = '\\'
  · subst backslash
    exact .inr (.inl ⟨'\\', rfl, fun r => by simp [scanEscape]⟩)
  by_cases newline : c = '\n'
  · subst newline
    exact .inr (.inl ⟨'n', rfl, fun r => by simp [scanEscape]⟩)
  by_cases tab : c = '\t'
  · subst tab
    exact .inr (.inl ⟨'t', rfl, fun r => by simp [scanEscape]⟩)
  by_cases ret : c = '\r'
  · subst ret
    exact .inr (.inl ⟨'r', rfl, fun r => by simp [scanEscape]⟩)
  by_cases back : c.toNat = 8
  · obtain rfl : c = Char.ofNat 8 := by rw [← back, Char.ofNat_toNat]
    exact .inr (.inl ⟨'b', rfl, fun r => by simp [scanEscape]⟩)
  by_cases feed : c.toNat = 12
  · obtain rfl : c = Char.ofNat 12 := by rw [← feed, Char.ofNat_toNat]
    exact .inr (.inl ⟨'f', rfl, fun r => by simp [scanEscape]⟩)
  by_cases control : c.toNat < 32
  · exact .inr (.inr ⟨control,
      by simp [escapeChar, quote, backslash, newline, tab, ret, back, feed, control]⟩)
  · exact .inl ⟨quote, backslash, by omega,
      by simp [escapeChar, quote, backslash, newline, tab, ret, back, feed, control]⟩

theorem scanChars_escapeChar (c : Char) (r acc : List Char) (n : Nat) :
    scanChars (escapeChar c ++ r) acc n = scanChars r (c :: acc) (n + (escapeChar c).length) := by
  rcases escapeChar_cases c with ⟨quote, backslash, visible, plain⟩ | ⟨x, short, read⟩ |
    ⟨control, long⟩
  · rw [plain]
    simpa using scanChars_cons_plain r acc n quote backslash visible
  · rw [short]
    exact scanChars_escape x c r acc n (read r)
  · have esc : scanEscape ('u' :: '0' :: '0' :: hexDigit (c.toNat / 16) :: hexDigit (c.toNat % 16) :: r) =
        .done [c] 5 := by
      simp [scanEscape, scanUnicode_control control, Scan.shift, Char.ofNat_toNat]
    rw [long, scanChars.eq_def]
    simp [esc]

theorem scanChars_escaped (r : List Char) : ∀ (cs acc : List Char) (n : Nat),
    scanChars (cs.flatMap escapeChar ++ '"' :: r) acc n =
      .done (String.ofList (acc.reverse ++ cs)) (n + (cs.flatMap escapeChar).length + 1)
  | [], acc, n => by rw [scanChars.eq_def]; simp
  | c :: cs, acc, n => by
    rw [List.flatMap_cons, List.append_assoc, scanChars_escapeChar, scanChars_escaped r cs]
    simp only [List.reverse_cons, List.append_assoc, List.singleton_append, List.length_append]
    congr 1
    omega

theorem quote_toList (s : String) : (quote s).toList = '"' :: (s.toList.flatMap escapeChar ++ ['"']) := by
  simp [quote]

/-- The scanner stops right after the closing quote of an escaped text. -/
theorem drop_escaped (cs r : List Char) :
    (cs.flatMap escapeChar ++ '"' :: r).drop (0 + (cs.flatMap escapeChar).length + 1) = r := by
  rw [Nat.zero_add, List.drop_append, List.drop_eq_nil_of_le (by omega), Nat.add_sub_cancel_left]
  rfl

theorem readValue_str (budget : Nat) (c0 : Cursor) (s : String) (rest : List Char)
    (first : c0.rest.dropWhile blank = (quote s).toList ++ rest) :
    Leaves (readValue budget c0) (.str s) rest := by
  rw [quote_toList, List.cons_append, List.append_assoc, List.singleton_append] at first
  obtain ⟨line, column, h, skipped⟩ := Cursor.skipBlanks_eq first
  rw [readValue, skipped]
  dsimp only
  rw [if_neg (by decide), if_neg (by decide), if_neg (by decide), if_neg (by decide),
    if_neg (by decide), if_pos (by decide), scanChars_escaped]
  have := leaves_finishScan { rest := '"' :: (s.toList.flatMap escapeChar ++ '"' :: rest), line, column } '"'
    _ rfl _ h Value.str (String.ofList ([].reverse ++ s.toList)) (0 + (s.toList.flatMap escapeChar).length + 1)
  rw [drop_escaped] at this
  rw [List.reverse_nil, List.nil_append, String.ofList_toList] at this ⊢
  exact this

/-! Integers: the reader takes the digits of a 64-bit word whole. -/

theorem afterInteger_stops (positive : Bool) (s : Nat) {rest : List Char} (stops : Stops rest) (n : Nat) :
    afterInteger positive s rest n = finishInteger positive s n := by
  cases rest with
  | nil => rw [afterInteger]
  | cons c more =>
    obtain ⟨-, notPoint, notE, notBigE⟩ := stops c rfl
    rw [afterInteger.eq_2 _ _ _ _ _ notPoint]
    simp [notE, notBigE]

theorem integerDigits_stops (positive : Bool) (s : Nat) {rest : List Char} (stops : Stops rest) (n : Nat) :
    integerDigits positive s rest n = finishInteger positive s n := by
  cases rest with
  | nil => rw [integerDigits, afterInteger]
  | cons c more =>
    obtain ⟨notDigit, -⟩ := stops c rfl
    rw [integerDigits, if_neg (by simp [notDigit]), afterInteger_stops positive s stops]

theorem integerDigits_digits (positive : Bool) (rest : List Char) : ∀ (ds : List Char) (s n : Nat),
    (∀ c ∈ ds, c.isDigit) → Nat.ofDigitChars 10 ds s ≤ wordMax →
    integerDigits positive s (ds ++ rest) n =
      integerDigits positive (Nat.ofDigitChars 10 ds s) rest (n + ds.length)
  | [], s, n, _, _ => by simp [Nat.ofDigitChars_nil]
  | d :: ds, s, n, digits, small => by
    have digit := digits d List.mem_cons_self
    rw [Nat.ofDigitChars_cons] at small
    -- the value read so far never exceeds the whole
    have within : s * 10 + (d.toNat - '0'.toNat) ≤ wordMax := by
      have := @Nat.ofDigitChars_eq_ofDigitChars_zero ds (10 * s + (d.toNat - '0'.toNat))
      have : 1 ≤ 10 ^ ds.length := Nat.one_le_pow _ _ (by omega)
      have : 10 * s + (d.toNat - '0'.toNat) ≤ 10 ^ ds.length * (10 * s + (d.toNat - '0'.toNat)) :=
        Nat.le_mul_of_pos_left _ (by omega)
      omega
    rw [List.cons_append, integerDigits, if_pos digit]
    dsimp only
    rw [if_neg (by omega), Nat.mul_comm s 10,
      integerDigits_digits positive rest ds _ _ (fun c mem => digits c (List.mem_cons_of_mem d mem)) small,
      Nat.ofDigitChars_cons, List.length_cons, Nat.add_assoc, Nat.add_comm 1]

theorem toDigits_cons : ∀ m : Nat, 0 < m → ∃ c ds, Nat.toDigits 10 m = c :: ds ∧ c ≠ '0'
  | m, positive => by
    rw [Nat.toDigits_eq_if (by omega)]
    split
    · next small => exact ⟨_, [], rfl, by simp; omega⟩
    · next large =>
      obtain ⟨c, ds, digits, leading⟩ := toDigits_cons (m / 10) (by omega)
      exact ⟨c, ds ++ [Nat.digitChar (m % 10)], by rw [digits]; rfl, leading⟩
termination_by m => m
decreasing_by omega

theorem scanDigits_toDigits (positive : Bool) (m : Nat) (small : m ≤ wordMax) {rest : List Char}
    (stops : Stops rest) :
    ∃ c ds, Nat.toDigits 10 m = c :: ds ∧ scanDigits positive c (ds ++ rest) = finishInteger positive m ds.length := by
  rcases Nat.eq_zero_or_pos m with rfl | positiveM
  · refine ⟨'0', [], Nat.toDigits_zero 10, ?_⟩
    rw [List.nil_append, scanDigits.eq_def, if_pos (by decide)]
    cases rest with
    | nil => exact afterInteger_stops positive 0 stops 0
    | cons d more =>
      obtain ⟨notDigit, -⟩ := stops d rfl
      dsimp only
      rw [if_neg (by simp [notDigit]), afterInteger_stops positive 0 stops 0]
      rfl
  · obtain ⟨c, ds, digits, leading⟩ := toDigits_cons m positiveM
    have allDigits : ∀ d ∈ c :: ds, d.isDigit := by
      rw [← digits]
      exact fun d mem => Nat.isDigit_of_mem_toDigits (by omega) (by omega) mem
    have value : Nat.ofDigitChars 10 ds (c.toNat - '0'.toNat) = m := by
      have := @Nat.ofDigitChars_ten_toDigits m
      rw [digits, Nat.ofDigitChars_cons] at this
      simpa using this
    refine ⟨c, ds, digits, ?_⟩
    rw [scanDigits.eq_def, if_neg (by simpa using leading),
      integerDigits_digits positive rest ds _ 0 (fun d mem => allDigits d (List.mem_cons_of_mem c mem))
        (by rw [value]; exact small), value, integerDigits_stops positive m stops, Nat.zero_add]

theorem wordMax_eq : wordMax = 18446744073709551615 := rfl

theorem digit_ne {c : Char} (digit : c.isDigit = true) :
    (c == 'n') = false ∧ (c == 't') = false ∧ (c == 'f') = false ∧ (c == '-') = false := by
  have bounds : 48 ≤ c.toNat ∧ c.toNat ≤ 57 := by
    simp only [Char.isDigit, Bool.and_eq_true, decide_eq_true_eq] at digit
    exact ⟨digit.1, digit.2⟩
  refine ⟨?_, ?_, ?_, ?_⟩ <;> (rw [beq_eq_false_iff_ne]; rintro rfl; simp at bounds)

theorem readValue_int (budget : Nat) (c0 : Cursor) (i : Int) (range : -9223372036854775808 ≤ i ∧ i ≤ 18446744073709551615)
    {rest : List Char} (stops : Stops rest)
    (first : c0.rest.dropWhile blank = (Number.write (.int i)).toList ++ rest) :
    Leaves (readValue budget c0) (.num (.int i)) rest := by
  simp only [Number.write, Int.toString_eq_repr, Int.repr_eq_if] at first
  split at first
  · next nonneg =>
    obtain ⟨c, ds, digits, scanned⟩ :=
      scanDigits_toDigits true i.toNat (by rw [wordMax_eq]; omega) stops
    rw [Nat.toList_repr, digits, List.cons_append] at first
    have mem : c ∈ Nat.toDigits 10 i.toNat := by rw [digits]; exact List.mem_cons_self
    have digit : c.isDigit := Nat.isDigit_of_mem_toDigits (by decide) (by decide) mem
    obtain ⟨notN, notT, notF, notMinus⟩ := digit_ne digit
    obtain ⟨line, column, h, skipped⟩ := Cursor.skipBlanks_eq first
    rw [readValue, skipped]
    dsimp only
    rw [if_neg (by simp [notN]), if_neg (by simp [notT]), if_neg (by simp [notF]),
      if_neg (by simp [notMinus]), if_pos digit, scanned, finishInteger, if_pos rfl]
    have := leaves_finishScan { rest := c :: (ds ++ rest), line, column } c _ rfl _ h Value.num
      (.int i.toNat) ds.length
    rw [List.drop_left] at this
    rw [Int.toNat_of_nonneg nonneg] at this ⊢
    exact this
  · next negative =>
    obtain ⟨c, ds, digits, scanned⟩ :=
      scanDigits_toDigits false (-i).toNat (by rw [wordMax_eq]; omega) stops
    rw [String.toList_append, show "-".toList = ['-'] from rfl, Nat.toList_repr, digits,
      List.singleton_append, List.cons_append, List.cons_append] at first
    obtain ⟨line, column, h, skipped⟩ := Cursor.skipBlanks_eq first
    rw [readValue, skipped]
    dsimp only
    rw [if_neg (by decide), if_neg (by decide), if_neg (by decide), if_pos (by decide)]
    have mem : c ∈ Nat.toDigits 10 (-i).toNat := by rw [digits]; exact List.mem_cons_self
    have digit : c.isDigit := Nat.isDigit_of_mem_toDigits (by decide) (by decide) mem
    have number : scanNumber false (c :: (ds ++ rest)) = .done (.int i) (ds.length + 1) := by
      rw [scanNumber, if_pos digit, scanned, finishInteger, if_neg (by decide),
        if_neg (by simp; omega), show Nat.pow 2 63 = 9223372036854775808 from rfl, if_pos (by omega)]
      rw [Int.toNat_of_nonneg (by omega), Int.neg_neg]
      rfl
    have := leaves_finishScan { rest := '-' :: (c :: ds ++ rest), line, column } '-' _ rfl _ h
      Value.num (.int i) (ds.length + 1)
    rw [number]
    simpa using this

/-! Doubles: the text of a double that reads back as it is read as it before any text that stops
a number. -/

theorem blank_of_front {ch : Char} (sign : ch = '-' ∨ ch.isDigit) : blank ch = false := by
  rcases sign with rfl | digit
  · decide
  · have bounds : 48 ≤ ch.toNat ∧ ch.toNat ≤ 57 := by
      simp only [Char.isDigit, Bool.and_eq_true, decide_eq_true_eq] at digit
      exact ⟨digit.1, digit.2⟩
    simp only [blank, Bool.or_eq_false_iff, beq_eq_false_iff_ne]
    refine ⟨⟨⟨?_, ?_⟩, ?_⟩, ?_⟩ <;> (rintro rfl; simp at bounds)

/-- A whole text that reads as a value starts with that value, and only blanks follow it. -/
theorem read_ok {s : String} {v : Value} (ok : read s = .ok v) :
    ∃ d h, readValue depthLimit (Cursor.start s) = .ok ⟨(v, d), h⟩ ∧ d.rest.dropWhile blank = [] := by
  rw [read] at ok
  split at ok
  · cases ok
  · next v' d h readOk =>
    have after := Cursor.skipBlanks_rest d
    generalize d.skipBlanks = e at ok after
    obtain ⟨⟨erest, line, column⟩, he⟩ := e
    dsimp only at ok after
    subst after
    split at ok
    · next empty =>
      cases ok
      exact ⟨d, h, readOk, empty⟩
    · cases ok

/-- The scan the reader makes of a number whose text starts with `ch`. -/
def numberScan (ch : Char) : List Char → Scan Number :=
  if ch == '-' then scanNumber false else scanDigits true ch

theorem numberScan_confined (ch : Char) : Confined (numberScan ch) 0 := by
  unfold numberScan
  split
  · exact scanNumber_confined false
  · exact scanDigits_confined true ch

/-- A minus sign or a digit sends the reader to the number scan. -/
theorem readValue_number (budget : Nat) {c0 : Cursor} {ch : Char} {cs : List Char}
    (first : c0.rest.dropWhile blank = ch :: cs) (sign : ch = '-' ∨ ch.isDigit) :
    ∃ c h hb, readValue budget c0 = finishScan c ch cs h c0.rest.length hb Value.num (numberScan ch cs) := by
  obtain ⟨line, column, h, skipped⟩ := Cursor.skipBlanks_eq first
  rw [readValue, skipped]
  dsimp only
  rcases sign with rfl | digit
  · rw [if_neg (by decide), if_neg (by decide), if_neg (by decide), if_pos (by decide)]
    exact ⟨_, rfl, _, rfl⟩
  · obtain ⟨notN, notT, notF, notMinus⟩ := digit_ne digit
    rw [if_neg (by simp [notN]), if_neg (by simp [notT]), if_neg (by simp [notF]),
      if_neg (by simp [notMinus]), if_pos digit, numberScan, if_neg (by simp [notMinus])]
    exact ⟨_, rfl, _, rfl⟩

theorem finishScan_eq_ok {α β : Type} {c : Cursor} {ch : Char} {more : List Char}
    {h : c.rest = ch :: more} {bound : Nat} {hb : c.rest.length ≤ bound} {wrap : α → β} {s : Scan α}
    {x : β} {d : Cursor} {hd : d.rest.length < bound} (ok : finishScan c ch more h bound hb wrap s = .ok ⟨(x, d), hd⟩) :
    ∃ v k, s = .done v k ∧ x = wrap v ∧ d.rest = more.drop k := by
  cases s with
  | done v k =>
    simp only [finishScan, Except.ok.injEq, Subtype.mk.injEq, Prod.mk.injEq] at ok
    obtain ⟨rfl, rfl⟩ := ok
    exact ⟨v, k, rfl, rfl, by rw [Cursor.skip_rest, Cursor.past_rest]⟩
  | fault f n peek => simp [finishScan] at ok

/-- The text of a double that reads back as it: a minus sign or a digit, then number characters
that the number scan takes whole. -/
theorem float_text {x : Float} (back : read (Number.write (.float x)) = .ok (.num (.float x))) :
    ∃ ch more, (Number.write (.float x)).toList = ch :: more ∧ (ch = '-' ∨ ch.isDigit) ∧
      numberScan ch more = .done (.float x) more.length ∧ ∀ c ∈ more, numberChar c = true := by
  have finite : Decimal.isFinite x = true := by
    cases finite : Decimal.isFinite x with
    | true => rfl
    | false =>
      -- a double that is not finite is written as null, which reads as null
      obtain ⟨d, h, readOk, -⟩ := read_ok back
      obtain ⟨d', h', nullOk, -⟩ := readValue_null depthLimit (Cursor.start (Number.write (.float x))) []
        (by simp [Cursor.start, Number.write, finite, write, blank])
      rw [readOk] at nullOk
      cases nullOk
  obtain ⟨negative, body, v, text, numeral, -⟩ := Number.write_numeral (n := .float x) finite
  obtain ⟨c, r, rfl, digit⟩ := numeral.head
  -- no character of the text is a blank
  obtain ⟨ch, more, written, sign, visible⟩ : ∃ ch more, (Number.write (.float x)).toList = ch :: more ∧
      (ch = '-' ∨ ch.isDigit) ∧ ∀ d ∈ more, blank d = false := by
    cases negative with
    | true => exact ⟨'-', c :: r, text, .inl rfl, fun d mem => Text.blank_eq_false (numeral.visible d mem)⟩
    | false => exact ⟨c, r, text, .inr digit,
        fun d mem => Text.blank_eq_false (numeral.visible d (List.mem_cons_of_mem c mem))⟩
  obtain ⟨d, h, readOk, trailing⟩ := read_ok back
  have first : (Cursor.start (Number.write (.float x))).rest.dropWhile blank = ch :: more := by
    rw [Cursor.start, written, dropWhile_visible (blank_of_front sign)]
  obtain ⟨c0, hc, hb, scanned⟩ := readValue_number depthLimit first sign
  rw [scanned] at readOk
  obtain ⟨n, k, scan, same, rest⟩ := finishScan_eq_ok readOk
  cases same
  obtain ⟨⟨-, within, took⟩, -⟩ := numberScan_confined ch scan
  -- the scan took the whole text: what it left is blank, and the text has no blank
  have whole : more.drop k = [] := by
    rw [← rest]
    cases left : d.rest with
    | nil => rfl
    | cons e more' =>
      have inMore : e ∈ more := (List.drop_subset k more) (by rw [← rest, left]; exact List.mem_cons_self)
      rw [left, dropWhile_visible (visible e inMore)] at trailing
      cases trailing
  have taken : k = more.length := by
    have := List.length_drop (l := more) (i := k)
    rw [whole] at this
    simp at this
    omega
  subst taken
  exact ⟨ch, more, written, sign, scan, by simpa using took⟩

/-- The text of a double that reads back as it reads as it, whatever follows that stops a
number. -/
theorem readValue_float (budget : Nat) (c0 : Cursor) {x : Float}
    (back : read (Number.write (.float x)) = .ok (.num (.float x))) {rest : List Char}
    (stops : Stops rest) (first : c0.rest.dropWhile blank = (Number.write (.float x)).toList ++ rest) :
    Leaves (readValue budget c0) (.num (.float x)) rest := by
  obtain ⟨ch, more, written, sign, scan, -⟩ := float_text back
  rw [written, List.cons_append] at first
  obtain ⟨c, h, hb, scanned⟩ := readValue_number budget first sign
  obtain ⟨-, same⟩ := numberScan_confined ch scan
  rw [scanned, same rest stops]
  have := leaves_finishScan c ch _ h _ hb Value.num (.float x) more.length
  rwa [List.drop_left] at this

/-! ## Reading: lists and maps

The grammar of `Spelled` follows the reader: after an opening bracket it takes a closing bracket
or a first item, and after each item a closing bracket or a comma and the next item. -/

theorem stops_blanks {b : List Char} (blanks : Blanks b) {c : Char}
    (stop : c.isDigit = false ∧ c ≠ '.' ∧ c ≠ 'e' ∧ c ≠ 'E') (r : List Char) : Stops (b ++ c :: r) := by
  intro d mem
  cases b with
  | nil =>
    simp only [List.nil_append, List.head?_cons, Option.mem_def, Option.some.injEq] at mem
    exact mem ▸ stop
  | cons e b =>
    simp only [List.cons_append, List.head?_cons, Option.mem_def, Option.some.injEq] at mem
    subst mem
    have isBlank := blanks e List.mem_cons_self
    simp only [blank, Bool.or_eq_true, beq_iff_eq] at isBlank
    rcases isBlank with ((rfl | rfl) | rfl) | rfl <;> decide

theorem ListTail.stops {items : List Value} {u : List Char} (tail : ListTail items u) (rest : List Char) :
    Stops (u ++ rest) := by
  cases tail with
  | close blanks => simpa using stops_blanks blanks (c := ']') (by decide) rest
  | comma blanks _ _ => simpa using stops_blanks blanks (c := ',') (by decide) _

theorem MapTail.stops {entries : List (String × Value)} {u : List Char} (tail : MapTail entries u)
    (rest : List Char) : Stops (u ++ rest) := by
  cases tail with
  | close blanks => simpa using stops_blanks blanks (c := '}') (by decide) rest
  | comma blanks _ _ _ _ => simpa using stops_blanks blanks (c := ',') (by decide) _

/-- The first character of the text of an integer: a minus sign or a digit. -/
theorem int_front (i : Int) :
    ∃ ch more, (Number.write (.int i)).toList = ch :: more ∧ (ch = '-' ∨ ch.isDigit) := by
  simp only [Number.write, Int.toString_eq_repr, Int.repr_eq_if]
  split
  · obtain ⟨ch, more, digits⟩ := List.exists_cons_of_ne_nil (Nat.toDigits_ne_nil (n := i.toNat) (b := 10))
    have mem : ch ∈ Nat.toDigits 10 i.toNat := by rw [digits]; exact List.mem_cons_self
    exact ⟨ch, more, by rw [Nat.toList_repr, digits], .inr (Nat.isDigit_of_mem_toDigits (by decide) (by decide) mem)⟩
  · exact ⟨'-', _, by rw [String.toList_append]; rfl, .inl rfl⟩

/-- A text of a plain value starts, after its blanks, with a character that is no blank and no
closing bracket. -/
theorem Spelled.front {v : Value} {t : List Char} (spelled : Spelled v t) {budget : Nat}
    (plain : Plain budget v) :
    ∃ b ch more, t = b ++ ch :: more ∧ Blanks b ∧ blank ch = false ∧ ch ≠ ']' ∧ ch ≠ '}' := by
  cases spelled with
  | null blanks => exact ⟨_, 'n', _, rfl, blanks, by decide, by decide, by decide⟩
  | bool x blanks =>
    cases x
    · exact ⟨_, 'f', _, rfl, blanks, by decide, by decide, by decide⟩
    · exact ⟨_, 't', _, rfl, blanks, by decide, by decide, by decide⟩
  | num n blanks =>
    obtain ⟨ch, more, text, sign⟩ : ∃ ch more, (Number.write n).toList = ch :: more ∧
        (ch = '-' ∨ ch.isDigit) := by
      cases n with
      | int i => exact int_front i
      | float x =>
        obtain ⟨ch, more, text, sign, -⟩ := float_text plain
        exact ⟨ch, more, text, sign⟩
    refine ⟨_, ch, more, by rw [text], blanks, blank_of_front sign, ?_⟩
    rcases sign with rfl | digit
    · decide
    · exact ⟨fun close => by simp [close] at digit, fun close => by simp [close] at digit⟩
  | str s blanks => exact ⟨_, '"', _, by rw [quote_toList], blanks, by decide, by decide, by decide⟩
  | list blanks _ => exact ⟨_, '[', _, rfl, blanks, by decide, by decide, by decide⟩
  | map blanks _ => exact ⟨_, '{', _, rfl, blanks, by decide, by decide, by decide⟩

/-- Where a text starts after blanks, the reader starts. -/
theorem dropWhile_lead {b : List Char} {c : Char} (blanks : Blanks b) (visible : blank c = false)
    (r : List Char) : (b ++ c :: r).dropWhile blank = c :: r := by
  rw [dropWhile_blanks blanks, dropWhile_visible visible]

theorem dropWhile_front {b more : List Char} {c : Char} (blanks : Blanks b) (visible : blank c = false)
    (rest : List Char) : ((b ++ c :: more) ++ rest).dropWhile blank = c :: (more ++ rest) := by
  rw [List.append_assoc, dropWhile_blanks blanks, List.cons_append, dropWhile_visible visible]

theorem readItems_close (budget : Nat) (c : Cursor) (first : Bool) (acc : List Value) {b rest : List Char}
    (blanks : Blanks b) (at_ : c.rest = b ++ ']' :: rest) :
    Leaves (readItems budget c first acc) acc.reverse rest := by
  have front : c.rest.dropWhile blank = ']' :: rest := by
    rw [at_, dropWhile_blanks blanks, dropWhile_visible (by decide)]
  obtain ⟨line, column, h, skipped⟩ := Cursor.skipBlanks_eq front
  rw [readItems, skipped]
  dsimp only
  rw [if_pos (by decide)]
  exact ⟨_, _, rfl, Cursor.past_rest _ _ _⟩

theorem readEntries_close (budget : Nat) (c : Cursor) (first : Bool) (acc : Map) {b rest : List Char}
    (blanks : Blanks b) (at_ : c.rest = b ++ '}' :: rest) :
    Leaves (readEntries budget c first acc) acc rest := by
  have front : c.rest.dropWhile blank = '}' :: rest := by
    rw [at_, dropWhile_blanks blanks, dropWhile_visible (by decide)]
  obtain ⟨line, column, h, skipped⟩ := Cursor.skipBlanks_eq front
  rw [readEntries, skipped]
  dsimp only
  rw [if_pos (by decide)]
  exact ⟨_, _, rfl, Cursor.past_rest _ _ _⟩

/-- A key above every stored key is stored last. -/
theorem insert_of_lt {key : String} (v : Value) :
    ∀ {m : Map}, (∀ k ∈ m.map (·.1), k < key) → m.insert key v = m ++ [(key, v)]
  | [], _ => rfl
  | (k, w) :: rest, above => by
    have below : k < key := above k List.mem_cons_self
    rw [Map.insert_cons, if_neg (String.lt_asymm below), if_neg (String.ne_of_lt below).symm,
      insert_of_lt v (fun k' mem => above k' (List.mem_cons_of_mem k mem))]
    rfl

/-- Reading the entries of an ordered map stores each one last. -/
theorem insert_ordered {acc : Map} {k : String} {v : Value} {entries : Map}
    (ordered : Map.Ordered (acc ++ (k, v) :: entries)) :
    acc.insert k v = acc ++ [(k, v)] ∧ Map.Ordered (acc.insert k v ++ entries) := by
  have below : ∀ k' ∈ acc.map (·.1), k' < k := by
    intro k' mem
    simp only [Map.Ordered, List.map_append, List.map_cons, List.pairwise_append] at ordered
    exact ordered.2.2 k' mem k List.mem_cons_self
  rw [insert_of_lt v below]
  exact ⟨rfl, by simpa using ordered⟩

/-- After the closing quote of a key the reader skips the blanks up to the colon. -/
theorem skipBlanks_afterKey (k : String) {b : List Char} (blanks : Blanks b) (r : List Char)
    (line column : Nat) :
    ∃ line' column' h, ((Cursor.past ⟨'"' :: (k.toList.flatMap escapeChar ++ '"' :: (b ++ ':' :: r)),
      line, column⟩ '"' (k.toList.flatMap escapeChar ++ '"' :: (b ++ ':' :: r))).skip
        (0 + (k.toList.flatMap escapeChar).length + 1)).skipBlanks = ⟨⟨':' :: r, line', column'⟩, h⟩ :=
  Cursor.skipBlanks_eq (by
    rw [Cursor.skip_rest, Cursor.past_rest, drop_escaped, dropWhile_lead blanks (by decide)])

theorem key_escaped (k : String) : id (String.ofList ([].reverse ++ k.toList)) = k := by
  rw [id, List.reverse_nil, List.nil_append, String.ofList_toList]

mutual
theorem readValue_spelled : ∀ (v : Value) {t : List Char}, Spelled v t → ∀ {budget : Nat},
    Plain budget v → ∀ {rest : List Char}, (∀ n, v = .num n → Stops rest) → ∀ c : Cursor,
      c.rest.dropWhile blank = (t ++ rest).dropWhile blank → Leaves (readValue budget c) v rest
  | .null, _, spelled, _, _, rest, _, c, at_ => by
    cases spelled with
    | null blanks => exact readValue_null _ c rest (at_.trans (dropWhile_front blanks (by decide) rest))
  | .bool x, _, spelled, _, _, rest, _, c, at_ => by
    cases spelled with
    | bool x blanks =>
      cases x
      · exact readValue_bool _ c false rest (at_.trans (dropWhile_front blanks (by decide) rest))
      · exact readValue_bool _ c true rest (at_.trans (dropWhile_front blanks (by decide) rest))
  | .str s, _, spelled, _, _, rest, _, c, at_ => by
    cases spelled with
    | str s blanks =>
      refine readValue_str _ c s rest (at_.trans ?_)
      rw [quote_toList, dropWhile_front blanks (by decide) rest]
      rfl
  | .num (.float x), _, spelled, _, plain, rest, stops, c, at_ => by
    cases spelled with
    | num n blanks =>
      obtain ⟨ch, more, text, sign, -⟩ := float_text plain
      refine readValue_float _ c plain (stops _ rfl) (at_.trans ?_)
      rw [text, dropWhile_front blanks (blank_of_front sign) rest]
      rfl
  | .num (.int i), _, spelled, _, plain, rest, stops, c, at_ => by
    cases spelled with
    | num n blanks =>
      obtain ⟨ch, more, text, sign⟩ := int_front i
      refine readValue_int _ c i plain (stops _ rfl) (at_.trans ?_)
      rw [text, dropWhile_front blanks (blank_of_front sign) rest]
      rfl
  | .list items, _, spelled, budget, plain, rest, _, c, at_ => by
    obtain ⟨deep, plainItems⟩ := plain
    cases spelled with
    | list blanks body =>
      obtain ⟨line, column, h, skipped⟩ :=
        Cursor.skipBlanks_eq (at_.trans (dropWhile_front blanks (by decide) rest))
      rw [readValue, skipped]
      dsimp only
      rw [if_neg (by decide), if_neg (by decide), if_neg (by decide), if_neg (by decide),
        if_neg (by decide), if_neg (by decide), if_pos (by decide), if_neg (by omega)]
      obtain ⟨d, hd, read, dRest⟩ := readItems_body items body plainItems _ [] (Cursor.past_rest _ _ _)
      rw [read]
      exact leaves_ok (by simp) dRest
  | .map entries, _, spelled, budget, plain, rest, _, c, at_ => by
    obtain ⟨deep, ordered, plainEntries⟩ := plain
    cases spelled with
    | map blanks body =>
      obtain ⟨line, column, h, skipped⟩ :=
        Cursor.skipBlanks_eq (at_.trans (dropWhile_front blanks (by decide) rest))
      rw [readValue, skipped]
      dsimp only
      rw [if_neg (by decide), if_neg (by decide), if_neg (by decide), if_neg (by decide),
        if_neg (by decide), if_neg (by decide), if_neg (by decide), if_pos (by decide),
        if_neg (by omega)]
      obtain ⟨d, hd, read, dRest⟩ :=
        readEntries_body entries body plainEntries _ [] ordered (Cursor.past_rest _ _ _)
      rw [read]
      exact leaves_ok (by simp) dRest
termination_by structural v => v

/-- The items of a list after its opening bracket, the first one still to come. -/
theorem readItems_body : ∀ (items : List Value) {t : List Char}, ListBody items t → ∀ {budget : Nat},
    PlainItems budget items → ∀ {rest : List Char} (c : Cursor) (acc : List Value), c.rest = t ++ rest →
      Leaves (readItems budget c true acc) (acc.reverse ++ items) rest
  | [], _, body, _, _, rest, c, acc, at_ => by
    cases body with
    | close blanks => simpa using readItems_close _ c true acc blanks (by simpa using at_)
  | v :: vs, _, body, budget, plain, rest, c, acc, at_ => by
    obtain ⟨plainV, plainRest⟩ := plain
    cases body with
    | @item _ _ u _ first tail =>
      obtain ⟨b, ch, more, text, blanks, visible, notClose, -⟩ := first.front plainV
      subst text
      have front : c.rest.dropWhile blank = ch :: (more ++ (u ++ rest)) := by
        rw [at_]
        simp only [List.append_assoc, List.cons_append]
        rw [dropWhile_lead blanks visible]
      obtain ⟨line, column, h, skipped⟩ := Cursor.skipBlanks_eq front
      rw [readItems, skipped]
      dsimp only
      rw [if_neg (by simpa using notClose), if_pos rfl]
      obtain ⟨d, hd, read, dRest⟩ := readValue_spelled v first plainV (fun _ _ => tail.stops rest)
        ⟨ch :: (more ++ (u ++ rest)), line, column⟩ (by
          rw [dropWhile_front blanks visible]
          exact dropWhile_visible visible _)
      rw [read]
      dsimp only
      obtain ⟨e, he, readTail, eRest⟩ := readItems_tail vs tail plainRest d (v :: acc) dRest
      rw [readTail]
      exact leaves_ok (by simp) eRest
termination_by structural items => items

/-- The items of a list after its first item: a closing bracket, or a comma and the next item. -/
theorem readItems_tail : ∀ (items : List Value) {u : List Char}, ListTail items u → ∀ {budget : Nat},
    PlainItems budget items → ∀ {rest : List Char} (c : Cursor) (acc : List Value), c.rest = u ++ rest →
      Leaves (readItems budget c false acc) (acc.reverse ++ items) rest
  | [], _, tail, _, _, rest, c, acc, at_ => by
    cases tail with
    | close blanks => simpa using readItems_close _ c false acc blanks (by simpa using at_)
  | v :: vs, _, tail, budget, plain, rest, c, acc, at_ => by
    obtain ⟨plainV, plainRest⟩ := plain
    cases tail with
    | @comma _ _ u _ _ blanks first more =>
      obtain ⟨b, ch, more', text, blanks', visible, notClose, -⟩ := first.front plainV
      subst text
      have comma : c.rest.dropWhile blank = ',' :: (b ++ ch :: (more' ++ (u ++ rest))) := by
        rw [at_]
        simp only [List.append_assoc, List.cons_append]
        rw [dropWhile_lead blanks (by decide)]
      obtain ⟨line, column, h, skipped⟩ := Cursor.skipBlanks_eq comma
      rw [readItems, skipped]
      dsimp only
      rw [if_neg (by decide), if_neg (by decide), if_pos (by decide)]
      have front : (Cursor.past ⟨',' :: (b ++ ch :: (more' ++ (u ++ rest))), line, column⟩ ','
          (b ++ ch :: (more' ++ (u ++ rest)))).rest.dropWhile blank = ch :: (more' ++ (u ++ rest)) := by
        rw [Cursor.past_rest, dropWhile_lead blanks' visible]
      obtain ⟨line', column', h', skipped'⟩ := Cursor.skipBlanks_eq front
      rw [skipped']
      dsimp only
      split
      · next empty => exact absurd empty (by simp)
      · next closing => exact absurd (List.cons.inj closing).1 notClose
      obtain ⟨d, hd, read, dRest⟩ := readValue_spelled v first plainV (fun _ _ => more.stops rest)
        ⟨ch :: (more' ++ (u ++ rest)), line', column'⟩ (by
          rw [dropWhile_front blanks' visible]
          exact dropWhile_visible visible _)
      rw [read]
      dsimp only
      obtain ⟨e, he, readTail, eRest⟩ := readItems_tail vs more plainRest d (v :: acc) dRest
      rw [readTail]
      exact leaves_ok (by simp) eRest
termination_by structural items => items

/-- The entries of a map after its opening brace, the first one still to come. -/
theorem readEntries_body : ∀ (entries : Map) {t : List Char}, MapBody entries t → ∀ {budget : Nat},
    PlainEntries budget entries → ∀ {rest : List Char} (c : Cursor) (acc : Map),
      Map.Ordered (acc ++ entries) → c.rest = t ++ rest →
        Leaves (readEntries budget c true acc) (acc ++ entries) rest
  | [], _, body, _, _, rest, c, acc, _, at_ => by
    cases body with
    | close blanks => simpa using readEntries_close _ c true acc blanks (by simpa using at_)
  | (k, v) :: es, _, body, budget, plain, rest, c, acc, ordered, at_ => by
    obtain ⟨plainV, plainRest⟩ := plain
    obtain ⟨inserted, ordered'⟩ := insert_ordered ordered
    cases body with
    | @entry _ _ _ b' t u _ blanks blanks' first tail =>
      have front : c.rest.dropWhile blank =
          '"' :: (k.toList.flatMap escapeChar ++ '"' :: (b' ++ ':' :: (t ++ (u ++ rest)))) := by
        rw [at_]
        simp only [List.append_assoc, List.cons_append, quote_toList, List.nil_append]
        rw [dropWhile_lead blanks (by decide)]
      obtain ⟨line, column, h, skipped⟩ := Cursor.skipBlanks_eq front
      rw [readEntries, skipped]
      dsimp only
      rw [if_neg (by decide), if_pos rfl]
      dsimp only
      rw [if_neg (by decide), if_neg (by decide), scanChars_escaped, finishScan]
      dsimp only
      obtain ⟨line', column', h', skipped'⟩ := skipBlanks_afterKey k blanks' (t ++ (u ++ rest)) line column
      rw [skipped']
      dsimp only
      rw [if_neg (by decide)]
      obtain ⟨f, hf, read, fRest⟩ := readValue_spelled v first plainV (fun _ _ => tail.stops rest)
        (Cursor.past ⟨':' :: (t ++ (u ++ rest)), line', column'⟩ ':' (t ++ (u ++ rest)))
        (by rw [Cursor.past_rest])
      rw [read]
      dsimp only
      rw [key_escaped]
      obtain ⟨g, hg, readTail, gRest⟩ := readEntries_tail es tail plainRest f (acc.insert k v) ordered' fRest
      rw [readTail]
      exact leaves_ok (by simp [inserted]) gRest
termination_by structural entries => entries

/-- The entries of a map after its first entry: a closing brace, or a comma and the next entry. -/
theorem readEntries_tail : ∀ (entries : Map) {u : List Char}, MapTail entries u → ∀ {budget : Nat},
    PlainEntries budget entries → ∀ {rest : List Char} (c : Cursor) (acc : Map),
      Map.Ordered (acc ++ entries) → c.rest = u ++ rest →
        Leaves (readEntries budget c false acc) (acc ++ entries) rest
  | [], _, tail, _, _, rest, c, acc, _, at_ => by
    cases tail with
    | close blanks => simpa using readEntries_close _ c false acc blanks (by simpa using at_)
  | (k, v) :: es, _, tail, budget, plain, rest, c, acc, ordered, at_ => by
    obtain ⟨plainV, plainRest⟩ := plain
    obtain ⟨inserted, ordered'⟩ := insert_ordered ordered
    cases tail with
    | @comma _ _ _ b' b'' t u _ blanks blanks' blanks'' first more =>
      have comma : c.rest.dropWhile blank = ',' :: (b' ++
          '"' :: (k.toList.flatMap escapeChar ++ '"' :: (b'' ++ ':' :: (t ++ (u ++ rest))))) := by
        rw [at_]
        simp only [List.append_assoc, List.cons_append, quote_toList, List.nil_append]
        rw [dropWhile_lead blanks (by decide)]
      obtain ⟨line, column, h, skipped⟩ := Cursor.skipBlanks_eq comma
      rw [readEntries, skipped]
      dsimp only
      rw [if_neg (by decide), if_neg (by decide), if_pos (by decide)]
      have front : (Cursor.past ⟨',' :: (b' ++ '"' :: (k.toList.flatMap escapeChar ++
          '"' :: (b'' ++ ':' :: (t ++ (u ++ rest))))), line, column⟩ ',' (b' ++ '"' ::
          (k.toList.flatMap escapeChar ++ '"' :: (b'' ++ ':' :: (t ++ (u ++ rest)))))).rest.dropWhile blank =
          '"' :: (k.toList.flatMap escapeChar ++ '"' :: (b'' ++ ':' :: (t ++ (u ++ rest)))) := by
        rw [Cursor.past_rest, dropWhile_lead blanks' (by decide)]
      obtain ⟨line', column', h', skipped'⟩ := Cursor.skipBlanks_eq front
      rw [skipped']
      dsimp only
      rw [if_neg (by decide), if_neg (by decide), scanChars_escaped, finishScan]
      dsimp only
      obtain ⟨line'', column'', h'', skipped''⟩ :=
        skipBlanks_afterKey k blanks'' (t ++ (u ++ rest)) line' column'
      rw [skipped'']
      dsimp only
      rw [if_neg (by decide)]
      obtain ⟨f, hf, read, fRest⟩ := readValue_spelled v first plainV (fun _ _ => more.stops rest)
        (Cursor.past ⟨':' :: (t ++ (u ++ rest)), line'', column''⟩ ':' (t ++ (u ++ rest)))
        (by rw [Cursor.past_rest])
      rw [read]
      dsimp only
      rw [key_escaped]
      obtain ⟨g, hg, readTail, gRest⟩ := readEntries_tail es more plainRest f (acc.insert k v) ordered' fRest
      rw [readTail]
      exact leaves_ok (by simp [inserted]) gRest
termination_by structural entries => entries
end

/-! ## Reading a whole text -/

/-- A whole text reads as a plain value from one of its texts exactly when only blanks follow. -/
theorem read_spelled_iff {v : Value} {t : List Char} (spelled : Spelled v t) (plain : Plain depthLimit v)
    (rest : List Char) (stops : ∀ n, v = .num n → Stops rest) (v' : Value) :
    read (String.ofList (t ++ rest)) = .ok v' ↔ v = v' ∧ rest.dropWhile blank = [] := by
  obtain ⟨d, h, readOk, dRest⟩ := readValue_spelled v spelled plain stops
    (Cursor.start (String.ofList (t ++ rest))) (by rw [Cursor.start, String.toList_ofList])
  have after : (d.skipBlanks).1.rest = rest.dropWhile blank := by rw [Cursor.skipBlanks_rest, dRest]
  rw [read, readOk]
  dsimp only
  generalize d.skipBlanks = e at after ⊢
  obtain ⟨⟨erest, line, column⟩, he⟩ := e
  dsimp only at after ⊢
  subst after
  split
  · next empty => simp [empty]
  · next x xs more => simp [more]

theorem finishScan_ok {α β : Type} {c : Cursor} {ch : Char} {more : List Char} {h : c.rest = ch :: more}
    {bound : Nat} {hb : c.rest.length ≤ bound} {wrap : α → β} {s : Scan α} {x : β} {d : Cursor}
    {hd : d.rest.length < bound} (ok : finishScan c ch more h bound hb wrap s = .ok ⟨(x, d), hd⟩) :
    ∃ v, x = wrap v := by
  cases s with
  | done v n =>
    simp only [finishScan, Except.ok.injEq, Subtype.mk.injEq, Prod.mk.injEq] at ok
    exact ⟨v, ok.1.symm⟩
  | fault f n peek => simp [finishScan] at ok

/-- A branch that finishes a scan into a value other than a map reads no map: a map read comes
from the branches after it. -/
theorem ok_map_of_ite_finishScan {α : Type} {p : Prop} [Decidable p] {c : Cursor} {ch : Char}
    {more : List Char} {hr : c.rest = ch :: more} {bound : Nat} {hb : c.rest.length ≤ bound}
    {wrap : α → Value} {s : Scan α} {rest : Step Value bound} {m : Map} {d : Cursor}
    {hd : d.rest.length < bound}
    (ok : (if p then finishScan c ch more hr bound hb wrap s else rest) = .ok ⟨(.map m, d), hd⟩)
    (scalar : ∀ v, wrap v ≠ .map m) :
    rest = .ok ⟨(.map m, d), hd⟩ := by
  split at ok
  · obtain ⟨v, same⟩ := finishScan_ok ok
    exact absurd same.symm (scalar v)
  · exact ok

/-- A text of blanks reads as no value. -/
theorem readValue_blank (budget : Nat) {c0 : Cursor} (empty : c0.rest.dropWhile blank = []) :
    ∃ e, readValue budget c0 = .error e := by
  have after := Cursor.skipBlanks_rest c0
  rw [empty] at after
  rw [readValue]
  generalize c0.skipBlanks = e at after ⊢
  obtain ⟨⟨erest, line, column⟩, he⟩ := e
  dsimp only at after
  subst after
  exact ⟨_, rfl⟩

/-- Only a text whose first token is an opening brace reads as a map. -/
theorem readValue_map_front {budget : Nat} {c0 : Cursor} {m : Map} {d : Cursor}
    {h : d.rest.length < c0.rest.length} (ok : readValue budget c0 = .ok ⟨(.map m, d), h⟩) :
    ∃ more, c0.rest.dropWhile blank = '{' :: more := by
  cases front : c0.rest.dropWhile blank with
  | nil =>
    obtain ⟨e, failed⟩ := readValue_blank budget front
    rw [failed] at ok
    cases ok
  | cons ch more =>
    obtain ⟨line, column, hc, skipped⟩ := Cursor.skipBlanks_eq front
    rw [readValue, skipped] at ok
    dsimp only at ok
    by_cases brace : ch = '{'
    · exact ⟨more, brace ▸ rfl⟩
    · exfalso
      -- the branches of null, true, false, numbers and strings come first, and none reads a map
      replace ok := ok_map_of_ite_finishScan ok fun _ => nofun
      replace ok := ok_map_of_ite_finishScan ok fun _ => nofun
      replace ok := ok_map_of_ite_finishScan ok fun _ => nofun
      replace ok := ok_map_of_ite_finishScan ok fun _ => nofun
      replace ok := ok_map_of_ite_finishScan ok fun _ => nofun
      replace ok := ok_map_of_ite_finishScan ok fun _ => nofun
      by_cases list : (ch == '[') = true
      · rw [if_pos list] at ok
        split at ok
        · cases ok
        · split at ok <;> cases ok
      · rw [if_neg list, if_neg (by simpa using brace)] at ok
        cases ok

/-! ## The shape of a map's text -/

theorem MapTail.ends : ∀ {entries : List (String × Value)} {u : List Char}, MapTail entries u →
    ∃ mid, u = mid ++ ['}']
  | [], _, .close _ => ⟨_, rfl⟩
  | _ :: _, _, @MapTail.comma k _ b b' b'' t _ _ _ _ _ _ tail => by
    obtain ⟨mid, rfl⟩ := tail.ends
    exact ⟨b ++ ',' :: b' ++ (quote k).toList ++ b'' ++ ':' :: t ++ mid, by simp⟩

theorem MapBody.ends {entries : List (String × Value)} {t : List Char} (body : MapBody entries t) :
    ∃ mid, t = mid ++ ['}'] := by
  cases body with
  | close _ => exact ⟨_, rfl⟩
  | @entry k _ b b' t' u _ _ _ _ tail =>
    obtain ⟨mid, rfl⟩ := tail.ends
    exact ⟨b ++ (quote k).toList ++ b' ++ ':' :: t' ++ mid, by simp⟩

/-- The text of a map: blanks, then its braces around the entries. -/
theorem Spelled.map_shape {entries : List (String × Value)} {j : List Char}
    (spelled : Spelled (.map entries) j) :
    ∃ b t mid, j = b ++ '{' :: t ∧ Blanks b ∧ MapBody entries t ∧ t = mid ++ ['}'] := by
  cases spelled with
  | map blanks body =>
    obtain ⟨mid, ends⟩ := body.ends
    exact ⟨_, _, mid, rfl, blanks, body, ends⟩

end PromptPipeline.Json
