import PromptPipeline.Response.Extract
import PromptPipeline.Proofs.Nesting
/-!
Finding a written object in free text.

`extractObject` finds a plain map (`Json.Plain`) from any text `j` of it without a fence: between
white space, after prose that opens no brace, and alone in a fenced block, bare or marked json,
whose tag line does not start with a brace (`extractObject_written`). Three backticks across the
prose and the tag make the first fence end inside the tag (`extractObject_merged_fence`).
-/
namespace PromptPipeline.Response

open Json

/-! ## Searching for a needle -/

section Search

variable {needle : List Char}

theorem findSub_sound : ∀ {hay : List Char} {k : Nat}, findSub needle hay = some k →
    needle <+: hay.drop k
  | [], k, found => by
    rw [findSub] at found
    split at found
    · next empty =>
      cases found
      simp [List.isEmpty_iff.1 empty]
    · cases found
  | c :: cs, k, found => by
    rw [findSub] at found
    split at found
    · next isPrefix =>
      cases found
      exact List.isPrefixOf_iff_prefix.1 isPrefix
    · obtain ⟨k', found', rfl⟩ := Option.map_eq_some_iff.1 found
      have later := findSub_sound found'
      exact later

theorem findSub_eq_none {hay : List Char} (absent : ¬ needle <:+: hay) : findSub needle hay = none := by
  cases found : findSub needle hay with
  | none => rfl
  | some k => exact absurd ((findSub_sound found).isInfix.trans (List.drop_suffix k hay).isInfix) absent

theorem findSub_of_prefix {hay : List Char} (front : needle <+: hay) : findSub needle hay = some 0 := by
  cases hay with
  | nil =>
    rw [List.prefix_nil.1 front]
    rfl
  | cons c cs => rw [findSub, if_pos (List.isPrefixOf_iff_prefix.2 front)]

theorem prefix_of_append {u v : List Char} (front : needle <+: u ++ v) (short : needle.length ≤ u.length) :
    needle <+: u :=
  List.prefix_of_prefix_length_le front (List.prefix_append u v) short

/-- A needle without the character `c` is a prefix of a text across `c` only when it is a prefix
of the text before `c`. -/
theorem prefix_append_sep {u w : List Char} {c : Char} (sep : c ∉ needle) :
    needle <+: u ++ c :: w ↔ needle <+: u := by
  refine ⟨fun front => prefix_of_append front ?_, fun front => front.trans (List.prefix_append u _)⟩
  -- a longer needle would take `c` from the text
  apply Nat.le_of_not_lt
  intro long
  have taken : (u ++ c :: w).take needle.length = needle := (List.prefix_iff_eq_take.1 front).symm
  have : c ∈ (u ++ c :: w).take needle.length := by
    rw [List.take_append, List.take_of_length_le (by omega)]
    exact List.mem_append_right u (by
      obtain ⟨n, hn⟩ := Nat.exists_eq_add_of_lt long
      rw [show needle.length - u.length = n + 1 by omega, List.take_succ_cons]
      exact List.mem_cons_self)
  exact sep (taken ▸ this)

/-- A needle found in a text is found at the same place in any longer text. -/
theorem findSub_append_of_some : ∀ {u : List Char} {k : Nat} (v : List Char),
    findSub needle u = some k → findSub needle (u ++ v) = some k
  | [], k, v, found => by
    rw [findSub] at found
    split at found
    · next empty =>
      cases found
      exact findSub_of_prefix (by simp [List.isEmpty_iff.1 empty])
    · cases found
  | c :: cs, k, v, found => by
    rw [findSub] at found
    split at found
    · next isPrefix =>
      cases found
      exact findSub_of_prefix ((List.isPrefixOf_iff_prefix.1 isPrefix).trans (List.prefix_append _ v))
    · next notPrefix =>
      obtain ⟨k', found', rfl⟩ := Option.map_eq_some_iff.1 found
      -- the later occurrence shows the needle is no longer than `cs`
      have short : needle.length ≤ (c :: cs).length := by
        have := (findSub_sound found').length_le
        simp only [List.length_drop] at this
        simp only [List.length_cons]
        omega
      have notPrefix' : ¬ needle <+: c :: cs ++ v :=
        fun front => notPrefix (List.isPrefixOf_iff_prefix.2 (prefix_of_append front short))
      rw [List.cons_append, findSub, if_neg (by simpa using notPrefix'),
        findSub_append_of_some v found']
      rfl

/-- A needle without the character `c`, absent from the text before `c`, is looked for after it. -/
theorem findSub_append_sep {c : Char} (sep : c ∉ needle) (nonempty : needle ≠ []) :
    ∀ {u : List Char} (w : List Char), findSub needle u = none →
      findSub needle (u ++ c :: w) = (findSub needle w).map (· + (u.length + 1))
  | [], w, _ => by
    have notPrefix : ¬ needle <+: c :: w := by
      intro front
      obtain ⟨a, more, rfl⟩ := List.exists_cons_of_ne_nil nonempty
      exact sep ((List.cons_prefix_cons.1 front).1 ▸ List.mem_cons_self)
    rw [List.nil_append, findSub, if_neg (by simpa using notPrefix)]
    rfl
  | x :: u, w, absent => by
    rw [findSub] at absent
    split at absent
    · cases absent
    · next notPrefix =>
      have rest : findSub needle u = none := by simpa using absent
      have notPrefix' : ¬ needle <+: x :: u ++ c :: w := by
        rw [prefix_append_sep sep]
        simpa using notPrefix
      rw [List.cons_append, findSub, if_neg (by simpa using notPrefix'), findSub_append_sep sep nonempty w rest,
        Option.map_map]
      rfl

end Search

/-! ## Fences

A needle that starts with a fence is not found across the end of a text that holds no fence and
does not end with a backtick. -/

/-- The text before `c` and the text after it hold no needle without `c`, so neither does the
whole. -/
theorem not_infix_sep {needle u w : List Char} {c : Char} (sep : c ∉ needle) (left : ¬ needle <:+: u)
    (right : ¬ needle <:+: w) : ¬ needle <:+: u ++ c :: w := by
  rintro ⟨s, t, whole⟩
  rw [List.append_assoc] at whole
  rcases List.append_eq_append_iff.1 whole with ⟨a, rfl, tail⟩ | ⟨a, rfl, tail⟩
  · -- the needle starts inside `u`
    rcases List.append_eq_append_iff.1 tail with ⟨b, rfl, _⟩ | ⟨b, rfl, more⟩
    · exact left ⟨s, b, by simp⟩
    · cases b with
      | nil => exact left ⟨s, [], by simp⟩
      | cons d b =>
        obtain ⟨rfl, -⟩ := List.cons_eq_cons.1 more
        exact sep (List.mem_append_right a List.mem_cons_self)
  · -- the needle starts at `c` or after it
    cases a with
    | nil =>
      cases needle with
      | nil => exact left List.nil_infix
      | cons d more =>
        simp only [List.nil_append, List.cons_append, List.cons.injEq] at tail
        exact sep (tail.1 ▸ List.mem_cons_self)
    | cons d a =>
      simp only [List.cons_append, List.cons.injEq] at tail
      exact right ⟨a, t, by rw [tail.2, List.append_assoc]⟩

/-- A text of characters that are no backtick holds no fence. -/
theorem no_fence_of_clean {w : List Char} (clean : ∀ c ∈ w, c ∉ fence) : ¬ fence <:+: w :=
  fun inside => clean '`' (inside.subset (List.mem_cons_self)) List.mem_cons_self

theorem not_fence_append {u w : List Char} (left : ¬ fence <:+: u) (clean : ∀ c ∈ w, c ∉ fence) :
    ¬ fence <:+: u ++ w := by
  induction w generalizing u with
  | nil => simpa using left
  | cons c w ih =>
    rw [← List.singleton_append, ← List.append_assoc]
    refine ih ?_ (fun d mem => clean d (List.mem_cons_of_mem c mem))
    exact not_infix_sep (clean c List.mem_cons_self) left (no_fence_of_clean (by simp))

/-- A needle that starts with a fence is not found in front of a text that holds no fence and does
not end with a backtick. -/
theorem findSub_skip {needle : List Char} (fenced : fence <+: needle) :
    ∀ {p : List Char} (y : List Char), ¬ fence <:+: p → (∀ c ∈ p.getLast?, c ∉ fence) →
      findSub needle (p ++ y) = (findSub needle y).map (· + p.length)
  | [], y, _, _ => by simp
  | x :: p, y, clean, last => by
    have notPrefix : ¬ needle <+: x :: p ++ y := by
      intro front
      have opens := fenced.trans front
      by_cases long : fence.length ≤ (x :: p).length
      · exact clean (prefix_of_append opens long).isInfix
      · -- a shorter text is all backticks, and so is its last character
        have inFence : x :: p <+: fence :=
          List.prefix_of_prefix_length_le (List.prefix_append _ y) opens (by omega)
        have lastIn : (x :: p).getLast (List.cons_ne_nil x p) ∈ fence :=
          inFence.subset (List.getLast_mem _)
        exact last _ (by rw [List.getLast?_eq_some_getLast (List.cons_ne_nil x p)]; rfl) lastIn
    have clean' : ¬ fence <:+: p := fun inside => clean (List.infix_cons inside)
    have last' : ∀ c ∈ p.getLast?, c ∉ fence := by
      intro c mem
      cases p with
      | nil => simp at mem
      | cons y p => exact last c (by rwa [List.getLast?_cons_cons])
    rw [List.cons_append, findSub, if_neg (by simpa using notPrefix), findSub_skip fenced y clean' last',
      Option.map_map]
    rfl

/-! ## Blocks -/

theorem idxOf?_line {s : List Char} (oneLine : '\n' ∉ s) (x : List Char) :
    (s ++ '\n' :: x).idxOf? '\n' = some s.length := by
  induction s with
  | nil => rw [List.nil_append, List.idxOf?_cons, if_pos (by decide)]; rfl
  | cons c s ih =>
    have other : c ≠ '\n' := fun same => oneLine (same ▸ List.mem_cons_self)
    rw [List.cons_append, List.idxOf?_cons, if_neg (by simpa using other),
      ih (fun mem => oneLine (List.mem_cons_of_mem c mem))]
    rfl

/-- A block whose first line opens no brace is read from its second line. -/
theorem blockContent_tag {s : List Char} (oneLine : '\n' ∉ s)
    (notOpen : (s.dropWhile Text.isBlank).head? ≠ some '{') (x : List Char) :
    blockContent (s ++ '\n' :: x) = x := by
  rw [blockContent, idxOf?_line oneLine x]
  dsimp only
  rw [List.take_left, if_neg (by simpa using notOpen), List.drop_append, List.drop_eq_nil_of_le (by omega),
    Nat.add_sub_cancel_left]
  rfl

/-- A block whose first line opens a brace is read whole. -/
theorem blockContent_open {s : List Char} (oneLine : '\n' ∉ s)
    (opens : (s.dropWhile Text.isBlank).head? = some '{') (x : List Char) :
    blockContent (s ++ '\n' :: x) = s ++ '\n' :: x := by
  rw [blockContent, idxOf?_line oneLine x]
  dsimp only
  rw [List.take_left, if_pos (by simp [opens])]

/-! ## Trimming -/

theorem trim_toList (l : List Char) :
    (Text.trim (String.ofList l)).toList = ((l.dropWhile Text.isBlank).reverse.dropWhile Text.isBlank).reverse := by
  rw [Text.trim, String.toList_ofList, String.toList_ofList]

/-- Dropping the blanks at the end keeps a text that ends with a character that is no blank. -/
theorem dropEnd_append {a : List Char} (last : ∀ c ∈ a.getLast?, Text.isBlank c = false) (q : List Char) :
    ((a ++ q).reverse.dropWhile Text.isBlank).reverse =
      a ++ (q.reverse.dropWhile Text.isBlank).reverse := by
  rw [List.reverse_append, List.dropWhile_append]
  split
  · next empty =>
    have kept : a.reverse.dropWhile Text.isBlank = a.reverse := by
      cases back : a.reverse with
      | nil => rfl
      | cons z more =>
        have : Text.isBlank z = false := last z (by rw [← List.head?_reverse, back]; rfl)
        exact List.dropWhile_cons_of_neg (by simp [this])
    rw [kept, List.reverse_reverse, List.isEmpty_iff.1 empty, List.reverse_nil, List.append_nil]
  · rw [List.reverse_append, List.reverse_reverse]

/-- Trimming starts a text at its first character that is no blank. -/
theorem trim_head? (l : List Char) :
    (Text.trim (String.ofList l)).toList.head? = (l.dropWhile Text.isBlank).head? := by
  rw [trim_toList]
  have visible := List.head?_dropWhile_not Text.isBlank l
  cases front : l.dropWhile Text.isBlank with
  | nil => rfl
  | cons c more =>
    rw [front] at visible
    rw [← List.singleton_append, dropEnd_append (by simpa using visible)]
    rfl

/-- Trimming a text with blanks around it leaves the text between them. -/
theorem trim_around {x y : List Char} {c : Char} {more : List Char}
    (front : ∀ d ∈ x, Text.isBlank d = true) (back : ∀ d ∈ y, Text.isBlank d = true)
    (first : Text.isBlank c = false) (last : ∀ d ∈ (c :: more).getLast?, Text.isBlank d = false) :
    Text.trim (String.ofList (x ++ c :: more ++ y)) = String.ofList (c :: more) := by
  have dropped : (x ++ c :: more ++ y).dropWhile Text.isBlank = c :: more ++ y := by
    rw [List.append_assoc, List.dropWhile_append_of_pos (by simpa using front), List.cons_append,
      List.dropWhile_cons_of_neg (by simp [first])]
  have backBlank : (y.reverse.dropWhile Text.isBlank) = [] :=
    List.dropWhile_eq_nil_iff.2 (fun d mem => by simpa using back d (List.mem_reverse.1 mem))
  rw [Text.trim, String.toList_ofList, dropped, dropEnd_append last, backBlank, List.reverse_nil,
    List.append_nil]

/-! ## Matching braces

Outside strings only quotes and braces move the scan of `matchingBrace`; inside a string a
backslash takes the next character with it, which keeps every escape of the writer inside its
string. So across the text of every value the scan comes back to the depth it started at. -/

section Scan

variable (text : List Char)

/-- Characters that are no quote and no brace leave the scan outside strings as it was. -/
theorem go_quiet : ∀ {s : List Char}, (∀ c ∈ s, c ≠ '"' ∧ c ≠ '{' ∧ c ≠ '}') →
    ∀ (r : List Char) (i depth : Nat), matchingBrace.go text (s ++ r) i depth false false =
      matchingBrace.go text r (i + s.length) depth false false
  | [], _, r, i, depth => rfl
  | c :: s, quiet, r, i, depth => by
    obtain ⟨notQuote, notOpen, notClose⟩ := quiet c List.mem_cons_self
    rw [List.cons_append, matchingBrace.go]
    simp only [Bool.false_eq_true, if_false, Bool.and_false, beq_iff_eq, notQuote, notOpen,
      notClose, Bool.not_false, Bool.and_true]
    rw [go_quiet (fun d mem => quiet d (List.mem_cons_of_mem c mem)) r (i + 1) depth, List.length_cons,
      Nat.add_assoc, Nat.add_comm 1]

theorem hexDigit_quiet : ∀ n, n < 16 → hexDigit n ≠ '\\' ∧ hexDigit n ≠ '"' := by decide

/-- Inside a string each escaped character is passed over whole. -/
theorem go_escapeChar (c : Char) (r : List Char) (i depth : Nat) :
    matchingBrace.go text (escapeChar c ++ r) i depth true false =
      matchingBrace.go text r (i + (escapeChar c).length) depth true false := by
  rcases Json.escapeChar_cases c with ⟨quote, backslash, -, plain⟩ | ⟨x, short, -⟩ | ⟨control, long⟩
  · rw [plain]
    simp [matchingBrace.go, quote, backslash]
  · -- the character after a backslash is passed over, whatever it is
    rw [short]
    simp [matchingBrace.go]
  · have high := hexDigit_quiet (c.toNat / 16) (by omega)
    have low := hexDigit_quiet (c.toNat % 16) (by omega)
    rw [long]
    simp [matchingBrace.go, high.1, high.2, low.1, low.2]

theorem go_escaped (r : List Char) : ∀ (cs : List Char) (i depth : Nat),
    matchingBrace.go text (cs.flatMap escapeChar ++ r) i depth true false =
      matchingBrace.go text r (i + (cs.flatMap escapeChar).length) depth true false
  | [], i, depth => rfl
  | c :: cs, i, depth => by
    rw [List.flatMap_cons, List.append_assoc, go_escapeChar, go_escaped r cs, List.length_append,
      Nat.add_assoc]

/-- A string in quotes leaves the scan outside strings as it was. -/
theorem go_quote (s : String) (r : List Char) (i depth : Nat) :
    matchingBrace.go text ((Json.quote s).toList ++ r) i depth false false =
      matchingBrace.go text r (i + (Json.quote s).toList.length) depth false false := by
  rw [Json.quote_toList, List.cons_append, matchingBrace.go]
  simp only [Bool.false_eq_true, if_false, Bool.and_false, beq_self_eq_true, if_true, Bool.not_false]
  rw [List.append_assoc, go_escaped, List.singleton_append, matchingBrace.go]
  simp only [Bool.false_eq_true, if_false, Bool.and_true, beq_self_eq_true, if_true,
    Bool.not_true]
  rw [if_neg (by decide)]
  congr 1
  simp only [List.length_cons, List.length_append, List.length_nil]
  omega

theorem go_cons_quiet {c : Char} (quiet : c ≠ '"' ∧ c ≠ '{' ∧ c ≠ '}') (r : List Char) (i depth : Nat) :
    matchingBrace.go text (c :: r) i depth false false = matchingBrace.go text r (i + 1) depth false false :=
  go_quiet text (s := [c]) (by simpa using quiet) r i depth

theorem blanks_quiet {b : List Char} (blanks : Blanks b) : ∀ c ∈ b, c ≠ '"' ∧ c ≠ '{' ∧ c ≠ '}' := by
  intro c mem
  have skipped := blanks c mem
  simp only [blank, Bool.or_eq_true, beq_iff_eq] at skipped
  rcases skipped with ((rfl | rfl) | rfl) | rfl <;> decide

theorem int_quiet (n : Int) : ∀ c ∈ (Number.write (.int n)).toList, c ≠ '"' ∧ c ≠ '{' ∧ c ≠ '}' := by
  have digit_quiet : ∀ c ∈ Nat.toDigits 10 n.natAbs, c ≠ '"' ∧ c ≠ '{' ∧ c ≠ '}' := by
    intro c mem
    have digit := Nat.isDigit_of_mem_toDigits (by decide) (by decide) mem
    simp only [Char.isDigit, Bool.and_eq_true, decide_eq_true_eq] at digit
    refine ⟨?_, ?_, ?_⟩ <;> (rintro rfl; simp at digit)
  simp only [Number.write, Int.toString_eq_repr, Int.repr_eq_if]
  split
  · next nonneg =>
    rw [Nat.toList_repr, show n.toNat = n.natAbs by omega]
    exact digit_quiet
  · next negative =>
    rw [String.toList_append, show "-".toList = ['-'] from rfl, Nat.toList_repr,
      show (-n).toNat = n.natAbs by omega]
    intro c mem
    rcases List.mem_cons.1 mem with rfl | digit
    · decide
    · exact digit_quiet c digit

theorem numberChar_quiet {c : Char} (number : numberChar c = true) : c ≠ '"' ∧ c ≠ '{' ∧ c ≠ '}' := by
  simp only [numberChar, Bool.or_eq_true, beq_iff_eq] at number
  rcases number with ((((digit | rfl) | rfl) | rfl) | rfl) | rfl
  · simp only [Char.isDigit, Bool.and_eq_true, decide_eq_true_eq] at digit
    refine ⟨?_, ?_, ?_⟩ <;> (rintro rfl; simp at digit)
  all_goals decide

/-- The text of a plain number holds no quote and no brace. -/
theorem number_quiet {n : Number} {budget : Nat} (plain : Plain budget (.num n)) :
    ∀ c ∈ (Number.write n).toList, c ≠ '"' ∧ c ≠ '{' ∧ c ≠ '}' := by
  cases n with
  | int i => exact int_quiet i
  | float x =>
    obtain ⟨ch, more, text, sign, -, chars⟩ := float_text plain
    rw [text]
    intro c mem
    rcases List.mem_cons.1 mem with rfl | inMore
    · rcases sign with rfl | digit
      · decide
      · exact numberChar_quiet (numberChar_of_digit digit)
    · exact numberChar_quiet (chars c inMore)

mutual
/-- Over the text of a plain value the scan comes back to its depth, outside strings. -/
theorem go_spelled : ∀ (v : Value) {t : List Char}, Spelled v t → ∀ {budget : Nat}, Plain budget v →
    ∀ (r : List Char) (i : Nat) {depth : Nat}, 0 < depth →
      matchingBrace.go text (t ++ r) i depth false false =
        matchingBrace.go text r (i + t.length) depth false false
  | .null, _, spelled, _, _, r, i, depth, _ => by
    cases spelled with
    | null blanks =>
      exact go_quiet text (List.forall_mem_append.2 ⟨blanks_quiet blanks, by simp [write]⟩) r i depth
  | .bool x, _, spelled, _, _, r, i, depth, _ => by
    cases spelled with
    | bool x blanks =>
      have token : ∀ c ∈ (write (.bool x)).toList, c ≠ '"' ∧ c ≠ '{' ∧ c ≠ '}' := by
        cases x <;> simp [write]
      exact go_quiet text (List.forall_mem_append.2 ⟨blanks_quiet blanks, token⟩) r i depth
  | .num n, _, spelled, _, plain, r, i, depth, _ => by
    cases spelled with
    | num _ blanks =>
      exact go_quiet text (List.forall_mem_append.2 ⟨blanks_quiet blanks, number_quiet plain⟩) r i depth
  | .str s, _, spelled, _, _, r, i, depth, _ => by
    cases spelled with
    | str s blanks =>
      rw [List.append_assoc, go_quiet text (blanks_quiet blanks), go_quote, List.length_append, Nat.add_assoc]
  | .list items, _, spelled, budget, plain, r, i, depth, pos => by
    obtain ⟨-, plainItems⟩ := plain
    cases spelled with
    | list blanks body =>
      rw [List.append_assoc, go_quiet text (blanks_quiet blanks), List.cons_append,
        go_cons_quiet text (by decide), go_listBody items body plainItems r _ pos]
      congr 1
      simp only [List.length_append, List.length_cons]
      omega
  | .map entries, _, spelled, budget, plain, r, i, depth, pos => by
    obtain ⟨-, -, plainEntries⟩ := plain
    cases spelled with
    | map blanks body =>
      obtain ⟨mid, ends⟩ := body.ends
      -- the opening brace goes one level down, the body's closing brace comes back up
      rw [List.append_assoc, go_quiet text (blanks_quiet blanks), List.cons_append, matchingBrace.go]
      simp only [Bool.false_eq_true, if_false, Bool.and_false, Bool.not_false, Bool.and_true,
        beq_self_eq_true, if_true]
      rw [go_mapBody entries body plainEntries r _ (Nat.succ_pos depth), matchingBrace.go]
      simp only [Bool.false_eq_true, if_false, Bool.and_false, Bool.not_false, Bool.and_true,
        beq_self_eq_true, if_true]
      rw [if_neg (by decide), if_neg (by decide), if_neg (by decide),
        if_neg (by simpa using Nat.pos_iff_ne_zero.1 pos), Nat.succ_sub_one]
      congr 1
      subst ends
      simp only [List.length_append, List.length_cons, List.length_nil]
      omega

theorem go_listBody : ∀ (items : List Value) {t : List Char}, ListBody items t → ∀ {budget : Nat},
    PlainItems budget items → ∀ (r : List Char) (i : Nat) {depth : Nat}, 0 < depth →
      matchingBrace.go text (t ++ r) i depth false false =
        matchingBrace.go text r (i + t.length) depth false false
  | [], _, body, _, _, r, i, depth, _ => by
    cases body with
    | close blanks =>
      exact go_quiet text (List.forall_mem_append.2 ⟨blanks_quiet blanks, by simp⟩) r i depth
  | v :: vs, _, body, budget, plain, r, i, depth, pos => by
    obtain ⟨plainV, plainRest⟩ := plain
    cases body with
    | item first tail =>
      rw [List.append_assoc, go_spelled v first plainV _ i pos, go_listTail vs tail plainRest r _ pos,
        List.length_append, Nat.add_assoc]

theorem go_listTail : ∀ (items : List Value) {u : List Char}, ListTail items u → ∀ {budget : Nat},
    PlainItems budget items → ∀ (r : List Char) (i : Nat) {depth : Nat}, 0 < depth →
      matchingBrace.go text (u ++ r) i depth false false =
        matchingBrace.go text r (i + u.length) depth false false
  | [], _, tail, _, _, r, i, depth, _ => by
    cases tail with
    | close blanks =>
      exact go_quiet text (List.forall_mem_append.2 ⟨blanks_quiet blanks, by simp⟩) r i depth
  | v :: vs, _, tail, budget, plain, r, i, depth, pos => by
    obtain ⟨plainV, plainRest⟩ := plain
    cases tail with
    | comma blanks first more =>
      simp only [List.append_assoc, List.cons_append]
      rw [go_quiet text (blanks_quiet blanks), go_cons_quiet text (by decide),
        go_spelled v first plainV _ _ pos, go_listTail vs more plainRest r _ pos]
      congr 1
      simp only [List.length_append, List.length_cons]
      omega

/-- Over the entries of a map the scan comes to the closing brace at the depth it started at. -/
theorem go_mapBody : ∀ (entries : List (String × Value)) {t : List Char}, MapBody entries t →
    ∀ {budget : Nat}, PlainEntries budget entries → ∀ (r : List Char) (i : Nat) {depth : Nat}, 0 < depth →
      matchingBrace.go text (t ++ r) i depth false false =
        matchingBrace.go text ('}' :: r) (i + t.length - 1) depth false false
  | [], _, body, _, _, r, i, depth, _ => by
    cases body with
    | close blanks =>
      rw [List.append_assoc, go_quiet text (blanks_quiet blanks)]
      simp
  | (k, v) :: es, _, body, budget, plain, r, i, depth, pos => by
    obtain ⟨plainV, plainRest⟩ := plain
    cases body with
    | entry blanks blanks' first tail =>
      simp only [List.append_assoc, List.cons_append]
      rw [go_quiet text (blanks_quiet blanks), go_quote, go_quiet text (blanks_quiet blanks'),
        go_cons_quiet text (by decide), go_spelled v first plainV _ _ pos,
        go_mapTail es tail plainRest r _ pos]
      congr 1
      simp only [List.length_append, List.length_cons]
      omega

theorem go_mapTail : ∀ (entries : List (String × Value)) {u : List Char}, MapTail entries u →
    ∀ {budget : Nat}, PlainEntries budget entries → ∀ (r : List Char) (i : Nat) {depth : Nat}, 0 < depth →
      matchingBrace.go text (u ++ r) i depth false false =
        matchingBrace.go text ('}' :: r) (i + u.length - 1) depth false false
  | [], _, tail, _, _, r, i, depth, _ => by
    cases tail with
    | close blanks =>
      rw [List.append_assoc, go_quiet text (blanks_quiet blanks)]
      simp
  | (k, v) :: es, _, tail, budget, plain, r, i, depth, pos => by
    obtain ⟨plainV, plainRest⟩ := plain
    cases tail with
    | comma blanks blanks' blanks'' first more =>
      simp only [List.append_assoc, List.cons_append]
      rw [go_quiet text (blanks_quiet blanks), go_cons_quiet text (by decide),
        go_quiet text (blanks_quiet blanks'), go_quote, go_quiet text (blanks_quiet blanks''),
        go_cons_quiet text (by decide), go_spelled v first plainV _ _ pos,
        go_mapTail es more plainRest r _ pos]
      congr 1
      simp only [List.length_append, List.length_cons]
      omega
end

end Scan

/-- The scan from the opening brace of a map's text closes at the map's last brace. -/
theorem matchingBrace_map {entries : List (String × Value)} {t : List Char} (body : MapBody entries t)
    {budget : Nat} (plain : PlainEntries budget entries) (q : List Char) :
    matchingBrace ('{' :: t ++ q) = some ('{' :: t) := by
  obtain ⟨mid, ends⟩ := body.ends
  rw [List.cons_append, matchingBrace, matchingBrace.go]
  simp only [Bool.false_eq_true, if_false, Bool.and_false, Bool.not_false, Bool.and_true,
    beq_self_eq_true, if_true]
  rw [if_neg (by decide), go_mapBody _ entries body plain q _ Nat.one_pos, matchingBrace.go]
  simp only [Bool.false_eq_true, if_false, Bool.and_false, Bool.not_false, Bool.and_true,
    beq_self_eq_true, if_true]
  rw [if_neg (by decide), if_neg (by decide)]
  subst ends
  simp only [Nat.zero_add, List.length_append, List.length_cons, List.length_nil,
    List.take_succ_cons, Option.some.injEq, List.cons.injEq, true_and, List.append_assoc, List.cons_append,
    List.nil_append]
  rw [List.take_append, List.take_of_length_le (by omega)]
  simp

/-! ## Reading candidates -/

theorem asObject_eq_some {cand : List Char} {m : Map} :
    asObject cand = some m ↔ read (Text.trim (String.ofList cand)) = .ok (.map m) := by
  rw [asObject]
  split
  · next m' readOk => simp [readOk]
  · next notMap => simpa using notMap m

theorem isBlank_open : Text.isBlank '{' = false := Text.isBlank_eq_false (by decide) (by decide)
theorem isBlank_close : Text.isBlank '}' = false := Text.isBlank_eq_false (by decide) (by decide)
theorem isBlank_lineFeed : Text.isBlank '\n' = true := Text.isBlank_of_blank (by decide)

theorem getLast?_close (mid : List Char) :
    ∀ c ∈ ('{' :: (mid ++ ['}'])).getLast?, Text.isBlank c = false := by
  intro c last
  rw [← List.cons_append, List.getLast?_concat] at last
  cases last
  exact isBlank_close

/-- A map's text, alone between blanks, reads as the map. -/
theorem asObject_spelled {o : Map} {j : List Char} (written : Spelled (.map o) j)
    (plain : Plain depthLimit (.map o)) {x y : List Char} (front : ∀ c ∈ x, Text.isBlank c = true)
    (back : ∀ c ∈ y, Text.isBlank c = true) : asObject (x ++ j ++ y) = some o := by
  obtain ⟨b, t, mid, rfl, blanks, body, ends⟩ := written.map_shape
  have core : Spelled (.map o) ('{' :: t) := by simpa using Spelled.map blanks_nil body
  have trimmed : Text.trim (String.ofList (x ++ (b ++ '{' :: t) ++ y)) = String.ofList ('{' :: t) := by
    rw [← List.append_assoc x b]
    refine trim_around (List.forall_mem_append.2 ⟨front, fun c mem => Text.isBlank_of_blank (blanks c mem)⟩)
      back isBlank_open ?_
    subst ends
    exact getLast?_close mid
  rw [asObject_eq_some, trimmed]
  simpa using (read_spelled_iff core plain [] (fun _ h => by cases h) (.map o)).2 ⟨rfl, rfl⟩

/-- Prose in front of a map's text that opens no brace can keep the whole text from reading as a
map, but never makes it read as another map. -/
theorem asObject_written {o : Map} {j : List Char} (written : Spelled (.map o) j)
    (plain : Plain depthLimit (.map o)) {p : List Char} (noOpen : '{' ∉ p) (q : List Char) {m : Map}
    (found : asObject (p ++ j ++ q) = some m) : m = o := by
  obtain ⟨b, t, mid, rfl, blanks, body, ends⟩ := written.map_shape
  have core : Spelled (.map o) ('{' :: t) := by simpa using Spelled.map blanks_nil body
  have lastClose : ∀ c ∈ ('{' :: t).getLast?, Text.isBlank c = false := by
    subst ends
    exact getLast?_close mid
  rw [asObject_eq_some] at found
  have visibleHead := List.head?_dropWhile_not Text.isBlank p
  cases front : p.dropWhile Text.isBlank with
  | cons c more =>
    -- the trimmed text starts in the prose, with a character that is no brace
    rw [front] at visibleHead
    have mem : c ∈ p := (List.dropWhile_sublist _).subset (front ▸ List.mem_cons_self)
    have first : (Text.trim (String.ofList (p ++ (b ++ '{' :: t) ++ q))).toList.head? = some c := by
      rw [trim_head?, List.append_assoc, List.dropWhile_append, front]
      rfl
    obtain ⟨d, h, readOk, -⟩ := read_ok found
    obtain ⟨rest, opens⟩ := readValue_map_front readOk
    rw [Cursor.start] at opens
    cases text : (Text.trim (String.ofList (p ++ (b ++ '{' :: t) ++ q))).toList with
    | nil => rw [text] at first; cases first
    | cons c' more' =>
      rw [text] at first opens
      cases first
      rw [dropWhile_visible (Text.blank_eq_false visibleHead)] at opens
      exact absurd (List.cons.inj opens).1 (fun same => noOpen (same ▸ mem))
  | nil =>
    -- the prose is blank: the trimmed text is the map's text and what follows it
    have blankProse : ∀ c ∈ p ++ b, Text.isBlank c = true :=
      List.forall_mem_append.2 ⟨fun c mem => by simpa using List.dropWhile_eq_nil_iff.1 front c mem,
        fun c mem => Text.isBlank_of_blank (blanks c mem)⟩
    have trimmed : Text.trim (String.ofList (p ++ (b ++ '{' :: t) ++ q)) =
        String.ofList (('{' :: t) ++ (q.reverse.dropWhile Text.isBlank).reverse) := by
      rw [Text.trim, String.toList_ofList, ← List.append_assoc p b, List.append_assoc,
        List.dropWhile_append_of_pos (by simpa using blankProse), List.cons_append,
        List.dropWhile_cons_of_neg (by simp [isBlank_open]), ← List.cons_append,
        dropEnd_append lastClose]
    rw [trimmed] at found
    have same := ((read_spelled_iff core plain _ (fun _ h => by cases h) (.map m)).1 found).1
    injection same with same
    exact same.symm

/-- The first object between braces after prose that opens no brace is a map's text that follows. -/
theorem balancedObject_skip {x : List Char} (noOpen : '{' ∉ x) (y : List Char) :
    balancedObject (x ++ y) = balancedObject y := by
  induction x with
  | nil => rfl
  | cons c x ih =>
    have other : c ≠ '{' := fun same => noOpen (same ▸ List.mem_cons_self)
    rw [List.cons_append, balancedObject]
    simp only [beq_iff_eq, other, if_false]
    exact ih (fun mem => noOpen (List.mem_cons_of_mem c mem))

theorem balancedObject_map {o : Map} {t : List Char} (body : MapBody o t) (plain : Plain depthLimit (.map o))
    (q : List Char) : balancedObject ('{' :: t ++ q) = some o := by
  have core : Spelled (.map o) ('{' :: t) := by simpa using Spelled.map blanks_nil body
  have whole : asObject ('{' :: t) = some o := by
    simpa using asObject_spelled core plain (x := []) (y := []) (by simp) (by simp)
  rw [List.cons_append, balancedObject]
  simp only [beq_self_eq_true, if_true]
  rw [← List.cons_append, matchingBrace_map body plain.2.2 q, Option.bind_some, whole]

/-! ## Fenced blocks -/

theorem fenced_absent {opener rest : List Char} {fuel : Nat} (running : fuel ≠ 0)
    (absent : findSub opener rest = none) : fenced opener fuel rest = none := by
  obtain ⟨n, rfl⟩ := Nat.exists_eq_succ_of_ne_zero running
  rw [fenced, absent]

theorem fenced_unclosed {opener rest : List Char} {fuel : Nat} (running : fuel ≠ 0) {start : Nat}
    (found : findSub opener rest = some start)
    (unclosed : findSub fence (rest.drop (start + opener.length)) = none) :
    fenced opener fuel rest = none := by
  obtain ⟨n, rfl⟩ := Nat.exists_eq_succ_of_ne_zero running
  rw [fenced, found]
  dsimp only
  rw [unclosed]

/-- A closed block that does not read as an object sends the search on after its closing fence. -/
theorem fenced_next {opener rest : List Char} {fuel : Nat} (running : fuel ≠ 0) {start stop : Nat}
    (found : findSub opener rest = some start)
    (closed : findSub fence (rest.drop (start + opener.length)) = some stop)
    (unread : asObject (blockContent ((rest.drop (start + opener.length)).take stop)) = none) :
    fenced opener fuel rest = fenced opener (fuel - 1) ((rest.drop (start + opener.length)).drop (stop + 3)) := by
  obtain ⟨n, rfl⟩ := Nat.exists_eq_succ_of_ne_zero running
  rw [fenced, found]
  dsimp only
  rw [closed]
  dsimp only
  rw [unread]
  rfl

/-- Dropping past a prefix. -/
theorem drop_past (p x : List Char) {n : Nat} (k : Nat) (split : p.length + k = n) :
    (p ++ x).drop n = x.drop k := by
  subst split
  rw [List.drop_append, List.drop_eq_nil_of_le (by omega), List.nil_append, Nat.add_sub_cancel_left]

/-- After a line and a map's text on the next line, the first fence is the one that follows them. -/
theorem closing_after_line {j s : List Char} (clean : ¬ fence <:+: j) (cleanTag : ¬ fence <:+: s)
    (q : List Char) :
    findSub fence ((s ++ '\n' :: (j ++ ['\n'])) ++ (fence ++ q)) = some (s ++ '\n' :: (j ++ ['\n'])).length := by
  have block : ¬ fence <:+: s ++ '\n' :: (j ++ ['\n']) :=
    not_infix_sep (by decide) cleanTag (not_fence_append clean (by simp [fence]))
  have lineEnd : ∀ c ∈ (s ++ '\n' :: (j ++ ['\n'])).getLast?, c ∉ fence := by
    intro c last
    rw [← List.cons_append, ← List.append_assoc, List.getLast?_concat] at last
    cases last
    decide
  rw [findSub_skip List.prefix_rfl _ block lineEnd, findSub_of_prefix (List.prefix_append _ _)]
  simp

/-- A block after the opener that holds a tag line and a map's text alone on its own line holds
the map. -/
theorem fenced_block {o : Map} {j : List Char} (written : Spelled (.map o) j)
    (plain : Plain depthLimit (.map o)) (clean : ¬ fence <:+: j) {opener rest s : List Char}
    (fuel : Nat) {start : Nat} (found : findSub opener rest = some start) (q : List Char)
    (after : rest.drop (start + opener.length) = (s ++ '\n' :: (j ++ ['\n'])) ++ (fence ++ q))
    (oneLine : '\n' ∉ s) (notOpen : (s.dropWhile Text.isBlank).head? ≠ some '{')
    (cleanTag : ¬ fence <:+: s) :
    fenced opener (fuel + 1) rest = some o := by
  have lineFeed : ∀ c ∈ ['\n'], Text.isBlank c = true := by simpa using isBlank_lineFeed
  rw [fenced, found]
  dsimp only
  rw [after, closing_after_line clean cleanTag q]
  dsimp only
  rw [List.take_left, blockContent_tag oneLine notOpen, ← List.nil_append j,
    asObject_spelled written plain (by simp) lineFeed]

/-- A line that opens a brace, before a map's text on the next line, reads as no object: nothing
closes that brace before the map's text ends. -/
theorem asObject_open_line {o : Map} {j s : List Char} (written : Spelled (.map o) j)
    (plain : Plain depthLimit (.map o)) (opens : (s.dropWhile Text.isBlank).head? = some '{') :
    asObject (s ++ '\n' :: (j ++ ['\n'])) = none := by
  obtain ⟨x, front⟩ : ∃ x, s.dropWhile Text.isBlank = '{' :: x := by
    cases first : s.dropWhile Text.isBlank with
    | nil => rw [first] at opens; cases opens
    | cons c x => rw [first] at opens; cases opens; exact ⟨x, rfl⟩
  have nested := written.nested plain
  obtain ⟨b, t, mid, rfl, -, -, rfl⟩ := written.map_shape
  have ends : (b ++ '{' :: (mid ++ ['}'])).getLast? = some '}' := by
    rw [← List.cons_append, ← List.append_assoc, List.getLast?_concat]
  have lastClose : ∀ c ∈ ('{' :: (x ++ '\n' :: (b ++ '{' :: (mid ++ ['}'])))).getLast?,
      Text.isBlank c = false := by
    intro c last
    rw [List.getLast?_cons, List.getLast?_append, List.getLast?_cons, ends] at last
    cases last
    exact isBlank_close
  have lineFeed : (['\n'].reverse.dropWhile Text.isBlank).reverse = [] := by
    rw [List.reverse_singleton, List.dropWhile_cons_of_pos isBlank_lineFeed]
    rfl
  -- trimming keeps the text from the line's brace to the map's last brace
  have trimmed : Text.trim (String.ofList (s ++ '\n' :: ((b ++ '{' :: (mid ++ ['}'])) ++ ['\n']))) =
      String.ofList ('{' :: (x ++ '\n' :: (b ++ '{' :: (mid ++ ['}'])))) := by
    rw [Text.trim, String.toList_ofList, List.dropWhile_append, front, if_neg (by simp),
      show ('{' :: x) ++ '\n' :: ((b ++ '{' :: (mid ++ ['}'])) ++ ['\n']) =
        ('{' :: (x ++ '\n' :: (b ++ '{' :: (mid ++ ['}'])))) ++ ['\n'] by simp,
      dropEnd_append lastClose, lineFeed, List.append_nil]
  cases found : asObject (s ++ '\n' :: ((b ++ '{' :: (mid ++ ['}'])) ++ ['\n'])) with
  | none => rfl
  | some m =>
    rw [asObject_eq_some, trimmed] at found
    exact absurd found (read_open_line nested ends (.map m))

/-- No block opened by a needle that starts with a fence is found in a text without a fence. -/
theorem fenced_clean {opener q : List Char} (opensFence : fence <+: opener) (clean : ¬ fence <:+: q)
    (fuel : Nat) : fenced opener fuel q = none := by
  cases fuel with
  | zero => rfl
  | succ fuel =>
    exact fenced_absent (Nat.succ_ne_zero fuel)
      (findSub_eq_none fun inside => clean (opensFence.isInfix.trans inside))

/-- A block after the opener whose first line opens a brace, with a map's text alone on the next
line and no fence after the closing one, ends the search with nothing. -/
theorem fenced_open_block {o : Map} {j : List Char} (written : Spelled (.map o) j)
    (plain : Plain depthLimit (.map o)) (clean : ¬ fence <:+: j) {opener rest s q : List Char}
    (opensFence : fence <+: opener) (fuel : Nat) {start : Nat} (found : findSub opener rest = some start)
    (after : rest.drop (start + opener.length) = (s ++ '\n' :: (j ++ ['\n'])) ++ (fence ++ q))
    (oneLine : '\n' ∉ s) (opens : (s.dropWhile Text.isBlank).head? = some '{')
    (cleanTag : ¬ fence <:+: s) (cleanAfter : ¬ fence <:+: q) :
    fenced opener (fuel + 1) rest = none := by
  have closed := closing_after_line clean cleanTag q
  rw [← after] at closed
  have unread : asObject (blockContent ((rest.drop (start + opener.length)).take
      (s ++ '\n' :: (j ++ ['\n'])).length)) = none := by
    rw [after, List.take_left, blockContent_open oneLine opens]
    exact asObject_open_line written plain opens
  rw [fenced_next (Nat.succ_ne_zero fuel) found closed unread, after,
    drop_past _ (fence ++ q) 3 rfl, show (fence ++ q).drop 3 = q from rfl, Nat.succ_sub_one]
  exact fenced_clean opensFence cleanAfter fuel

theorem json_opener : "```json".toList = fence ++ ['j', 's', 'o', 'n'] := rfl

theorem fence_prefix_json : fence <+: "```json".toList := by
  rw [json_opener]
  exact List.prefix_append _ _

theorem json_absent_of_clean {x : List Char} (clean : ¬ fence <:+: x) : ¬ "```json".toList <:+: x :=
  fun inside => clean (fence_prefix_json.isInfix.trans inside)

/-- What follows a needle that starts with a fence, found in a fence and a text that holds no
fence, holds no fence. -/
theorem drop_after_fence {needle q : List Char} (fenced : fence <+: needle) (cleanAfter : ¬ fence <:+: q)
    (k : Nat) : ¬ fence <:+: (fence ++ q).drop (k + needle.length) := by
  have long : fence.length ≤ needle.length := fenced.length_le
  intro inside
  apply cleanAfter
  refine inside.trans (List.IsSuffix.isInfix ?_)
  rw [List.drop_append, List.drop_eq_nil_of_le (by omega), List.nil_append]
  exact List.drop_suffix _ q

/-- The search for a fence marked json in a text with a map's fenced block finds that block, or
no block at all. -/
theorem fenced_json_block {o : Map} {j : List Char} (written : Spelled (.map o) j)
    (plain : Plain depthLimit (.map o)) (clean : ¬ fence <:+: j) {p tag q : List Char}
    (cleanBefore : ¬ fence <:+: p) (notTick : ∀ c ∈ p.getLast?, c ∉ fence) (oneLine : '\n' ∉ tag)
    (cleanTag : ¬ fence <:+: tag) (cleanAfter : ¬ fence <:+: q) (fuel : Nat) :
    fenced "```json".toList (fuel + 1) (p ++ ((fence ++ tag) ++ '\n' :: (j ++ '\n' :: (fence ++ q)))) = some o ∨
      fenced "```json".toList (fuel + 1) (p ++ ((fence ++ tag) ++ '\n' :: (j ++ '\n' :: (fence ++ q)))) =
        none := by
  have skip := findSub_skip fence_prefix_json ((fence ++ tag) ++ '\n' :: (j ++ '\n' :: (fence ++ q)))
    cleanBefore notTick
  have openerLength : "```json".toList.length = fence.length + 4 := rfl
  cases opening : findSub "```json".toList (fence ++ tag) with
  | some k =>
    -- the marked opener lies on the opening line: its block is what is left of that line and the map
    have found := findSub_append_of_some ('\n' :: (j ++ '\n' :: (fence ++ q))) opening
    have short : k + "```json".toList.length ≤ (fence ++ tag).length := by
      have := (findSub_sound opening).length_le
      simp only [List.length_drop] at this
      omega
    rw [found, Option.map_some] at skip
    have after : (p ++ ((fence ++ tag) ++ '\n' :: (j ++ '\n' :: (fence ++ q)))).drop
        (k + p.length + "```json".toList.length) =
        (tag.drop (k + 4) ++ '\n' :: (j ++ ['\n'])) ++ (fence ++ q) := by
      rw [drop_past p _ (k + "```json".toList.length) (by omega), List.drop_append_of_le_length short,
        drop_past fence tag (k + 4) (by omega)]
      simp
    have oneLine' : '\n' ∉ tag.drop (k + 4) := fun mem => oneLine ((List.drop_sublist _ _).subset mem)
    have cleanTag' : ¬ fence <:+: tag.drop (k + 4) :=
      fun inside => cleanTag (inside.trans (List.drop_suffix _ _).isInfix)
    -- a brace left on that line joins the block to the map's text, which then never reads
    by_cases opens : ((tag.drop (k + 4)).dropWhile Text.isBlank).head? = some '{'
    · exact .inr (fenced_open_block written plain clean fence_prefix_json fuel skip after oneLine' opens
        cleanTag' cleanAfter)
    · exact .inl (fenced_block written plain clean fuel skip q after oneLine' opens cleanTag')
  | none =>
    -- otherwise the marked opener can only be in the closing fence, and no fence closes it
    right
    have inText : findSub "```json".toList j = none := findSub_eq_none (json_absent_of_clean clean)
    have nonempty : "```json".toList ≠ [] := by simp
    have sep : '\n' ∉ "```json".toList := by simp
    rw [findSub_append_sep sep nonempty _ opening, findSub_append_sep sep nonempty _ inText] at skip
    cases closing : findSub "```json".toList (fence ++ q) with
    | none =>
      rw [closing] at skip
      exact fenced_absent (Nat.succ_ne_zero fuel) skip
    | some k =>
      simp only [closing, Option.map_some] at skip
      refine fenced_unclosed (Nat.succ_ne_zero fuel) skip (findSub_eq_none ?_)
      have text : p ++ ((fence ++ tag) ++ '\n' :: (j ++ '\n' :: (fence ++ q))) =
          (p ++ ((fence ++ tag) ++ '\n' :: (j ++ ['\n']))) ++ (fence ++ q) := by simp
      rw [text, drop_past _ _ (k + "```json".toList.length) (by simp; omega)]
      exact drop_after_fence fence_prefix_json cleanAfter k

/-- The search for a bare fence finds a map's fenced block when the prose before it does not end
with a backtick. -/
theorem fenced_bare_block {o : Map} {j : List Char} (written : Spelled (.map o) j)
    (plain : Plain depthLimit (.map o)) (clean : ¬ fence <:+: j) {p tag : List Char}
    (cleanBefore : ¬ fence <:+: p) (notTick : ∀ c ∈ p.getLast?, c ∉ fence) (oneLine : '\n' ∉ tag)
    (notOpen : (tag.dropWhile Text.isBlank).head? ≠ some '{') (cleanTag : ¬ fence <:+: tag)
    (q : List Char) (fuel : Nat) :
    fenced fence (fuel + 1) (p ++ ((fence ++ tag) ++ '\n' :: (j ++ '\n' :: (fence ++ q)))) = some o := by
  have found := findSub_skip List.prefix_rfl ((fence ++ tag) ++ '\n' :: (j ++ '\n' :: (fence ++ q)))
    cleanBefore notTick
  rw [List.append_assoc, findSub_of_prefix (List.prefix_append _ _), Option.map_some] at found
  refine fenced_block written plain clean fuel found q ?_ oneLine notOpen cleanTag
  rw [drop_past p _ fence.length (by omega), List.append_assoc, drop_past fence _ 0 (by omega)]
  simp

/-! ## Backticks before a fence

Prose that ends with backticks moves the fence found after it back by as many: those backticks
join the fence, and the ones the fence leaves over start its tag. -/

/-- A text is the text before its last backticks, which does not end with one, and those
backticks. -/
theorem split_ticks (p : List Char) :
    ∃ p₀ ticks, p = p₀ ++ ticks ∧ (∀ c ∈ ticks, c = '`') ∧ ∀ c ∈ p₀.getLast?, c ∉ fence := by
  induction p using List.reverseRecOn with
  | nil => exact ⟨[], [], rfl, by simp, by simp⟩
  | append_singleton p c ih =>
    obtain ⟨p₀, ticks, rfl, tick, notTick⟩ := ih
    by_cases isTick : c = '`'
    · refine ⟨p₀, ticks ++ [c], by simp, fun d mem => ?_, notTick⟩
      rcases List.mem_append.1 mem with inTicks | last
      · exact tick d inTicks
      · rw [List.mem_singleton.1 last, isTick]
    · refine ⟨p₀ ++ ticks ++ [c], [], by simp, by simp, fun d last => ?_⟩
      rw [List.getLast?_concat] at last
      cases last
      simpa [fence] using isTick

theorem ticks_fence {ticks : List Char} (tick : ∀ c ∈ ticks, c = '`') : ticks ++ fence = fence ++ ticks := by
  rw [List.eq_replicate_iff.2 ⟨rfl, tick⟩, show fence = List.replicate 3 '`' from rfl,
    List.replicate_append_replicate, List.replicate_append_replicate, Nat.add_comm]

theorem isBlank_tick : Text.isBlank '`' = false := Text.isBlank_eq_false (by decide) (by decide)

/-- Backticks in front of a tag line that opens no brace leave a line that opens none. -/
theorem ticks_notOpen {ticks tag : List Char} (tick : ∀ c ∈ ticks, c = '`')
    (notOpen : (tag.dropWhile Text.isBlank).head? ≠ some '{') :
    ((ticks ++ tag).dropWhile Text.isBlank).head? ≠ some '{' := by
  cases ticks with
  | nil => exact notOpen
  | cons c more =>
    rw [tick c List.mem_cons_self, List.cons_append, List.dropWhile_cons_of_neg (by simp [isBlank_tick])]
    simp

/-! ## Finding a written object -/

theorem blank_fence : ∀ c ∈ fence, blank c = false := by
  simp [fence]
  decide

theorem isBlank_fence : ∀ c ∈ fence, Text.isBlank c = false := by
  intro c mem
  simp only [fence, List.mem_cons, List.not_mem_nil, or_false, or_self] at mem
  subst mem
  exact Text.isBlank_eq_false (by decide) (by decide)

/-- Between prose that opens no brace and text after it, neither with a fence, a map's text is
found: the whole text reads as that map, or else its opening brace is the first one. -/
theorem extractObject_between {o : Map} {j : List Char} (written : Spelled (.map o) j)
    (plain : Plain depthLimit (.map o)) (clean : ¬ fence <:+: j) {p q : List Char} (noOpen : '{' ∉ p)
    (cleanBefore : ¬ fence <:+: p) (cleanAfter : ¬ fence <:+: q) :
    extractObject (String.ofList (p ++ j ++ q)) = some o := by
  obtain ⟨b, t, mid, rfl, blanks, body, ends⟩ := written.map_shape
  have blankNoFence : ∀ c ∈ b, c ∉ fence := fun c mem inFence => by
    simpa [blank_fence c inFence] using blanks c mem
  have blankNoOpen : '{' ∉ b := fun mem => by simpa [blank] using blanks '{' mem
  -- the braces around the object's text keep a fence from forming across the pieces
  have noFence : ¬ fence <:+: p ++ (b ++ '{' :: t) ++ q := by
    subst ends
    have text : p ++ (b ++ '{' :: (mid ++ ['}'])) ++ q = (p ++ b) ++ '{' :: (mid ++ '}' :: q) := by simp
    have inner : ¬ fence <:+: mid := fun inside => clean (inside.trans ⟨b ++ ['{'], ['}'], by simp⟩)
    rw [text]
    exact not_infix_sep (by decide) (not_fence_append cleanBefore blankNoFence)
      (not_infix_sep (by decide) inner cleanAfter)
  simp only [extractObject, String.toList_ofList]
  rw [fenced_absent (by simp) (findSub_eq_none (json_absent_of_clean noFence)), Option.orElse_none,
    fenced_absent (by simp) (findSub_eq_none noFence), Option.orElse_none]
  cases whole : asObject (p ++ (b ++ '{' :: t) ++ q) with
  | some m =>
    rw [asObject_written written plain noOpen q whole]
    rfl
  | none =>
    have text : p ++ (b ++ '{' :: t) ++ q = (p ++ b) ++ ('{' :: t ++ q) := by simp
    have skipped : '{' ∉ p ++ b := fun mem => (List.mem_append.1 mem).elim noOpen blankNoOpen
    rw [Option.orElse_none, text, balancedObject_skip skipped, balancedObject_map body plain q]

/-- A map's text with white space around it is found. -/
theorem extractObject_blanks {o : Map} {j : List Char} (written : Spelled (.map o) j)
    (plain : Plain depthLimit (.map o)) (clean : ¬ fence <:+: j) {x y : List Char}
    (front : ∀ c ∈ x, Text.isBlank c = true) (back : ∀ c ∈ y, Text.isBlank c = true) :
    extractObject (String.ofList (x ++ j ++ y)) = some o := by
  have noFence : ∀ {w : List Char}, (∀ c ∈ w, Text.isBlank c = true) → ¬ fence <:+: w :=
    fun blankText => no_fence_of_clean (fun c mem inFence => by
      simpa [isBlank_fence c inFence] using blankText c mem)
  refine extractObject_between written plain clean (fun mem => ?_) (noFence front) (noFence back)
  simpa [isBlank_open] using front '{' mem

/-- A map's text alone in a fenced block is found, whether or not the fence is marked json, when
the tag line opens no brace and no three backticks run across the prose and the tag. -/
theorem extractObject_fenced {o : Map} {j : List Char} (written : Spelled (.map o) j)
    (plain : Plain depthLimit (.map o)) (clean : ¬ fence <:+: j) {p tag q : List Char}
    (cleanAround : ¬ fence <:+: p ++ tag) (oneLine : '\n' ∉ tag)
    (notOpen : (tag.dropWhile Text.isBlank).head? ≠ some '{') (cleanAfter : ¬ fence <:+: q) :
    extractObject (String.ofList (p ++ fence ++ tag ++ ['\n'] ++ j ++ ['\n'] ++ fence ++ q)) = some o := by
  -- the backticks that end the prose are read as the start of the tag
  obtain ⟨p, ticks, rfl, tick, notTick⟩ := split_ticks p
  have text : p ++ ticks ++ fence ++ tag ++ ['\n'] ++ j ++ ['\n'] ++ fence ++ q =
      p ++ ((fence ++ (ticks ++ tag)) ++ '\n' :: (j ++ '\n' :: (fence ++ q))) := by
    rw [List.append_assoc p ticks fence, ticks_fence tick]
    simp
  have cleanBefore : ¬ fence <:+: p := fun inside => cleanAround (inside.trans ⟨[], ticks ++ tag, by simp⟩)
  have cleanTag : ¬ fence <:+: ticks ++ tag := fun inside => cleanAround (inside.trans ⟨p, [], by simp⟩)
  have oneLine' : '\n' ∉ ticks ++ tag := fun mem =>
    (List.mem_append.1 mem).elim (fun inTicks => absurd (tick _ inTicks) (by decide)) oneLine
  have notOpen' := ticks_notOpen tick notOpen
  rw [text]
  simp only [extractObject, String.toList_ofList]
  rcases fenced_json_block written plain clean cleanBefore notTick oneLine' cleanTag cleanAfter _
    with found | absent
  · rw [found]
    rfl
  · rw [absent, Option.orElse_none,
      fenced_bare_block written plain clean cleanBefore notTick oneLine' notOpen' cleanTag q _]
    rfl

/-- Where `extractObject` finds the object of a JSON text `j`, compact or pretty (`write_spelled`,
`writePretty_spelled`) or with any other blanks between its tokens, when the object is plain and
`j` holds no fence: with white space around it; between prose that opens no brace and text
after it, neither holding a fence; and alone in a fenced block, bare or marked json, after a tag
line whose first character that is no blank is no brace, with no three backticks across the
prose and the tag. -/
theorem extractObject_written {o : Map} {j : List Char} (written : Spelled (.map o) j)
    (plain : Plain depthLimit (.map o)) (clean : ¬ fence <:+: j) :
    (∀ x y : List Char, (∀ c ∈ x, Text.isBlank c = true) → (∀ c ∈ y, Text.isBlank c = true) →
      extractObject (String.ofList (x ++ j ++ y)) = some o) ∧
    (∀ p q : List Char, '{' ∉ p → ¬ fence <:+: p → ¬ fence <:+: q →
      extractObject (String.ofList (p ++ j ++ q)) = some o) ∧
    (∀ p tag q : List Char, ¬ fence <:+: p ++ tag → '\n' ∉ tag →
      (tag.dropWhile Text.isBlank).head? ≠ some '{' → ¬ fence <:+: q →
      extractObject (String.ofList (p ++ fence ++ tag ++ ['\n'] ++ j ++ ['\n'] ++ fence ++ q)) = some o) :=
  ⟨fun _ _ front back => extractObject_blanks written plain clean front back,
    fun _ _ noOpen cleanBefore cleanAfter =>
      extractObject_between written plain clean noOpen cleanBefore cleanAfter,
    fun _ _ _ cleanAround oneLine notOpen cleanAfter =>
      extractObject_fenced written plain clean cleanAround oneLine notOpen cleanAfter⟩

/-- The compact text of `{"a": 1}` in a block fenced and marked json, after prose that ends with a
backtick and a tag that holds a brace, is found in the bare block the backtick opens. -/
theorem extractObject_written_json_block :
    extractObject (String.ofList ("Here:`".toList ++ fence ++ "json \x7b".toList ++ ['\n'] ++
      (write (.map [("a", .num (.int 1))])).toList ++ ['\n'] ++ fence)) = some [("a", .num (.int 1))] := by
  have plain : Plain depthLimit (.map [("a", .num (.int 1))]) := by
    simp [Plain, PlainEntries, Map.Ordered, depthLimit]
  have clean : ¬ fence <:+: (write (.map [("a", .num (.int 1))])).toList := by
    rw [show (write (.map [("a", .num (.int 1))])).toList = "\x7b\"a\":1\x7d".toList by decide]
    exact no_fence_of_clean (by simp [fence])
  have cleanAround : ¬ fence <:+: "Here:`".toList ++ "json \x7b".toList := fun inside => by
    simpa [fence] using inside.sublist.count_le '`'
  have notOpen : ("json \x7b".toList.dropWhile Text.isBlank).head? ≠ some '{' := by
    rw [show "json \x7b".toList = 'j' :: "son \x7b".toList by simp,
      List.dropWhile_cons_of_neg (by simp [Text.isBlank_eq_false (c := 'j') (by decide) (by decide)])]
    simp
  have found := (extractObject_written (write_spelled _) plain clean).2.2 "Here:`".toList "json \x7b".toList []
    cleanAround (by simp) notOpen (by simp [fence])
  simpa using found

theorem asObject_nil : asObject [] = none := by
  have empty : (Cursor.start (Text.trim (String.ofList []))).rest.dropWhile blank = [] := by
    simp [Cursor.start, Text.trim]
  obtain ⟨e, failed⟩ := readValue_blank depthLimit empty
  rw [asObject, Json.read, failed]

/-- A fence whose first backtick ends the prose before it and whose tag starts with two
backticks: the first fence found ends inside the tag, the block it opens is empty, and the next
one runs to the end with no fence to close it. The object is then lost to the braces of the
prose. -/
theorem extractObject_merged_fence :
    extractObject (String.ofList ("\x7b\x7d`".toList ++ fence ++ "``".toList ++ ['\n'] ++
      (write (.map [("a", .num (.int 1))])).toList ++ ['\n'] ++ fence)) = some [] := by
  rw [show (write (.map [("a", .num (.int 1))])).toList = "\x7b\"a\":1\x7d".toList by decide]
  set text := "\x7b\x7d`".toList ++ fence ++ "``".toList ++ ['\n'] ++ "\x7b\"a\":1\x7d".toList ++ ['\n'] ++ fence
    with textEq
  have empty : Spelled (.map []) ['{', '}'] := by
    simpa using Spelled.map blanks_nil (MapBody.close blanks_nil)
  have plain : Plain depthLimit (.map []) := by simp [Plain, PlainEntries, Map.Ordered, depthLimit]
  -- read whole, the text is the empty map followed by backticks
  have whole : asObject text = none := by
    cases found : asObject text with
    | none => rfl
    | some m =>
      have trimmed : Text.trim (String.ofList text) = String.ofList text := by
        have split : text = [] ++ '{' :: ('}' :: "``````\n\x7b\"a\":1\x7d\n```".toList) ++ [] := rfl
        have last : ('{' :: ('}' :: "``````\n\x7b\"a\":1\x7d\n```".toList)).getLast? = some fence.head! := rfl
        rw [split, trim_around (by simp) (by simp) isBlank_open (by
          intro d ends
          rw [last] at ends
          cases ends
          exact isBlank_fence _ (by simp [fence]))]
        simp
      rw [asObject_eq_some, trimmed, show text = ['{', '}'] ++ "``````\n\x7b\"a\":1\x7d\n```".toList from rfl] at found
      have stops := ((read_spelled_iff empty plain _ (fun _ h => by cases h) (.map m)).1 found).2
      simp [blank] at stops
  simp only [extractObject, String.toList_ofList]
  -- no block is marked json; the first bare block is empty, and the next one is not closed
  rw [fenced_absent (by simp) (by rfl : findSub "```json".toList text = none), Option.orElse_none,
    fenced_next (by simp) (by rfl : findSub fence text = some 2)
      (by rfl : findSub fence (text.drop (2 + fence.length)) = some 0)
      (by rw [show blockContent ((text.drop (2 + fence.length)).take 0) = [] by rfl]; exact asObject_nil),
    fenced_unclosed (by rw [textEq]; simp) (by rfl : findSub fence ((text.drop (2 + fence.length)).drop (0 + 3)) = some 9)
      (by rfl), Option.orElse_none, whole, Option.orElse_none,
    show text = '{' :: ([] ++ ['}']) ++ "``````\n\x7b\"a\":1\x7d\n```".toList by rfl,
    balancedObject_map (MapBody.close blanks_nil) plain]

end PromptPipeline.Response
