import PromptPipeline.Proofs.JsonText
/-!
How deep in brackets the reader stands at each line break of a text it reads.
-/
namespace PromptPipeline.Json

/-- Where a reading of JSON text stands: the brackets open outside strings, whether it is inside
a string, and whether a backslash there takes the next character. -/
structure Nest where
  depth : Int
  inString : Bool
  escaped : Bool
  deriving DecidableEq

namespace Nest

/-- Outside strings, at a depth. -/
def out (depth : Int) : Nest := ⟨depth, false, false⟩

/-- The reading after one more character. -/
def feed (s : Nest) (c : Char) : Nest :=
  if s.escaped then { s with escaped := false }
  else if s.inString then
    if c == '\\' then { s with escaped := true }
    else if c == '"' then { s with inString := false }
    else s
  else if c == '"' then { s with inString := true }
  else if c == '{' || c == '[' then { s with depth := s.depth + 1 }
  else if c == '}' || c == ']' then { s with depth := s.depth - 1 }
  else s

/-- The reading after a text. -/
def reach (s : Nest) (cs : List Char) : Nest := cs.foldl feed s

@[simp] theorem reach_nil (s : Nest) : s.reach [] = s := rfl

@[simp] theorem reach_cons (s : Nest) (c : Char) (cs : List Char) :
    s.reach (c :: cs) = (s.feed c).reach cs := rfl

theorem reach_append (s : Nest) (a b : List Char) : s.reach (a ++ b) = (s.reach a).reach b :=
  List.foldl_append

/-- The same reading, `k` brackets deeper. -/
def deeper (s : Nest) (k : Int) : Nest := { s with depth := s.depth + k }

theorem feed_deeper (s : Nest) (k : Int) (c : Char) : (s.deeper k).feed c = (s.feed c).deeper k := by
  obtain ⟨depth, inString, escaped⟩ := s
  cases escaped <;> cases inString <;> simp only [feed, deeper] <;> split_ifs <;>
    simp only [Nest.mk.injEq, and_true] <;> omega

theorem reach_deeper (s : Nest) (k : Int) (cs : List Char) :
    (s.deeper k).reach cs = (s.reach cs).deeper k := by
  induction cs generalizing s with
  | nil => rfl
  | cons c cs ih => rw [reach_cons, reach_cons, feed_deeper, ih]

theorem out_eq_deeper (k : Int) : out k = (out 0).deeper k := by
  simp [out, deeper]

@[simp] theorem deeper_out (d k : Int) : (out d).deeper k = out (d + k) := rfl

end Nest

/-- A text that takes a reading from outside strings at depth zero to depth `k`, outside strings,
and whose every line break stands outside strings at a depth of at least zero. -/
def Nested (u : List Char) (k : Int) : Prop :=
  (Nest.out 0).reach u = .out k ∧
    ∀ a b, u = a ++ '\n' :: b → ∃ j, 0 ≤ j ∧ (Nest.out 0).reach a = .out j

theorem Nested.append {x y : List Char} {i j : Int} (first : Nested x i) (deep : 0 ≤ i)
    (second : Nested y j) : Nested (x ++ y) (i + j) := by
  obtain ⟨reachX, linesX⟩ := first
  obtain ⟨reachY, linesY⟩ := second
  -- after `x` the reading of `y` is `i` deeper
  have shifted : ∀ a, (Nest.out 0).reach (x ++ a) = ((Nest.out 0).reach a).deeper i := by
    intro a
    rw [Nest.reach_append, reachX, Nest.out_eq_deeper, Nest.reach_deeper]
  refine ⟨by rw [shifted, reachY, Nest.deeper_out, Int.add_comm], fun a b split => ?_⟩
  rcases List.append_eq_append_iff.1 split with ⟨a', rfl, inY⟩ | ⟨c', inX, rest⟩
  · obtain ⟨j', nonneg, reached⟩ := linesY a' b inY
    exact ⟨j' + i, by omega, by rw [shifted, reached, Nest.deeper_out]⟩
  · cases c' with
    | nil =>
      simp only [List.append_nil] at inX
      exact ⟨i, deep, by rw [← inX, reachX]⟩
    | cons e c'' =>
      obtain ⟨rfl, -⟩ := List.cons_eq_cons.1 rest
      exact linesX a c'' inX

theorem Nested.nil : Nested [] 0 :=
  ⟨rfl, fun a b split => absurd split (by simp)⟩

/-- Characters that move no reading outside strings. -/
def neutral (c : Char) : Bool := !(c == '"' || c == '{' || c == '}' || c == '[' || c == ']')

theorem Nested.of_neutral {cs : List Char} (quiet : ∀ c ∈ cs, neutral c = true) : Nested cs 0 := by
  have kept : ∀ cs : List Char, (∀ c ∈ cs, neutral c = true) → (Nest.out 0).reach cs = .out 0 := by
    intro cs quiet
    induction cs with
    | nil => rfl
    | cons c cs ih =>
      have still : (Nest.out 0).feed c = .out 0 := by
        have := quiet c List.mem_cons_self
        simp only [neutral, Bool.not_eq_true', Bool.or_eq_false_iff, beq_eq_false_iff_ne] at this
        simp [Nest.feed, Nest.out, this]
      rw [Nest.reach_cons, still, ih (fun d mem => quiet d (List.mem_cons_of_mem c mem))]
  refine ⟨kept cs quiet, fun a b split => ⟨0, Int.le_refl 0, kept a (fun c mem => quiet c ?_)⟩⟩
  rw [split]
  exact List.mem_append_left _ mem

theorem nested_bracket {c : Char} {k : Int} (bracket : ((Nest.out 0).feed c) = .out k) (line : c ≠ '\n') :
    Nested [c] k := by
  refine ⟨bracket, fun a b split => ?_⟩
  cases a with
  | nil => exact absurd (List.cons.inj split).1 line
  | cons e a => simp at split

theorem neutral_of_blank {c : Char} (skipped : blank c = true) : neutral c = true := by
  simp only [blank, Bool.or_eq_true, beq_iff_eq] at skipped
  rcases skipped with ((rfl | rfl) | rfl) | rfl <;> rfl

theorem Nested.of_blanks {b : List Char} (blanks : Blanks b) : Nested b 0 :=
  Nested.of_neutral fun c mem => neutral_of_blank (blanks c mem)

/-! ## Tokens

Words, numbers and strings: what the reader takes for them moves no reading outside strings. -/

theorem scanWord_go_done : ∀ {es cs : List Char} {n k : Nat}, scanWord.go es cs n = .done () k →
    k = n + es.length ∧ cs.take es.length = es
  | [], cs, n, k, done => by
    rw [scanWord.go] at done
    cases done
    simp
  | _ :: _, [], n, k, done => by
    rw [scanWord.go] at done
    cases done
  | e :: es, c :: cs, n, k, done => by
    rw [scanWord.go] at done
    split at done
    · next same =>
      obtain ⟨counted, took⟩ := scanWord_go_done done
      refine ⟨by simp only [List.length_cons]; omega, ?_⟩
      rw [List.length_cons, List.take_succ_cons, took, eq_of_beq same]
    · cases done

theorem neutral_of_numberChar {c : Char} (number : numberChar c = true) : neutral c = true := by
  simp only [numberChar, Bool.or_eq_true, beq_iff_eq] at number
  rcases number with ((((digit | rfl) | rfl) | rfl) | rfl) | rfl
  · simp only [Char.isDigit, Bool.and_eq_true, decide_eq_true_eq] at digit
    simp only [neutral, Bool.not_eq_true', Bool.or_eq_false_iff, beq_eq_false_iff_ne]
    refine ⟨⟨⟨⟨?_, ?_⟩, ?_⟩, ?_⟩, ?_⟩ <;> (rintro rfl; simp at digit)
  all_goals rfl

/-- Inside a string, where no backslash is pending. -/
def Nest.inside : Nest := ⟨0, true, false⟩

/-- A piece of a string that leaves the reading inside the string, on the same line. -/
def StaysInside (t : List Char) : Prop := Nest.inside.reach t = Nest.inside ∧ '\n' ∉ t

theorem StaysInside.append {s t : List Char} (first : StaysInside s) (second : StaysInside t) :
    StaysInside (s ++ t) := by
  refine ⟨by rw [Nest.reach_append, first.1, second.1], fun mem => ?_⟩
  rcases List.mem_append.1 mem with inS | inT
  · exact first.2 inS
  · exact second.2 inT

theorem staysInside_of_plain {t : List Char} (plain : ∀ c ∈ t, c ≠ '"' ∧ c ≠ '\\' ∧ c ≠ '\n') :
    StaysInside t := by
  induction t with
  | nil => exact ⟨rfl, List.not_mem_nil⟩
  | cons c t ih =>
    obtain ⟨notQuote, notBackslash, notLine⟩ := plain c List.mem_cons_self
    have rest := ih (fun d mem => plain d (List.mem_cons_of_mem c mem))
    refine ⟨?_, ?_⟩
    · rw [Nest.reach_cons, show Nest.inside.feed c = Nest.inside by
        simp [Nest.feed, Nest.inside, notQuote, notBackslash], rest.1]
    · rintro (_ | ⟨_, inT⟩)
      · exact notLine rfl
      · exact rest.2 inT

theorem hexValue_plain {x : Char} {v : Nat} (hex : hexValue? x = some v) :
    x ≠ '"' ∧ x ≠ '\\' ∧ x ≠ '\n' := by
  refine ⟨?_, ?_, ?_⟩ <;> (rintro rfl; simp +decide [hexValue?] at hex)

theorem mapM_hexValue : ∀ {l : List Char} {r : List Nat}, l.mapM hexValue? = some r →
    r.length = l.length ∧ ∀ x ∈ l, x ≠ '"' ∧ x ≠ '\\' ∧ x ≠ '\n'
  | [], r, mapped => by simp at mapped; subst mapped; simp
  | x :: l, r, mapped => by
    simp only [List.mapM_cons, Option.bind_eq_bind, Option.bind_eq_some_iff, Option.pure_def,
      Option.some.injEq] at mapped
    obtain ⟨v, hex, vs, rest, rfl⟩ := mapped
    obtain ⟨length, plain⟩ := mapM_hexValue rest
    refine ⟨by simp [length], fun y mem => ?_⟩
    rcases List.mem_cons.1 mem with rfl | inL
    · exact hexValue_plain hex
    · exact plain y inL

theorem scanHex4_done {cs : List Char} {v k : Nat} (done : scanHex4 cs = .done v k) :
    k = 4 ∧ 4 ≤ cs.length ∧ ∀ x ∈ cs.take 4, x ≠ '"' ∧ x ≠ '\\' ∧ x ≠ '\n' := by
  unfold scanHex4 at done
  dsimp only at done
  split at done
  · cases done
  split at done
  · next a b c d mapped =>
    cases done
    obtain ⟨length, plain⟩ := mapM_hexValue mapped
    simp only [List.length_cons, List.length_nil, List.length_take] at length
    exact ⟨rfl, by omega, plain⟩
  · cases done

/-- A backslash inside a string takes the next character with it. -/
theorem StaysInside.escape {x : Char} (line : x ≠ '\n') {t : List Char} (rest : StaysInside t) :
    StaysInside ('\\' :: x :: t) := by
  refine ⟨rest.1, fun mem => ?_⟩
  simp only [List.mem_cons] at mem
  rcases mem with same | same | inT
  · exact absurd same (by decide)
  · exact line same.symm
  · exact rest.2 inT

theorem scanUnicode_done {cs out : List Char} {k : Nat} (done : scanUnicode cs = .done out k) :
    k ≤ cs.length ∧ StaysInside (cs.take k) := by
  unfold scanUnicode at done
  split at done
  · cases done
  rename_i n used hex
  obtain ⟨-, long, plain⟩ := scanHex4_done hex
  split at done
  · cases done
  split at done
  · cases done
    exact ⟨long, staysInside_of_plain plain⟩
  -- a leading surrogate: a second escape of four hex digits follows
  split at done
  · cases done
  · split at done
    · cases done
    · split at done
      · cases done
      split at done
      · cases done
        rename_i hex' after _ _ _ hexLow _
        obtain ⟨-, long', plain'⟩ := scanHex4_done hexLow
        have whole : cs = cs.take 4 ++ '\\' :: 'u' :: hex' := by
          rw [← after, List.take_append_drop]
        have taken : cs.take 10 = cs.take 4 ++ '\\' :: 'u' :: hex'.take 4 := by
          nth_rewrite 1 [whole]
          rw [List.take_append, List.take_of_length_le (by simp), List.length_take,
            Nat.min_eq_left long]
          rfl
        have length := congrArg List.length whole
        simp only [List.length_append, List.length_take, List.length_cons, Nat.min_eq_left long] at length
        refine ⟨by omega, ?_⟩
        rw [taken]
        exact (staysInside_of_plain plain).append ((staysInside_of_plain plain').escape (by decide))
      · cases done
    · cases done
  · cases done

/-- Every escape but `u` is one character, and none starts with a line break. -/
theorem scanEscape_letter {c : Char} {more out : List Char} {k : Nat}
    (done : scanEscape (c :: more) = .done out k) :
    c ≠ '\n' ∧ (k = 1 ∨ ∃ out' n, scanUnicode more = .done out' n ∧ k = n + 1) := by
  have line : c ≠ '\n' := by
    rintro rfl
    rw [show scanEscape ('\n' :: more) = .fault .invalidEscape 1 false from rfl] at done
    cases done
  refine ⟨line, ?_⟩
  rw [scanEscape] at done
  -- the eight one-letter escapes, in the order the scanner tries them
  iterate 8
    rcases ite_eq_iff.1 done with ⟨-, one⟩ | ⟨-, done⟩
    · cases one
      exact .inl rfl
  rcases ite_eq_iff.1 done with ⟨-, unicode⟩ | ⟨-, done⟩
  · cases read : scanUnicode more with
    | fault f n p => rw [read] at unicode; cases unicode
    | done out' n =>
      rw [read] at unicode
      cases unicode
      exact .inr ⟨_, n, rfl, rfl⟩
  · cases done

theorem scanEscape_done {cs out : List Char} {k : Nat} (done : scanEscape cs = .done out k) :
    k ≤ cs.length ∧ ∃ x t, cs.take k = x :: t ∧ x ≠ '\n' ∧ StaysInside t := by
  cases cs with
  | nil => cases done
  | cons c more =>
    obtain ⟨line, rfl | ⟨out', n, read, rfl⟩⟩ := scanEscape_letter done
    · exact ⟨by simp, c, [], rfl, line, staysInside_of_plain (by simp)⟩
    · obtain ⟨long, inside⟩ := scanUnicode_done read
      exact ⟨by simp; omega, c, more.take n, by simp, line, inside⟩

/-- What the string scan takes after the opening quote: a piece that stays inside the string, and
the closing quote. -/
theorem scanChars_done {cs acc : List Char} {n : Nat} {s : String} {k : Nat}
    (done : scanChars cs acc n = .done s k) :
    n < k ∧ k ≤ n + cs.length ∧ ∃ t, cs.take (k - n) = t ++ ['"'] ∧ StaysInside t := by
  fun_induction scanChars cs acc n with
  | case1 => cases done
  | case2 acc n c more quote =>
    cases done
    refine ⟨by omega, by simp, [], ?_, staysInside_of_plain (by simp)⟩
    rw [Nat.add_sub_cancel_left, List.take_succ_cons, List.take_zero, eq_of_beq quote]
    rfl
  | case3 acc n c more notQuote backslash out j escaped ih =>
    obtain ⟨lo, hi, t, taken, inside⟩ := ih done
    obtain ⟨long, x, e, escText, line, escInside⟩ := scanEscape_done escaped
    refine ⟨by omega, ?_, '\\' :: x :: (e ++ t), ?_, (escInside.escape line).append inside⟩
    · simp only [List.length_drop] at hi
      simp only [List.length_cons]
      omega
    · rw [show k - n = (j + (k - (n + 1 + j))) + 1 by omega, List.take_succ_cons, List.take_add,
        escText, taken, eq_of_beq backslash]
      simp
  | case4 => cases done
  | case5 => cases done
  | case6 acc n c more notQuote notBackslash visible ih =>
    obtain ⟨lo, hi, t, taken, inside⟩ := ih done
    have plain : StaysInside [c] := staysInside_of_plain (by
      intro d mem
      simp only [List.mem_singleton] at mem
      subst mem
      refine ⟨by simpa using notQuote, by simpa using notBackslash, ?_⟩
      rintro rfl
      exact visible (by decide))
    refine ⟨by omega, by simp only [List.length_cons]; omega, c :: t, ?_, plain.append inside⟩
    rw [show k - n = (k - (n + 1)) + 1 by omega, List.take_succ_cons, taken]
    rfl

theorem nested_string {t : List Char} (inside : StaysInside t) : Nested ('"' :: (t ++ ['"'])) 0 := by
  refine ⟨?_, fun a b split => ?_⟩
  · rw [Nest.reach_cons, show (Nest.out 0).feed '"' = Nest.inside from rfl, Nest.reach_append, inside.1]
    rfl
  · have line : '\n' ∈ '"' :: (t ++ ['"']) := by
      rw [split]
      exact List.mem_append_right _ List.mem_cons_self
    simp only [List.mem_cons, List.mem_append] at line
    rcases line with same | inT | same | nowhere
    · exact absurd same (by decide)
    · exact (inside.2 inT).elim
    · exact absurd same (by decide)
    · cases nowhere

theorem nested_number {ch : Char} {more : List Char} {k : Nat} (sign : neutral ch = true)
    (took : Took more 0 k) : Nested (ch :: more.take k) 0 := by
  refine Nested.of_neutral fun c mem => ?_
  rcases List.mem_cons.1 mem with rfl | taken
  · exact sign
  · exact neutral_of_numberChar (took.2.2 c (by simpa using taken))

/-! ## The reader -/

/-- Blanks, then a character and the text after it. -/
theorem Cursor.skipBlanks_eq_nil {c0 : Cursor} (empty : c0.rest.dropWhile blank = []) :
    ∃ line column h, c0.skipBlanks = ⟨⟨[], line, column⟩, h⟩ := by
  have restEq := Cursor.skipBlanks_rest c0
  rw [empty] at restEq
  generalize c0.skipBlanks = s at restEq ⊢
  obtain ⟨⟨rest, line, column⟩, h⟩ := s
  dsimp only at restEq
  subst restEq
  exact ⟨line, column, h, rfl⟩

/-- A comma and the blanks after it. -/
theorem nested_comma (more : List Char) : Nested (',' :: more.takeWhile blank) 0 := by
  refine Nested.of_neutral fun c mem => ?_
  rcases List.mem_cons.1 mem with rfl | inBlanks
  · rfl
  · exact neutral_of_blank (List.all_eq_true.1 List.all_takeWhile c inBlanks)

theorem split_blanks {rest more : List Char} {ch : Char} (front : rest.dropWhile blank = ch :: more) :
    rest = rest.takeWhile blank ++ ch :: more ∧ Blanks (rest.takeWhile blank) :=
  ⟨by rw [← front, List.takeWhile_append_dropWhile],
    fun c mem => List.all_eq_true.1 List.all_takeWhile c mem⟩

/-- What the reader took for a value: blanks, then the text of a scalar, or an opening bracket and
what reading the items or entries after it took. -/
theorem readValue_took {budget : Nat} {c0 : Cursor} {v : Value} {d : Cursor}
    {h : d.rest.length < c0.rest.length} (ok : readValue budget c0 = .ok ⟨(v, d), h⟩) :
    ∃ b ch more, c0.rest = b ++ ch :: more ∧ Blanks b ∧
      ((ch ≠ '{' ∧ ∃ k, d.rest = more.drop k ∧ Nested (ch :: more.take k) 0) ∨
        ∃ c, c.rest = more ∧ (ch = '{' ∨ ch = '[') ∧
          ((∃ items h', readItems (budget - 1) c true [] = .ok ⟨(items, d), h'⟩) ∨
            ∃ entries h', readEntries (budget - 1) c true [] = .ok ⟨(entries, d), h'⟩)) := by
  cases front : c0.rest.dropWhile blank with
  | nil =>
    obtain ⟨e, failed⟩ := readValue_blank budget front
    rw [failed] at ok
    cases ok
  | cons ch more =>
    obtain ⟨split, blanks⟩ := split_blanks front
    refine ⟨_, ch, more, split, blanks, ?_⟩
    obtain ⟨line, column, hc, skipped⟩ := Cursor.skipBlanks_eq front
    rw [readValue, skipped] at ok
    dsimp only at ok
    -- a word: the letters after its first one
    have word : ∀ {expected : List Char} {wrap : Unit → Value},
        finishScan ⟨ch :: more, line, column⟩ ch more rfl _ hc wrap (scanWord expected more) =
          .ok ⟨(v, d), h⟩ → (∀ c ∈ ch :: expected, neutral c = true) →
        ch ≠ '{' ∧ ∃ k, d.rest = more.drop k ∧ Nested (ch :: more.take k) 0 := by
      intro expected wrap read quiet
      obtain ⟨_, k, scanned, -, rest⟩ := finishScan_eq_ok read
      obtain ⟨rfl, took⟩ := scanWord_go_done scanned
      refine ⟨fun same => ?_, _, rest, Nested.of_neutral ?_⟩
      · rw [same] at quiet
        exact absurd (quiet '{' List.mem_cons_self) (by decide)
      · rwa [Nat.zero_add, took]
    rcases ite_eq_iff.1 ok with ⟨isN, ok⟩ | ⟨-, ok⟩
    · exact .inl (word ok (List.all_eq_true.1 (by rw [eq_of_beq isN]; rfl)))
    rcases ite_eq_iff.1 ok with ⟨isT, ok⟩ | ⟨-, ok⟩
    · exact .inl (word ok (List.all_eq_true.1 (by rw [eq_of_beq isT]; rfl)))
    rcases ite_eq_iff.1 ok with ⟨isF, ok⟩ | ⟨-, ok⟩
    · exact .inl (word ok (List.all_eq_true.1 (by rw [eq_of_beq isF]; rfl)))
    rcases ite_eq_iff.1 ok with ⟨minus, ok⟩ | ⟨-, ok⟩
    · obtain ⟨_, k, scanned, -, rest⟩ := finishScan_eq_ok ok
      obtain ⟨took, -⟩ := scanNumber_confined false scanned
      exact .inl ⟨by rw [eq_of_beq minus]; decide, k, rest,
        nested_number (by rw [eq_of_beq minus]; rfl) took⟩
    rcases ite_eq_iff.1 ok with ⟨digit, ok⟩ | ⟨-, ok⟩
    · obtain ⟨_, k, scanned, -, rest⟩ := finishScan_eq_ok ok
      obtain ⟨took, -⟩ := scanDigits_confined true ch scanned
      exact .inl ⟨by rintro rfl; exact absurd digit (by decide), k, rest,
        nested_number (neutral_of_numberChar (numberChar_of_digit digit)) took⟩
    rcases ite_eq_iff.1 ok with ⟨quote, ok⟩ | ⟨-, ok⟩
    · obtain ⟨_, k, scanned, -, rest⟩ := finishScan_eq_ok ok
      obtain ⟨-, -, t, taken, inside⟩ := scanChars_done scanned
      refine .inl ⟨by rw [eq_of_beq quote]; decide, k, rest, ?_⟩
      rw [Nat.sub_zero] at taken
      rw [taken, eq_of_beq quote]
      exact nested_string inside
    rcases ite_eq_iff.1 ok with ⟨list, ok⟩ | ⟨-, ok⟩
    · split at ok
      · cases ok
      split at ok
      · cases ok
      · next items d' hd' read =>
        cases ok
        exact .inr ⟨_, Cursor.past_rest _ _ _, .inr (eq_of_beq list), .inl ⟨items, hd', read⟩⟩
    rcases ite_eq_iff.1 ok with ⟨map, ok⟩ | ⟨-, ok⟩
    · split at ok
      · cases ok
      split at ok
      · cases ok
      · next entries d' hd' read =>
        cases ok
        exact .inr ⟨_, Cursor.past_rest _ _ _, .inl (eq_of_beq map), .inr ⟨entries, hd', read⟩⟩
    · cases ok

theorem readItems_took {budget : Nat} {c0 : Cursor} {first : Bool} {acc r : List Value} {d : Cursor}
    {h : d.rest.length < c0.rest.length} (ok : readItems budget c0 first acc = .ok ⟨(r, d), h⟩) :
    ∃ b ch more, c0.rest = b ++ ch :: more ∧ Blanks b ∧
      ((ch = ']' ∧ d.rest = more) ∨
        ∃ lead c v d' h' acc', ch :: more = lead ++ c.rest ∧ Nested lead 0 ∧
          readValue budget c = .ok ⟨(v, d'), h'⟩ ∧
          ∃ h'', readItems budget d' false acc' = .ok ⟨(r, d), h''⟩) := by
  cases front : c0.rest.dropWhile blank with
  | nil =>
    obtain ⟨line, column, hc, skipped⟩ := Cursor.skipBlanks_eq_nil front
    rw [readItems, skipped] at ok
    cases ok
  | cons ch more =>
    obtain ⟨split, blanks⟩ := split_blanks front
    refine ⟨_, ch, more, split, blanks, ?_⟩
    obtain ⟨line, column, hc, skipped⟩ := Cursor.skipBlanks_eq front
    rw [readItems, skipped] at ok
    dsimp only at ok
    split at ok
    · next close =>
      cases ok
      exact .inl ⟨eq_of_beq close, Cursor.past_rest _ _ _⟩
    split at ok
    · -- the first item, right after the bracket
      split at ok
      · cases ok
      split at ok
      · cases ok
      next v d' hd' read _ r' hr readTail =>
      cases ok
      exact .inr ⟨[], _, v, d', hd', _, rfl, Nested.nil, read, hr, readTail⟩
    split at ok
    · next comma =>
      -- a comma and blanks before each later item
      have after : (↑(Cursor.past ⟨ch :: more, line, column⟩ ch more).skipBlanks : Cursor).rest =
          more.dropWhile blank := by
        rw [Cursor.skipBlanks_rest, Cursor.past_rest]
      split at ok
      · cases ok
      · cases ok
      split at ok
      · cases ok
      next v d' hd' read =>
      split at ok
      · cases ok
      next r' hr readTail =>
      cases ok
      refine .inr ⟨',' :: more.takeWhile blank, _, v, d', hd', _, ?_, nested_comma more, read, hr, readTail⟩
      rw [after, eq_of_beq comma, List.cons_append, List.takeWhile_append_dropWhile]
    · cases ok

theorem readEntries_took {budget : Nat} {c0 : Cursor} {first : Bool} {acc r : Map} {d : Cursor}
    {h : d.rest.length < c0.rest.length} (ok : readEntries budget c0 first acc = .ok ⟨(r, d), h⟩) :
    ∃ b ch more, c0.rest = b ++ ch :: more ∧ Blanks b ∧
      ((ch = '}' ∧ d.rest = more) ∨
        ∃ lead c v d' h' acc', ch :: more = lead ++ c.rest ∧ Nested lead 0 ∧
          readValue budget c = .ok ⟨(v, d'), h'⟩ ∧
          ∃ h'', readEntries budget d' false acc' = .ok ⟨(r, d), h''⟩) := by
  cases front : c0.rest.dropWhile blank with
  | nil =>
    obtain ⟨line, column, hc, skipped⟩ := Cursor.skipBlanks_eq_nil front
    rw [readEntries, skipped] at ok
    cases ok
  | cons ch more =>
    obtain ⟨split, blanks⟩ := split_blanks front
    refine ⟨_, ch, more, split, blanks, ?_⟩
    obtain ⟨line, column, hc, skipped⟩ := Cursor.skipBlanks_eq front
    rw [readEntries, skipped] at ok
    dsimp only at ok
    split at ok
    · next close =>
      cases ok
      exact .inl ⟨eq_of_beq close, Cursor.past_rest _ _ _⟩
    split at ok
    · cases ok
    next _ k hk keyAt =>
    -- the key starts here for the first entry, after a comma and blanks for the others
    obtain ⟨pre, before, preNested⟩ : ∃ pre, ch :: more = pre ++ k.rest ∧ Nested pre 0 := by
      split at keyAt
      · cases keyAt
        exact ⟨[], rfl, Nested.nil⟩
      split at keyAt
      · next comma =>
        cases keyAt
        refine ⟨',' :: more.takeWhile blank, ?_, nested_comma more⟩
        rw [Cursor.skipBlanks_rest, Cursor.past_rest, eq_of_beq comma, List.cons_append,
          List.takeWhile_append_dropWhile]
      · cases keyAt
    split at ok
    · cases ok
    next q keyText keyRest =>
    split at ok
    · cases ok
    split at ok
    · cases ok
    next isQuote =>
    split at ok
    · cases ok
    next key d1 hd1 scanned =>
    obtain ⟨_, j, keyScan, -, afterKey⟩ := finishScan_eq_ok scanned
    obtain ⟨-, -, t, taken, inside⟩ := scanChars_done keyScan
    rw [Nat.sub_zero] at taken
    split at ok
    · cases ok
    next colon afterColon colonRest =>
    split at ok
    · cases ok
    next isColon =>
    split at ok
    · cases ok
    next v f hf read =>
    split at ok
    · cases ok
    next r' hr readTail =>
    cases ok
    -- the blanks between the key and the colon
    have colonFront : d1.rest.dropWhile blank = colon :: afterColon := by
      rw [← Cursor.skipBlanks_rest, colonRest]
    obtain ⟨beforeColon, blanks'⟩ := split_blanks colonFront
    generalize d1.rest.takeWhile blank = between at beforeColon blanks'
    have quote : q = '"' := by simpa using isQuote
    have colonIs : colon = ':' := by simpa using isColon
    subst quote colonIs
    refine .inr ⟨pre ++ ('"' :: (t ++ ['"'])) ++ between ++ [':'], _, v, f, hf, _,
      ?_, ?_, read, hr, readTail⟩
    · rw [Cursor.past_rest, before, keyRest, ← List.take_append_drop j keyText, ← afterKey,
        taken, beforeColon]
      simp
    · have colonNested : Nested [':'] 0 := Nested.of_neutral fun c mem => by
        rw [List.mem_singleton.1 mem]
        rfl
      simpa using (((preNested.append (Int.le_refl 0) (nested_string inside)).append (by decide)
        (Nested.of_blanks blanks')).append (by decide) colonNested)

/-- What reading a value at a cursor takes is nested at depth zero. -/
def ValueNested (budget : Nat) (c : Cursor) : Prop :=
  ∀ v d h, readValue budget c = .ok ⟨(v, d), h⟩ → ∃ u, c.rest = u ++ d.rest ∧ Nested u 0

/-- What reading the items of a list at a cursor takes closes one bracket more than it opens. -/
def ItemsNested (budget : Nat) (c : Cursor) : Prop :=
  ∀ first acc r d h, readItems budget c first acc = .ok ⟨(r, d), h⟩ →
    ∃ u, c.rest = u ++ d.rest ∧ Nested u (-1)

/-- What reading the entries of a map at a cursor takes closes one bracket more than it opens. -/
def EntriesNested (budget : Nat) (c : Cursor) : Prop :=
  ∀ first acc r d h, readEntries budget c first acc = .ok ⟨(r, d), h⟩ →
    ∃ u, c.rest = u ++ d.rest ∧ Nested u (-1)

theorem valueNested_of {budget : Nat} {c : Cursor}
    (inner : ∀ budget' (c' : Cursor), c'.rest.length < c.rest.length →
      ItemsNested budget' c' ∧ EntriesNested budget' c') :
    ValueNested budget c := by
  intro v d h ok
  obtain ⟨b, ch, more, split, blanks, ⟨-, k, left, token⟩ | ⟨c', rest', opens, inside⟩⟩ :=
    readValue_took ok
  · refine ⟨b ++ ch :: more.take k, by rw [split, left]; simp, ?_⟩
    simpa using (Nested.of_blanks blanks).append (Int.le_refl 0) token
  · have shorter : c'.rest.length < c.rest.length := by
      rw [rest', split]
      simp only [List.length_append, List.length_cons]
      omega
    obtain ⟨w, took, nested⟩ : ∃ w, more = w ++ d.rest ∧ Nested w (-1) := by
      rw [← rest']
      rcases inside with ⟨items, h', read⟩ | ⟨entries, h', read⟩
      · exact (inner _ c' shorter).1 true [] items d h' read
      · exact (inner _ c' shorter).2 true [] entries d h' read
    have bracket : Nested [ch] 1 := nested_bracket
      (by rcases opens with rfl | rfl <;> rfl) (by rcases opens with rfl | rfl <;> decide)
    refine ⟨b ++ ch :: w, by rw [split, took]; simp, ?_⟩
    simpa using ((Nested.of_blanks blanks).append (Int.le_refl 0) bracket).append (by decide) nested

/-- The items or entries after an opening bracket: blanks and the closing bracket, or a lead
(a comma, a key) and a value, then the rest. -/
theorem nested_close {c d : Cursor} {b more : List Char} {ch : Char}
    (split : c.rest = b ++ ch :: more) (blanks : Blanks b) (close : ch = '}' ∨ ch = ']')
    (left : d.rest = more) : ∃ u, c.rest = u ++ d.rest ∧ Nested u (-1) := by
  have bracket : Nested [ch] (-1) := nested_bracket
    (by rcases close with rfl | rfl <;> rfl) (by rcases close with rfl | rfl <;> decide)
  exact ⟨b ++ [ch], by rw [split, left]; simp,
    by simpa using (Nested.of_blanks blanks).append (Int.le_refl 0) bracket⟩

theorem nested_entry {c c1 d1 d : Cursor} {b more lead u1 w : List Char} {ch : Char}
    (split : c.rest = b ++ ch :: more) (blanks : Blanks b) (before : ch :: more = lead ++ c1.rest)
    (leadNested : Nested lead 0) (value : c1.rest = u1 ++ d1.rest) (valueNested : Nested u1 0)
    (tail : d1.rest = w ++ d.rest) (tailNested : Nested w (-1)) :
    ∃ u, c.rest = u ++ d.rest ∧ Nested u (-1) := by
  refine ⟨b ++ lead ++ u1 ++ w, by rw [split, before, value, tail]; simp, ?_⟩
  simpa using (((Nested.of_blanks blanks).append (Int.le_refl 0) leadNested).append
    (Int.le_refl 0) valueNested).append (Int.le_refl 0) tailNested

theorem itemsNested_of {budget : Nat} {c : Cursor}
    (values : ∀ c' : Cursor, c'.rest.length ≤ c.rest.length → ValueNested budget c')
    (tails : ∀ c' : Cursor, c'.rest.length < c.rest.length → ItemsNested budget c') :
    ItemsNested budget c := by
  intro first acc r d h ok
  obtain ⟨b, ch, more, split, blanks, ⟨close, left⟩ |
    ⟨lead, c1, v, d1, h1, acc', before, leadNested, read, h2, readTail⟩⟩ := readItems_took ok
  · exact nested_close split blanks (.inr close) left
  · have within : c1.rest.length ≤ c.rest.length := by
      rw [split, before]
      simp only [List.length_append]
      omega
    have shorter : d1.rest.length < c1.rest.length := h1
    obtain ⟨u1, value, valueNested⟩ := values c1 within v d1 h1 read
    obtain ⟨w, tail, tailNested⟩ := tails d1 (by omega) false acc' r d h2 readTail
    exact nested_entry split blanks before leadNested value valueNested tail tailNested

theorem entriesNested_of {budget : Nat} {c : Cursor}
    (values : ∀ c' : Cursor, c'.rest.length ≤ c.rest.length → ValueNested budget c')
    (tails : ∀ c' : Cursor, c'.rest.length < c.rest.length → EntriesNested budget c') :
    EntriesNested budget c := by
  intro first acc r d h ok
  obtain ⟨b, ch, more, split, blanks, ⟨close, left⟩ |
    ⟨lead, c1, v, d1, h1, acc', before, leadNested, read, h2, readTail⟩⟩ := readEntries_took ok
  · exact nested_close split blanks (.inl close) left
  · have within : c1.rest.length ≤ c.rest.length := by
      rw [split, before]
      simp only [List.length_append]
      omega
    have shorter : d1.rest.length < c1.rest.length := h1
    obtain ⟨u1, value, valueNested⟩ := values c1 within v d1 h1 read
    obtain ⟨w, tail, tailNested⟩ := tails d1 (by omega) false acc' r d h2 readTail
    exact nested_entry split blanks before leadNested value valueNested tail tailNested

/-- Everything the reader takes is nested: a value at depth zero, the items or entries after an
opening bracket one below. -/
theorem reader_nested : ∀ n budget (c : Cursor), c.rest.length = n →
    ValueNested budget c ∧ ItemsNested budget c ∧ EntriesNested budget c := by
  intro n
  induction n using Nat.strong_induction_on with
  | _ n ih =>
    intro budget c length
    -- a value reads the items or entries of shorter texts; these read values of texts no longer
    have value : ∀ budget' (c' : Cursor), c'.rest.length ≤ n → ValueNested budget' c' := by
      intro budget' c' within
      rcases Nat.lt_or_eq_of_le within with shorter | same
      · exact (ih _ shorter budget' c' rfl).1
      · exact valueNested_of fun budget'' c'' shorter =>
          (ih _ (by omega) budget'' c'' rfl).2
    refine ⟨value budget c (by omega), itemsNested_of (fun c' within => value budget c' (by omega))
      (fun c' shorter => (ih _ (by omega) budget c' rfl).2.1),
      entriesNested_of (fun c' within => value budget c' (by omega))
        (fun c' shorter => (ih _ (by omega) budget c' rfl).2.2)⟩

/-- The text of a plain value is nested at depth zero. -/
theorem Spelled.nested {v : Value} {j : List Char} (spelled : Spelled v j) {budget : Nat}
    (plain : Plain budget v) : Nested j 0 := by
  have stops : ∀ n, v = .num n → Stops [] := fun _ _ c first => by cases first
  obtain ⟨d, h, read, left⟩ := readValue_spelled v spelled plain stops ⟨j, 1, 0⟩ (by simp)
  obtain ⟨u, took, nested⟩ := (reader_nested _ budget ⟨j, 1, 0⟩ rfl).1 v d h read
  rw [left, List.append_nil] at took
  have same : j = u := took
  rwa [same]

/-- A text that opens a brace and, after a line break, ends with a value's text that ends with a
closing brace reads as nothing: the reader cannot close that first brace. -/
theorem read_open_line {x j : List Char} (nested : Nested j 0)
    (ends : j.getLast? = some '}') (v : Value) :
    read (String.ofList ('{' :: (x ++ '\n' :: j))) ≠ .ok v := by
  intro ok
  obtain ⟨d, h, readOk, trailing⟩ := read_ok ok
  obtain ⟨b, ch, more, split, blanks, scalar | ⟨c', rest', -, inside⟩⟩ := readValue_took readOk
  all_goals
    rw [Cursor.start, String.toList_ofList] at split
    obtain ⟨rfl, rfl, rfl⟩ : b = [] ∧ ch = '{' ∧ more = x ++ '\n' :: j := by
      cases b with
      | nil => simpa using split.symm
      | cons e b =>
        obtain ⟨rfl, -⟩ := List.cons_eq_cons.1 split
        exact absurd (blanks '{' List.mem_cons_self) (by decide)
  · exact scalar.1 rfl
  -- the brace opened on the first line is still open after the value's text
  obtain ⟨w, took, closes⟩ : ∃ w, x ++ '\n' :: j = w ++ d.rest ∧ Nested w (-1) := by
    rw [← rest']
    rcases inside with ⟨items, h', read⟩ | ⟨entries, h', read⟩
    · exact (reader_nested _ _ c' rfl).2.1 true [] items d h' read
    · exact (reader_nested _ _ c' rfl).2.2 true [] entries d h' read
  have whole : d.rest = [] := by
    cases left : d.rest with
    | nil => rfl
    | cons e es =>
      -- the text ends with the closing brace, which is no blank
      have last : (w ++ d.rest).getLast? = some '}' := by
        rw [← took, List.getLast?_append, List.getLast?_cons, ends]
        rfl
      rw [left, List.getLast?_append_of_ne_nil _ (List.cons_ne_nil e es)] at last
      have mem : '}' ∈ d.rest := by
        rw [left]
        exact List.mem_of_getLast? last
      exact absurd (List.dropWhile_eq_nil_iff.1 trailing '}' mem) (by decide)
  rw [whole, List.append_nil] at took
  subst took
  obtain ⟨depth, nonneg, reached⟩ := closes.2 x j rfl
  have after : (Nest.out 0).reach (x ++ '\n' :: j) = .out depth := by
    rw [Nest.reach_append, reached, Nest.reach_cons, show (Nest.out depth).feed '\n' = .out depth from rfl,
      Nest.out_eq_deeper depth, Nest.reach_deeper, nested.1, Nest.deeper_out, Int.zero_add]
  rw [closes.1] at after
  cases after
  omega

end PromptPipeline.Json
