import PromptPipeline.Proofs.Path
import PromptPipeline.Proofs.NumberText
/-!
Where expressions fail to read.

The lexer takes a number as a run of digits with at most one point and a second run, and the
text of such a number always reads as a double (`Lexer.scanNumber_lexeme`): the branch that would
report an unreadable number is never taken, and the lexer's value is the one read from the text.

Every failure carries a byte offset into the source, and that offset is a position between two
characters (`Expr.parse_faults_located`). The lexer walks the source keeping the offset of the
text it has left, so each token and each fault of the lexer stands at a character of the source
(`Lexer.tokenize_lexed`). The reader only ever reports the offset of one of the tokens it was
given, or the end of the text when it ran out (`Parser.Confines`): every reading function fails at
such an offset or leaves a tail of its tokens, which a strong induction over the number of tokens
carries through the mutual recursion.
-/
namespace PromptPipeline

namespace Decimal

/-- A text that starts with a digit is none of the words `inf`, `infinity` and `nan`: it reads as
the unsigned decimal it spells. -/
theorem ofString?_of_digit {c : Char} {rest : List Char} (digit : c.isDigit = true) :
    ofString? (String.ofList (c :: rest)) =
      (readUnsigned? (c :: rest)).map fun (d, g) => nearest false d g := by
  unfold ofString?
  simp only [String.toList_ofList]
  split
  · rename_i same; cases same; simp at digit
  · rename_i same; cases same; simp at digit
  · dsimp only
    rw [lower_ne_word_of_digit digit rest "inf" 'i' rfl rfl,
      lower_ne_word_of_digit digit rest "infinity" 'i' rfl rfl,
      lower_ne_word_of_digit digit rest "nan" 'n' rfl rfl]
    rfl

/-- A run of digits reads as the double nearest to its value. -/
theorem ofString?_digits {w : List Char} (digits : IsDigits w) :
    ofString? (String.ofList w) = some (nearest false (digitsValue w) 0) := by
  obtain ⟨nonempty, all⟩ := digits
  obtain _ | ⟨c, rest⟩ := w
  · exact absurd rfl nonempty
  rw [ofString?_of_digit (all c List.mem_cons_self), readUnsigned?_digits all nonempty]
  rfl

/-- Two runs of digits with a point between them read as the double nearest to the decimal. -/
theorem ofString?_decimal {w f : List Char} (whole : IsDigits w) (fraction : IsDigits f) :
    ofString? (String.ofList (w ++ '.' :: f)) =
      some (nearest false (digitsValue (w ++ f)) (-(f.length : Int))) := by
  obtain ⟨nonempty, all⟩ := whole
  obtain _ | ⟨c, rest⟩ := w
  · exact absurd rfl nonempty
  rw [List.cons_append, ofString?_of_digit (all c List.mem_cons_self), ← List.cons_append,
    readUnsigned?_point all nonempty fraction.2]
  rfl

end Decimal

namespace Lexer

/-- A digit followed by the digits that open a text is a run of digits. -/
theorem isDigits_takeWhile {d : Char} (digit : d.isDigit = true) (cs : List Char) :
    IsDigits (d :: cs.takeWhile Char.isDigit) :=
  ⟨List.cons_ne_nil _ _, fun c mem => by
    rcases List.mem_cons.mp mem with rfl | taken
    · exact digit
    · exact List.mem_takeWhile_imp taken⟩

/-- What the lexer reads as a number is a run of digits, with a point and a second run when a
digit follows the point, and the double read from that text is the token's value. -/
theorem scanNumber_lexeme {d : Char} (digit : d.isDigit = true) (more : List Char) :
    ∃ lexeme, d :: more = lexeme ++ (scanNumber d more).2.1 ∧
      Decimal.ofString? (String.ofList lexeme) = some (scanNumber d more).1 := by
  have whole := isDigits_takeWhile digit more
  have split : more = more.takeWhile Char.isDigit ++ more.dropWhile Char.isDigit := by simp
  simp only [scanNumber]
  split
  · rename_i d' after _ shape _
    split
    · -- a digit after the point: the number has a fraction
      rename_i next
      refine ⟨_, ?_, Decimal.ofString?_decimal whole (isDigits_takeWhile next after)⟩
      have point : after = after.takeWhile Char.isDigit ++ after.dropWhile Char.isDigit := by simp
      rw [shape, point] at split
      exact congrArg (d :: ·) (split.trans (by simp))
    · exact ⟨_, congrArg (d :: ·) (split.trans (by rw [shape]; rfl)), Decimal.ofString?_digits whole⟩
  · exact ⟨_, congrArg (d :: ·) split, Decimal.ofString?_digits whole⟩

/-! ### Offsets of the lexer -/

theorem byteSize_eq_sum (cs : List Char) : byteSize cs = (cs.map Char.utf8Size).sum := by
  simp [byteSize, List.sum_eq_foldl]

@[simp] theorem byteSize_nil : byteSize [] = 0 := rfl

@[simp] theorem byteSize_cons (c : Char) (cs : List Char) :
    byteSize (c :: cs) = c.utf8Size + byteSize cs := by
  simp [byteSize_eq_sum]

@[simp] theorem byteSize_append (a b : List Char) :
    byteSize (a ++ b) = byteSize a + byteSize b := by
  simp [byteSize_eq_sum]

theorem utf8ByteSize_ofList (cs : List Char) : (String.ofList cs).utf8ByteSize = byteSize cs := by
  induction cs with
  | nil => rfl
  | cons c cs ih =>
    rw [String.ofList_cons, String.utf8ByteSize_append, String.utf8ByteSize_singleton, ih,
      byteSize_cons]

theorem byteSize_le_of_suffix {r cs : List Char} (tail : r <:+ cs) : byteSize r ≤ byteSize cs := by
  obtain ⟨p, rfl⟩ := tail
  simp

/-- What follows a lexeme read off the front of a tail of `src` is a tail of `src`, of the bytes
of the first tail less the lexeme's. -/
theorem split_tail {src cs lexeme rest : List Char} (split : cs = lexeme ++ rest)
    (tail : cs <:+ src) : rest <:+ src ∧ byteSize cs = byteSize lexeme + byteSize rest := by
  subst split
  exact ⟨(List.suffix_append lexeme rest).trans tail, byteSize_append _ _⟩

/-- A tail of `src` that fills the bytes from `o` to the end marks a valid position of the text:
`o` is the size of the characters before the tail. -/
theorem isValid_of_tail {src r : List Char} {o : Nat} (tail : r <:+ src)
    (fills : o + byteSize r = byteSize src) : String.Pos.Raw.IsValid (String.ofList src) ⟨o⟩ := by
  obtain ⟨p, rfl⟩ := tail
  rw [byteSize_append] at fills
  rw [String.Pos.Raw.isValid_iff_exists_append]
  refine ⟨String.ofList p, String.ofList r, String.ofList_append, ?_⟩
  rw [String.Pos.Raw.ext_iff, String.byteIdx_rawEndPos, utf8ByteSize_ofList]
  dsimp only
  omega

/-- The character `c` starts at byte `o` of the text `src`: it heads a tail of `src` that fills
the bytes from `o` to the end. -/
def CharAt (src : List Char) (o : Nat) (c : Char) : Prop :=
  ∃ r, c :: r <:+ src ∧ o + byteSize (c :: r) = byteSize src

theorem CharAt.isValid {src : List Char} {o : Nat} {c : Char} (at' : CharAt src o c) :
    String.Pos.Raw.IsValid (String.ofList src) ⟨o⟩ :=
  let ⟨_, tail, fills⟩ := at'
  isValid_of_tail tail fills

/-- A fault of the lexer stands at the character that caused it: an unexpected character where it
is, an unclosed string at its opening quote. -/
def Stands (src : List Char) (e : SyntaxError) : Prop :=
  (∃ c, e.fault = .unexpectedChar c ∧ CharAt src e.offset c) ∨
    (e.fault = .unterminatedString ∧ (CharAt src e.offset '\'' ∨ CharAt src e.offset '"'))

/-- Where the lexer's results point in `src`: every token starts at a character, and a fault
stands at the character that caused it. -/
def Lexed (src : List Char) : Except SyntaxError Tokens → Prop
  | .ok ts => ∀ t ∈ ts, ∃ c, CharAt src t.2 c
  | .error e => Stands src e

theorem Lexed.cons {src : List Char} {x : Except SyntaxError Tokens} {tok : Token} {o : Nat}
    {c : Char} (head : CharAt src o c) (rest : Lexed src x) : Lexed src (x.map ((tok, o) :: ·)) := by
  rcases x with e | ts
  · exact rest
  · rintro t (_ | ⟨_, mem⟩)
    · exact ⟨c, head⟩
    · exact rest t mem

/-- What follows a string's closing quote is a tail of its body. -/
theorem scanString_suffix {quote : Char} {cs : List Char} {acc : List Char} {s : String}
    {r : {r : List Char // r.length < cs.length}} (scanned : scanString quote cs acc = some (s, r)) :
    r.1 <:+ cs := by
  fun_induction scanString quote cs acc generalizing s with
  | case1 => cases scanned
  | case2 => cases scanned
  | case3 =>
    rename_i ih
    obtain ⟨⟨s', r'⟩, inner, same⟩ := Option.map_eq_some_iff.mp scanned
    cases same
    exact (ih inner).trans ((List.suffix_cons _ _).trans (List.suffix_cons _ _))
  | case4 =>
    cases scanned
    exact List.suffix_cons _ _
  | case5 =>
    rename_i ih
    obtain ⟨⟨s', r'⟩, inner, same⟩ := Option.map_eq_some_iff.mp scanned
    cases same
    exact (ih inner).trans (List.suffix_cons _ _)

theorem symbols_nonempty : ∀ s ∈ symbols, 0 < s.length := by decide

/-- A symbol is read off the front of the text: the text is the symbol, then what follows it. -/
theorem symbol_split {c : Char} {more : List Char} {s : String}
    (found : symbols.find? (fun s => (c :: more).take s.length == s.toList) = some s) :
    c :: more = s.toList ++ more.drop (s.length - 1) := by
  have taken : (c :: more).take s.length = s.toList := by
    have agrees := List.find?_some found
    exact eq_of_beq agrees
  have long : 0 < s.length := symbols_nonempty s (List.mem_of_find?_eq_some found)
  obtain ⟨k, hk⟩ : ∃ k, s.length = k + 1 := ⟨s.length - 1, by omega⟩
  rw [← taken, hk, Nat.add_sub_cancel, List.take_succ_cons, List.cons_append, List.take_append_drop]

/-- The lexer reads `cs`, the tail of `src` from byte `o` on: its tokens start at characters of
`src`, and its faults stand at the character that caused them. Each step reads a lexeme off the
front of `cs` and goes on with the rest at the offset moved by the lexeme's bytes. -/
theorem tokenize_lexed {src : List Char} (cs : List Char) (o : Nat) (tail : cs <:+ src)
    (fills : o + byteSize cs = byteSize src) : Lexed src (tokenize cs o) := by
  fun_induction tokenize cs o with
  | case1 => intro t mem; cases mem
  | case2 o c more blank ih =>
    exact ih ((List.suffix_cons _ _).trans tail) (by simp at fills; omega)
  | case3 o c more _ digit x rest _ scanned ih =>
    obtain ⟨lexeme, split, -⟩ := scanNumber_lexeme digit more
    rw [scanned] at split
    dsimp only at split
    obtain ⟨after, sizes⟩ := split_tail split tail
    exact Lexed.cons ⟨more, tail, fills⟩ (ih after (by omega))
  | case4 o c more _ _ quote _ =>
    refine .inr ⟨rfl, ?_⟩
    rcases Bool.or_eq_true_iff.mp quote with single | double
    · exact .inl (eq_of_beq single ▸ ⟨more, tail, fills⟩)
    · exact .inr (eq_of_beq double ▸ ⟨more, tail, fills⟩)
  | case5 o c more _ _ _ s rest _ scanned ih =>
    have after : rest <:+ c :: more := (scanString_suffix scanned).trans (List.suffix_cons c more)
    have within := byteSize_le_of_suffix after
    exact Lexed.cons ⟨more, tail, fills⟩ (ih (after.trans tail) (by omega))
  | case6 o c more _ _ _ _ name _ ih =>
    have split : c :: more = name ++ more.dropWhile isNameChar := by simp [name]
    obtain ⟨after, sizes⟩ := split_tail split tail
    exact Lexed.cons ⟨more, tail, fills⟩ (ih after (by omega))
  | case7 o c more _ _ _ _ _ => exact .inl ⟨c, rfl, more, tail, fills⟩
  | case8 o c more _ _ _ _ s found ih =>
    obtain ⟨after, sizes⟩ := split_tail (symbol_split found) tail
    have size : s.utf8ByteSize = byteSize s.toList := by
      rw [← utf8ByteSize_ofList, String.ofList_toList]
    exact Lexed.cons ⟨more, tail, fills⟩ (ih after (by omega))

end Lexer

/-! ### Offsets of the reader -/

namespace Parser

/-- An offset that a failure to read `ts` may report: that of one of its tokens, or `stop`, the
end of the text. -/
def Points (stop : Nat) (ts : Tokens) (o : Nat) : Prop := o = stop ∨ ∃ tok, (tok, o) ∈ ts

/-- A reading of `ts` stays inside `ts`: it fails at an offset that `Points` allows, or it
succeeds and leaves a tail of `ts`. -/
def Confined {α : Type} {P : Tokens → Prop} (stop : Nat) (ts : Tokens) :
    Except SyntaxError (α × Subtype P) → Prop
  | .error e => Points stop ts e.offset
  | .ok (_, r) => r.1 <:+ ts

section Confined

variable {α : Type} {P : Tokens → Prop} {stop : Nat}

theorem Points.mono {ts r : Tokens} {o : Nat} (tail : r <:+ ts) : Points stop r o → Points stop ts o
  | .inl atEnd => .inl atEnd
  | .inr ⟨tok, mem⟩ => .inr ⟨tok, tail.subset mem⟩

theorem Confined.mono {ts r : Tokens} {x : Except SyntaxError (α × Subtype P)} (tail : r <:+ ts)
    (confined : Confined stop r x) : Confined stop ts x := by
  rcases x with e | ⟨a, r', _⟩
  · exact Points.mono tail confined
  · exact List.IsSuffix.trans confined tail

theorem points_offsetOf (ts : Tokens) : Points stop ts (offsetOf stop ts) := by
  rcases ts with _ | ⟨⟨tok, o⟩, rest⟩
  · exact .inl rfl
  · exact .inr ⟨tok, List.mem_cons_self⟩

theorem points_head (tok : Token) (o : Nat) (rest : Tokens) : Points stop ((tok, o) :: rest) o :=
  .inr ⟨tok, List.mem_cons_self⟩

theorem Confined.error {ts : Tokens} {x : Except SyntaxError (α × Subtype P)} {e : SyntaxError}
    (confined : Confined stop ts x) (failed : x = .error e) : Points stop ts e.offset := by
  subst failed
  exact confined

theorem Confined.ok {ts : Tokens} {x : Except SyntaxError (α × Subtype P)} {a : α} {r : Subtype P}
    (confined : Confined stop ts x) (read : x = .ok (a, r)) : r.1 <:+ ts := by
  subst read
  exact confined

theorem expect_error {s : String} {ts : Tokens} {e : SyntaxError}
    (failed : expect stop s ts = .error e) : e.offset = offsetOf stop ts := by
  unfold expect at failed
  split at failed
  · split at failed
    · cases failed
    · cases failed; rfl
  · cases failed; rfl

/-- A symbol expected after reading up to `r`, a tail of `ts`, fails at an offset of `ts`. -/
theorem expect_points {s : String} {r ts : Tokens} {e : SyntaxError} (tail : r <:+ ts)
    (failed : expect stop s r = .error e) : Points stop ts e.offset := by
  rw [expect_error failed]
  exact (points_offsetOf r).mono tail

theorem expect_suffix {s : String} {ts : Tokens} {r : {r : Tokens // r.length < ts.length}}
    (closed : expect stop s ts = .ok r) : r.1 <:+ ts := by
  obtain ⟨r, _⟩ := r
  obtain ⟨o, shape⟩ := expect_eq_ok stop closed
  show r <:+ ts
  rw [shape]
  exact List.suffix_cons _ _

theorem skip?_suffix {s : String} {ts : Tokens} {r : {r : Tokens // r.length < ts.length}}
    (found : skip? s ts = some r) : r.1 <:+ ts := by
  obtain ⟨r, _⟩ := r
  obtain ⟨o, shape⟩ := skip?_eq_some found
  show r <:+ ts
  rw [shape]
  exact List.suffix_cons _ _

end Confined

/-- Every reading function stays inside the tokens it reads, on every list of fewer than `n`
tokens. -/
structure Confines (stop n : Nat) : Prop where
  expression {ts : Tokens} {p : Nat} : ts.length < n → Confined stop ts (expression stop p ts)
  climb {ts : Tokens} {p : Nat} {x : Expr} : ts.length < n → Confined stop ts (climb stop p x ts)
  unary {ts : Tokens} : ts.length < n → Confined stop ts (unary stop ts)
  accesses {ts : Tokens} {x : Expr} : ts.length < n → Confined stop ts (accesses stop x ts)
  items {ts : Tokens} {acc : List Expr} : ts.length < n → Confined stop ts (items stop ts acc)
  entries {ts : Tokens} {acc : List (String × Expr)} : ts.length < n →
    Confined stop ts (entries stop ts acc)

section Reading

/-! Each reading function of `ts` stays inside `ts` when all of them do on shorter lists: its calls
on the same list come first, and every other call reads a tail of what was read before. -/

variable {stop : Nat}

theorem primary_confined {ts : Tokens} (ih : Confines stop ts.length) :
    Confined stop ts (primary stop ts) := by
  unfold primary
  split
  · exact .inl rfl
  · exact List.suffix_cons _ _
  · exact List.suffix_cons _ _
  · -- a word: a literal, a keyword out of place, or a name
    split
    · exact List.suffix_cons _ _
    split
    · exact List.suffix_cons _ _
    split
    · exact List.suffix_cons _ _
    split
    · exact points_head _ _ _
    · exact List.suffix_cons _ _
  · rename_i rest
    have inner : Confined stop rest (expression stop 0 rest) := ih.expression (by simp)
    split
    · next e failed => exact (inner.error failed).mono (List.suffix_cons _ _)
    · next x r₁ _ read =>
      have left : r₁ <:+ rest := inner.ok read
      split
      · next e failed => exact expect_points (left.trans (List.suffix_cons _ _)) failed
      · next r₂ closed => exact (expect_suffix closed).trans (left.trans (List.suffix_cons _ _))
  · rename_i rest
    have inner : Confined stop rest (items stop rest []) := ih.items (by simp)
    split
    · next e failed => exact (inner.error failed).mono (List.suffix_cons _ _)
    · next xs r _ read => exact (inner.ok read).trans (List.suffix_cons _ _)
  · rename_i rest
    have inner : Confined stop rest (entries stop rest []) := ih.entries (by simp)
    split
    · next e failed => exact (inner.error failed).mono (List.suffix_cons _ _)
    · next es r _ read => exact (inner.ok read).trans (List.suffix_cons _ _)
  · exact points_head _ _ _

theorem accesses_confined {ts : Tokens} (ih : Confines stop ts.length) (x : Expr) :
    Confined stop ts (accesses stop x ts) := by
  unfold accesses
  split
  · -- after a point: a name, an integral number, or a failure at the token that is neither
    rename_i rest
    split
    · next name _ r =>
      have inner : Confined stop r (accesses stop (.field x name) r) := ih.accesses (by simp)
      split
      · next e failed =>
        exact (inner.error failed).mono ((List.suffix_cons _ _).trans (List.suffix_cons _ _))
      · next y r₂ _ read =>
        exact (inner.ok read).trans ((List.suffix_cons _ _).trans (List.suffix_cons _ _))
    · next y off r =>
      split
      · have inner : Confined stop r (accesses stop (.index x (.lit (.num (.float y)))) r) :=
          ih.accesses (by simp)
        split
        · next e failed =>
          exact (inner.error failed).mono ((List.suffix_cons _ _).trans (List.suffix_cons _ _))
        · next z r₂ _ read =>
          exact (inner.ok read).trans ((List.suffix_cons _ _).trans (List.suffix_cons _ _))
      · exact (points_head _ _ _).mono (List.suffix_cons _ _)
    · exact (points_offsetOf rest).mono (List.suffix_cons _ _)
  · rename_i rest
    have inner : Confined stop rest (expression stop 0 rest) := ih.expression (by simp)
    split
    · next e failed => exact (inner.error failed).mono (List.suffix_cons _ _)
    · next key r₁ h₁ read =>
      have left : r₁ <:+ rest := inner.ok read
      split
      · next e failed => exact expect_points (left.trans (List.suffix_cons _ _)) failed
      · next r₂ h₂ closed =>
        have closed : r₂ <:+ r₁ := expect_suffix closed
        have inner : Confined stop r₂ (accesses stop (.index x key) r₂) :=
          ih.accesses (by simp only [List.length_cons]; omega)
        split
        · next e failed =>
          exact (inner.error failed).mono (closed.trans (left.trans (List.suffix_cons _ _)))
        · next y r₃ _ read =>
          exact (inner.ok read).trans (closed.trans (left.trans (List.suffix_cons _ _)))
  · exact List.suffix_refl _

theorem negation_confined {ts : Tokens} (inner : Confined stop ts (expression stop 3 ts)) :
    Confined stop ts (negation stop ts) := by
  unfold negation
  split
  · next e failed => exact inner.error failed
  · next x r _ read => exact inner.ok read

theorem accessChain_confined {ts : Tokens} (ih : Confines stop ts.length) :
    Confined stop ts (accessChain stop ts) := by
  have first := primary_confined ih
  unfold accessChain
  split
  · next e failed => exact first.error failed
  · next x r h read =>
    have left : r <:+ ts := first.ok read
    have inner : Confined stop r (accesses stop x r) := ih.accesses h
    split
    · next e failed => exact (inner.error failed).mono left
    · next y r₂ _ read => exact (inner.ok read).trans left

theorem unary_confined {ts : Tokens} (ih : Confines stop ts.length) :
    Confined stop ts (unary stop ts) := by
  unfold unary
  split
  · rename_i rest
    have inner : Confined stop rest (expression stop 3 rest) := ih.expression (by simp)
    exact (negation_confined inner).mono (List.suffix_cons _ _)
  · rename_i rest
    have inner : Confined stop rest (expression stop 3 rest) := ih.expression (by simp)
    exact (negation_confined inner).mono (List.suffix_cons _ _)
  · rename_i rest
    have inner : Confined stop rest (unary stop rest) := ih.unary (by simp)
    split
    · next e failed => exact (inner.error failed).mono (List.suffix_cons _ _)
    · next x r _ read => exact (inner.ok read).trans (List.suffix_cons _ _)
  · exact accessChain_confined ih

theorem expression_confined {ts : Tokens} (ih : Confines stop ts.length) (p : Nat) :
    Confined stop ts (expression stop p ts) := by
  have first := unary_confined ih
  unfold expression
  split
  · next e failed => exact first.error failed
  · next x r h read =>
    have left : r <:+ ts := first.ok read
    have inner : Confined stop r (climb stop p x r) := ih.climb h
    split
    · next e failed => exact (inner.error failed).mono left
    · next y r₂ _ read => exact (inner.ok read).trans left

theorem climb_confined {ts : Tokens} (ih : Confines stop ts.length) (p : Nat) (x : Expr) :
    Confined stop ts (climb stop p x ts) := by
  unfold climb
  split
  · rename_i tok o rest
    split
    · next op _ =>
      split
      · exact List.suffix_refl _
      · have inner : Confined stop rest (expression stop (op.precedence + 1) rest) :=
          ih.expression (by simp)
        split
        · next e failed => exact (inner.error failed).mono (List.suffix_cons _ _)
        · next y r₁ h₁ read =>
          have left : r₁ <:+ rest := inner.ok read
          have more : Confined stop r₁ (climb stop p (.binary op x y) r₁) :=
            ih.climb (by simp only [List.length_cons]; omega)
          split
          · next e failed => exact (more.error failed).mono (left.trans (List.suffix_cons _ _))
          · next z r₂ _ read => exact (more.ok read).trans (left.trans (List.suffix_cons _ _))
    · exact List.suffix_refl _
  · exact List.suffix_refl _

theorem items_confined {ts : Tokens} (ih : Confines stop ts.length) (acc : List Expr) :
    Confined stop ts (items stop ts acc) := by
  unfold items
  split
  · exact List.suffix_cons _ _
  · have first := expression_confined ih 0
    split
    · next e failed => exact first.error failed
    · next x r₁ h₁ read =>
      have left : r₁ <:+ ts := first.ok read
      split
      · next r₂ h₂ found =>
        have skipped : r₂ <:+ r₁ := skip?_suffix found
        have inner : Confined stop r₂ (items stop r₂ (x :: acc)) := ih.items (by omega)
        split
        · next e failed => exact (inner.error failed).mono (skipped.trans left)
        · next xs r₃ _ read => exact (inner.ok read).trans (skipped.trans left)
      · split
        · next e failed => exact expect_points left failed
        · next r₂ _ closed => exact (expect_suffix closed).trans left

theorem entries_confined {ts : Tokens} (ih : Confines stop ts.length)
    (acc : List (String × Expr)) : Confined stop ts (entries stop ts acc) := by
  unfold entries
  split
  · exact List.suffix_cons _ _
  · exact .inl rfl
  · rename_i rest _
    split
    case h_3 =>
      dsimp only
      exact points_head _ _ _
    -- a name and a string write a key alike
    all_goals
      dsimp only
      split
      · next e failed => exact expect_points (List.suffix_cons _ _) failed
      · next r₁ h₁ colon =>
        have afterKey : r₁ <:+ rest := expect_suffix colon
        have value : Confined stop r₁ (expression stop 0 r₁) := ih.expression (by simp; omega)
        split
        · next e failed =>
          exact (value.error failed).mono (afterKey.trans (List.suffix_cons _ _))
        · next v r₂ h₂ read =>
          have left : r₂ <:+ rest := (value.ok read).trans afterKey
          split
          · next r₃ h₃ found =>
            have skipped : r₃ <:+ r₂ := skip?_suffix found
            have inner : ∀ acc', Confined stop r₃ (entries stop r₃ acc') :=
              fun _ => ih.entries (by simp; omega)
            split
            · next e failed =>
              exact ((inner _).error failed).mono
                ((skipped.trans left).trans (List.suffix_cons _ _))
            · next es r₄ _ read =>
              exact ((inner _).ok read).trans ((skipped.trans left).trans (List.suffix_cons _ _))
          · split
            · next e failed => exact expect_points (left.trans (List.suffix_cons _ _)) failed
            · next r₃ _ closed =>
              exact (expect_suffix closed).trans (left.trans (List.suffix_cons _ _))

end Reading

theorem Confines.mono {stop m n : Nat} (ih : Confines stop n) (le : m ≤ n) : Confines stop m where
  expression short := ih.expression (by omega)
  climb short := ih.climb (by omega)
  unary short := ih.unary (by omega)
  accesses short := ih.accesses (by omega)
  items short := ih.items (by omega)
  entries short := ih.entries (by omega)

theorem confines (stop : Nat) : ∀ n, Confines stop n
  | 0 => {
      expression := fun short => absurd short (Nat.not_lt_zero _)
      climb := fun short => absurd short (Nat.not_lt_zero _)
      unary := fun short => absurd short (Nat.not_lt_zero _)
      accesses := fun short => absurd short (Nat.not_lt_zero _)
      items := fun short => absurd short (Nat.not_lt_zero _)
      entries := fun short => absurd short (Nat.not_lt_zero _) }
  | n + 1 =>
    have shorter : ∀ {ts : Tokens}, ts.length < n + 1 → Confines stop ts.length :=
      fun short => (confines stop n).mono (by omega)
    { expression := fun short => expression_confined (shorter short) _
      climb := fun short => climb_confined (shorter short) _ _
      unary := fun short => unary_confined (shorter short)
      accesses := fun short => accesses_confined (shorter short) _
      items := fun short => items_confined (shorter short) _
      entries := fun short => entries_confined (shorter short) _ }

/-- A failure to read a whole expression from `ts` points at one of its tokens or at the end. -/
theorem expression_error_points {stop : Nat} {ts : Tokens} {e : SyntaxError}
    (failed : expression stop 0 ts = .error e) : Points stop ts e.offset :=
  (expression_confined ((confines stop (ts.length + 1)).mono (Nat.le_succ _)) 0).error failed

/-- A whole expression read from `ts` leaves a tail of `ts`. -/
theorem expression_suffix {stop : Nat} {ts : Tokens} {x : Expr}
    {r : {r : Tokens // r.length < ts.length}} (read : expression stop 0 ts = .ok (x, r)) :
    r.1 <:+ ts :=
  (expression_confined ((confines stop (ts.length + 1)).mono (Nat.le_succ _)) 0).ok read

end Parser

/-- Where a failure to read `source` stands: a fault of the lexer at the character that caused
it, and a fault of the reader at one of the tokens of the text, or at its end when the tokens ran
out. -/
def SyntaxError.Located (source : String) (e : SyntaxError) : Prop :=
  Lexer.Stands source.toList e ∨
    ∃ ts, Lexer.tokenize source.toList 0 = .ok ts ∧ Parser.Points source.utf8ByteSize ts e.offset

/-- The lexer reads every number it scans from its own text, so it never meets a number it cannot
read; and every failure to read an expression reports a byte offset that lies between two
characters of the source, at most its size: at the character or token that caused the failure, or
at the end when the text ran out. -/
theorem Expr.parse_faults_located :
    (∀ d more, d.isDigit = true → ∃ lexeme, d :: more = lexeme ++ (Lexer.scanNumber d more).2.1 ∧
        Decimal.ofString? (String.ofList lexeme) = some (Lexer.scanNumber d more).1) ∧
    ∀ source e, Expr.parse source = .error e →
      e.offset ≤ source.utf8ByteSize ∧ String.Pos.Raw.IsValid source ⟨e.offset⟩ ∧
        e.Located source := by
  refine ⟨fun d more digit => Lexer.scanNumber_lexeme digit more, fun source e failed => ?_⟩
  have lexed := Lexer.tokenize_lexed source.toList 0 (List.suffix_refl _) (Nat.zero_add _)
  have ofList : String.ofList source.toList = source := String.ofList_toList
  have size : source.utf8ByteSize = Lexer.byteSize source.toList := by
    rw [← Lexer.utf8ByteSize_ofList, ofList]
  -- the offset is a valid position and, being one, lies within the text
  suffices valid : String.Pos.Raw.IsValid source ⟨e.offset⟩ ∧ e.Located source from
    ⟨valid.1.le_utf8ByteSize, valid⟩
  unfold Expr.parse at failed
  cases tokens : Lexer.tokenize source.toList 0 with
  | error err =>
    rw [tokens] at failed lexed
    cases failed
    refine ⟨?_, .inl lexed⟩
    rw [← ofList]
    rcases lexed with ⟨c, -, at'⟩ | ⟨-, at' | at'⟩ <;> exact at'.isValid
  | ok ts =>
    rw [tokens] at failed lexed
    dsimp only at failed
    have points : Parser.Points source.utf8ByteSize ts e.offset := by
      split at failed
      · next err read =>
        cases failed
        exact Parser.expression_error_points read
      · cases failed
      · next x tok off left _ read =>
        cases failed
        exact .inr ⟨tok, (Parser.expression_suffix read).subset List.mem_cons_self⟩
    refine ⟨?_, .inr ⟨ts, tokens, points⟩⟩
    rw [← ofList]
    rcases points with atEnd | ⟨tok, mem⟩
    · exact Lexer.isValid_of_tail List.nil_suffix (by rw [atEnd, size]; rfl)
    · obtain ⟨c, at'⟩ := lexed _ mem
      exact at'.isValid

/-- The test's text with a two-byte letter in front: the fault stands at byte 3, after the letter
and the blank, which is a valid position. -/
theorem Expr.parse_faults_located_after_accent :
    ('2'.isDigit = true ∧ ∃ lexeme, '2' :: "5.75)".toList = lexeme ++ (Lexer.scanNumber '2' "5.75)".toList).2.1 ∧
        Decimal.ofString? (String.ofList lexeme) = some (Lexer.scanNumber '2' "5.75)".toList).1) ∧
    (Expr.parse "é # 2" = .error ⟨.unexpectedChar '#', 3⟩ ∧ String.Pos.Raw.IsValid "é # 2" ⟨3⟩) := by
  have lexed : Lexer.tokenize "é # 2".toList 0 = .error ⟨.unexpectedChar '#', 3⟩ := by
    decide +kernel
  have failed : Expr.parse "é # 2" = .error ⟨.unexpectedChar '#', 3⟩ := by
    unfold Expr.parse
    rw [lexed]
  exact ⟨⟨by decide, Expr.parse_faults_located.1 '2' _ (by decide)⟩,
    failed, (Expr.parse_faults_located.2 _ _ failed).2.1⟩

end PromptPipeline
