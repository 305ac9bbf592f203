import PromptPipeline.Proofs.Grammar
import PromptPipeline.Proofs.Whole
/-!
Dotted paths.

A path `x.s₁.s₂…` names a variable and a chain of accesses, each segment a name or a run of
decimal digits: `parsed.items.0.name`. The lexer reads a point that a digit follows as part of a
number, so a run of digits right after another run is read together with it as one decimal
`a.b`, and an index must be a whole double, which the double nearest to a run of more than 308
digits is not, being infinite. A path reads as its chain of fields and indices exactly when
neither happens (`Expr.parse_path`).

The lexer's part is said by `Lexer.Lexes` (the token kinds it reads from a text, at any
offsets), the reader's by the grammar's `Access` relation.
-/
namespace PromptPipeline

namespace Text

/-- Bounds in ascending order. -/
def Ascending (bounds : Array Nat) : Prop :=
  ∀ j < bounds.size, ∀ i ≤ j, bounds.getD i 0 ≤ bounds.getD j 0

/-- The binary search keeps its bracket: the bounds below `lo` are at or below `n`, those from
`hi` on above it; the count it returns splits the bounds so. -/
theorem countAtOrBelow_go {bounds : Array Nat} (sorted : Ascending bounds) (n lo hi : Nat)
    (le : lo ≤ hi) (within : hi ≤ bounds.size) (below : ∀ i < lo, bounds.getD i 0 ≤ n)
    (above : ∀ i, hi ≤ i → i < bounds.size → n < bounds.getD i 0) :
    countAtOrBelow.go bounds n lo hi ≤ bounds.size ∧
      (∀ i < countAtOrBelow.go bounds n lo hi, bounds.getD i 0 ≤ n) ∧
      ∀ i, countAtOrBelow.go bounds n lo hi ≤ i → i < bounds.size → n < bounds.getD i 0 := by
  fun_induction countAtOrBelow.go bounds n lo hi with
  | case1 lo hi searching mid atOrBelow ih =>
    refine ih (by omega) within (fun i lt => ?_) above
    exact (sorted mid (by omega) i (by omega)).trans atOrBelow
  | case2 lo hi searching mid beyond ih =>
    refine ih (by omega) (by omega) below (fun i ge lt => ?_)
    exact Nat.lt_of_not_le beyond |>.trans_le (sorted i lt mid ge)
  | case3 lo hi closed =>
    exact ⟨by omega, below, fun i ge lt => above i (by omega) lt⟩

/-- A character of a class lies in one of its ranges: from a bound of even position up to the
next bound, if there is one. -/
theorem inClass_range {bounds : Array Nat} (sorted : Ascending bounds) {c : Char}
    (member : inClass bounds c = true) :
    ∃ k, k % 2 = 1 ∧ k ≤ bounds.size ∧ bounds.getD (k - 1) 0 ≤ c.toNat ∧
      (k < bounds.size → c.toNat < bounds.getD k 0) := by
  obtain ⟨within, below, above⟩ := countAtOrBelow_go sorted c.toNat 0 bounds.size (Nat.zero_le _)
    (Nat.le_refl _) (fun _ none => absurd none (Nat.not_lt_zero _)) (fun _ ge lt => absurd lt (by omega))
  have odd : countAtOrBelow bounds c.toNat % 2 = 1 := by simpa [inClass] using member
  exact ⟨_, odd, within, below _ (by unfold countAtOrBelow at odd ⊢; omega), above _ (by rfl)⟩

theorem whiteSpace_ascending : Ascending whiteSpaceBounds := by
  unfold Ascending
  decide

/-- The code points of white space, all looked up in the table of letters at once: none is one. -/
theorem whiteSpace_not_alphabetic :
    ∀ n ∈ [9, 10, 11, 12, 13, 32, 133, 160, 5760, 8192, 8193, 8194, 8195, 8196, 8197, 8198, 8199,
      8200, 8201, 8202, 8232, 8233, 8239, 8287, 12288], countAtOrBelow alphabeticBounds n % 2 = 0 := by
  decide +kernel

/-- No letter is white space: each range of white space is one of the code points above. -/
theorem isBlank_eq_false_of_isAlphabetic {c : Char} (letter : isAlphabetic c = true) :
    isBlank c = false := by
  cases blank : isBlank c with
  | false => rfl
  | true =>
    obtain ⟨k, odd, within, low, high⟩ := inClass_range whiteSpace_ascending blank
    have size : whiteSpaceBounds.size = 20 := rfl
    rw [size] at within
    have high := high (by omega)
    unfold isAlphabetic inClass at letter
    generalize c.toNat = n at low high letter
    interval_cases k <;> simp [whiteSpaceBounds] at odd low high
    all_goals interval_cases n <;> simp (disch := decide) [whiteSpace_not_alphabetic] at letter

/-- The ASCII digits, looked up in the tables of white space and of letters at once. -/
theorem digits_not_blank_alphabetic : ∀ n ∈ List.range' 48 10,
    countAtOrBelow whiteSpaceBounds n % 2 = 0 ∧ countAtOrBelow alphabeticBounds n % 2 = 0 := by
  decide +kernel

/-- An ASCII digit is neither white space nor a letter. -/
theorem digit_not_blank_letter {c : Char} (digit : c.isDigit = true) :
    isBlank c = false ∧ isAlphabetic c = false := by
  simp only [Char.isDigit, Bool.and_eq_true, decide_eq_true_eq] at digit
  have low : 48 ≤ c.toNat := digit.1
  have high : c.toNat ≤ 57 := digit.2
  have classes := digits_not_blank_alphabetic c.toNat (by simp; omega)
  simp [isBlank, isAlphabetic, inClass, classes.1, classes.2]

/-- The point, the quotes and the underscore are no blanks and no letters, and the point is no
numeral of any script. -/
theorem punctuation_classes : isBlank '.' = false ∧ isAlphabetic '.' = false ∧
    isNumeric '.' = false ∧ isAlphabetic '\'' = false ∧ isAlphabetic '"' = false ∧
    isBlank '_' = false := by
  decide +kernel

end Text

/-- One step of a dotted path: a name or a run of decimal digits. -/
inductive Segment where
  | name (chars : List Char)
  | digits (chars : List Char)

/-- Whether a text is a name: a letter or `_`, then letters, digits and `_`. -/
def IsName : List Char → Prop
  | [] => False
  | c :: cs => (Text.isAlphabetic c || c == '_') = true ∧ ∀ d ∈ cs, Lexer.isNameChar d = true

/-- Whether a text is a run of ASCII digits, at least one. -/
def IsDigits (ds : List Char) : Prop := ds ≠ [] ∧ ∀ d ∈ ds, d.isDigit = true

instance : DecidablePred IsName
  | [] => isFalse fun named => named
  | c :: cs => inferInstanceAs
      (Decidable ((Text.isAlphabetic c || c == '_') = true ∧ ∀ d ∈ cs, Lexer.isNameChar d = true))

instance : DecidablePred IsDigits := fun ds =>
  inferInstanceAs (Decidable (ds ≠ [] ∧ ∀ d ∈ ds, d.isDigit = true))

namespace Segment

/-- A name segment is a name and a digit segment a run of digits. -/
def Valid : Segment → Prop
  | .name s => IsName s
  | .digits ds => IsDigits ds

/-- The text of a segment. -/
def chars : Segment → List Char
  | .name s => s
  | .digits ds => ds

/-- Whether a segment is a run of digits. -/
def isDigits : Segment → Bool
  | .name _ => false
  | .digits _ => true

/-- Two neighbouring segments that are not both runs of digits. -/
def Apart (a b : Segment) : Prop := a.isDigits = false ∨ b.isDigits = false

instance : DecidablePred Valid
  | .name s => inferInstanceAs (Decidable (IsName s))
  | .digits ds => inferInstanceAs (Decidable (IsDigits ds))

instance : DecidableRel Apart := fun a b =>
  inferInstanceAs (Decidable (a.isDigits = false ∨ b.isDigits = false))

/-- The double that a run of digits indexes by: the one nearest to its value. -/
def indexValue (ds : List Char) : Float := Decimal.nearest false (Decimal.digitsValue ds) 0

/-- The access a segment writes after `e`: a field, or an index by the number of its digits. -/
def access (e : Expr) : Segment → Expr
  | .name s => .field e (String.ofList s)
  | .digits ds => .index e (.lit (.num (.float (indexValue ds))))

end Segment

/-- The text `.s₁.s₂…` of the accesses. -/
def accessText (segs : List Segment) : List Char := segs.flatMap fun s => '.' :: s.chars

/-- The text `x.s₁.s₂…` of a path. -/
def pathText (x : List Char) (segs : List Segment) : String := String.ofList (x ++ accessText segs)

/-- The chain of accesses over `e`, in the order written. -/
def pathExpr (e : Expr) (segs : List Segment) : Expr := segs.foldl Segment.access e

/-- The decimal `a.b` of two runs of digits with a point between them. -/
def decimalValue (a b : List Char) : Float :=
  Decimal.nearest false (Decimal.digitsValue (a ++ b)) (-(b.length : Int))

/-- The token kinds of the accesses as the lexer reads them: a point, then a name or a number,
where a run of digits, a point and another run of digits make one number. -/
def accessTokens : List Segment → List Token
  | [] => []
  | .name s :: rest => .sym "." :: .ident (String.ofList s) :: accessTokens rest
  | .digits a :: .digits b :: rest => .sym "." :: .number (decimalValue a b) :: accessTokens rest
  | .digits a :: rest => .sym "." :: .number (Segment.indexValue a) :: accessTokens rest

@[simp] theorem accessText_nil : accessText [] = [] := rfl

@[simp] theorem accessText_cons (s : Segment) (segs : List Segment) :
    accessText (s :: segs) = '.' :: (s.chars ++ accessText segs) := by
  simp [accessText]

@[simp] theorem pathExpr_nil (e : Expr) : pathExpr e [] = e := rfl

@[simp] theorem pathExpr_cons (e : Expr) (s : Segment) (segs : List Segment) :
    pathExpr e (s :: segs) = pathExpr (s.access e) segs := rfl

namespace Lexer

/-- The lexer reads the token `tok` off the front of `cs` and goes on with `rest`, at any offset. -/
def ReadsOff (cs : List Char) (tok : Token) (rest : List Char) : Prop :=
  ∀ o, ∃ o', tokenize cs o = (tokenize rest o').map ((tok, o) :: ·)

/-- The lexer reads tokens of the kinds `ks` from `cs`, at any offset. -/
def Lexes (cs : List Char) (ks : List Token) : Prop :=
  ∀ o, ∃ ts, tokenize cs o = .ok ts ∧ ts.map Prod.fst = ks

theorem lexes_nil : Lexes [] [] := fun o => ⟨[], by rw [tokenize], rfl⟩

theorem Lexes.cons {cs rest : List Char} {tok : Token} {ks : List Token}
    (reads : ReadsOff cs tok rest) (lexes : Lexes rest ks) : Lexes cs (tok :: ks) := by
  intro o
  obtain ⟨o', first⟩ := reads o
  obtain ⟨ts, lexed, kinds⟩ := lexes o'
  exact ⟨(tok, o) :: ts, by rw [first, lexed]; rfl, by simp [kinds]⟩

theorem readsOff_dot (more : List Char) : ReadsOff ('.' :: more) (.sym ".") more := by
  intro o
  have found : symbols.find? (fun s => ('.' :: more).take s.length == s.toList) = some "." := by
    cases more with
    | nil => decide
    | cons m more => simp [symbols, List.find?, ← String.length_toList]
  refine ⟨o + ".".utf8ByteSize, ?_⟩
  rw [tokenize]
  simp only [Text.punctuation_classes.1, show Char.isDigit '.' = false by decide,
    Text.punctuation_classes.2.1, found]
  simp [← String.length_toList]

/-- The first character of a name is no blank, no digit and no quote. -/
theorem nameStart_facts {c : Char} (start : (Text.isAlphabetic c || c == '_') = true) :
    Text.isBlank c = false ∧ c.isDigit = false ∧ (c == '\'' || c == '"') = false := by
  rcases Bool.or_eq_true_iff.mp start with letter | underscore
  · refine ⟨Text.isBlank_eq_false_of_isAlphabetic letter, ?_, ?_⟩
    · cases digit : c.isDigit with
      | false => rfl
      | true => simp [(Text.digit_not_blank_letter digit).2] at letter
    · cases quote : (c == '\'' || c == '"') with
      | false => rfl
      | true =>
        rcases Bool.or_eq_true_iff.mp quote with same | same <;> obtain rfl := eq_of_beq same <;>
          simp [Text.punctuation_classes] at letter
  · obtain rfl := eq_of_beq underscore
    exact ⟨Text.punctuation_classes.2.2.2.2.2, rfl, rfl⟩

/-- The point ends a name. -/
theorem isNameChar_point : isNameChar '.' = false := by
  simp [isNameChar, Text.isAlphanumeric, Text.punctuation_classes]

/-- A run of characters that satisfy `p`, before a tail that does not start with one, is what
`takeWhile` takes and `dropWhile` drops. -/
theorem run_split {p : Char → Bool} {run tail : List Char} (all : ∀ c ∈ run, p c = true)
    (stops : ∀ c r, tail = c :: r → p c = false) :
    (run ++ tail).takeWhile p = run ∧ (run ++ tail).dropWhile p = tail := by
  rw [List.takeWhile_append_of_pos all, List.dropWhile_append_of_pos all]
  cases tail with
  | nil => simp
  | cons c r => simp [stops c r rfl]

theorem readsOff_name {s : List Char} (named : IsName s) {tail : List Char}
    (stops : ∀ c r, tail = c :: r → isNameChar c = false) :
    ReadsOff (s ++ tail) (.ident (String.ofList s)) tail := by
  obtain _ | ⟨c, cs⟩ := s
  · exact named.elim
  obtain ⟨start, rest⟩ := named
  obtain ⟨blank, digit, quote⟩ := nameStart_facts start
  obtain ⟨taken, dropped⟩ := run_split rest stops
  intro o
  refine ⟨o + byteSize (c :: cs), ?_⟩
  rw [List.cons_append, tokenize]
  simp only [blank, digit, quote, start, taken, dropped, Bool.false_eq_true, if_false, if_true]

/-- A number starts at a digit: the lexer reads the number that `scanNumber` scans. -/
theorem readsOff_scan {d : Char} (digit : d.isDigit = true) (more : List Char) :
    ReadsOff (d :: more) (.number (scanNumber d more).1) (scanNumber d more).2.1 := by
  obtain ⟨blank, -⟩ := Text.digit_not_blank_letter digit
  intro o
  refine ⟨o + byteSize (d :: more) - byteSize (scanNumber d more).2.1, ?_⟩
  rw [tokenize]
  simp only [blank, digit, Bool.false_eq_true, if_false, if_true]

/-- A run of digits that no point and digit follow is one whole number. -/
theorem scanNumber_whole {d : Char} {ds tail : List Char} (digits : ∀ c ∈ ds, c.isDigit = true)
    (ends : tail = [] ∨ ∃ c r, tail = '.' :: c :: r ∧ c.isDigit = false) :
    (scanNumber d (ds ++ tail)).1 = Decimal.nearest false (Decimal.digitsValue (d :: ds)) 0 ∧
      (scanNumber d (ds ++ tail)).2.1 = tail := by
  have stops : ∀ c r, tail = c :: r → c.isDigit = false := by
    rintro c r rfl
    rcases ends with nothing | ⟨_, _, dot, _⟩
    · cases nothing
    · cases dot
      decide
  obtain ⟨taken, dropped⟩ := run_split digits stops
  simp only [scanNumber, taken]
  split
  · -- a point follows, but no digit after it
    rename_i d' after _ shape _
    rw [dropped] at shape
    have other : d'.isDigit = false := by
      rcases ends with nothing | ⟨c, r, same, other⟩
      · rw [nothing] at shape
        cases shape
      · rw [same] at shape
        cases shape
        exact other
    rw [if_neg (by simp [other])]
    exact ⟨rfl, shape.symm⟩
  · exact ⟨rfl, dropped⟩

/-- A run of digits, a point and another run of digits are one decimal number. -/
theorem scanNumber_decimal {d : Char} {ds b tail : List Char} (whole : ∀ c ∈ ds, c.isDigit = true)
    (fraction : IsDigits b) (stops : ∀ c r, tail = c :: r → c.isDigit = false) :
    (scanNumber d (ds ++ '.' :: (b ++ tail))).1 = decimalValue (d :: ds) b ∧
      (scanNumber d (ds ++ '.' :: (b ++ tail))).2.1 = tail := by
  obtain ⟨nonempty, fraction⟩ := fraction
  obtain _ | ⟨b₀, bs⟩ := b
  · exact absurd rfl nonempty
  have first : b₀.isDigit = true := fraction b₀ List.mem_cons_self
  have point : ∀ c r, '.' :: (b₀ :: bs ++ tail) = c :: r → c.isDigit = false := by
    rintro c r ⟨⟩
    decide
  obtain ⟨taken, dropped⟩ := run_split whole point
  obtain ⟨takenFraction, droppedFraction⟩ :=
    run_split (fun c mem => fraction c (List.mem_cons_of_mem _ mem)) stops
  simp only [scanNumber, taken]
  split
  · rename_i d' after _ shape _
    rw [dropped, List.cons_append] at shape
    cases shape
    rw [if_pos first]
    exact ⟨by rw [takenFraction]; rfl, droppedFraction⟩
  · rename_i hr noDecimal
    exact (noDecimal b₀ (bs ++ tail) (by simp) (by rw [dropped]; rfl)
      (proof_irrel_heq _ _)).elim

theorem readsOff_number {ds tail : List Char} (digits : IsDigits ds)
    (ends : tail = [] ∨ ∃ c r, tail = '.' :: c :: r ∧ c.isDigit = false) :
    ReadsOff (ds ++ tail) (.number (Segment.indexValue ds)) tail := by
  obtain ⟨nonempty, digits⟩ := digits
  obtain _ | ⟨d, ds⟩ := ds
  · exact absurd rfl nonempty
  obtain ⟨value, rest⟩ :=
    scanNumber_whole (d := d) (fun c mem => digits c (List.mem_cons_of_mem _ mem)) ends
  have reads := readsOff_scan (digits d List.mem_cons_self) (ds ++ tail)
  rw [value, rest] at reads
  exact reads

theorem readsOff_decimal {a b tail : List Char} (whole : IsDigits a) (fraction : IsDigits b)
    (stops : ∀ c r, tail = c :: r → c.isDigit = false) :
    ReadsOff (a ++ '.' :: (b ++ tail)) (.number (decimalValue a b)) tail := by
  obtain ⟨nonempty, digits⟩ := whole
  obtain _ | ⟨d, ds⟩ := a
  · exact absurd rfl nonempty
  obtain ⟨value, rest⟩ :=
    scanNumber_decimal (d := d) (fun c mem => digits c (List.mem_cons_of_mem _ mem)) fraction stops
  have reads := readsOff_scan (digits d List.mem_cons_self) (ds ++ '.' :: (b ++ tail))
  rw [value, rest] at reads
  exact reads

end Lexer

/-- The text of accesses starts with a point, if it is not empty. -/
theorem accessText_head {segs : List Segment} {c : Char} {r : List Char}
    (starts : accessText segs = c :: r) : c = '.' := by
  cases segs with
  | nil => cases starts
  | cons s segs =>
    simp only [accessText_cons, List.cons.injEq] at starts
    exact starts.1.symm

/-- A name or a number written before the text of accesses ends there, at its point. -/
theorem accessText_stops {segs : List Segment} {p : Char → Bool} (point : p '.' = false) :
    ∀ c r, accessText segs = c :: r → p c = false := by
  intro c r starts
  rw [accessText_head starts]
  exact point

open Lexer in
/-- The lexer reads the text of accesses as `accessTokens` says, segment by segment, two runs of
digits with the point between them as one number. -/
theorem lexes_access {segs : List Segment} (valid : ∀ s ∈ segs, s.Valid) :
    Lexes (accessText segs) (accessTokens segs) := by
  -- what follows a segment is the text of the next accesses, which `accessText_stops` ends it at
  fun_induction accessTokens segs with
  | case1 => exact lexes_nil
  | case2 s rest ih =>
    have named : IsName s := valid (.name s) List.mem_cons_self
    simp only [accessText_cons, Segment.chars]
    exact Lexes.cons (readsOff_dot _)
      (Lexes.cons (readsOff_name named (accessText_stops isNameChar_point))
        (ih fun t mem => valid t (List.mem_cons_of_mem _ mem)))
  | case3 a b rest ih =>
    have whole : IsDigits a := valid (.digits a) List.mem_cons_self
    have fraction : IsDigits b := valid (.digits b) (by simp)
    simp only [accessText_cons, Segment.chars]
    exact Lexes.cons (readsOff_dot _) (Lexes.cons (readsOff_decimal whole fraction (accessText_stops rfl))
      (ih fun t mem => valid t (by simp [mem])))
  | case4 a rest apart ih =>
    have digits : IsDigits a := valid (.digits a) List.mem_cons_self
    simp only [accessText_cons, Segment.chars]
    refine Lexes.cons (readsOff_dot _) (Lexes.cons (readsOff_number digits ?_)
      (ih fun t mem => valid t (List.mem_cons_of_mem _ mem)))
    -- no run of digits follows, so the number ends at the end of the text or before a name
    rcases rest with _ | ⟨n | b, rest⟩
    · exact .inl rfl
    · have named : IsName n := valid (.name n) (by simp)
      obtain _ | ⟨c, cs⟩ := n
      · exact named.elim
      exact .inr ⟨c, cs ++ accessText rest, by simp [Segment.chars], (nameStart_facts named.1).2.1⟩
    · exact (apart b rest rfl).elim

open Lexer in
/-- The lexer reads a path as its name and then the tokens of its accesses. -/
theorem lexes_path {x : List Char} (named : IsName x) {segs : List Segment}
    (valid : ∀ s ∈ segs, s.Valid) :
    Lexes (x ++ accessText segs) (.ident (String.ofList x) :: accessTokens segs) :=
  Lexes.cons (readsOff_name named (accessText_stops isNameChar_point)) (lexes_access valid)

/-- How many accesses stand on top of an expression. -/
def Expr.accessDepth : Expr → Nat
  | .field e _ => e.accessDepth + 1
  | .index e _ => e.accessDepth + 1
  | _ => 0

theorem accessDepth_pathExpr (e : Expr) (segs : List Segment) :
    (pathExpr e segs).accessDepth = e.accessDepth + segs.length := by
  induction segs generalizing e with
  | nil => rfl
  | cons s segs ih =>
    cases s <;> simp [ih, Segment.access, Expr.accessDepth] <;> omega

/-- Tokens of the kinds `k :: ks` are a token of kind `k` before tokens of the kinds `ks`. -/
theorem kinds_cons {ts : Tokens} {k : Token} {ks : List Token} (kinds : ts.map Prod.fst = k :: ks) :
    ∃ o rest, ts = (k, o) :: rest ∧ rest.map Prod.fst = ks := by
  obtain _ | ⟨⟨t, o⟩, rest⟩ := ts
  · cases kinds
  · simp only [List.map_cons, List.cons.injEq] at kinds
    obtain ⟨rfl, rfl⟩ := kinds
    exact ⟨o, rest, rfl, rfl⟩

theorem kinds_cons_cons {ts : Tokens} {k₁ k₂ : Token} {ks : List Token}
    (kinds : ts.map Prod.fst = k₁ :: k₂ :: ks) :
    ∃ o₁ o₂ rest, ts = (k₁, o₁) :: (k₂, o₂) :: rest ∧ rest.map Prod.fst = ks := by
  obtain ⟨o₁, more, rfl, tail⟩ := kinds_cons kinds
  obtain ⟨o₂, rest, rfl, last⟩ := kinds_cons tail
  exact ⟨o₁, o₂, rest, rfl, last⟩

namespace Grammar

/-- An access that starts with a point: none at all, a field, or an index by a whole number. -/
theorem Access.dot_cases {g : Bool} {x e : Expr} {o₁ o₂ : Nat} {tok : Token} {ts r : Tokens}
    (access : Access g x ((.sym ".", o₁) :: (tok, o₂) :: ts) e r) :
    (e = x ∧ r = (.sym ".", o₁) :: (tok, o₂) :: ts) ∨
      (∃ name, tok = .ident name ∧ Access g (.field x name) ts e r) ∨
      (∃ v, tok = .number v ∧ Decimal.isIntegral v = true ∧
        Access g (.index x (.lit (.num (.float v)))) ts e r) := by
  -- the tokens are generalised, since a bracket and a point differ only as texts
  generalize same : (Token.sym ".", o₁) :: (tok, o₂) :: ts = all at access
  cases access with
  | stop => exact .inl ⟨rfl, rfl⟩
  | field accessed =>
    simp only [List.cons.injEq, Prod.mk.injEq] at same
    obtain ⟨-, ⟨rfl, -⟩, rfl⟩ := same
    exact .inr (.inl ⟨_, rfl, accessed⟩)
  | index integral accessed =>
    simp only [List.cons.injEq, Prod.mk.injEq] at same
    obtain ⟨-, ⟨rfl, -⟩, rfl⟩ := same
    exact .inr (.inr ⟨_, rfl, integral, accessed⟩)
  | key => simp at same

section Paths

variable {g : Bool}

/-- Accesses to the end over a point and a name go on from a field. -/
theorem Access.field_of_kinds {f E : Expr} {ts : Tokens} {name : String} {ks : List Token}
    (kinds : ts.map Prod.fst = .sym "." :: .ident name :: ks) (access : Access g f ts E []) :
    ∃ rest : Tokens, rest.map Prod.fst = ks ∧ Access g (.field f name) rest E [] := by
  obtain ⟨o₁, o₂, rest, rfl, restKinds⟩ := kinds_cons_cons kinds
  rcases access.dot_cases with ⟨-, stop⟩ | ⟨_, same, accessed⟩ | ⟨_, same, -, -⟩
  · cases stop
  · cases same
    exact ⟨rest, restKinds, accessed⟩
  · cases same

/-- Accesses to the end over a point and a number go on from an index by it, a whole one. -/
theorem Access.index_of_kinds {f E : Expr} {ts : Tokens} {v : Float} {ks : List Token}
    (kinds : ts.map Prod.fst = .sym "." :: .number v :: ks) (access : Access g f ts E []) :
    ∃ rest : Tokens, rest.map Prod.fst = ks ∧ Decimal.isIntegral v = true ∧
      Access g (.index f (.lit (.num (.float v)))) rest E [] := by
  obtain ⟨o₁, o₂, rest, rfl, restKinds⟩ := kinds_cons_cons kinds
  rcases access.dot_cases with ⟨-, stop⟩ | ⟨_, same, -⟩ | ⟨_, same, integral, accessed⟩
  · cases stop
  · cases same
  · cases same
    exact ⟨rest, restKinds, integral, accessed⟩

/-- Over the tokens of a path, accesses that nothing carries on go to the end: every access
starts with a point, which would carry them on. -/
theorem Access.rest_nil_of_path {segs : List Segment} {x y : Expr} {ts r : Tokens}
    (kinds : ts.map Prod.fst = accessTokens segs) (access : Access g x ts y r) (ends : Ends 6 r) :
    r = [] := by
  fun_induction accessTokens segs generalizing x ts with
  | case1 =>
    rw [List.map_eq_nil_iff] at kinds
    subst kinds
    cases access
    rfl
  | case2 _ _ ih | case3 _ _ _ ih | case4 _ _ _ ih =>
    obtain ⟨o₁, o₂, rest, rfl, restKinds⟩ := kinds_cons_cons kinds
    rcases access.dot_cases with ⟨-, rfl⟩ | ⟨_, -, accessed⟩ | ⟨_, -, -, accessed⟩
    · exact absurd rfl (access_of_ends ends).1
    · exact ih restKinds accessed
    · exact ih restKinds accessed

/-- Accesses to the end over the tokens of a path add at most one access for each segment. -/
theorem Access.depth_le_of_path {segs : List Segment} {f E : Expr} {ts : Tokens}
    (kinds : ts.map Prod.fst = accessTokens segs) (access : Access g f ts E []) :
    E.accessDepth ≤ f.accessDepth + segs.length := by
  fun_induction accessTokens segs generalizing f ts with
  | case1 =>
    rw [List.map_eq_nil_iff] at kinds
    subst kinds
    cases access
    omega
  | case2 s rest ih =>
    obtain ⟨ts, restKinds, accessed⟩ := access.field_of_kinds kinds
    have := ih restKinds accessed
    simp only [Expr.accessDepth, List.length_cons] at this ⊢
    omega
  | case3 a b rest ih | case4 a rest _ ih =>
    obtain ⟨ts, restKinds, -, accessed⟩ := access.index_of_kinds kinds
    have := ih restKinds accessed
    simp only [Expr.accessDepth, List.length_cons] at this ⊢
    omega

/-- Over the tokens of a path with no two runs of digits together and finite indices, the
accesses read to the end are the path's own. -/
theorem Access.of_path {segs : List Segment} {e : Expr} {ts : Tokens}
    (kinds : ts.map Prod.fst = accessTokens segs) (apart : segs.IsChain Segment.Apart)
    (finite : ∀ ds, .digits ds ∈ segs → Decimal.isFinite (Segment.indexValue ds) = true) :
    Access g e ts (pathExpr e segs) [] := by
  fun_induction accessTokens segs generalizing e ts with
  | case1 =>
    rw [List.map_eq_nil_iff] at kinds
    subst kinds
    exact .stop
  | case2 s rest ih =>
    obtain ⟨o₁, o₂, rest, rfl, restKinds⟩ := kinds_cons_cons kinds
    exact .field (ih restKinds apart.tail fun ds mem => finite ds (List.mem_cons_of_mem _ mem))
  | case3 a b rest ih =>
    have together := (List.isChain_cons_cons.mp apart).1
    simp [Segment.Apart, Segment.isDigits] at together
  | case4 a rest _ ih =>
    obtain ⟨o₁, o₂, rest, rfl, restKinds⟩ := kinds_cons_cons kinds
    have whole : Decimal.isIntegral (Segment.indexValue a) = true :=
      (Decimal.isIntegral_nearest_nat _).trans (finite a List.mem_cons_self)
    exact .index whole (ih restKinds apart.tail fun ds mem => finite ds (List.mem_cons_of_mem _ mem))

/-- Accesses read to the end over the tokens of a path give its own chain only where no two runs
of digits stand together (two would be read as one decimal, one access short) and every index
is finite (an infinite one is no whole number). -/
theorem Access.path_apart {segs : List Segment} {e : Expr} {ts : Tokens}
    (kinds : ts.map Prod.fst = accessTokens segs) (access : Access g e ts (pathExpr e segs) []) :
    segs.IsChain Segment.Apart ∧
      ∀ ds, .digits ds ∈ segs → Decimal.isFinite (Segment.indexValue ds) = true := by
  fun_induction accessTokens segs generalizing e ts with
  | case1 => exact ⟨.nil, by simp⟩
  | case2 s rest ih =>
    obtain ⟨ts, restKinds, accessed⟩ := access.field_of_kinds kinds
    obtain ⟨apart, finite⟩ := ih restKinds accessed
    refine ⟨List.isChain_cons.mpr ⟨fun _ _ => .inl rfl, apart⟩, fun ds mem => ?_⟩
    rcases List.mem_cons.mp mem with same | later
    · cases same
    · exact finite ds later
  | case3 a b rest ih =>
    -- one decimal for two runs of digits leaves the tree one access short
    obtain ⟨ts, restKinds, -, accessed⟩ := access.index_of_kinds kinds
    have short := accessed.depth_le_of_path restKinds
    simp only [pathExpr_cons, accessDepth_pathExpr, Segment.access, Expr.accessDepth] at short
    omega
  | case4 a rest alone ih =>
    obtain ⟨ts, restKinds, whole, accessed⟩ := access.index_of_kinds kinds
    obtain ⟨apart, finite⟩ := ih restKinds accessed
    refine ⟨List.isChain_cons.mpr ⟨fun next first => ?_, apart⟩, fun ds mem => ?_⟩
    · -- the next segment is a name, since no run of digits follows
      obtain _ | ⟨next', rest⟩ := rest
      · cases first
      · cases Option.some.inj first
        cases next with
        | name _ => exact .inr rfl
        | digits b => exact (alone b rest rfl).elim
    · rcases List.mem_cons.mp mem with same | later
      · cases same
        exact (Decimal.isIntegral_nearest_nat _).symm.trans whole
      · exact finite ds later

end Paths

end Grammar

namespace Parser

/-- Over a name and the tokens of a path, the reader reads to the end exactly the trees of the
grammar's accesses to the end. -/
theorem plain_expression_path (stop : Nat) {name : String} (free : name ∉ Grammar.keywords)
    (o : Nat) {segs : List Segment} {ts : Tokens} (kinds : ts.map Prod.fst = accessTokens segs)
    (e : Expr) :
    plain (expression stop 0 ((.ident name, o) :: ts)) = .ok (e, []) ↔
      Grammar.Access true (.var name) ts e [] := by
  -- a name that is no keyword is read as a variable, and its accesses after it
  have named : Grammar.Primary true ((.ident name, o) :: ts) (.var name) ts := .var free
  rw [plain_expression, plain_unary_of_primary stop named.head_not_prefix,
    (primary_iff (faithful stop _)).mpr named]
  show (plain (accesses stop (.var name) ts)).bind _ = _ ↔ _
  have faithful := faithful stop (ts.length + 1)
  constructor
  · intro read
    obtain ⟨⟨y, r⟩, accessed, closed⟩ := bind_eq_ok.mp read
    obtain ⟨access, ends⟩ := (faithful.accesses (Nat.lt_succ_self _)).mp accessed
    obtain rfl := access.rest_nil_of_path kinds ends
    dsimp only at closed
    rw [plain_climb_nil] at closed
    cases closed
    exact access
  · intro access
    rw [(faithful.accesses (Nat.lt_succ_self _)).mpr ⟨access, trivial⟩]
    exact plain_climb_nil stop 0 e

end Parser

/-- A dotted path `x.s₁.s₂…` over a variable that is no keyword reads as its chain of fields and
indices exactly when no run of digits comes right after another and the double nearest to each
run of digits is finite. -/
theorem Expr.parse_path {x : List Char} (named : IsName x) (free : String.ofList x ∉ Grammar.keywords)
    {segs : List Segment} (valid : ∀ s ∈ segs, s.Valid) :
    Expr.parse (pathText x segs) = .ok (pathExpr (.var (String.ofList x)) segs) ↔
      segs.IsChain Segment.Apart ∧
        ∀ ds, .digits ds ∈ segs → Decimal.isFinite (Segment.indexValue ds) = true := by
  obtain ⟨ts, lexed, kinds⟩ := lexes_path named valid 0
  obtain ⟨o, rest, rfl, restKinds⟩ := kinds_cons kinds
  rw [← String.toList_ofList (l := x ++ accessText segs)] at lexed
  have read := Parser.plain_expression_path (pathText x segs).utf8ByteSize free o restKinds
    (pathExpr (.var (String.ofList x)) segs)
  constructor
  · intro parsed
    obtain ⟨ts, lexed', derived⟩ := Expr.derives_of_parse_eq_ok parsed
    rw [pathText, lexed] at lexed'
    cases lexed'
    exact (read.mp ((Parser.expression_ok_iff _ _ _ _).mpr ⟨derived, trivial⟩)).path_apart restKinds
  · rintro ⟨apart, finite⟩
    have accessed := read.mpr (Grammar.Access.of_path restKinds apart finite)
    exact Expr.parse_eq_ok_of_derives lexed ((Parser.expression_ok_iff _ _ _ _).mp accessed).1

/-- The path `x.a.10.b` reads as its field, index and field. -/
theorem Expr.parse_path_items :
    Expr.parse (pathText ['x'] [.name ['a'], .digits ['1', '0'], .name ['b']]) =
      .ok (pathExpr (.var (String.ofList ['x'])) [.name ['a'], .digits ['1', '0'], .name ['b']]) :=
  -- the letters are checked one at a time, the kernel evaluating their class
  (Expr.parse_path (by exact ⟨by decide +kernel, by simp⟩) (by decide)
    (by simp [Segment.Valid, IsName, IsDigits]; decide +kernel)).mpr
    ⟨by decide, fun ds mem => by simp at mem; subst mem; decide +kernel⟩

-- a run of digits after another makes one decimal with it, a whole one here
example : (Expr.parse "x.1.0").map Expr.describe = .ok "x[1.0]" := by decide +kernel

/-- Two runs of digits in a row are read as one decimal number: `x.1.2` is not `x[1.0][2.0]`
but fails at the number `1.2`, where a name or a whole index was due. -/
theorem Expr.parse_digit_runs_merge : Expr.parse "x.1.2" = .error ⟨.expectedField, 2⟩ := by
  have failed : (Expr.parse "x.1.2").map (fun _ => ()) = .error ⟨.expectedField, 2⟩ := by
    decide +kernel
  revert failed
  cases Expr.parse "x.1.2" <;> simp [Except.map]

end PromptPipeline
