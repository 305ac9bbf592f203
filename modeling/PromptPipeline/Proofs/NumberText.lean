import PromptPipeline.Proofs.Overflow
import PromptPipeline.Decimal.Shortest
import PromptPipeline.Json.Write
import PromptPipeline.Expr.Coerce
import Mathlib
/-!
The JSON text of a number reads back as a finite double.

`Json.Number.write` gives an integer with all of its digits and a finite double as its shortest
decimal under the JSON layout. Read back by `Decimal.ofString?`, after `Text.trim`, each such
text denotes the decimal it was written from, and that decimal lies below the overflow
threshold: an integer of a data value has at most twenty digits, and the shortest decimal of a
finite double lies inside the interval of reals that round to it, or below the double when no
candidate of seventeen digits falls inside. So the text is numeric, and the string holding it
reads as a number (`Value.asNumber?_str_write`).

A `Numeral` is the text of an unsigned number that `readUnsigned?` reads, with its value.
-/
namespace PromptPipeline

namespace Text

/-- Between the space and the next blank (`U+0085`) no character is blank: the binary search
over the bounds of the white space takes the same five steps for each of them. -/
theorem countAtOrBelow_blank {n : Nat} (lo : 33 ≤ n) (hi : n < 133) :
    countAtOrBelow whiteSpaceBounds n = 4 := by
  unfold countAtOrBelow
  rw [show whiteSpaceBounds.size = 20 from rfl]
  rw [countAtOrBelow.go, if_pos (by decide),
    if_neg (by rw [show whiteSpaceBounds.getD 10 0 = 8192 from rfl]; omega)]
  rw [countAtOrBelow.go, if_pos (by decide),
    if_neg (by rw [show whiteSpaceBounds.getD 5 0 = 134 from rfl]; omega)]
  rw [countAtOrBelow.go, if_pos (by decide),
    if_pos (by rw [show whiteSpaceBounds.getD 2 0 = 32 from rfl]; omega)]
  rw [countAtOrBelow.go, if_pos (by decide),
    if_neg (by rw [show whiteSpaceBounds.getD 4 0 = 133 from rfl]; omega)]
  rw [countAtOrBelow.go, if_pos (by decide),
    if_pos (by rw [show whiteSpaceBounds.getD 3 0 = 33 from rfl]; omega)]
  rw [countAtOrBelow.go, if_neg (by decide)]

theorem isBlank_eq_false {c : Char} (lo : 33 ≤ c.toNat) (hi : c.toNat < 133) :
    isBlank c = false := by
  simp [isBlank, inClass, countAtOrBelow_blank lo hi]

/-- A text with no blank character is its own trimmed text. -/
theorem trim_eq_self {s : String} (visible : ∀ c ∈ s.toList, isBlank c = false) : trim s = s := by
  have front : s.toList.dropWhile isBlank = s.toList := by
    cases h : s.toList with
    | nil => rfl
    | cons c rest => simp [visible c (by simp [h])]
  have back : s.toList.reverse.dropWhile isBlank = s.toList.reverse := by
    cases h : s.toList.reverse with
    | nil => rfl
    | cons c rest =>
      have : c ∈ s.toList := by rw [← List.mem_reverse, h]; simp
      simp [visible c this]
  rw [trim, front, back, List.reverse_reverse, String.ofList_toList]

end Text

namespace Decimal

section Digits

theorem digitsValue_append (a b : List Char) :
    digitsValue (a ++ b) = digitsValue a * 10 ^ b.length + digitsValue b := by
  show Nat.ofDigitChars 10 (a ++ b) 0 =
    Nat.ofDigitChars 10 a 0 * 10 ^ b.length + Nat.ofDigitChars 10 b 0
  rw [Nat.ofDigitChars_append, Nat.ofDigitChars_eq_ofDigitChars_zero, Nat.mul_comm]

@[simp]
theorem digitsValue_toDigits (n : Nat) : digitsValue (Nat.toDigits 10 n) = n :=
  Nat.ofDigitChars_toDigits (by decide) (by decide)

@[simp]
theorem digitsValue_zeros (k : Nat) : digitsValue (List.replicate k '0') = 0 := by
  show Nat.ofDigitChars 10 (List.replicate k '0') 0 = 0
  simp

theorem digit_of_mem_toDigits {n : Nat} {c : Char} (mem : c ∈ Nat.toDigits 10 n) : c.isDigit :=
  Nat.isDigit_of_mem_toDigits (by decide) (by decide) mem

theorem digit_of_mem_zeros {k : Nat} {c : Char} (mem : c ∈ List.replicate k '0') : c.isDigit := by
  rw [List.eq_of_mem_replicate mem]; rfl

theorem toNat_of_isDigit {c : Char} (digit : c.isDigit) : 48 ≤ c.toNat ∧ c.toNat ≤ 57 := by
  simp only [Char.isDigit, Bool.and_eq_true, decide_eq_true_eq] at digit
  exact ⟨digit.1, digit.2⟩

theorem isBlank_of_isDigit {c : Char} (digit : c.isDigit) : Text.isBlank c = false := by
  have := toNat_of_isDigit digit
  exact Text.isBlank_eq_false (by omega) (by omega)

theorem toLower_of_isDigit {c : Char} (digit : c.isDigit) : c.toLower = c := by
  have := toNat_of_isDigit digit
  simp only [Char.toLower]
  rw [dif_neg]
  intro upper
  have : 65 ≤ c.toNat := upper.1
  omega

/-- A text that starts with a digit, in lower case, is no word that starts with a letter. -/
theorem lower_ne_word_of_digit {c : Char} (digit : c.isDigit) (rest : List Char) (word : String)
    (first : Char) (head : word.toList.head? = some first) (letter : first.isDigit = false) :
    (String.ofList ((c :: rest).map Char.toLower) == word) = false := by
  rw [List.map_cons, toLower_of_isDigit digit, beq_eq_false_iff_ne]
  intro same
  rw [← same, String.toList_ofList, List.head?_cons, Option.some.injEq] at head
  rw [← head, digit] at letter
  contradiction

/-- A run of digits followed by something else than a digit splits off whole. -/
theorem spanDigits_append {w r : List Char} (digits : ∀ c ∈ w, c.isDigit)
    (stop : ∀ c ∈ r.head?, c.isDigit = false) : spanDigits (w ++ r) = (w, r) := by
  induction w with
  | nil =>
    cases r with
    | nil => rfl
    | cons c rest =>
      have : c.isDigit = false := stop c rfl
      simp [spanDigits, this]
  | cons c w ih =>
    have first : c.isDigit = true := digits c List.mem_cons_self
    have rest := ih (fun d mem => digits d (List.mem_cons_of_mem c mem))
    simp only [spanDigits, Prod.mk.injEq] at rest ⊢
    simp [first, rest]

end Digits

/-- The text of an unsigned number that `readUnsigned?` reads as a decimal of the given value;
it starts with a digit and holds no blank. -/
structure Numeral (body : List Char) (value : ℚ) : Prop where
  head : ∃ c rest, body = c :: rest ∧ c.isDigit
  visible : ∀ c ∈ body, Text.isBlank c = false
  reads : ∃ d g, readUnsigned? body = some (d, g) ∧ (d : ℚ) * 10 ^ g = value

section Numerals

variable {w f t : List Char} (whole : ∀ c ∈ w, c.isDigit) (nonempty : w ≠ [])
  (fraction : ∀ c ∈ f, c.isDigit)

include whole nonempty

theorem head_of_digits : ∃ c rest, w = c :: rest ∧ c.isDigit := by
  obtain ⟨c, rest, rfl⟩ := List.exists_cons_of_ne_nil nonempty
  exact ⟨c, rest, rfl, whole c List.mem_cons_self⟩

theorem readUnsigned?_digits : readUnsigned? w = some (digitsValue w, 0) := by
  have span := spanDigits_append whole (by simp : ∀ c ∈ ([] : List Char).head?, c.isDigit = false)
  rw [List.append_nil] at span
  simp [readUnsigned?, span, nonempty]

/-- Digits alone. -/
theorem Numeral.digits : Numeral w (digitsValue w) where
  head := head_of_digits whole nonempty
  visible c mem := isBlank_of_isDigit (whole c mem)
  reads := ⟨_, _, readUnsigned?_digits whole nonempty, by simp⟩

include fraction

theorem readUnsigned?_point :
    readUnsigned? (w ++ '.' :: f) = some (digitsValue (w ++ f), -(f.length : ℤ)) := by
  have span := spanDigits_append whole
    (by simp : ∀ c ∈ ('.' :: f).head?, c.isDigit = false)
  have spanFraction := spanDigits_append fraction
    (by simp : ∀ c ∈ ([] : List Char).head?, c.isDigit = false)
  rw [List.append_nil] at spanFraction
  simp [readUnsigned?, span, spanFraction, nonempty]

/-- Digits, a point and more digits. -/
theorem Numeral.point :
    Numeral (w ++ '.' :: f) (digitsValue (w ++ f) * 10 ^ (-(f.length : ℤ))) where
  head := by
    obtain ⟨c, rest, rfl, digit⟩ := head_of_digits whole nonempty
    exact ⟨c, rest ++ '.' :: f, rfl, digit⟩
  visible c mem := by
    simp only [List.mem_append, List.mem_cons] at mem
    rcases mem with inWhole | point | inFraction
    · exact isBlank_of_isDigit (whole c inWhole)
    · rw [point]; exact Text.isBlank_eq_false (by decide) (by decide)
    · exact isBlank_of_isDigit (fraction c inFraction)
  reads := ⟨_, _, readUnsigned?_point whole nonempty fraction, rfl⟩

/-- The mantissa, with its fraction when there is one, then an exponent with its sign. -/
theorem readUnsigned?_exponent (negative : Bool) (power : ∀ c ∈ t, c.isDigit) (present : t ≠ []) :
    readUnsigned? (w ++ (if f.isEmpty then [] else '.' :: f) ++
        'e' :: (if negative then '-' else '+') :: t) =
      some (digitsValue (w ++ f),
        (if negative then -(digitsValue t : ℤ) else digitsValue t) - f.length) := by
  have powerDigits : t.all Char.isDigit = true := List.all_eq_true.mpr power
  cases f with
  | nil =>
    have span := spanDigits_append whole
      (by simp : ∀ c ∈ ('e' :: (if negative then '-' else '+') :: t).head?, c.isDigit = false)
    simp only [List.isEmpty_nil, if_true, List.append_nil]
    simp only [readUnsigned?, span]
    cases negative <;> simp [nonempty, present, powerDigits]
  | cons c f =>
    have span := spanDigits_append whole (by simp : ∀ d ∈ ('.' ::
      (c :: f ++ 'e' :: (if negative then '-' else '+') :: t)).head?, d.isDigit = false)
    have spanFraction := spanDigits_append fraction
      (by simp : ∀ c ∈ ('e' :: (if negative then '-' else '+') :: t).head?, c.isDigit = false)
    rw [if_neg (by simp), List.append_assoc, List.cons_append]
    simp only [readUnsigned?, span, spanFraction]
    cases negative <;> simp [present, powerDigits]

/-- Digits, an optional fraction and an exponent. -/
theorem Numeral.exponent (negative : Bool) (power : ∀ c ∈ t, c.isDigit) (present : t ≠ []) :
    Numeral
      (w ++ (if f.isEmpty then [] else '.' :: f) ++ 'e' :: (if negative then '-' else '+') :: t)
      (digitsValue (w ++ f) *
        10 ^ ((if negative then -(digitsValue t : ℤ) else digitsValue t) - f.length)) where
  head := by
    obtain ⟨c, rest, rfl, digit⟩ := head_of_digits whole nonempty
    exact ⟨c, _, rfl, digit⟩
  visible c mem := by
    have point : Text.isBlank '.' = false := Text.isBlank_eq_false (by decide) (by decide)
    have letter : Text.isBlank 'e' = false := Text.isBlank_eq_false (by decide) (by decide)
    have sign : Text.isBlank (if negative then '-' else '+') = false := by
      cases negative <;> exact Text.isBlank_eq_false (by decide) (by decide)
    simp only [List.mem_append, List.mem_cons] at mem
    rcases mem with (inWhole | inFraction) | rfl | rfl | inPower
    · exact isBlank_of_isDigit (whole c inWhole)
    · split at inFraction
      · simp at inFraction
      · simp only [List.mem_cons] at inFraction
        rcases inFraction with rfl | inFraction
        · exact point
        · exact isBlank_of_isDigit (fraction c inFraction)
    · exact letter
    · exact sign
    · exact isBlank_of_isDigit (power c inPower)
  reads := ⟨_, _, readUnsigned?_exponent whole nonempty fraction negative power present, rfl⟩

end Numerals

/-- A numeral after an optional minus sign reads as the nearest double to its value. -/
theorem Numeral.ofString? {body : List Char} {v : ℚ} (numeral : Numeral body v)
    (negative : Bool) : ∃ d g, ofString? (String.ofList (if negative then '-' :: body else body)) =
      some (nearest negative d g) ∧ (d : ℚ) * 10 ^ g = v := by
  obtain ⟨c, rest, rfl, digit⟩ := numeral.head
  obtain ⟨d, g, read, value⟩ := numeral.reads
  refine ⟨d, g, ?_, value⟩
  -- the words `inf`, `infinity` and `nan` start with a letter, the numeral with a digit
  have inf := lower_ne_word_of_digit digit rest "inf" 'i' rfl rfl
  have infinity := lower_ne_word_of_digit digit rest "infinity" 'i' rfl rfl
  have nan := lower_ne_word_of_digit digit rest "nan" 'n' rfl rfl
  unfold Decimal.ofString?
  cases negative
  · simp only [Bool.false_eq_true, if_false, String.toList_ofList]
    split
    · rename_i same; cases same; simp at digit
    · rename_i same; cases same; simp at digit
    · dsimp only
      rw [inf, infinity, nan, read]
      rfl
  · simp only [if_true, String.toList_ofList]
    rw [inf, infinity, nan, read]
    rfl

/-- The value of a decimal. -/
def Scientific.value (s : Scientific) : ℚ := s.digits * 10 ^ s.exponent

theorem Scientific.value_trim (s : Scientific) : s.trim.value = s.value := by
  fun_induction Scientific.trim s with
  | case1 s dropped ih =>
    rw [ih, Scientific.value, Scientific.value, zpow_add_one₀ (by norm_num)]
    have : ((s.digits / 10 : ℕ) : ℚ) * 10 = s.digits := by
      exact_mod_cast Nat.div_mul_cancel (Nat.dvd_of_mod_eq_zero dropped.2)
    dsimp only
    rw [← this]
    ring
  | case2 s kept => rfl

section Layouts

variable (n : Nat) (g : Int)

/-- Digits, zeros for a non-negative exponent, then `.0`. -/
theorem numeral_whole (nonneg : 0 ≤ g) :
    Numeral (Nat.toDigits 10 n ++ List.replicate g.toNat '0' ++ ['.', '0']) (n * 10 ^ g) := by
  have digits : ∀ c ∈ Nat.toDigits 10 n ++ List.replicate g.toNat '0', c.isDigit := by
    intro c mem
    rcases List.mem_append.mp mem with inDigits | inZeros
    · exact digit_of_mem_toDigits inDigits
    · exact digit_of_mem_zeros inZeros
  have numeral := Numeral.point digits (by simp) (by simp : ∀ c ∈ ['0'], c.isDigit)
  rw [List.append_assoc] at numeral ⊢
  convert numeral using 1
  rw [digitsValue_append, digitsValue_append]
  simp only [digitsValue_toDigits, digitsValue_zeros, List.length_replicate, List.length_cons,
    List.length_nil]
  rw [show digitsValue ['0'] = 0 from rfl]
  have power : (10 : ℚ) ^ g = 10 ^ g.toNat := by
    rw [← zpow_natCast, Int.toNat_of_nonneg nonneg]
  rw [power]
  push_cast
  norm_num
  ring

/-- The digits cut by a point, for a negative exponent that leaves a digit before the point. -/
theorem numeral_cut (negative : g < 0) (lead : 0 ≤ ((Nat.toDigits 10 n).length : ℤ) - 1 + g) :
    Numeral ((Nat.toDigits 10 n).take ((Nat.toDigits 10 n).length + g).toNat ++
      '.' :: (Nat.toDigits 10 n).drop ((Nat.toDigits 10 n).length + g).toNat) (n * 10 ^ g) := by
  set cut := ((Nat.toDigits 10 n).length + g).toNat
  have numeral := Numeral.point
    (fun c mem => digit_of_mem_toDigits (List.mem_of_mem_take mem) :
      ∀ c ∈ (Nat.toDigits 10 n).take cut, c.isDigit)
    (by simp only [ne_eq, List.take_eq_nil_iff, Nat.toDigits_ne_nil, or_false]; omega)
    (fun c mem => digit_of_mem_toDigits (List.mem_of_mem_drop mem) :
      ∀ c ∈ (Nat.toDigits 10 n).drop cut, c.isDigit)
  convert numeral using 1
  rw [List.take_append_drop, digitsValue_toDigits, List.length_drop]
  congr 2
  omega

/-- A point, zeros, then the digits, for a leading digit below the units. -/
theorem numeral_small (lead : ((Nat.toDigits 10 n).length : ℤ) - 1 + g < 0) :
    Numeral (['0'] ++ '.' :: (List.replicate (-(((Nat.toDigits 10 n).length : ℤ) - 1 + g) - 1).toNat
      '0' ++ Nat.toDigits 10 n)) (n * 10 ^ g) := by
  set k := (-(((Nat.toDigits 10 n).length : ℤ) - 1 + g) - 1).toNat with hk
  have numeral := Numeral.point (by simp : ∀ c ∈ ['0'], c.isDigit) (by simp)
    (fun c mem => (List.mem_append.mp mem).elim digit_of_mem_zeros digit_of_mem_toDigits :
      ∀ c ∈ List.replicate k '0' ++ Nat.toDigits 10 n, c.isDigit)
  convert numeral using 1
  rw [← List.append_assoc, digitsValue_append, digitsValue_append, List.length_append,
    List.length_replicate]
  simp only [digitsValue_toDigits, digitsValue_zeros, show digitsValue ['0'] = 0 from rfl,
    Nat.zero_mul, Nat.zero_add]
  congr 2
  omega

/-- The leading digit, the other digits after a point, then the exponent of the leading digit. -/
theorem numeral_exponent :
    Numeral ((Nat.toDigits 10 n).take 1 ++
      (if ((Nat.toDigits 10 n).drop 1).isEmpty then [] else '.' :: (Nat.toDigits 10 n).drop 1) ++
      'e' :: (if ((Nat.toDigits 10 n).length : ℤ) - 1 + g < 0 then '-' else '+') ::
        Nat.toDigits 10 (((Nat.toDigits 10 n).length : ℤ) - 1 + g).natAbs) (n * 10 ^ g) := by
  have first : ∀ c ∈ (Nat.toDigits 10 n).take 1, c.isDigit :=
    fun c mem => digit_of_mem_toDigits (List.mem_of_mem_take mem)
  have present : (Nat.toDigits 10 n).take 1 ≠ [] := by simp
  have rest : ∀ c ∈ (Nat.toDigits 10 n).drop 1, c.isDigit :=
    fun c mem => digit_of_mem_toDigits (List.mem_of_mem_drop mem)
  set lead := ((Nat.toDigits 10 n).length : ℤ) - 1 + g with hlead
  have long : 1 ≤ (Nat.toDigits 10 n).length := List.length_pos_iff.mpr Nat.toDigits_ne_nil
  have numeral := Numeral.exponent first present rest (decide (lead < 0))
    (fun c mem => digit_of_mem_toDigits mem : ∀ c ∈ Nat.toDigits 10 lead.natAbs, c.isDigit)
    Nat.toDigits_ne_nil
  simp only [decide_eq_true_eq] at numeral
  convert numeral using 1
  rw [List.take_append_drop, digitsValue_toDigits, digitsValue_toDigits, List.length_drop]
  congr 2
  split <;> omega

end Layouts

theorem toList_mantissa (a l : List Char) :
    (if (String.ofList l).isEmpty then String.ofList a
      else String.ofList a ++ "." ++ String.ofList l).toList =
      a ++ (if l.isEmpty then [] else '.' :: l) := by
  cases l with
  | nil => simp
  | cons c l => simp [String.toList_append]

/-- Under the JSON layout a decimal is written as a numeral of its value after an optional
minus sign. -/
theorem Scientific.write_numeral (negative : Bool) (s : Scientific) :
    ∃ body, (s.write Json.numberLayout negative).toList =
      (if negative then '-' :: body else body) ∧ Numeral body s.value := by
  unfold Scientific.write
  extract_lets sign ds len lead positional cut first rest mantissa expSign
  have signed (body : List Char) :
      (sign.toList ++ body) = if negative then '-' :: body else body := by
    simp only [sign]; split <;> rfl
  split
  · rename_i zero
    refine ⟨['0'] ++ ['.', '0'], by rw [String.toList_append, signed]; rfl, ?_⟩
    have numeral := Numeral.point (by simp : ∀ c ∈ ['0'], c.isDigit) (by simp)
      (by simp : ∀ c ∈ ['0'], c.isDigit)
    convert numeral using 1
    unfold Scientific.value
    rw [zero, show digitsValue (['0'] ++ ['0']) = 0 from rfl]
    simp
  have digits : ds.toList = Nat.toDigits 10 s.digits := by
    simp only [ds, Nat.toString_eq_ofList_toDigits, String.toList_ofList]
  have length : len = (Nat.toDigits 10 s.digits).length := by
    simp only [len, ← String.length_toList, digits]
  have leadEq : lead = ((Nat.toDigits 10 s.digits).length : ℤ) - 1 + s.exponent := by
    simp only [lead, length]
  split
  · split
    · rename_i whole
      refine ⟨_, ?_, numeral_whole s.digits s.exponent whole⟩
      simp only [String.toList_append, digits, zeros, String.toList_ofList, List.append_assoc]
      rw [signed]
      rfl
    · rename_i fractional
      split
      · rename_i cutting
        have numeral := numeral_cut s.digits s.exponent (by omega) (by omega)
        refine ⟨_, ?_, numeral⟩
        have cutEq : cut = ((Nat.toDigits 10 s.digits).length + s.exponent).toNat := by
          simp only [cut]; omega
        simp only [String.toList_append, digits, String.toList_ofList, List.append_assoc, cutEq]
        rw [signed]
        rfl
      · rename_i small
        have numeral := numeral_small s.digits s.exponent (by omega)
        refine ⟨_, ?_, numeral⟩
        simp only [String.toList_append, digits, zeros, String.toList_ofList, List.append_assoc,
          leadEq]
        rw [signed]
        rfl
  · refine ⟨_, ?_, numeral_exponent s.digits s.exponent⟩
    have sign : (expSign.toList) = [if lead < 0 then '-' else '+'] := by
      simp only [expSign, Json.numberLayout]; split <;> rfl
    simp only [String.toList_append, mantissa, first, rest, toList_mantissa, sign, digits,
      Nat.toString_eq_ofList_toDigits, String.toList_ofList, List.append_assoc, leadEq]
    rw [signed]
    rfl

section Shortest

/-- The two sides that `compareScaled` compares, over their common denominator. -/
theorem decimal_eq_div (a : Nat) (p q : Int) : (a : ℚ) * 10 ^ p =
    ((a * Nat.pow 10 p.toNat * Nat.pow 2 (-q).toNat : ℕ) : ℚ) /
      ((Nat.pow 10 (-p).toNat * Nat.pow 2 (-q).toNat : ℕ) : ℚ) := by
  simp only [Nat.pow_eq, zpow_eq_pow_div p]
  push_cast
  field_simp

theorem binary_eq_div (b : Nat) (p q : Int) : (b : ℚ) * 2 ^ q =
    ((b * Nat.pow 2 q.toNat * Nat.pow 10 (-p).toNat : ℕ) : ℚ) /
      ((Nat.pow 10 (-p).toNat * Nat.pow 2 (-q).toNat : ℕ) : ℚ) := by
  simp only [Nat.pow_eq, zpow_eq_pow_div q]
  push_cast
  field_simp

theorem lt_of_compareScaled_lt {a b : Nat} {p q : Int} (h : compareScaled a p b q = .lt) :
    (a : ℚ) * 10 ^ p < b * 2 ^ q := by
  rw [decimal_eq_div a p q, binary_eq_div b p q]
  exact div_lt_div_of_pos_right (by exact_mod_cast Nat.compare_eq_lt.mp h)
    (by simp only [Nat.pow_eq]; positivity)

theorem eq_of_compareScaled_eq {a b : Nat} {p q : Int} (h : compareScaled a p b q = .eq) :
    (a : ℚ) * 10 ^ p = b * 2 ^ q := by
  rw [decimal_eq_div a p q, binary_eq_div b p q, Nat.compare_eq_eq.mp h]

/-- The shortest decimal of a double below `2^53 · 2^971` lies below the threshold: a chosen
candidate lies inside the interval of reals rounding to the double, whose upper end
`(m + 1/2) · 2^e` is at most the threshold and excluded when it is the threshold, and the
fallback lies below the double. -/
theorem shortestOf_value_lt {m : Nat} {e : Int} (lowerHalved : Bool) (hm : m < 2 ^ 53)
    (he : e ≤ 971) : (shortestOf m e lowerHalved).value < overflow := by
  unfold shortestOf
  extract_lets lo hi closed inside lead attempt g fallback
  rw [Scientific.value_trim]
  -- the upper end of the interval, in units of `2^969`
  obtain ⟨u, hu⟩ : ∃ u : ℚ, u = 2 ^ 969 := ⟨_, rfl⟩
  have unit : (2 : ℚ) ^ (e - 2) ≤ u := by
    rw [hu, ← zpow_natCast]; exact zpow_le_zpow_right₀ (by norm_num) (by omega)
  have threshold : overflow = (2 ^ 55 - 2) * u := by
    rw [overflow, hu, show 1024 = 55 + 969 from rfl, show 970 = 1 + 969 from rfl, pow_add,
      pow_add, pow_one, ← sub_mul]
  have uPos : 0 < u := by rw [hu]; positivity
  clear hu
  have hiLe : (hi : ℚ) * 2 ^ (e - 2) ≤ overflow := by
    rw [threshold]
    have : (hi : ℚ) ≤ 2 ^ 55 - 2 := by
      have : hi + 2 ≤ 2 ^ 55 := by simp only [hi]; omega
      have : (hi : ℚ) + 2 ≤ 2 ^ 55 := by exact_mod_cast this
      linarith only [this]
    exact mul_le_mul this unit (by positivity) (by norm_num)
  have hiLt (even : closed) : (hi : ℚ) * 2 ^ (e - 2) < overflow := by
    rw [threshold]
    have : (hi : ℚ) ≤ 2 ^ 55 - 6 := by
      have : hi + 6 ≤ 2 ^ 55 := by simp only [hi, closed] at even ⊢; omega
      have : (hi : ℚ) + 6 ≤ 2 ^ 55 := by exact_mod_cast this
      linarith only [this]
    calc (hi : ℚ) * 2 ^ (e - 2) ≤ (2 ^ 55 - 6) * u :=
          mul_le_mul this unit (by positivity) (by norm_num)
      _ < (2 ^ 55 - 2) * u := by linarith only [uPos]
  -- every candidate inside the interval lies below its upper end
  have insideLt (d : Nat) (g : Int) (within : inside d g = true) :
      (d : ℚ) * 10 ^ g < overflow := by
    simp only [inside, Bool.and_eq_true, Bool.or_eq_true, beq_iff_eq, decide_eq_true_eq] at within
    rcases within.2 with lt | ⟨even, eq⟩
    · exact (lt_of_compareScaled_lt lt).trans_le hiLe
    · rw [eq_of_compareScaled_eq eq]; exact hiLt even
  have attemptLt (n : Nat) (sc : Scientific) (found : attempt n = some sc) :
      sc.value < overflow := by
    simp -zeta only [attempt] at found
    extract_lets g d at found
    -- whichever candidate is chosen passed the test `inside`
    cases first : inside d g <;> cases second : inside (d + 1) g <;>
      simp only [first, second] at found
    · cases found
    · cases found; exact insideLt _ _ second
    · cases found; exact insideLt _ _ first
    · -- both pass: the nearer to the double is chosen, the even one on a tie
      split at found
      · cases found; exact insideLt _ _ first
      · cases found; exact insideLt _ _ second
      · split at found <;> cases found
        · exact insideLt _ _ first
        · exact insideLt _ _ second
  -- the fallback rounds the double down at seventeen digits
  have fallbackLt : fallback.value < overflow := by
    have floor : fallback.digits * Nat.pow 10 g.toNat * Nat.pow 2 (-e).toNat ≤
        m * Nat.pow 2 e.toNat * Nat.pow 10 (-g).toNat := by
      calc fallback.digits * Nat.pow 10 g.toNat * Nat.pow 2 (-e).toNat
          = fallback.digits * (Nat.pow 2 (-e).toNat * Nat.pow 10 g.toNat) := by ring
        _ ≤ m * Nat.pow 2 e.toNat * Nat.pow 10 (-g).toNat := Nat.div_mul_le_self _ _
    have down : fallback.value ≤ m * 2 ^ e := by
      rw [Scientific.value, decimal_eq_div _ g e, binary_eq_div m g e]
      exact div_le_div_of_nonneg_right (by exact_mod_cast floor) (by positivity)
    have double : (m : ℚ) * 2 ^ e ≤ (2 ^ 55 - 4) * u := by
      have : (m : ℚ) + 1 ≤ 2 ^ 53 := by exact_mod_cast hm
      rw [show e = e - 2 + 2 by ring, zpow_add₀ (by norm_num)]
      calc (m : ℚ) * (2 ^ (e - 2) * 2 ^ (2 : ℤ)) = (4 * m) * 2 ^ (e - 2) := by norm_num; ring
        _ ≤ (2 ^ 55 - 4) * u :=
          mul_le_mul (by linarith only [this]) unit (by positivity) (by norm_num)
    rw [threshold]
    linarith only [down, double, uPos]
  cases found : List.findSome? (fun i => attempt (i + 1)) (List.range 17) with
  | none => exact fallbackLt
  | some sc =>
    obtain ⟨i, -, chosen⟩ := List.exists_of_findSome?_eq_some found
    exact attemptLt _ _ chosen

/-- The parts of a finite double: a significand below `2^53` and an exponent at most 971. -/
theorem Binary.ofFloat_bounds {x : Float} (finite : isFinite x) :
    (Binary.ofFloat x).significand < 2 ^ 53 ∧ (Binary.ofFloat x).exponent ≤ 971 := by
  have field : Binary.exponentField x ≤ 2046 := by
    have : Binary.exponentField x < 2048 := by
      simp only [Binary.exponentField, Nat.pow_eq]; exact Nat.mod_lt _ (by decide)
    simp only [isFinite, ne_eq, decide_eq_true_eq] at finite
    omega
  unfold Binary.ofFloat
  extract_lets bits fraction biased
  have small : fraction < 2 ^ 52 := by
    simp only [fraction, Nat.pow_eq]; exact Nat.mod_lt _ (by decide)
  split
  · exact ⟨by simp only; omega, by simp⟩
  · exact ⟨by simp only [Nat.pow_eq]; omega, by simp only [biased]; omega⟩

/-- The shortest decimal of a finite double lies below the threshold. -/
theorem shortest_value_lt {x : Float} (finite : isFinite x) :
    (shortest x).2.value < overflow := by
  obtain ⟨small, exponent⟩ := Binary.ofFloat_bounds finite
  unfold shortest
  extract_lets b
  split
  · simp only [Scientific.value, Nat.cast_zero, zero_mul, overflow, sub_pos]
    exact pow_lt_pow_right₀ (by norm_num) (by norm_num)
  · exact shortestOf_value_lt _ small exponent

end Shortest

end Decimal

/-- A number of a data value: an integer from `-2^63` to `2^64 - 1`, or a finite double. -/
def Number.WellFormed : Number → Prop
  | .int i => -2 ^ 63 ≤ i ∧ i < 2 ^ 64
  | .float x => Decimal.isFinite x = true

instance : DecidablePred Number.WellFormed
  | .int _ => inferInstanceAs (Decidable (_ ∧ _))
  | .float _ => inferInstanceAs (Decidable (_ = true))

open Decimal in
/-- The JSON text of a well-formed number is a numeral below the threshold, after an optional
minus sign. -/
theorem Json.Number.write_numeral {n : Number} (wf : n.WellFormed) :
    ∃ (negative : Bool) (body : List Char) (v : ℚ), (Json.Number.write n).toList =
      (if negative then '-' :: body else body) ∧ Numeral body v ∧ v < overflow := by
  have digits (k : Nat) : Numeral (Nat.toDigits 10 k) k := by
    have numeral := Numeral.digits
      (fun c mem => digit_of_mem_toDigits mem : ∀ c ∈ Nat.toDigits 10 k, c.isDigit)
      Nat.toDigits_ne_nil
    rwa [digitsValue_toDigits] at numeral
  have small {k : Nat} (bound : k ≤ 2 ^ 64) : (k : ℚ) < overflow :=
    lt_of_le_of_lt (by exact_mod_cast bound) (two_pow_lt_overflow (by norm_num))
  cases n with
  | int i =>
    simp only [Number.WellFormed] at wf
    cases i with
    | ofNat k =>
      simp only [Int.ofNat_eq_natCast] at wf
      refine ⟨false, Nat.toDigits 10 k, k, ?_, digits k, small (by omega)⟩
      simp [Json.Number.write, Int.repr, Nat.toList_repr]
    | negSucc k =>
      simp only [Int.negSucc_eq] at wf
      refine ⟨true, Nat.toDigits 10 (k + 1), (k + 1 : ℕ), ?_, digits (k + 1), small (by omega)⟩
      simp [Json.Number.write, Int.repr, Nat.toList_repr]
  | float x =>
    simp only [Number.WellFormed] at wf
    obtain ⟨body, text, numeral⟩ := (shortest x).2.write_numeral (shortest x).1
    refine ⟨(shortest x).1, body, _, ?_, numeral, shortest_value_lt wf⟩
    simp only [Json.Number.write, wf, if_true, writeFloat]
    exact text

open Decimal in
/-- The string holding the JSON text of a well-formed number reads as a number. -/
theorem Value.asNumber?_str_write {n : Number} (wf : n.WellFormed) :
    (Value.str (Json.Number.write n)).asNumber?.isSome := by
  obtain ⟨negative, body, v, text, numeral, below⟩ := Json.Number.write_numeral wf
  obtain ⟨d, g, read, value⟩ := numeral.ofString? negative
  have visible : ∀ c ∈ (Json.Number.write n).toList, Text.isBlank c = false := by
    rw [text]
    intro c mem
    split at mem
    · rcases List.mem_cons.mp mem with rfl | inBody
      · exact Text.isBlank_eq_false (by decide) (by decide)
      · exact numeral.visible c inBody
    · exact numeral.visible c mem
  have finite := isFinite_nearest negative d g (value ▸ below)
  have parse : ofString? (Json.Number.write n) = some (nearest negative d g) := by
    rw [← read, ← text, String.ofList_toList]
  simp [Value.asNumber?, Text.trim_eq_self visible, parse, finite]

end PromptPipeline
