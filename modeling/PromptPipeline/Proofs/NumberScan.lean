import PromptPipeline.Json.Read
/-!
What the reader's number scan takes: number characters only, never more than it is given, and the
same number whatever follows its text, so long as that does not go on with the number.
-/
namespace PromptPipeline.Json

/-- The characters of a number's text: digits, the point, the exponent's letter and signs. -/
def numberChar (c : Char) : Bool :=
  c.isDigit || c == '.' || c == 'e' || c == 'E' || c == '+' || c == '-'

/-- A text that does not go on with the number before it: no digit, point or exponent next. -/
def Stops (rest : List Char) : Prop :=
  ∀ c ∈ rest.head?, c.isDigit = false ∧ c ≠ '.' ∧ c ≠ 'e' ∧ c ≠ 'E'

/-- What a scan over `cs` that counted from `n` to `k` took: at most `cs`, and number characters
only. -/
def Took (cs : List Char) (n k : Nat) : Prop :=
  n ≤ k ∧ k ≤ n + cs.length ∧ ∀ c ∈ cs.take (k - n), numberChar c = true

/-- A scan counting from `n` that finds a number in `cs` took number characters of `cs` only, and
finds the same number when text that stops a number follows `cs`. -/
def Confined (scan : List Char → Scan Number) (n : Nat) : Prop :=
  ∀ {cs v k}, scan cs = .done v k → Took cs n k ∧ ∀ rest, Stops rest → scan (cs ++ rest) = .done v k

theorem numberChar_of_digit {c : Char} (digit : c.isDigit = true) : numberChar c = true := by
  simp [numberChar, digit]

theorem Took.here (cs : List Char) (n : Nat) : Took cs n n :=
  ⟨Nat.le_refl _, Nat.le_add_right _ _, by simp⟩

theorem Took.cons {c : Char} {more : List Char} {n k : Nat} (number : numberChar c = true)
    (took : Took more (n + 1) k) : Took (c :: more) n k := by
  obtain ⟨lo, hi, chars⟩ := took
  refine ⟨by omega, by simp only [List.length_cons]; omega, ?_⟩
  obtain ⟨j, split⟩ : ∃ j, k - n = j + 1 := ⟨k - n - 1, by omega⟩
  rw [split, List.take_succ_cons]
  intro d mem
  rcases List.mem_cons.1 mem with rfl | inMore
  · exact number
  · exact chars d (by rwa [show k - (n + 1) = j by omega])

theorem Took.shift {cs : List Char} {n k : Nat} (took : Took cs n k) (j : Nat) :
    Took cs (n + j) (k + j) := by
  obtain ⟨lo, hi, chars⟩ := took
  exact ⟨by omega, by omega, by rwa [Nat.add_sub_add_right]⟩

/-- A scan that skipped number characters and then took what it took of the rest. -/
theorem Took.drop {cs : List Char} {n j k : Nat} (took : Took (cs.drop j) (n + j) k)
    (skipped : ∀ c ∈ cs.take j, numberChar c = true) (within : j ≤ cs.length) : Took cs n k := by
  obtain ⟨lo, hi, chars⟩ := took
  rw [List.length_drop] at hi
  refine ⟨by omega, by omega, ?_⟩
  rw [show k - n = j + (k - (n + j)) by omega, List.take_add]
  intro c mem
  rcases List.mem_append.1 mem with inFront | inBack
  · exact skipped c inFront
  · exact chars c inBack

theorem finishFloat_done {positive : Bool} {s : Nat} {e : Int} {n : Nat} {v : Number} {k : Nat}
    (done : finishFloat positive s e n = .done v k) : k = n := by
  unfold finishFloat at done
  split at done
  · cases done
    rfl
  · cases done

theorem takeWhile_digits_append (cs : List Char) {rest : List Char} (stops : Stops rest) :
    (cs ++ rest).takeWhile Char.isDigit = cs.takeWhile Char.isDigit := by
  induction cs with
  | nil =>
    cases rest with
    | nil => rfl
    | cons r more => simp [(stops r rfl).1]
  | cons c cs ih =>
    by_cases digit : c.isDigit = true
    · simp [digit, ih]
    · simp [digit]

theorem exponentOverflow_confined (positive zero positiveExp : Bool) (n : Nat) :
    Confined (exponentOverflow positive zero positiveExp · n) n := by
  intro cs v k done
  dsimp only at done ⊢
  simp only [exponentOverflow] at done ⊢
  by_cases refused : (!zero && positiveExp) = true
  · rw [if_pos refused] at done
    cases done
  · rw [if_neg refused] at done
    cases done
    have prefix_ := List.takeWhile_prefix Char.isDigit (l := cs)
    refine ⟨⟨by omega, by have := prefix_.length_le; omega, ?_⟩, fun rest stops => ?_⟩
    · rw [Nat.add_sub_cancel_left, ← List.prefix_iff_eq_take.1 prefix_]
      intro c mem
      exact numberChar_of_digit (List.all_eq_true.1 List.all_takeWhile c mem)
    · rw [if_neg refused, takeWhile_digits_append cs stops]

theorem exponentDigits_confined (positive : Bool) (s : Nat) (start : Int) (positiveExp : Bool) :
    ∀ exp n, Confined (exponentDigits positive s start positiveExp exp · n) n := by
  intro exp n cs v k done
  dsimp only at done ⊢
  fun_induction exponentDigits positive s start positiveExp exp cs n with
  | case1 exp c more n digit d large =>
    obtain ⟨took, same⟩ := exponentOverflow_confined positive (s == 0) positiveExp (n + 1) done
    refine ⟨took.cons (numberChar_of_digit digit), fun rest stops => ?_⟩
    rw [List.cons_append, exponentDigits, if_pos digit]
    dsimp only
    rw [if_pos large]
    exact same rest stops
  | case2 exp c more n digit d within ih =>
    obtain ⟨took, same⟩ := ih done
    refine ⟨took.cons (numberChar_of_digit digit), fun rest stops => ?_⟩
    rw [List.cons_append, exponentDigits, if_pos digit]
    dsimp only
    rw [if_neg within]
    exact same rest stops
  | case3 exp c more n notDigit final =>
    refine ⟨finishFloat_done done ▸ Took.here _ _, fun rest stops => ?_⟩
    rw [List.cons_append, exponentDigits, if_neg notDigit]
    exact done
  | case4 exp n final =>
    refine ⟨finishFloat_done done ▸ Took.here _ _, fun rest stops => ?_⟩
    cases rest with
    | nil => exact done
    | cons r more =>
      rw [List.nil_append, exponentDigits, if_neg (by simp [(stops r rfl).1])]
      exact done

theorem scanExponent_confined (positive : Bool) (s : Nat) (start : Int) (n : Nat) :
    Confined (scanExponent positive s start · n) n := by
  intro cs v k done
  dsimp only at done ⊢
  -- an optional sign, then the digits
  have digits : ∀ (positiveExp : Bool) (d : Char) (more : List Char) (m : Nat),
      (if d.isDigit then exponentDigits positive s start positiveExp (d.toNat - '0'.toNat) more (m + 1)
        else .fault .invalidNumber (m + 1) false) = .done v k →
      Took (d :: more) m k ∧ ∀ rest, Stops rest →
        (if d.isDigit then exponentDigits positive s start positiveExp (d.toNat - '0'.toNat)
          (more ++ rest) (m + 1) else .fault .invalidNumber (m + 1) false) = .done v k := by
    intro positiveExp d more m read
    by_cases digit : d.isDigit = true
    · rw [if_pos digit] at read
      obtain ⟨took, same⟩ := exponentDigits_confined positive s start positiveExp _ _ read
      exact ⟨took.cons (numberChar_of_digit digit), fun rest stops => by rw [if_pos digit]; exact same rest stops⟩
    · rw [if_neg digit] at read
      cases read
  rcases cs with _ | ⟨c, more⟩
  · simp [scanExponent] at done
  by_cases plus : c = '+'
  · subst plus
    rcases more with _ | ⟨d, more⟩
    · simp [scanExponent] at done
    obtain ⟨took, same⟩ := digits true d more (n + 1) (by simpa [scanExponent] using done)
    exact ⟨took.cons (by decide), fun rest stops => by simpa [scanExponent] using same rest stops⟩
  by_cases minus : c = '-'
  · subst minus
    rcases more with _ | ⟨d, more⟩
    · simp [scanExponent] at done
    obtain ⟨took, same⟩ := digits false d more (n + 1) (by simpa [scanExponent] using done)
    exact ⟨took.cons (by decide), fun rest stops => by simpa [scanExponent] using same rest stops⟩
  obtain ⟨took, same⟩ := digits true c more n (by simpa [scanExponent, plus, minus] using done)
  exact ⟨took, fun rest stops => by simpa [scanExponent, plus, minus] using same rest stops⟩

theorem exponentLetter_numberChar {c : Char} (letter : (c == 'e' || c == 'E') = true) :
    numberChar c = true := by
  simp only [Bool.or_eq_true, beq_iff_eq] at letter
  rcases letter with rfl | rfl <;> rfl

theorem afterSignificand_confined (positive : Bool) (s : Nat) (e : Int) (n : Nat) :
    Confined (afterSignificand positive s e · n) n := by
  intro cs v k done
  dsimp only at done ⊢
  rcases cs with _ | ⟨c, more⟩
  · rw [afterSignificand] at done
    refine ⟨finishFloat_done done ▸ Took.here _ _, fun rest stops => ?_⟩
    cases rest with
    | nil => exact done
    | cons r more =>
      obtain ⟨-, -, notE, notBigE⟩ := stops r rfl
      rw [List.nil_append, afterSignificand, if_neg (by simp [notE, notBigE])]
      exact done
  · rw [afterSignificand] at done
    by_cases letter : (c == 'e' || c == 'E') = true
    · rw [if_pos letter] at done
      obtain ⟨took, same⟩ := scanExponent_confined positive s e (n + 1) done
      refine ⟨took.cons (exponentLetter_numberChar letter), fun rest stops => ?_⟩
      rw [List.cons_append, afterSignificand, if_pos letter]
      exact same rest stops
    · rw [if_neg letter] at done
      refine ⟨finishFloat_done done ▸ Took.here _ _, fun rest stops => ?_⟩
      rw [List.cons_append, afterSignificand, if_neg letter]
      exact done

theorem fractionDigits_confined (positive : Bool) :
    ∀ s e kept n, Confined (fractionDigits positive s e kept · n) n := by
  intro s e kept n cs v k done
  dsimp only at done ⊢
  fun_induction fractionDigits positive s e kept cs n with
  | case1 s e kept c more n digit d large skipped =>
    -- digits that no longer fit are skipped, the exponent left as it was
    obtain ⟨took, same⟩ := afterSignificand_confined positive s e (n + skipped) done
    have run : (c :: more).take skipped = c :: more.takeWhile Char.isDigit := by
      rw [show skipped = (more.takeWhile Char.isDigit).length + 1 from rfl, List.take_succ_cons,
        ← List.prefix_iff_eq_take.1 (List.takeWhile_prefix _)]
    have within : skipped ≤ (c :: more).length := by
      have := (List.takeWhile_prefix Char.isDigit (l := more)).length_le
      simp only [List.length_cons]
      omega
    refine ⟨took.drop (fun d mem => ?_) within, fun rest stops => ?_⟩
    · rw [run] at mem
      rcases List.mem_cons.1 mem with rfl | inRun
      · exact numberChar_of_digit digit
      · exact numberChar_of_digit (List.all_eq_true.1 List.all_takeWhile d inRun)
    · rw [List.cons_append, fractionDigits, if_pos digit]
      dsimp only
      rw [if_pos large, takeWhile_digits_append more stops, ← List.cons_append,
        List.drop_append_of_le_length within]
      exact same rest stops
  | case2 s e kept c more n digit d within ih =>
    obtain ⟨took, same⟩ := ih done
    refine ⟨took.cons (numberChar_of_digit digit), fun rest stops => ?_⟩
    rw [List.cons_append, fractionDigits, if_pos digit]
    dsimp only
    rw [if_neg within]
    exact same rest stops
  | case3 => cases done
  | case4 s e kept c more n notDigit kept' =>
    obtain ⟨took, same⟩ := afterSignificand_confined positive s e n done
    refine ⟨took, fun rest stops => ?_⟩
    rw [List.cons_append, fractionDigits, if_neg notDigit, if_neg kept', ← List.cons_append]
    exact same rest stops
  | case5 => cases done
  | case6 s e kept n kept' =>
    refine ⟨finishFloat_done done ▸ Took.here _ _, fun rest stops => ?_⟩
    cases rest with
    | nil =>
      rw [List.append_nil, fractionDigits, if_neg kept']
      exact done
    | cons r more =>
      obtain ⟨notDigit, -, notE, notBigE⟩ := stops r rfl
      rw [List.nil_append, fractionDigits, if_neg (by simp [notDigit]), if_neg kept',
        afterSignificand, if_neg (by simp [notE, notBigE])]
      exact done

theorem finishInteger_done {positive : Bool} {s n : Nat} {v : Number} {k : Nat}
    (done : finishInteger positive s n = .done v k) : k = n := by
  unfold finishInteger at done
  split at done
  · cases done; rfl
  split at done
  · cases done; rfl
  split at done <;> (cases done; rfl)

theorem afterInteger_confined (positive : Bool) (s n : Nat) :
    Confined (afterInteger positive s · n) n := by
  intro cs v k done
  dsimp only at done ⊢
  rcases cs with _ | ⟨c, more⟩
  · rw [afterInteger] at done
    refine ⟨finishInteger_done done ▸ Took.here _ _, fun rest stops => ?_⟩
    cases rest with
    | nil => exact done
    | cons r more =>
      obtain ⟨-, notPoint, notE, notBigE⟩ := stops r rfl
      rw [List.nil_append, afterInteger.eq_2 _ _ _ _ _ notPoint, if_neg (by simp [notE, notBigE])]
      exact done
  by_cases point : c = '.'
  · subst point
    rw [afterInteger] at done
    obtain ⟨took, same⟩ := fractionDigits_confined positive s 0 0 (n + 1) done
    exact ⟨took.cons (by decide), fun rest stops => by rw [List.cons_append, afterInteger]; exact same rest stops⟩
  rw [afterInteger.eq_2 _ _ _ _ _ point] at done
  by_cases letter : (c == 'e' || c == 'E') = true
  · rw [if_pos letter] at done
    obtain ⟨took, same⟩ := scanExponent_confined positive s 0 (n + 1) done
    refine ⟨took.cons (exponentLetter_numberChar letter), fun rest stops => ?_⟩
    rw [List.cons_append, afterInteger.eq_2 _ _ _ _ _ point, if_pos letter]
    exact same rest stops
  · rw [if_neg letter] at done
    refine ⟨finishInteger_done done ▸ Took.here _ _, fun rest stops => ?_⟩
    rw [List.cons_append, afterInteger.eq_2 _ _ _ _ _ point, if_neg letter]
    exact done

theorem longDigits_confined (positive : Bool) (s : Nat) :
    ∀ e n, Confined (longDigits positive s e · n) n := by
  intro e n cs v k done
  dsimp only at done ⊢
  fun_induction longDigits positive s e cs n with
  | case1 e c more n digit ih =>
    obtain ⟨took, same⟩ := ih done
    refine ⟨took.cons (numberChar_of_digit digit), fun rest stops => ?_⟩
    rw [List.cons_append, longDigits, if_pos digit]
    exact same rest stops
  | case2 e c more n notDigit point =>
    obtain ⟨took, same⟩ := fractionDigits_confined positive s e 0 (n + 1) done
    refine ⟨took.cons (by rw [eq_of_beq point]; decide), fun rest stops => ?_⟩
    rw [List.cons_append, longDigits, if_neg notDigit, if_pos point]
    exact same rest stops
  | case3 e c more n notDigit notPoint letter =>
    obtain ⟨took, same⟩ := scanExponent_confined positive s e (n + 1) done
    refine ⟨took.cons (exponentLetter_numberChar letter), fun rest stops => ?_⟩
    rw [List.cons_append, longDigits, if_neg notDigit, if_neg notPoint, if_pos letter]
    exact same rest stops
  | case4 e c more n notDigit notPoint notLetter =>
    refine ⟨finishFloat_done done ▸ Took.here _ _, fun rest stops => ?_⟩
    rw [List.cons_append, longDigits, if_neg notDigit, if_neg notPoint, if_neg notLetter]
    exact done
  | case5 e n =>
    refine ⟨finishFloat_done done ▸ Took.here _ _, fun rest stops => ?_⟩
    cases rest with
    | nil => exact done
    | cons r more =>
      obtain ⟨notDigit, notPoint, notE, notBigE⟩ := stops r rfl
      rw [List.nil_append, longDigits, if_neg (by simp [notDigit]), if_neg (by simp [notPoint]),
        if_neg (by simp [notE, notBigE])]
      exact done

theorem integerDigits_confined (positive : Bool) :
    ∀ s n, Confined (integerDigits positive s · n) n := by
  intro s n cs v k done
  dsimp only at done ⊢
  fun_induction integerDigits positive s cs n with
  | case1 s c more n digit d large =>
    -- digits beyond a word go on as the exponent's
    obtain ⟨took, same⟩ := longDigits_confined positive s 0 n done
    refine ⟨took, fun rest stops => ?_⟩
    rw [List.cons_append, integerDigits, if_pos digit]
    dsimp only
    rw [if_pos large, ← List.cons_append]
    exact same rest stops
  | case2 s c more n digit d within ih =>
    obtain ⟨took, same⟩ := ih done
    refine ⟨took.cons (numberChar_of_digit digit), fun rest stops => ?_⟩
    rw [List.cons_append, integerDigits, if_pos digit]
    dsimp only
    rw [if_neg within]
    exact same rest stops
  | case3 s c more n notDigit =>
    obtain ⟨took, same⟩ := afterInteger_confined positive s n done
    refine ⟨took, fun rest stops => ?_⟩
    rw [List.cons_append, integerDigits, if_neg notDigit, ← List.cons_append]
    exact same rest stops
  | case4 s n =>
    obtain ⟨took, same⟩ := afterInteger_confined positive s n done
    refine ⟨took, fun rest stops => ?_⟩
    cases rest with
    | nil => exact done
    | cons r more =>
      rw [List.nil_append, integerDigits, if_neg (by simp [(stops r rfl).1])]
      exact same (r :: more) stops

theorem scanDigits_confined (positive : Bool) (c : Char) : Confined (scanDigits positive c) 0 := by
  intro cs v k done
  by_cases zero : (c == '0') = true
  · -- a leading zero stands alone: no digit may follow it
    have alone : ∀ cs : List Char, (∀ d ∈ cs.head?, d.isDigit = false) →
        scanDigits positive c cs = afterInteger positive 0 cs 0 := by
      intro cs lead
      unfold scanDigits
      rw [if_pos zero]
      rcases cs with _ | ⟨d, more⟩
      · rfl
      · simp [lead d rfl]
    have lead : ∀ d ∈ cs.head?, d.isDigit = false := by
      intro d first
      rcases cs with _ | ⟨d', more⟩
      · cases first
      · cases first
        cases digit : d.isDigit
        · rfl
        · simp [scanDigits, zero, digit] at done
    rw [alone cs lead] at done
    obtain ⟨took, same⟩ := afterInteger_confined positive 0 0 done
    refine ⟨took, fun rest stops => ?_⟩
    rw [alone (cs ++ rest) ?_]
    · exact same rest stops
    · rcases cs with _ | ⟨d, more⟩
      · intro d first
        exact (stops d first).1
      · exact lead
  · unfold scanDigits at done ⊢
    rw [if_neg zero] at done
    obtain ⟨took, same⟩ := integerDigits_confined positive _ 0 done
    exact ⟨took, fun rest stops => by rw [if_neg zero]; exact same rest stops⟩

theorem scanNumber_confined (positive : Bool) : Confined (scanNumber positive) 0 := by
  intro cs v k done
  rcases cs with _ | ⟨c, more⟩
  · cases done
  rw [scanNumber] at done
  by_cases digit : c.isDigit = true
  · rw [if_pos digit] at done
    cases read : scanDigits positive c more with
    | fault f m peek => rw [read] at done; cases done
    | done v' m =>
      rw [read] at done
      cases done
      obtain ⟨took, same⟩ := scanDigits_confined positive c read
      refine ⟨(took.shift 1).cons (numberChar_of_digit digit), fun rest stops => ?_⟩
      rw [List.cons_append, scanNumber, if_pos digit, same rest stops]
      rfl
  · rw [if_neg digit] at done
    cases done

end PromptPipeline.Json