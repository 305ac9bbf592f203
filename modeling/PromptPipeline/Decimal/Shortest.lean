import PromptPipeline.Decimal.Binary
/-!
The shortest decimal of a double.

The reals that round to a double `m · 2^e` form an interval around it: half-way to each
neighbouring double, ends included when `m` is even. Of the decimals with the fewest significant
digits inside that interval, `shortest` takes the one nearest the double, and of two equally near
the one with the even last digit. Seventeen digits always suffice. A `Layout` then writes the
digits positionally or with an exponent.
-/
namespace PromptPipeline.Decimal

/-- A decimal `digits · 10^exponent`. -/
structure Scientific where
  digits : Nat
  exponent : Int
  deriving DecidableEq

/-- Compares `a · 10^p` with `b · 2^q` exactly. -/
def compareScaled (a : Nat) (p : Int) (b : Nat) (q : Int) : Ordering :=
  compare (a * Nat.pow 10 p.toNat * Nat.pow 2 (-q).toNat)
    (b * Nat.pow 2 q.toNat * Nat.pow 10 (-p).toNat)

/-- The exponent of the leading decimal digit of `num / den` for positive `num` and `den`,
that is `⌊log₁₀ (num / den)⌋`. -/
def leadingExponent (num den : Nat) : Int :=
  if den ≤ num then (digitCount (num / den) : Int) - 1
  else
    let p := digitCount (den / num) - 1
    if den = num * Nat.pow 10 p then -(p : Int) else -((p : Int) + 1)

/-- Drops trailing zeros of the digits into the exponent. -/
def Scientific.trim (s : Scientific) : Scientific :=
  if h : s.digits ≠ 0 ∧ s.digits % 10 = 0 then
    Scientific.trim ⟨s.digits / 10, s.exponent + 1⟩
  else s
termination_by s.digits
decreasing_by exact Nat.div_lt_self (Nat.pos_of_ne_zero h.1) (by decide)

/-- The shortest decimal that reads back as the positive double `m · 2^e`: the interval of reals
rounding to it runs from `lo · 2^(e-2)` to `(4m + 2) · 2^(e-2)`, where `lo` is `4m - 1` when the
double below is twice as near as the one above and `4m - 2` otherwise. -/
def shortestOf (m : Nat) (e : Int) (lowerHalved : Bool) : Scientific :=
  let lo := 4 * m - (if lowerHalved then 1 else 2)
  let hi := 4 * m + 2
  let closed := m % 2 = 0
  let inside (d : Nat) (g : Int) : Bool :=
    let below := compareScaled d g lo (e - 2)
    let above := compareScaled d g hi (e - 2)
    (below == .gt || (closed && below == .eq)) && (above == .lt || (closed && above == .eq))
  let lead := leadingExponent (m * Nat.pow 2 e.toNat) (Nat.pow 2 (-e).toNat)
  let attempt (n : Nat) : Option Scientific :=
    let g := lead - n + 1
    let d := m * Nat.pow 2 e.toNat * Nat.pow 10 (-g).toNat /
      (Nat.pow 2 (-e).toNat * Nat.pow 10 g.toNat)
    match inside d g, inside (d + 1) g with
    | true, true =>
      match compareScaled (2 * d + 1) g (8 * m) (e - 2) with
      | .gt => some ⟨d, g⟩
      | .lt => some ⟨d + 1, g⟩
      | .eq => some (if d % 2 = 0 then ⟨d, g⟩ else ⟨d + 1, g⟩)
    | true, false => some ⟨d, g⟩
    | false, true => some ⟨d + 1, g⟩
    | false, false => none
  let fallback : Scientific :=
    let g := lead - 16
    ⟨m * Nat.pow 2 e.toNat * Nat.pow 10 (-g).toNat / (Nat.pow 2 (-e).toNat * Nat.pow 10 g.toNat),
      g⟩
  ((List.range 17).findSome? (fun i => attempt (i + 1))).getD fallback |>.trim

/-- Sign and shortest decimal of a finite double; zero has the digits `0`. -/
def shortest (x : Float) : Bool × Scientific :=
  let b := Binary.ofFloat x
  if b.significand = 0 then (b.negative, ⟨0, 0⟩)
  else (b.negative, shortestOf b.significand b.exponent (Binary.lowerGapHalved x))

/-- Where a decimal is written positionally: the leading digit's exponent `k` is positional when
`lowest ≤ k` and, if there is a `highest`, `k < highest`; otherwise the text has an exponent,
with a plus sign for a positive one when `plusSign` holds. An integral positional number ends
in `.0`. -/
structure Layout where
  lowest : Option Int
  highest : Option Int
  plusSign : Bool

/-- `n` zeros. -/
def zeros (n : Nat) : String := String.ofList (List.replicate n '0')

/-- The text of a decimal with a sign under a layout. -/
def Scientific.write (layout : Layout) (negative : Bool) (s : Scientific) : String :=
  let sign := if negative then "-" else ""
  if s.digits = 0 then sign ++ "0.0"
  else
    let ds := toString s.digits
    let len := ds.length
    let lead : Int := (len : Int) - 1 + s.exponent
    let positional := (layout.lowest.all (· ≤ lead)) && (layout.highest.all (lead < ·))
    if positional then
      if s.exponent ≥ 0 then sign ++ ds ++ zeros s.exponent.toNat ++ ".0"
      else if lead ≥ 0 then
        let cut := (lead + 1).toNat
        sign ++ String.ofList (ds.toList.take cut) ++ "." ++ String.ofList (ds.toList.drop cut)
      else sign ++ "0." ++ zeros (-lead - 1).toNat ++ ds
    else
      let first := String.ofList (ds.toList.take 1)
      let rest := String.ofList (ds.toList.drop 1)
      let mantissa := if rest.isEmpty then first else first ++ "." ++ rest
      let expSign := if lead < 0 then "-" else if layout.plusSign then "+" else ""
      sign ++ mantissa ++ "e" ++ expSign ++ toString lead.natAbs

/-- The text of a finite double under a layout. -/
def writeFloat (layout : Layout) (x : Float) : String :=
  let (negative, s) := shortest x
  s.write layout negative

end PromptPipeline.Decimal
