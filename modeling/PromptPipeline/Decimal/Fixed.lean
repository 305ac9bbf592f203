import PromptPipeline.Decimal.Binary
/-!
Exact fractions with a given number of decimals.

A finite double is an exact fraction `num / den` with `den` a power of two, and an integer is one
with `den = 1`, so writing either with a fixed number of decimal places, or with a fixed number of
significant digits after the first, is a division rounded to the nearest integer, a tie going to
the even neighbour. These are the roundings of `%f` and `%e`; the exponent of `%e` is the one of
the value after rounding.
-/
namespace PromptPipeline.Decimal

/-- A nonnegative exact fraction `num / den`; every fraction made here has `den` positive. -/
structure Fraction where
  num : Nat
  den : Nat

namespace Fraction

/-- The magnitude of a finite double, over a power of two. -/
def ofFloat (x : Float) : Fraction :=
  let b := Binary.ofFloat x
  if b.exponent ≥ 0 then ⟨b.significand * Nat.pow 2 b.exponent.toNat, 1⟩
  else ⟨b.significand, Nat.pow 2 (-b.exponent).toNat⟩

/-- A natural number as a fraction. -/
def ofNat (n : Nat) : Fraction := ⟨n, 1⟩

/-- Whether the fraction is zero. -/
def isZero (q : Fraction) : Bool := q.num == 0

end Fraction

/-- `num / den` rounded to the nearest integer, a tie to the even one. -/
def roundHalfEven (num den : Nat) : Nat :=
  let q := num / den
  let r := num % den
  if 2 * r > den || (2 * r == den && q % 2 == 1) then q + 1 else q

/-- A run of zeros. -/
def zeroText (n : Nat) : String := String.ofList (List.replicate n '0')

/-- Digits with a point before the last `places` of them, padded with zeros in front so that one
digit stands before the point. -/
def pointed (digits : String) (places : Nat) : String :=
  if places == 0 then digits
  else
    let padded := zeroText (places + 1 - digits.length) ++ digits
    let cut := padded.length - places
    String.ofList (padded.toList.take cut) ++ "." ++ String.ofList (padded.toList.drop cut)

/-- The exponent `k` of a positive fraction, `10^k ≤ num / den < 10^(k+1)`. -/
def decimalExponent (num den : Nat) : Int :=
  if num ≥ den then (digitCount (num / den) : Int) - 1
  else
    -- the first `j` with `num · 10^j ≥ den`; doubles need at most 324
    let j := ((List.range 400).find? fun j => num * Nat.pow 10 (j + 1) ≥ den).getD 399
    Int.negSucc j

namespace Fraction

/-- The fraction with `places` decimals. -/
def fixedText (q : Fraction) (places : Nat) : String :=
  pointed (toString (roundHalfEven (q.num * Nat.pow 10 places) q.den)) places

/-- The significant digits (`places` after the first) and the decimal exponent of the fraction;
zero has the exponent zero. -/
def scientific (q : Fraction) (places : Nat) : Nat × Int :=
  if q.num == 0 then (0, 0)
  else
    let k := decimalExponent q.num q.den
    let shift := (places : Int) - k
    let n := if shift ≥ 0 then roundHalfEven (q.num * Nat.pow 10 shift.toNat) q.den
      else roundHalfEven q.num (q.den * Nat.pow 10 (-shift).toNat)
    if n ≥ Nat.pow 10 (places + 1) then (n / 10, k + 1) else (n, k)

end Fraction

/-- The magnitude of a finite double with `places` decimals. -/
def fixedText (x : Float) (places : Nat) : String := (Fraction.ofFloat x).fixedText places

/-- The significant digits and the exponent of a finite double's magnitude. -/
def scientific (x : Float) (places : Nat) : Nat × Int := (Fraction.ofFloat x).scientific places

end PromptPipeline.Decimal
