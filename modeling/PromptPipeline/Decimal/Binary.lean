/-!
Doubles as exact numbers.

A finite double is `(-1)^s · m · 2^e` with a natural significand `m < 2^53` and an exponent
`e ≥ -1074`. `Binary.ofFloat` reads these parts off the bits and `Binary.toFloat` writes them back,
so that everything which has to be exact (the shortest decimal text, the nearest double to a
decimal, the remainder of a division) is computed on natural numbers and never through the
rounding operations of `Float`.
-/
namespace PromptPipeline.Decimal

/-- Number of decimal digits of `n` (one for zero). -/
def digitCount (n : Nat) : Nat := (Nat.toDigits 10 n).length

/-- A double taken apart: its value is `(-1)^negative · significand · 2^exponent`. -/
structure Binary where
  negative : Bool
  significand : Nat
  exponent : Int
  deriving DecidableEq

namespace Binary

/-- The biased exponent field of a double's bits. -/
def exponentField (x : Float) : Nat := x.toBits.toNat / Nat.pow 2 52 % Nat.pow 2 11

/-- Reads sign, significand and exponent off the bits of a finite double; subnormals have the
exponent `-1074` and no hidden bit. -/
def ofFloat (x : Float) : Binary :=
  let bits := x.toBits.toNat
  let fraction := bits % Nat.pow 2 52
  let biased := exponentField x
  if biased = 0 then ⟨bits ≥ Nat.pow 2 63, fraction, -1074⟩
  else ⟨bits ≥ Nat.pow 2 63, fraction + Nat.pow 2 52, (biased : Int) - 1075⟩

/-- The next double below is nearer than the next one above: the significand is a power of two
and the exponent is not the least. -/
def lowerGapHalved (x : Float) : Bool :=
  x.toBits.toNat % Nat.pow 2 52 = 0 && exponentField x > 1

/-- The double with these parts, for a significand of at most `2^53` (a carry out of rounding)
and an exponent of at least `-1074`; a value beyond the largest double is an infinity. -/
def toFloat (b : Binary) : Float :=
  let sign := if b.negative then Nat.pow 2 63 else 0
  let (m, e) := if b.significand ≥ Nat.pow 2 53 then (b.significand / 2, b.exponent + 1)
    else (b.significand, b.exponent)
  if m = 0 then Float.ofBits (UInt64.ofNat sign)
  else
    let shift := min (52 - Nat.log2 m) (e + 1074).toNat
    let m := m * Nat.pow 2 shift
    let e := e - shift
    if m < Nat.pow 2 52 then Float.ofBits (UInt64.ofNat (sign + m))
    else
      let biased := e + 1075
      if biased ≥ 2047 then Float.ofBits (UInt64.ofNat (sign + 2047 * Nat.pow 2 52))
      else Float.ofBits (UInt64.ofNat (sign + biased.toNat * Nat.pow 2 52 + (m - Nat.pow 2 52)))

end Binary

/-- Whether a double is neither an infinity nor NaN. -/
def isFinite (x : Float) : Bool := Binary.exponentField x ≠ 2047

/-- Whether a double is a whole number: finite, with no fractional part. An infinity is not,
since its fractional part is NaN. -/
def isIntegral (x : Float) : Bool :=
  let b := Binary.ofFloat x
  isFinite x && (b.exponent ≥ 0 || b.significand % Nat.pow 2 (-b.exponent).toNat = 0)

/-- The integer part of a finite double, rounded toward zero. -/
def truncate (x : Float) : Int :=
  let b := Binary.ofFloat x
  let magnitude := if b.exponent ≥ 0 then b.significand * Nat.pow 2 b.exponent.toNat
    else b.significand / Nat.pow 2 (-b.exponent).toNat
  if b.negative then -(magnitude : Int) else magnitude

/-- The double nearest to an integer. -/
def ofInt (i : Int) : Float :=
  if i ≥ 0 then roundNat i.toNat else -(roundNat (-i).toNat)
where
  /-- The double nearest to a natural number, ties to the even significand. -/
  roundNat (n : Nat) : Float :=
    if n < Nat.pow 2 53 then Binary.toFloat ⟨false, n, 0⟩
    else
      let shift := Nat.log2 n - 52
      let q := n / Nat.pow 2 shift
      let r := n % Nat.pow 2 shift
      let half := Nat.pow 2 (shift - 1)
      let q := if r > half || (r = half && q % 2 = 1) then q + 1 else q
      Binary.toFloat ⟨false, q, shift⟩

/-- The remainder of `x / y` with the quotient truncated toward zero; it takes the sign of `x`
and is exact, because it is a multiple of the smaller unit of the two operands that is below
`|y|`. Both operands are finite and `y` is not zero; otherwise the result is NaN. -/
def truncatedRemainder (x y : Float) : Float :=
  let a := Binary.ofFloat x
  let b := Binary.ofFloat y
  if !isFinite x || !isFinite y || b.significand = 0 then 0.0 / 0.0
  else if a.significand = 0 then x
  else
    let e := min a.exponent b.exponent
    let big := a.significand * Nat.pow 2 (a.exponent - e).toNat
    let unit := b.significand * Nat.pow 2 (b.exponent - e).toNat
    Binary.toFloat ⟨a.negative, big % unit, e⟩

end PromptPipeline.Decimal
