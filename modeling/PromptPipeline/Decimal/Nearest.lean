import PromptPipeline.Decimal.Binary
/-!
The nearest double to a decimal.

`nearestRatio` rounds a positive fraction `num / den` to 53 significant bits, ties to the even
significand, with subnormals below `2^-1022` and an infinity above the largest double.
`ofString?` reads the usual text of a floating-point number (an optional sign, digits with at most
one point and at least one digit, an optional exponent, or the words `inf`, `infinity` and `nan`
in any case) and gives the nearest double.
-/
namespace PromptPipeline.Decimal

/-- The double nearest to `num / den` with the given sign; `num / den` is positive. -/
def nearestRatio (negative : Bool) (num den : Nat) : Float :=
  let b : Int := (Nat.log2 num : Int) - Nat.log2 den
  let e0 : Int := max (b - 53) (-1074)
  let top := num * Nat.pow 2 (-e0).toNat
  let bottom := den * Nat.pow 2 e0.toNat
  -- `top / bottom` lies below `2^54`; one more halving brings it below `2^53`
  let (e, bottom) := if top / bottom ≥ Nat.pow 2 53 then (e0 + 1, 2 * bottom) else (e0, bottom)
  let q := top / bottom
  let r := top % bottom
  let q := if 2 * r > bottom || (2 * r = bottom && q % 2 = 1) then q + 1 else q
  Binary.toFloat ⟨negative, q, e⟩

/-- The double nearest to `digits · 10^exponent` with the given sign. Values with more than 310
integral digits are infinite and values below `10^-330` are zero, before any power is formed. -/
def nearest (negative : Bool) (digits : Nat) (exponent : Int) : Float :=
  let size : Int := digitCount digits + exponent
  if digits = 0 || size < -330 then Binary.toFloat ⟨negative, 0, 0⟩
  else if size > 310 then Binary.toFloat ⟨negative, Nat.pow 2 53, 1024⟩
  else nearestRatio negative (digits * Nat.pow 10 exponent.toNat) (Nat.pow 10 (-exponent).toNat)

/-- Splits off the longest run of ASCII digits. -/
def spanDigits (cs : List Char) : List Char × List Char :=
  (cs.takeWhile Char.isDigit, cs.dropWhile Char.isDigit)

/-- The value of a run of ASCII digits. -/
def digitsValue (ds : List Char) : Nat :=
  ds.foldl (fun acc c => 10 * acc + (c.toNat - '0'.toNat)) 0

/-- Reads an unsigned decimal: digits, an optional point with digits, an optional exponent;
at least one digit before the exponent. -/
def readUnsigned? (cs : List Char) : Option (Nat × Int) :=
  let (whole, rest) := spanDigits cs
  let (fraction, rest) := match rest with
    | '.' :: more => spanDigits more
    | _ => ([], rest)
  if whole.isEmpty && fraction.isEmpty then none
  else
    let exponent? : Option Int := match rest with
      | [] => some 0
      | c :: more =>
        if c == 'e' || c == 'E' then
          let (negative, digits) := match more with
            | '+' :: ds => (false, ds)
            | '-' :: ds => (true, ds)
            | ds => (false, ds)
          if !digits.isEmpty && digits.all Char.isDigit then
            let v : Int := digitsValue digits
            some (if negative then -v else v)
          else none
        else none
    exponent?.map fun exp =>
      (digitsValue (whole ++ fraction), exp - fraction.length)

/-- The double that the text of a floating-point number denotes, infinities and NaN included. -/
def ofString? (s : String) : Option Float :=
  let (negative, body) := match s.toList with
    | '+' :: cs => (false, cs)
    | '-' :: cs => (true, cs)
    | cs => (false, cs)
  let word := String.ofList (body.map Char.toLower)
  if word == "inf" || word == "infinity" then
    some (if negative then -(1.0 / 0.0) else 1.0 / 0.0)
  else if word == "nan" then some (0.0 / 0.0)
  else (readUnsigned? body).map fun (digits, exp) => nearest negative digits exp

end PromptPipeline.Decimal
