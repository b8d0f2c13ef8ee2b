/-! Finite binary64 values, held by their bit pattern so that equality is decidable
and the two zeros differ. Decimal text is selected by exact integer arithmetic: the
fewest digits whose value rounds back to the double. -/
namespace ModelSync

/-- A finite binary64 value. The exponent bits are not all ones, which excludes the
infinities and the non-numbers. -/
structure Double where
  bits : UInt64
  finite : (bits >>> 52) &&& 0x7FF ≠ 0x7FF
deriving DecidableEq

namespace Double

/-- The value of a machine float, unless that is infinite or no number. -/
def ofFloat? (value : Float) : Option Double :=
  let bits := value.toBits
  if finite : (bits >>> 52) &&& 0x7FF ≠ 0x7FF then some ⟨bits, finite⟩ else none

def isNegative (value : Double) : Bool := value.bits >>> 63 == 1

/-- The bits below the sign: the magnitude. -/
def magnitude (value : Double) : UInt64 := value.bits &&& 0x7FFFFFFFFFFFFFFF

/-- Equal as numbers. The two zeros are equal; otherwise the bits decide. -/
def sameNumber (a b : Double) : Bool :=
  a.bits == b.bits || (a.magnitude == 0 && b.magnitude == 0)

/-! ## Reading

A decimal is read as a whole number of at most 64 bits scaled by a power of ten. Both
the whole number and the power are rounded to a float first, and one multiplication or
division joins them. -/

private def powerOfTen (exponent : Nat) : Float := Float.ofScientific 1 false exponent

/-- The largest power of ten that a float holds. -/
private def largestPower : Nat := 308

private def scaledDown (value : Float) (exponent : Nat) : Float :=
  if _small : exponent ≤ largestPower then value / powerOfTen exponent
  else if value == 0 then value
  else scaledDown (value / powerOfTen largestPower) (exponent - largestPower)
termination_by exponent
decreasing_by simp only [largestPower] at *; omega

/-- The value of `significand * 10 ^ exponent`, or nothing where that is too large. -/
def ofScaled? (negative : Bool) (significand : Nat) (exponent : Int) : Option Double :=
  let whole := Float.ofScientific significand false 0
  let scaled : Option Float :=
    match exponent with
    | .ofNat up =>
      if up ≤ largestPower then some (whole * powerOfTen up)
      else if significand = 0 then some whole else none
    | .negSucc down => some (scaledDown whole (down + 1))
  scaled.bind fun value => ofFloat? (if negative then -value else value)

/-! ## Shortest digits -/

/-- A positive value as `mantissa * 2 ^ exponent`. -/
structure Binary where
  mantissa : Nat
  exponent : Int
  /-- The gap to the next smaller double is half of the gap to the next larger one. -/
  narrowBelow : Bool

/-- The magnitude in binary. A zero exponent field means that no leading one is implied. -/
def toBinary (value : Double) : Binary :=
  let field := ((value.bits >>> 52) &&& 0x7FF).toNat
  let fraction := (value.bits &&& 0xFFFFFFFFFFFFF).toNat
  if field = 0 then ⟨fraction, -1074, false⟩
  else ⟨0x10000000000000 + fraction, (field : Int) - 1075, fraction = 0 && field > 1⟩

/-- A value as `digits * 10 ^ exponent`. -/
structure Decimal where
  digits : Nat
  exponent : Int
deriving DecidableEq

/-- A power of ten. -/
def tens (exponent : Nat) : Nat := Nat.pow 10 exponent

/-- A power of two. -/
def twos (exponent : Nat) : Nat := Nat.pow 2 exponent

/-- Compare `a * 10 ^ i` with `n * 2 ^ j` without rounding. -/
private def compareScaled (a : Nat) (i : Int) (n : Nat) (j : Int) : Ordering :=
  compare (a * tens i.toNat * twos (-j).toNat) (n * twos j.toNat * tens (-i).toNat)

/-- The decimal lies among the reals that round to this double: between the midpoints
to its neighbours, which belong to it when the mantissa is even. -/
def Binary.roundsFrom (value : Binary) (decimal : Decimal) : Bool :=
  let low := 4 * value.mantissa - (if value.narrowBelow then 1 else 2)
  let high := 4 * value.mantissa + 2
  let closed := value.mantissa % 2 == 0
  let fromLow := compareScaled decimal.digits decimal.exponent low (value.exponent - 2)
  let fromHigh := compareScaled decimal.digits decimal.exponent high (value.exponent - 2)
  (fromLow == .gt || (closed && fromLow == .eq)) &&
    (fromHigh == .lt || (closed && fromHigh == .eq))

/-- The value divided by `10 ^ exponent`, rounded down. -/
private def Binary.floorScaled (value : Binary) (exponent : Int) : Nat :=
  (value.mantissa * twos value.exponent.toNat * tens (-exponent).toNat) /
    (twos (-value.exponent).toNat * tens exponent.toNat)

/-- The decimal exponent of the first digit. The quotient of a power of two that is
within one of the mantissa's length estimates it; exact comparison corrects it. -/
private def Binary.leadingExponent (value : Binary) : Int :=
  let estimate := ((Nat.log2 value.mantissa : Int) + value.exponent) * 30103 / 100000
  let candidates := [estimate + 1, estimate, estimate - 1, estimate - 2]
  (candidates.find? fun exponent => 1 ≤ value.floorScaled exponent).getD (estimate - 3)

/-- Of the two decimals with this exponent nearest to the value, one that rounds back,
the closer one if both do, the even one on a tie. -/
private def Binary.onGrid? (value : Binary) (exponent : Int) : Option Decimal :=
  let below : Decimal := ⟨value.floorScaled exponent, exponent⟩
  let above : Decimal := ⟨below.digits + 1, exponent⟩
  match value.roundsFrom below && below.digits != 0, value.roundsFrom above with
  | true, true =>
    match compareScaled (below.digits + above.digits) exponent value.mantissa
        (value.exponent + 1) with
    | .lt => some above
    | .gt => some below
    | .eq => some (if below.digits % 2 = 0 then below else above)
  | true, false => some below
  | false, true => some above
  | false, false => none

/-- The decimal with the fewest digits that rounds back to the value. Seventeen digits
always suffice. -/
def Binary.shortest (value : Binary) : Decimal :=
  let leading := value.leadingExponent
  ((List.range 17).findSome? fun (count : Nat) => value.onGrid? (leading - count)).getD
    ⟨value.floorScaled (leading - 16), leading - 16⟩

/-! ## Notation -/

/-- Numbers are written positionally while the exponent of the first digit lies in this
range, with at least one place after the point, and otherwise with a signed exponent. -/
def isPositional (leading : Int) : Bool := -5 ≤ leading && leading < 16

private def stripZeros (digits : List Char) : List Char :=
  (digits.reverse.dropWhile (· == '0')).reverse

private def zeros (count : Nat) : String := String.ofList (List.replicate count '0')

/-- Text of a positive decimal. -/
def Decimal.text (decimal : Decimal) : String :=
  let written := Nat.toDigits 10 decimal.digits
  let leading := decimal.exponent + (written.length : Int) - 1
  let digits := stripZeros written
  if isPositional leading then
    if leading < 0 then "0." ++ zeros (-leading - 1).toNat ++ String.ofList digits
    else
      let places := leading.toNat + 1
      let whole := String.ofList (digits.take places) ++ zeros (places - digits.length)
      let fraction := digits.drop places
      whole ++ "." ++ (if fraction.isEmpty then "0" else String.ofList fraction)
  else
    let fraction := digits.drop 1
    String.ofList (digits.take 1) ++
      (if fraction.isEmpty then "" else "." ++ String.ofList fraction) ++
      (if leading < 0 then "e-" else "e+") ++ toString leading.natAbs

/-- The number with the fewest digits that read back. Zero keeps its sign. -/
def text (value : Double) : String :=
  (if value.isNegative then "-" else "") ++
    (if value.magnitude == 0 then "0.0" else value.toBinary.shortest.text)

end Double

end ModelSync
