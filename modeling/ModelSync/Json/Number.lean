import ModelSync.Json.Double

/-! JSON numbers: whole numbers within 64 bits, exactly, and doubles. A whole number
and a double are never the same number, even if they have the same value. -/
namespace ModelSync

/-- The smallest whole number held exactly, of 64 signed bits. -/
def leastInteger : Int := -9223372036854775808

/-- The largest whole number held exactly, of 64 unsigned bits. -/
def greatestInteger : Int := 18446744073709551615

/-- A JSON number. -/
inductive Number where
  | integer (value : Int) (bounded : leastInteger ≤ value ∧ value ≤ greatestInteger)
  | double (value : Double)
deriving DecidableEq

namespace Number

/-- A natural number below `2 ^ 64`. -/
def ofUInt64 (value : UInt64) : Number :=
  .integer value.toNat (by
    have bound := value.toNat_lt
    simp only [leastInteger, greatestInteger]
    omega)

def ofUInt32 (value : UInt32) : Number :=
  .integer value.toNat (by
    have bound := value.toNat_lt
    simp only [leastInteger, greatestInteger]
    omega)

/-- A whole number that fits 64 signed bits. -/
def ofInt64 (value : Int64) : Number :=
  .integer value.toInt (by
    have below := value.toInt_lt
    have above := value.le_toInt
    simp only [leastInteger, greatestInteger]
    omega)

/-- Equal as numbers: whole numbers by value, doubles as doubles. -/
def sameNumber : Number → Number → Bool
  | .integer a _, .integer b _ => a == b
  | .double a, .double b => a.sameNumber b
  | _, _ => false

/-- Whole numbers are written plainly, doubles in their shortest form. -/
def text : Number → String
  | .integer value _ => toString value
  | .double value => value.text

/-! ## Reading -/

/-- The parts of a number as written. -/
structure Literal where
  negative : Bool
  whole : List Char
  /-- The digits after the point, if there is one. -/
  fraction : Option (List Char)
  /-- The exponent, if one is written. -/
  exponent : Option Int

private def digitValue (digit : Char) : Nat := digit.toNat - '0'.toNat

private def naturalOfDigits (digits : List Char) : Nat :=
  digits.foldl (fun value digit => value * 10 + digitValue digit) 0

private def integerOfExponent? (chars : List Char) : Option Int :=
  let (negative, digits) :=
    match chars with
    | '-' :: rest => (true, rest)
    | '+' :: rest => (false, rest)
    | rest => (false, rest)
  if digits.isEmpty || !digits.all Char.isDigit then none
  else some (if negative then -(naturalOfDigits digits) else naturalOfDigits digits)

/-- Split a number into its parts. The whole part has no superfluous leading zero, and
at least one digit follows a point. -/
def Literal.ofChars? (chars : List Char) : Option Literal := do
  let (negative, unsigned) :=
    match chars with
    | '-' :: rest => (true, rest)
    | rest => (false, rest)
  let whole := unsigned.takeWhile Char.isDigit
  let afterWhole := unsigned.dropWhile Char.isDigit
  if whole.isEmpty then none
  if whole.head? == some '0' && whole.length > 1 then none
  let (fraction, afterFraction) :=
    match afterWhole with
    | '.' :: rest => (some (rest.takeWhile Char.isDigit), rest.dropWhile Char.isDigit)
    | rest => (none, rest)
  if fraction == some [] then none
  match afterFraction with
  | [] => some ⟨negative, whole, fraction, none⟩
  | mark :: rest =>
    if mark == 'e' || mark == 'E' then
      (integerOfExponent? rest).map fun exponent => ⟨negative, whole, fraction, some exponent⟩
    else none

/-- Leading digits as far as their value fits 64 bits, and how many digits are left. -/
private def fittingDigits (value : Nat) : List Char → Nat × Nat
  | [] => (value, 0)
  | digit :: rest =>
    let next := value * 10 + digitValue digit
    if next < UInt64.size then fittingDigits next rest else (value, rest.length + 1)

/-- A whole number in range is exact, apart from a negative zero. Anything else is a
double: digits beyond 64 bits are dropped and their places go to the exponent. -/
def Literal.value? (literal : Literal) : Option Number :=
  let magnitude := naturalOfDigits literal.whole
  let value : Int := if literal.negative then -magnitude else magnitude
  let exact : Option Number :=
    if literal.fraction.isNone && literal.exponent.isNone &&
        !(literal.negative && magnitude == 0) then
      if bounded : leastInteger ≤ value ∧ value ≤ greatestInteger then
        some (.integer value bounded)
      else none
    else none
  exact <|>
    let digits := literal.whole ++ literal.fraction.getD []
    let (significand, dropped) := fittingDigits 0 digits
    let exponent :=
      literal.exponent.getD 0 - ((literal.fraction.getD []).length : Int) + (dropped : Int)
    (Double.ofScaled? literal.negative significand exponent).map .double

/-- Read a number. -/
def ofChars? (chars : List Char) : Option Number :=
  (Literal.ofChars? chars).bind Literal.value?

end Number

end ModelSync
