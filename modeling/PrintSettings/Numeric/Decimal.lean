import PrintSettings.Numeric.Binary64

/-! # Decimal numbers

A decimal number is a natural mantissa times a power of ten. `toBinary64` is the number of the
64-bit format nearest to it, however long the mantissa and however large the exponent: exponents are
first brought into a range beyond which the result no longer changes. -/

namespace PrintSettings.Numeric

/-- The value `mantissa · 10 ^ exponent`. -/
structure Decimal where
  mantissa : Nat
  exponent : Int
deriving DecidableEq, Repr

namespace Decimal

/-- The value of a run of digits. -/
def ofDigits (digits : List Char) : Nat := Nat.ofDigitChars 10 digits 0

/-- The digits of a natural number. -/
def digits (n : Nat) : List Char := Nat.toDigits 10 n

theorem ofDigits_digits (n : Nat) : ofDigits (digits n) = n := Nat.ofDigitChars_ten_toDigits

/-- Above `10⁴⁰⁰` every nonzero mantissa overflows, and below `2⁻¹⁰⁸⁰` everything vanishes. -/
def clampedExponent (d : Decimal) : Int :=
  max (-(d.mantissa.log2 + 1100 : Nat)) (min 400 d.exponent)

/-- The nearest number of the 64-bit format, a half going to the even neighbour. -/
def toBinary64 (negative : Bool) (d : Decimal) : Binary64 :=
  let e := d.clampedExponent
  .round negative (d.mantissa * pow10 e.toNat * one) (pow10 (-e).toNat)

/-- The same value with a mantissa that does not end in zero. -/
def strip (d : Decimal) : Decimal :=
  let zeros := ((digits d.mantissa).reverse.takeWhile (· == '0')).length
  if d.mantissa = 0 then ⟨0, 0⟩ else ⟨d.mantissa / pow10 zeros, d.exponent + zeros⟩

end Decimal

end PrintSettings.Numeric
