import PrintSettings.Numeric.Shortest

/-! # Notations for floating-point numbers

A notation says how the digits of the shortest decimal are laid out: when positional notation ends,
whether whole numbers keep a point, how an exponent is written, and the words for values that are
not finite. The three notations in use differ in nothing else. -/

namespace PrintSettings.Numeric

/-- The layout of a number's text. -/
structure Notation where
  tie : Tie
  /-- Powers of ten of the first digit that are written positionally; always if there are none. -/
  positional : Option (Int × Int)
  /-- Text after the digits of a whole number. -/
  wholeEnd : List Char
  /-- Text before an exponent that is not negative. -/
  plus : List Char
  nan : List Char
  infinite : Bool → List Char

namespace Notation

/-! ## Layout -/

/-- Digits with the point after the first `point` places. -/
def positionalText (n : Notation) (digits : List Char) (point : Int) : List Char :=
  if point ≤ 0 then '0' :: '.' :: List.replicate (-point).toNat '0' ++ digits
  else if digits.length ≤ point then
    digits ++ List.replicate (point.toNat - digits.length) '0' ++ n.wholeEnd
  else digits.take point.toNat ++ '.' :: digits.drop point.toNat

/-- One digit, the others after a point, and the power of ten of the first digit. -/
def exponentText (n : Notation) (digits : List Char) (power : Int) : List Char :=
  let fraction := if digits.length ≤ 1 then [] else '.' :: digits.drop 1
  let sign := if power < 0 then ['-'] else n.plus
  digits.take 1 ++ fraction ++ 'e' :: sign ++ Decimal.digits power.natAbs

/-- The text of a decimal without sign. -/
def decimalText (n : Notation) (d : Decimal) : List Char :=
  let digits := Decimal.digits d.mantissa
  let power := d.exponent + digits.length - 1
  let inRange := match n.positional with
    | some (lo, hi) => d.mantissa = 0 || (decide (lo ≤ power) && decide (power ≤ hi))
    | none => true
  if inRange then n.positionalText digits (power + 1) else n.exponentText digits power

def signText (negative : Bool) : List Char := if negative then ['-'] else []

/-- The text of a number. -/
def chars (n : Notation) : Binary64 → List Char
  | .finite negative units _ =>
    let d := if units = 0 then ⟨0, 0⟩ else Decimal.shortest n.tie units
    signText negative ++ n.decimalText d
  | .infinite negative => n.infinite negative
  | .nan => n.nan

def text (n : Notation) (x : Binary64) : String := .ofList (n.chars x)

/-! ## The notations in use -/

/-- Never an exponent, no point in whole numbers. -/
def plain : Notation where
  tie := .up
  positional := none
  wholeEnd := []
  plus := []
  nan := "NaN".toList
  infinite negative := signText negative ++ "inf".toList

/-- Exponents below `10⁻⁵` and from `10¹⁶` on, always signed; what is not finite is null. -/
def json : Notation where
  tie := .even
  positional := some (-5, 15)
  wholeEnd := ".0".toList
  plus := ['+']
  nan := "null".toList
  infinite _ := "null".toList

/-- Exponents as in JSON but without a plus sign. -/
def yaml : Notation where
  tie := .even
  positional := some (-5, 15)
  wholeEnd := ".0".toList
  plus := []
  nan := ".nan".toList
  infinite negative := signText negative ++ ".inf".toList

end Notation

end PrintSettings.Numeric
