import PrintSettings.Text.Blank
import PrintSettings.Numeric.Arithmetic
import PrintSettings.Numeric.Decimal

/-! # Leading numbers

A setting's text is read as far as it is a number: blanks are skipped, one sign is allowed, and what
follows the number is ignored. Integers (`leadingInt?`) saturate digit by digit at 64 bits. Numbers
(`leadingFloat?`) are infinities, undefined results, hexadecimal floats, or decimals rounded to
nearest. Each scanner returns what it read together with the rest of the text. -/

namespace PrintSettings.Numeric

open PrintSettings.Text

/-! ## Signs and digits -/

/-- Whether a minus sign comes first, and the text after an optional sign. -/
def takeSign : List Char → Bool × List Char
  | '-' :: rest => (true, rest)
  | '+' :: rest => (false, rest)
  | text => (false, text)

def clamp (lo hi n : Int) : Int := max lo (min hi n)

def int64Min : Int := -0x8000000000000000
def int64Max : Int := 0x7fffffffffffffff

/-- An integer brought into the range of 64 bits. -/
def clamp64 (n : Int) : Int := clamp int64Min int64Max n

/-- Value of a hexadecimal digit. -/
def hexDigit? (c : Char) : Option Nat :=
  if c.isDigit then some (c.toNat - '0'.toNat)
  else if 'a' ≤ c ∧ c ≤ 'f' then some (c.toNat - 'a'.toNat + 10)
  else if 'A' ≤ c ∧ c ≤ 'F' then some (c.toNat - 'A'.toNat + 10)
  else none

def isHexDigit (c : Char) : Bool := (hexDigit? c).isSome

/-! ## Integers -/

/-- One more digit, saturating after the product and after the sum. -/
def appendDigit (negative : Bool) (n : Int) (c : Char) : Int :=
  let digit : Int := (c.toNat - '0'.toNat : Nat)
  clamp64 (clamp64 (n * 10) + if negative then -digit else digit)

/-- The integer at the start of a text, saturated at 64 bits. -/
def leadingInt? (text : List Char) : Option Int :=
  let (negative, body) := takeSign (skipSpace text)
  let digits := body.takeWhile Char.isDigit
  if digits.isEmpty then none else some (digits.foldl (appendDigit negative) 0)

def intOrZero (text : List Char) : Int := (leadingInt? text).getD 0

/-! ## Decimal floats -/

/-- A marked power: the marker, an optional sign, at least one digit. -/
def scanPower? (isMarker : Char → Bool) : List Char → Option (Int × List Char)
  | [] => none
  | c :: text =>
    let (negative, body) := takeSign text
    let digits := body.takeWhile Char.isDigit
    if isMarker c && !digits.isEmpty then
      let n : Int := Decimal.ofDigits digits
      some (if negative then -n else n, body.dropWhile Char.isDigit)
    else none

/-- The marked power at the start of a text, or zero when there is none. -/
def scanPower (isMarker : Char → Bool) (text : List Char) : Int × List Char :=
  (scanPower? isMarker text).getD (0, text)

/-- Characters of a class, then a point with more of them; without a point the second run is empty.
-/
def splitPoint (p : Char → Bool) (text : List Char) : List Char × List Char × List Char :=
  match text.dropWhile p with
  | '.' :: rest => (text.takeWhile p, rest.takeWhile p, rest.dropWhile p)
  | rest => (text.takeWhile p, [], rest)

/-- An unsigned decimal: digits with at most one point, then an optional power of ten. -/
def scanDecimal? (text : List Char) : Option (Decimal × List Char) :=
  let (whole, fraction, rest) := splitPoint Char.isDigit text
  if (whole ++ fraction).isEmpty then none
  else
    let (power, rest) := scanPower (fun c => c == 'e' || c == 'E') rest
    some (⟨Decimal.ofDigits (whole ++ fraction), power - fraction.length⟩, rest)

/-! ## Hexadecimal floats -/

/-- One more hexadecimal digit, in floating point. -/
def appendHexDigit (x : Binary64) (c : Char) : Binary64 :=
  x * 16 + .ofNat ((hexDigit? c).getD 0)

/-- An unsigned hexadecimal float: `0x`, digits with at most one point, an optional power of two. -/
def scanHexadecimal? : List Char → Option (Binary64 × List Char)
  | '0' :: x :: text =>
    let (whole, fraction, rest) := splitPoint isHexDigit text
    if (x == 'x' || x == 'X') && !(whole ++ fraction).isEmpty then
      let (power, rest) := scanPower (fun c => c == 'p' || c == 'P') rest
      let mantissa := (whole ++ fraction).foldl appendHexDigit 0
      some (mantissa * .twoPow (power - 4 * fraction.length), rest)
    else none
  | _ => none

/-! ## Floats -/

/-- The text after a lower-case word, in any case of ASCII letters. -/
def dropWord? : List Char → List Char → Option (List Char)
  | [], text => some text
  | _ :: _, [] => none
  | c :: word, d :: text => if d.toLower == c then dropWord? word text else none

/-- The number at the start of an unsigned text, given the sign before it. -/
def scanMagnitude? (negative : Bool) (text : List Char) : Option (Binary64 × List Char) :=
  match dropWord? "inf".toList text with
  | some rest => some (.infinite negative, (dropWord? "inity".toList rest).getD rest)
  | none =>
    match dropWord? "nan".toList text with
    | some rest => some (.nan, rest)
    | none =>
      match scanHexadecimal? text with
      | some (x, rest) => some (if negative then -x else x, rest)
      | none => (scanDecimal? text).map fun (d, rest) => (d.toBinary64 negative, rest)

/-- The number at the start of a text, and the text after it. -/
def scanFloat? (text : List Char) : Option (Binary64 × List Char) :=
  let (negative, body) := takeSign (skipSpace text)
  scanMagnitude? negative body

def leadingFloat? (text : List Char) : Option Binary64 := (scanFloat? text).map (·.1)

def floatOrZero (text : List Char) : Binary64 := (leadingFloat? text).getD 0

end PrintSettings.Numeric
