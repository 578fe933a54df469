import PrintSettings.Numeric.Rounding

/-! # Binary floating point of 64 bits

A number is a signed magnitude in units of `2⁻¹⁰⁷⁴`, an infinity or not a number. Magnitudes are
naturals, so equal finite numbers are equal terms up to the sign of zero; `ofBits` and `toBits` give
the interchange encoding. Comparison is on a line of integers (`line`) that the infinities close. -/

namespace PrintSettings.Numeric

/-- A number of the 64-bit format; `units` counts `2⁻¹⁰⁷⁴`. -/
inductive Binary64 where
  | finite (negative : Bool) (units : Nat) (representable : Representable units)
  | infinite (negative : Bool)
  | nan
deriving DecidableEq

namespace Binary64

/-! ## Building numbers -/

/-- Zero with a sign. -/
def zero (negative : Bool) : Binary64 := finite negative 0 representable_zero

/-- The number nearest to `num / den` units, a half going to the even neighbour. -/
def round (negative : Bool) (num den : Nat) : Binary64 :=
  if h : nearest num den < overflow then
    finite negative (nearest num den) (representable_nearest h)
  else infinite negative

/-- The number nearest to a natural number. -/
def ofNat (n : Nat) : Binary64 := round false (n * one) 1

instance (n : Nat) : OfNat Binary64 n := ⟨ofNat n⟩

instance : Inhabited Binary64 := ⟨zero false⟩

/-! ## Interchange encoding -/

theorem representable_subnormal {fraction : Nat} (h : fraction < pow2 52) :
    Representable fraction :=
  ⟨fraction, 0, Nat.lt_trans h (by decide), by omega, by simp [pow2]⟩

theorem representable_normal {fraction exponent : Nat} (h : fraction < pow2 52)
    (he : exponent ≤ 2045) : Representable ((pow2 52 + fraction) * pow2 exponent) :=
  ⟨pow2 52 + fraction, exponent, Nat.add_lt_add_left h _, he, rfl⟩

/-- The number that 64 bits encode: sign, eleven bits of exponent, 52 bits of fraction. -/
def ofBits (bits : UInt64) : Binary64 :=
  let negative := decide (pow2 63 ≤ bits.toNat)
  let exponent := bits.toNat / pow2 52 % pow2 11
  let fraction := bits.toNat % pow2 52
  have small : fraction < pow2 52 := Nat.mod_lt _ (pow2_pos 52)
  if exponent = 0 then finite negative fraction (representable_subnormal small)
  else if h : exponent ≤ 2046 then
    finite negative ((pow2 52 + fraction) * pow2 (exponent - 1))
      (representable_normal small (by omega))
  else if fraction = 0 then infinite negative
  else nan

/-- Sign bit of the encoding. -/
def signBit (negative : Bool) : Nat := if negative then pow2 63 else 0

/-- The encoding of a number; every undefined result has the one quiet encoding. -/
def toBits : Binary64 → UInt64
  | finite negative units _ =>
    .ofNat (signBit negative + spacing units * pow2 52 + units / pow2 (spacing units))
  | infinite negative => .ofNat (signBit negative + 2047 * pow2 52)
  | nan => .ofNat (2047 * pow2 52 + pow2 51)

/-! ## Order -/

/-- A magnitude with its sign. -/
def signed (negative : Bool) (units : Nat) : Int := if negative then -units else units

/-- Place of a number on the line of units; the infinities lie beyond every finite number. -/
def line : Binary64 → Option Int
  | finite negative units _ => some (signed negative units)
  | infinite negative => some (signed negative overflow)
  | nan => none

/-- Whether a relation holds between two places; nothing is related to an undefined result. -/
def compares (r : Int → Int → Bool) (x y : Binary64) : Bool :=
  match line x, line y with
  | some a, some b => r a b
  | _, _ => false

instance : LT Binary64 := ⟨fun x y => compares (fun a b => a < b) x y⟩
instance : LE Binary64 := ⟨fun x y => compares (fun a b => a ≤ b) x y⟩
instance : DecidableLT Binary64 := fun _ _ => inferInstanceAs (Decidable (_ = true))
instance : DecidableLE Binary64 := fun _ _ => inferInstanceAs (Decidable (_ = true))

/-- Equality of values: the two zeros are equal, an undefined result equals nothing. -/
def numericEq (x y : Binary64) : Bool := compares (fun a b => a == b) x y

def isFinite : Binary64 → Bool
  | finite .. => true
  | _ => false

def isNan : Binary64 → Bool
  | nan => true
  | _ => false

/-- The magnitude of a finite number. -/
def units? : Binary64 → Option Nat
  | finite _ units _ => some units
  | _ => none

/-! ## Integers -/

/-- Rounding toward zero, clamped to `lo … hi`; an undefined result gives zero. -/
def truncate (lo hi : Int) : Binary64 → Int
  | finite negative units _ => max lo (min hi (signed negative (units / one)))
  | infinite negative => if negative then lo else hi
  | nan => 0

end Binary64

end PrintSettings.Numeric
