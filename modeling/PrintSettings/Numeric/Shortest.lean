import PrintSettings.Numeric.Decimal

/-! # Shortest decimals

The decimal written for a number is the shortest one that reads back: for one digit, two digits and
so on, the two neighbours of the number on that decimal grid are tried, and of two that read back
the nearer is taken. If no grid up to seventeen digits had an answer the exact expansion would be
taken, so what is written always reads back. -/

namespace PrintSettings.Numeric

/-- Which neighbour is taken for a number half way between two decimals. -/
inductive Tie where
  | up
  | even
deriving DecidableEq, Repr

namespace Decimal

/-! ## Decimal grids -/

/-- The quotient of a magnitude by `10 ^ grid`, as a fraction. -/
def onGrid (units : Nat) (grid : Int) : Nat × Nat :=
  (units * pow10 (-grid).toNat, one * pow10 grid.toNat)

/-- The power of ten of the first digit of a magnitude. -/
def leadingPower (units : Nat) : Int :=
  (digits (units * pow10 340 / one)).length - 341

/-- The two neighbours of a magnitude on a grid, the nearer one first. -/
def neighbours (tie : Tie) (units : Nat) (grid : Int) : List Decimal :=
  let (num, den) := onGrid units grid
  let low := num / den
  let twice := 2 * (num % den)
  let lower : Decimal := ⟨low, grid⟩
  let upper : Decimal := ⟨low + 1, grid⟩
  let upperFirst := den < twice || (twice == den && (tie == .up || low % 2 == 1))
  if upperFirst then [upper, lower] else [lower, upper]

/-! ## The shortest decimal -/

/-- Whether a decimal is read as the magnitude. -/
def readsAs (units : Nat) (d : Decimal) : Bool := (d.toBinary64 false).units? == some units

/-- The exact decimal expansion of a magnitude. -/
def exact (units : Nat) : Decimal := ⟨units * Nat.pow 5 fractionBits, -fractionBits⟩

/-- The decimal with the fewest digits that reads as the magnitude, the nearest of those. -/
def shortest (tie : Tie) (units : Nat) : Decimal :=
  let power := leadingPower units
  let found := (List.range 17).findSome? fun (places : Nat) =>
    (neighbours tie units (power - places)).find? (readsAs units)
  (found.getD (exact units)).strip

end Decimal

end PrintSettings.Numeric
