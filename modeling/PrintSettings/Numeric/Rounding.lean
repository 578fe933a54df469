import PrintSettings.Numeric.Power

/-! # Rounding to 53 significant bits

A magnitude is counted in units of `2⁻¹⁰⁷⁴`, the finest spacing of the format, so it is a natural
number. Those that a double can hold are `m · 2ᵉ` with `m < 2⁵³` and `e ≤ 2045` (`Representable`).
A quotient of naturals is rounded to the nearest multiple of its `spacing`, a half going to the even
neighbour (`nearest`); the result is representable unless it overflows (`representable_nearest`). -/

namespace PrintSettings.Numeric

/-! ## Representable magnitudes -/

/-- Magnitudes that a double can hold, in units of `2⁻¹⁰⁷⁴`. -/
def Representable (units : Nat) : Prop :=
  ∃ m e, m < pow2 53 ∧ e ≤ 2045 ∧ units = m * pow2 e

/-- Binary digits after the point that a magnitude can have. -/
def fractionBits : Nat := 1074

/-- Number of units in the magnitude one. -/
def one : Nat := pow2 fractionBits

/-- First magnitude beyond every representable one. -/
def overflow : Nat := pow2 (1024 + fractionBits)

theorem one_pos : 0 < one := pow2_pos fractionBits

theorem representable_zero : Representable 0 := ⟨0, 0, pow2_pos _, by omega, by simp⟩

theorem Representable.lt_overflow {n : Nat} (h : Representable n) : n < overflow := by
  obtain ⟨m, e, hm, he, rfl⟩ := h
  refine Nat.lt_of_lt_of_le (Nat.mul_lt_mul_of_pos_right hm (pow2_pos e)) ?_
  rw [← pow2_add]
  exact pow2_le_pow2 (by unfold fractionBits; omega)

/-! ## Nearest integer to a quotient -/

/-- The integer nearest to `num / den`; a half goes to the even neighbour. -/
def divNearest (num den : Nat) : Nat :=
  let q := num / den
  let r := num % den
  if 2 * r < den then q else if den < 2 * r then q + 1 else q + q % 2

theorem divNearest_le (num den : Nat) : divNearest num den ≤ num / den + 1 := by
  simp only [divNearest]
  split
  · omega
  · split <;> omega

theorem le_divNearest (num den : Nat) : num / den ≤ divNearest num den := by
  simp only [divNearest]
  split
  · omega
  · split <;> omega

/-! ## Nearest representable magnitude -/

/-- Binary logarithm of the distance between neighbouring magnitudes near `n`: 53 bits are kept. -/
def spacing (n : Nat) : Nat := n.log2 - 52

/-- The magnitude with 53 significant bits nearest to `num / den` units, without overflow. -/
def nearest (num den : Nat) : Nat :=
  divNearest num (den * pow2 (spacing (num / den))) * pow2 (spacing (num / den))

theorem div_spacing_lt (num den : Nat) :
    num / (den * pow2 (spacing (num / den))) < pow2 53 := by
  rw [← Nat.div_div_eq_div_mul]
  apply Nat.div_lt_of_lt_mul
  rw [← pow2_add]
  refine Nat.lt_of_lt_of_le (lt_pow2_log2 _) (pow2_le_pow2 ?_)
  unfold spacing
  omega

theorem le_div_spacing {num den : Nat} (h : 0 < spacing (num / den)) :
    pow2 52 ≤ num / (den * pow2 (spacing (num / den))) := by
  have hq : num / den ≠ 0 := by
    intro h0
    rw [h0] at h
    exact absurd h (by decide)
  rw [← Nat.div_div_eq_div_mul, Nat.le_div_iff_mul_le (pow2_pos _), ← pow2_add]
  refine Nat.le_trans (pow2_le_pow2 ?_) (pow2_log2_le hq)
  unfold spacing at h ⊢
  omega

/-- Rounding yields a representable magnitude, or overflows. -/
theorem representable_nearest {num den : Nat} (h : nearest num den < overflow) :
    Representable (nearest num den) := by
  have hle := Nat.le_trans (divNearest_le num (den * pow2 (spacing (num / den))))
    (Nat.succ_le_of_lt (div_spacing_lt num den))
  have hge : 0 < spacing (num / den) →
      pow2 52 ≤ divNearest num (den * pow2 (spacing (num / den))) := fun hk =>
    Nat.le_trans (le_div_spacing hk) (le_divNearest _ _)
  unfold nearest at h ⊢
  generalize divNearest num (den * pow2 (spacing (num / den))) = d at *
  generalize spacing (num / den) = k at *
  unfold overflow at h
  have hk : 0 < k → 52 + k < 1024 + fractionBits := fun h0 => by
    refine lt_of_pow2_lt_pow2 (Nat.lt_of_le_of_lt ?_ h)
    rw [pow2_add]
    exact Nat.mul_le_mul_right _ (hge h0)
  by_cases hd : d < pow2 53
  · exact ⟨d, k, hd, by unfold fractionBits at hk; omega, rfl⟩
  · have hd : d = pow2 52 * 2 := Nat.le_antisymm hle (Nat.not_lt.1 hd)
    refine ⟨pow2 52, k + 1, by decide, ?_, ?_⟩
    · have : 53 + k < 1024 + fractionBits := by
        refine lt_of_pow2_lt_pow2 (Nat.lt_of_le_of_lt ?_ h)
        rw [pow2_add, hd]
        exact Nat.le_refl _
      unfold fractionBits at this
      omega
    · rw [hd, pow2_succ k, Nat.mul_assoc, Nat.mul_comm 2]

end PrintSettings.Numeric
