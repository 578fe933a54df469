import PrintSettings.Numeric.Arithmetic
import PrintSettings.Proofs.Numeric.Nearest

/-! # Sums of finite numbers

A sum of finite numbers is their exact sum up to half of the distance between neighbouring numbers
of its size (`exists_add`), so it is finite if the exact sum is small enough. Everything is said in
units, where sums are exact in the integers. -/

namespace PrintSettings.Numeric

variable {n k : Nat}

/-! ## Half a spacing -/

theorem spacing_le (h : n < pow2 (53 + k)) : spacing n ≤ k := by
  rcases Nat.eq_zero_or_pos n with h0 | h0
  · rw [h0]
    exact Nat.zero_le k
  · have hlog : n.log2 < 53 + k :=
      lt_of_pow2_lt_pow2 (Nat.lt_of_le_of_lt (pow2_log2_le h0.ne') h)
    unfold spacing
    omega

/-- A whole number of units is rounded by half of its spacing at most. -/
theorem abs_nearest_one_sub_le (h : n < pow2 (53 + k)) :
    2 * |(nearest n 1 : Int) - n| ≤ pow2 k := by
  have hspacing : pow2 (spacing n) ≤ pow2 k := pow2_le_pow2 (spacing_le h)
  have hnearest : nearest n 1 = divNearest n (pow2 (spacing n)) * pow2 (spacing n) := by
    rw [nearest, Nat.div_one, Nat.one_mul]
  have hcases := (divNearest_cases n (pow2 (spacing n))).1
  have hdiv := Nat.div_add_mod n (pow2 (spacing n))
  have hmod := Nat.mod_lt n (pow2_pos (spacing n))
  generalize pow2 (spacing n) = p at *
  rw [hnearest]
  rcases hcases with ⟨hhalf, hq⟩ | ⟨hhalf, hq⟩
  · have hbelow : ((divNearest n p * p : Nat) : Int) - n = -(n % p : Nat) := by
      rw [hq, Nat.mul_comm]
      omega
    rw [hbelow, abs_neg, Nat.abs_cast]
    omega
  · have habove : ((divNearest n p * p : Nat) : Int) - n = p - (n % p : Nat) := by
      rw [hq, Nat.add_mul, Nat.one_mul, Nat.mul_comm]
      omega
    rw [habove, abs_of_nonneg (by omega)]
    omega

namespace Binary64

/-! ## Finite numbers -/

section Finite

variable {a b : Bool} {m n : Nat} {hm : Representable m} {hn : Representable n}

theorem value_finite : (finite a m hm).value = signed a m / one := rfl

theorem add_finite : finite a m hm + finite b n hn =
    if signed a m + signed b n = 0 then zero (a && b)
    else round (signed a m + signed b n < 0) (signed a m + signed b n).natAbs 1 := rfl

theorem rem_finite (h : n ≠ 0) : finite a m hm % finite b n hn = finite a (m % n) (hm.mod hn) :=
  if_neg h

theorem finite_le_iff : finite a m hm ≤ finite b n hn ↔ signed a m ≤ signed b n :=
  decide_eq_true_iff

theorem finite_lt_iff : finite a m hm < finite b n hn ↔ signed a m < signed b n :=
  decide_eq_true_iff

end Finite

/-! ## Sums -/

theorem signed_zero (negative : Bool) : signed negative 0 = 0 := by
  cases negative <;> rfl

theorem abs_signed_sub (negative : Bool) (m n : Nat) :
    |signed negative m - signed negative n| = |(m : Int) - n| := by
  cases negative
  · rfl
  · have hneg : signed true m - signed true n = -((m : Int) - n) := by
      simp only [signed, if_true]
      omega
    rw [hneg, abs_neg]

theorem exists_round {s : Int} (hs : s.natAbs < pow2 (53 + k)) (hk : k ≤ 2044) :
    ∃ units, ∃ hunits : Representable units,
      round (s < 0) s.natAbs 1 = finite (s < 0) units hunits ∧
      2 * |signed (s < 0) units - s| ≤ pow2 k := by
  have hover : nearest s.natAbs 1 < overflow := by
    have hle : nearest s.natAbs 1 ≤ pow2 (53 + k) := by
      refine nearest_le Nat.one_pos (rounded_pow2 _) ?_
      rw [Nat.mul_one]
      exact hs.le
    refine Nat.lt_of_le_of_lt hle (Nat.lt_of_le_of_lt (pow2_le_pow2 (Nat.add_le_add_left hk 53)) ?_)
    decide +kernel
  have hsigned : signed (s < 0) s.natAbs = s := by
    unfold signed
    split
    next h => rw [decide_eq_true_eq] at h; omega
    next h => rw [decide_eq_true_eq] at h; omega
  refine ⟨nearest s.natAbs 1, representable_nearest hover, dif_pos hover, ?_⟩
  have habs := abs_signed_sub (s < 0) (nearest s.natAbs 1) s.natAbs
  rw [hsigned] at habs
  rw [habs]
  exact abs_nearest_one_sub_le hs

/-- **A sum is near the exact sum.** -/
theorem exists_add {a b : Bool} {m n : Nat} (hm : Representable m) (hn : Representable n)
    (hs : (signed a m + signed b n).natAbs < pow2 (53 + k)) (hk : k ≤ 2044) :
    ∃ c units, ∃ hunits : Representable units,
      finite a m hm + finite b n hn = finite c units hunits ∧
      2 * |signed c units - (signed a m + signed b n)| ≤ pow2 k ∧
      (0 < signed a m + signed b n → c = false) := by
  rw [add_finite]
  generalize signed a m + signed b n = s at *
  split
  next h0 =>
    refine ⟨a && b, 0, representable_zero, rfl, ?_, fun h => absurd h0 h.ne'⟩
    rw [signed_zero, h0]
    simp
  next h0 =>
    obtain ⟨units, hunits, hround, hnear⟩ := exists_round hs hk
    exact ⟨_, units, hunits, hround, hnear, fun h => decide_eq_false (by omega)⟩

end Binary64

end PrintSettings.Numeric
