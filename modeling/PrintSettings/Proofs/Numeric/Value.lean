import PrintSettings.Numeric.Shortest
import PrintSettings.Proofs.Numeric.Nearest

/-! # Values of decimals

What a decimal is read as depends on its value alone: it is the value rounded, however large the
mantissa and the exponent are (`toBinary64_eq_round`), for exponents are clamped only where the
result overflows or vanishes. So nothing is lost when the zeros are stripped, and the shortest
decimal for a magnitude is read as the magnitude (`toBinary64_shortest`). -/

namespace PrintSettings.Numeric

theorem cast_pow2 (n : Nat) : (pow2 n : ℚ) = 2 ^ n := Nat.cast_pow 2 n

theorem cast_pow10 (n : Nat) : (pow10 n : ℚ) = 10 ^ n := Nat.cast_pow 10 n

theorem pow10_pos (n : Nat) : 0 < pow10 n := Nat.pow_pos (by decide)

theorem pow2_le_pow10 (n : Nat) : pow2 n ≤ pow10 n := Nat.pow_le_pow_left (by decide) n

theorem cast_one_pos : (0 : ℚ) < one := by exact_mod_cast one_pos

/-! ## Overflow and underflow -/

namespace Binary64

variable {negative : Bool} {num den : Nat}

theorem round_of_overflow_le (hden : 0 < den) (h : (overflow : ℚ) ≤ num / den) :
    round negative num den = infinite negative := by
  have hpos : (0 : ℚ) < den := by exact_mod_cast hden
  have hnum : overflow * den ≤ num := by
    rw [le_div_iff₀ hpos] at h
    exact_mod_cast h
  exact round_eq_infinite (le_nearest hden (rounded_pow2 _) hnum)

theorem round_of_lt_half (hden : 0 < den) (h : (num : ℚ) / den < 1 / 2) :
    round negative num den = zero negative := by
  have hpos : (0 : ℚ) < den := by exact_mod_cast hden
  have hnum : 2 * num < den := by
    rw [div_lt_div_iff₀ hpos (by norm_num)] at h
    have hcast : (2 : ℚ) * num < den := by linarith
    exact_mod_cast hcast
  exact round_eq_finite (nearest_eq_zero hnum) representable_zero

theorem nearest_of_round_eq {n : Nat} {b : Bool} {hn : Representable n}
    (h : round negative num den = finite b n hn) : nearest num den = n := by
  unfold round at h
  split at h
  next => injection h
  next => injection h

end Binary64

namespace Decimal

variable {negative : Bool} {num den units : Nat} {d : Decimal}

/-! ## Rounding the value -/

def value (d : Decimal) : ℚ := d.mantissa * 10 ^ d.exponent

/-- The decimal with its exponent clamped. -/
def clamp (d : Decimal) : Decimal := ⟨d.mantissa, d.clampedExponent⟩

theorem toBinary64_eq_clamp : d.toBinary64 negative = .round negative
    (d.clamp.mantissa * pow10 d.clamp.exponent.toNat * one) (pow10 (-d.clamp.exponent).toNat) := rfl

theorem ten_zpow_eq (e : Int) : (10 : ℚ) ^ e = pow10 e.toNat / pow10 (-e).toNat := by
  rw [cast_pow10, cast_pow10]
  obtain ⟨n, rfl | rfl⟩ := Int.eq_nat_or_neg e
  · simp
  · simp

theorem div_eq_value : ((d.mantissa * pow10 d.exponent.toNat * one : ℕ) : ℚ) /
    (pow10 (-d.exponent).toNat : ℕ) = d.value * one := by
  rw [value, ten_zpow_eq]
  push_cast
  ring

theorem pow10_le_zpow {n : Nat} {e : Int} (h : n ≤ e) : (pow10 n : ℚ) ≤ 10 ^ e := by
  rw [cast_pow10, ← zpow_natCast]
  exact zpow_le_zpow_right₀ (by norm_num) h

theorem zpow_le_inv_pow10 {n : Nat} {e : Int} (h : e ≤ -n) : (10 : ℚ) ^ e ≤ (pow10 n : ℚ)⁻¹ := by
  rw [cast_pow10, ← zpow_natCast, ← zpow_neg]
  exact zpow_le_zpow_right₀ (by norm_num) h

theorem overflow_le_of_large {m : Nat} (hm : 0 < m) {e : Int} (he : (400 : Nat) ≤ e) :
    (overflow : ℚ) ≤ m * 10 ^ e * one := by
  have hpow : overflow ≤ pow10 400 * one := by
    have htwo : pow2 1024 ≤ pow10 400 := by decide +kernel
    rw [overflow, pow2_add, ← one]
    exact Nat.mul_le_mul_right one htwo
  have hvalue : (pow10 400 : ℚ) ≤ m * 10 ^ e := by
    calc (pow10 400 : ℚ) ≤ 10 ^ e := pow10_le_zpow he
      _ ≤ m * 10 ^ e :=
        le_mul_of_one_le_left (zpow_nonneg (by norm_num) e) (by exact_mod_cast hm)
  calc (overflow : ℚ) ≤ pow10 400 * one := by exact_mod_cast hpow
    _ ≤ m * 10 ^ e * one := mul_le_mul_of_nonneg_right hvalue cast_one_pos.le

theorem lt_half_of_small {m : Nat} {e : Int} (he : e ≤ -((m.log2 + 1100 : Nat) : Int)) :
    (m : ℚ) * 10 ^ e * one < 1 / 2 := by
  have hmantissa : 2 * (m * one) < pow10 (m.log2 + 1100) := by
    calc 2 * (m * one) < 2 * (pow2 (m.log2 + 1) * one) :=
        Nat.mul_lt_mul_of_pos_left
          (Nat.mul_lt_mul_of_pos_right (lt_pow2_log2 m) one_pos) (by decide)
      _ = pow2 (m.log2 + 1 + fractionBits + 1) := by rw [one, ← pow2_add, pow2_succ _, Nat.mul_comm]
      _ ≤ pow2 (m.log2 + 1100) := pow2_le_pow2 (by unfold fractionBits; omega)
      _ ≤ pow10 (m.log2 + 1100) := pow2_le_pow10 _
  have hpos : (0 : ℚ) < pow10 (m.log2 + 1100) := by exact_mod_cast pow10_pos _
  have hcast : (2 : ℚ) * (m * one) < pow10 (m.log2 + 1100) := by exact_mod_cast hmantissa
  calc (m : ℚ) * 10 ^ e * one = m * one * 10 ^ e := by ring
    _ ≤ m * one * (pow10 (m.log2 + 1100) : ℚ)⁻¹ :=
      mul_le_mul_of_nonneg_left (zpow_le_inv_pow10 he)
        (mul_nonneg (Nat.cast_nonneg m) cast_one_pos.le)
    _ < 1 / 2 := by
      rw [← div_eq_mul_inv, div_lt_div_iff₀ hpos (by norm_num)]
      linarith

/-- Exponents are clamped only where the value overflows or vanishes. -/
theorem clamp_cases (d : Decimal) : d.clamp.value = d.value ∨
    ((overflow : ℚ) ≤ d.value * one ∧ (overflow : ℚ) ≤ d.clamp.value * one) ∨
    (d.value * one < 1 / 2 ∧ d.clamp.value * one < 1 / 2) := by
  have hclamp : d.clamp.exponent =
      max (-((d.mantissa.log2 + 1100 : Nat) : Int)) (min 400 d.exponent) := rfl
  rcases Nat.eq_zero_or_pos d.mantissa with h0 | hpos
  · left
    simp [value, clamp, h0]
  by_cases hlarge : 400 < d.exponent
  · exact .inr (.inl ⟨overflow_le_of_large hpos (by omega), overflow_le_of_large hpos (by omega)⟩)
  by_cases hsmall : d.exponent < -((d.mantissa.log2 + 1100 : Nat) : Int)
  · have hclamped : d.clamp.exponent = -((d.mantissa.log2 + 1100 : Nat) : Int) := by omega
    exact .inr (.inr ⟨lt_half_of_small hsmall.le, lt_half_of_small hclamped.le⟩)
  · have hexponent : d.clamp.exponent = d.exponent := by omega
    left
    rw [value, hexponent, value]
    rfl

/-- **A decimal is read as its value rounded.** -/
theorem toBinary64_eq_round (hden : 0 < den) (h : (num : ℚ) / den = d.value * one) :
    d.toBinary64 negative = .round negative num den := by
  have hclamp := @div_eq_value d.clamp
  have hden' : 0 < pow10 (-d.clamp.exponent).toNat := pow10_pos _
  rw [toBinary64_eq_clamp]
  rcases clamp_cases d with heq | ⟨hlarge, hlarge'⟩ | ⟨hsmall, hsmall'⟩
  · exact Binary64.round_congr hden' hden (by rw [h, ← heq, hclamp])
  · rw [← h] at hlarge
    rw [← hclamp] at hlarge'
    rw [Binary64.round_of_overflow_le hden hlarge, Binary64.round_of_overflow_le hden' hlarge']
  · rw [← h] at hsmall
    rw [← hclamp] at hsmall'
    rw [Binary64.round_of_lt_half hden hsmall, Binary64.round_of_lt_half hden' hsmall']

theorem toBinary64_congr {d' : Decimal} (h : d.value = d'.value) :
    d.toBinary64 negative = d'.toBinary64 negative := by
  have hround : ((d'.mantissa * pow10 d'.exponent.toNat * one : ℕ) : ℚ) /
      (pow10 (-d'.exponent).toNat : ℕ) = d.value * one := by rw [div_eq_value, h]
  rw [toBinary64_eq_round (pow10_pos _) hround, toBinary64_eq_round (pow10_pos _) div_eq_value]

/-! ## Digits -/

theorem ofDigits_append (a b : List Char) :
    ofDigits (a ++ b) = ofDigits a * pow10 b.length + ofDigits b := by
  rw [ofDigits, Nat.ofDigitChars_append, Nat.ofDigitChars_eq_ofDigitChars_zero, Nat.mul_comm]
  rfl

theorem ofDigits_zeros (n : Nat) : ofDigits (List.replicate n '0') = 0 := by
  rw [ofDigits, Nat.ofDigitChars_replicate_zero, Nat.mul_zero]

theorem ofDigits_append_zeros (a : List Char) (n : Nat) :
    ofDigits (a ++ List.replicate n '0') = ofDigits a * pow10 n := by
  rw [ofDigits_append, ofDigits_zeros, List.length_replicate, Nat.add_zero]

theorem ofDigits_zeros_append (a : List Char) (n : Nat) :
    ofDigits (List.replicate n '0' ++ a) = ofDigits a := by
  rw [ofDigits_append, ofDigits_zeros, Nat.zero_mul, Nat.zero_add]

theorem value_shift (m n : Nat) (e : Int) :
    (⟨m * pow10 n, e⟩ : Decimal).value = (⟨m, e + n⟩ : Decimal).value := by
  simp only [value]
  rw [Nat.cast_mul, cast_pow10, zpow_add₀ (by norm_num), zpow_natCast]
  ring

theorem exists_eq_append_zeros (text : List Char) :
    ∃ front, text = front ++
      List.replicate (text.reverse.takeWhile (· == '0')).length '0' := by
  have hzeros : text.reverse.takeWhile (· == '0') =
      List.replicate (text.reverse.takeWhile (· == '0')).length '0' :=
    List.eq_replicate_iff.2
      ⟨rfl, fun c hc => by simpa using List.all_eq_true.1 List.all_takeWhile c hc⟩
  refine ⟨(text.reverse.dropWhile (· == '0')).reverse, ?_⟩
  rw [← List.reverse_replicate, ← hzeros, ← List.reverse_append, List.takeWhile_append_dropWhile,
    List.reverse_reverse]

theorem value_strip (d : Decimal) : d.strip.value = d.value := by
  unfold strip
  by_cases h0 : d.mantissa = 0
  · simp [value, h0]
  rw [if_neg h0]
  obtain ⟨front, hfront⟩ := exists_eq_append_zeros (digits d.mantissa)
  generalize ((digits d.mantissa).reverse.takeWhile (· == '0')).length = zeros at *
  have hmantissa : d.mantissa = ofDigits front * pow10 zeros := by
    rw [← ofDigits_digits d.mantissa, hfront, ofDigits_append_zeros]
  rw [hmantissa, Nat.mul_div_cancel _ (pow10_pos zeros), ← value_shift, ← hmantissa]

/-! ## Shortest decimals -/

theorem toBinary64_of_finite {b b' : Bool} (hunits : Representable units)
    (h : d.toBinary64 b = .finite b' units hunits) :
    d.toBinary64 negative = .finite negative units hunits := by
  rw [toBinary64_eq_clamp] at h ⊢
  exact Binary64.round_eq_finite (Binary64.nearest_of_round_eq h) hunits

theorem exists_of_units?_eq_some {x : Binary64} (h : x.units? = some units) :
    ∃ b hunits, x = .finite b units hunits := by
  obtain ⟨b, n, hn⟩ | _ | _ := x
  · cases h
    exact ⟨b, hn, rfl⟩
  · contradiction
  · contradiction

theorem value_exact (units : Nat) : (exact units).value * one = units := by
  have hpow : ∀ n : Nat, ((units * Nat.pow 5 n : ℕ) : ℚ) * 10 ^ (-(n : Int)) * pow2 n = units :=
    fun n => by
      have hfive : ((Nat.pow 5 n : ℕ) : ℚ) = 5 ^ n := Nat.cast_pow 5 n
      have hten : (10 : ℚ) ^ n = 5 ^ n * 2 ^ n := by rw [← mul_pow]; norm_num
      rw [Nat.cast_mul, hfive, cast_pow2, zpow_neg, zpow_natCast, hten]
      field_simp
  exact hpow fractionBits

theorem toBinary64_exact (hunits : Representable units) :
    (exact units).toBinary64 negative = .finite negative units hunits := by
  have hvalue : ((units * 1 : ℕ) : ℚ) / (1 : ℕ) = (exact units).value * one := by
    rw [value_exact]
    simp
  rw [toBinary64_eq_round Nat.one_pos hvalue]
  exact Binary64.round_eq_finite (nearest_mul Nat.one_pos hunits.rounded) hunits

/-- **The shortest decimal of a magnitude is read as the magnitude.** -/
theorem toBinary64_shortest (tie : Tie) (hunits : Representable units) :
    (shortest tie units).toBinary64 negative = .finite negative units hunits := by
  unfold shortest
  dsimp only
  rw [toBinary64_congr (value_strip _)]
  cases hfound : (List.range 17).findSome? fun (places : Nat) =>
      (neighbours tie units (leadingPower units - places)).find? (readsAs units) with
  | none => exact toBinary64_exact hunits
  | some d =>
    obtain ⟨places, -, hd⟩ := List.exists_of_findSome?_eq_some hfound
    have hreads : readsAs units d := List.find?_some hd
    have hread : (d.toBinary64 false).units? = some units := eq_of_beq hreads
    obtain ⟨b, _, hfinite⟩ := exists_of_units?_eq_some hread
    exact toBinary64_of_finite hunits hfinite

end Decimal

end PrintSettings.Numeric
