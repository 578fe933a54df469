import PrintSettings.Proofs.Numeric.Range
import PrintSettings.Proofs.Numeric.Sum

/-! # Arithmetic on whole numbers

Whole numbers in floating point are rounded to 53 bits, and infinite from `2¹⁰²⁴` on
(`ofNat_eq_finite`, `ofNat_eq_infinite`). A digit is appended with one rounding (`ofNat_mul_add`),
powers of two are exact (`twoPow_eq_finite`), and a sign may be put before or after rounding
(`isRounded_withSign_iff`). -/

namespace PrintSettings.Numeric

namespace Binary64

variable {x y : Binary64} {num den m n t : Nat} {r : ℚ} {negative : Bool}

/-! ## Whole numbers -/

theorem nearest_mul_one (n : Nat) : nearest (n * one) 1 = nearest n 1 * one :=
  nearest_mul_pow2 n fractionBits

theorem overflow_le_mul_one_iff : overflow ≤ n * one ↔ pow2 1024 ≤ n := by
  rw [overflow, pow2_add, ← one]
  exact Nat.mul_le_mul_right_iff one_pos

theorem ofNat_nearest (n : Nat) : ofNat (nearest n 1) = ofNat n := by
  have heq : nearest (nearest n 1 * one) 1 = nearest (n * one) 1 := by
    rw [nearest_mul_one, nearest_mul_one, rounded_nearest.nearest_eq]
  unfold ofNat round
  simp only [heq]

theorem ofNat_eq_finite (hn : Rounded n) (h : n < pow2 1024) :
    ∃ hunits, ofNat n = finite false (n * one) hunits := by
  have hrounded : Rounded (n * one) := hn.mul_pow2 fractionBits
  have hlt : n * one < overflow := by
    rw [← not_le, overflow_le_mul_one_iff, not_le]
    exact h
  exact ⟨hrounded.representable hlt, round_eq_finite hrounded.nearest_eq _⟩

theorem ofNat_eq_infinite (h : pow2 1024 ≤ n) : ofNat n = infinite false := by
  refine round_eq_infinite ?_
  rw [nearest_mul_one, overflow_le_mul_one_iff]
  exact le_nearest Nat.one_pos (rounded_pow2 1024) ((Nat.mul_one _).trans_le h)

theorem finite_mul_ofNat (hn : Representable n) (hm : Rounded m) (h : m < pow2 1024) :
    finite negative n hn * ofNat m = round negative (n * m) 1 := by
  obtain ⟨hunits, hofNat⟩ := ofNat_eq_finite hm h
  have hmul : finite negative n hn * finite false (m * one) hunits =
      mul (finite negative n hn) (finite false (m * one) hunits) := rfl
  rw [hofNat, hmul, mul, Bool.bne_false, ← Nat.mul_assoc]
  refine round_congr one_pos Nat.one_pos ?_
  rw [Nat.cast_mul, Nat.cast_one, div_one, mul_div_cancel_right₀ _ cast_one_pos.ne']

theorem finite_mul_finite (hm : Representable (m * one)) (hn : Representable n) :
    finite false (m * one) hm * finite false n hn = round false (m * n) 1 := by
  have hmul : finite false (m * one) hm * finite false n hn =
      mul (finite false (m * one) hm) (finite false n hn) := rfl
  rw [hmul, mul, bne_self_eq_false, Nat.mul_right_comm]
  exact round_congr one_pos Nat.one_pos (by rw [Nat.cast_mul, Nat.cast_one, div_one,
    mul_div_cancel_right₀ _ cast_one_pos.ne'])

theorem infinite_mul_finite (hn : Representable n) (hpos : 0 < n) :
    infinite false * finite false n hn = infinite false := by
  have hmul : infinite false * finite false n hn =
      if n = 0 then nan else infinite (false != false) := rfl
  rw [hmul, if_neg hpos.ne', bne_self_eq_false]

theorem finite_mul_infinite (hm : Representable m) :
    finite false m hm * infinite false = if m = 0 then nan else infinite false := rfl

theorem finite_add_finite (hm : Representable m) (hn : Representable n) :
    finite false m hm + finite false n hn = round false (m + n) 1 := by
  have hsum : signed false m + signed false n = ((m + n : ℕ) : Int) := rfl
  rw [add_finite, hsum, Int.natAbs_natCast, decide_eq_false (Int.not_lt.2 (Int.natCast_nonneg _))]
  split
  next h =>
    rw [Int.natCast_eq_zero.1 h]
    exact (round_eq_finite (nearest_eq_zero Nat.one_pos) representable_zero).symm
  next => rfl

theorem ofNat_mul_add (hn : Rounded n) (ht : t < 16) :
    ofNat n * ofNat 16 + ofNat t = ofNat (16 * n + t) := by
  have hsmall : ∀ m ≤ 16, ∃ hunits, ofNat m = finite false (m * one) hunits := fun m hm => by
    have hlt : m < pow2 53 := hm.trans_lt (by decide)
    exact ofNat_eq_finite (rounded_of_lt hlt) (hlt.trans_le (pow2_le_pow2 (by omega)))
  obtain ⟨_, h16⟩ := hsmall 16 le_rfl
  obtain ⟨_, hdigit⟩ := hsmall t ht.le
  have hmul : ofNat n * ofNat 16 = ofNat (16 * n) := by
    rcases Nat.lt_or_ge n (pow2 1024) with hlt | hge
    · obtain ⟨_, hfinite⟩ := ofNat_eq_finite hn hlt
      rw [hfinite, h16, finite_mul_finite, ← Nat.mul_assoc, Nat.mul_comm n]
      rfl
    · rw [ofNat_eq_infinite hge, ofNat_eq_infinite (n := 16 * n) (by omega), h16]
      exact infinite_mul_finite _ (Nat.mul_pos (by decide) one_pos)
  rw [hmul]
  -- the product is exact, so it has 53 bits and the sum is the only thing that is rounded
  rcases Nat.lt_or_ge (16 * n) (pow2 1024) with hlt | hge
  · have h16n : Rounded (16 * n) := Nat.mul_comm n 16 ▸ hn.mul_pow2 4
    obtain ⟨_, hfinite⟩ := ofNat_eq_finite h16n hlt
    rw [hfinite, hdigit, finite_add_finite, ← Nat.add_mul]
    rfl
  · rw [ofNat_eq_infinite hge, ofNat_eq_infinite (n := 16 * n + t) (by omega), hdigit]
    rfl

/-! ## Powers of two -/

theorem twoPow_eq_infinite {e : Int} (h : 1024 ≤ e) : twoPow e = infinite false := if_pos h

theorem twoPow_eq_finite {e : Int} (h : e < 1024) : ∃ units hunits,
    twoPow e = finite false units hunits ∧ (-1074 ≤ e → units = pow2 (e + 1074).toNat) := by
  by_cases hlow : e < -1100
  · refine ⟨0, representable_zero, ?_, fun h' => by omega⟩
    rw [twoPow, if_neg (by omega), if_pos hlow]
    rfl
  · have hden := pow2_pos (-e).toNat
    have hround : twoPow e = round false (one * pow2 e.toNat) (pow2 (-e).toNat) := by
      rw [twoPow, if_neg (by omega), if_neg hlow]
    -- the largest power of two in range is a bound for all of them
    have hle : nearest (one * pow2 e.toNat) (pow2 (-e).toNat) ≤ pow2 (fractionBits + 1023) := by
      refine nearest_le hden (rounded_pow2 _) ?_
      rw [one, ← pow2_add, ← pow2_add]
      exact pow2_le_pow2 (by omega)
    have hlt : pow2 (fractionBits + 1023) < overflow := by
      have hnext : overflow = pow2 (fractionBits + 1023) * 2 := by
        rw [overflow, Nat.add_comm, ← pow2_succ]
      have := pow2_pos (fractionBits + 1023)
      omega
    refine ⟨_, representable_nearest (hle.trans_lt hlt), ?_, fun hlow' => ?_⟩
    · rw [hround]
      exact round_eq_finite rfl _
    · have hexponent : fractionBits + e.toNat = (e + 1074).toNat + (-e).toNat := by
        unfold fractionBits
        omega
      rw [one, ← pow2_add, hexponent, pow2_add]
      exact nearest_mul hden (rounded_pow2 _)

/-! ## Signs -/

/-- A number after a sign. -/
def withSign (negative : Bool) (x : Binary64) : Binary64 := if negative then -x else x

theorem neg_inj : -x = -y ↔ x = y := by
  have hneg : ∀ z : Binary64, -(-z) = z := by
    rintro (⟨b, n, hn⟩ | b | _)
    · exact congrArg (finite · n hn) (Bool.not_not b)
    · exact congrArg infinite (Bool.not_not b)
    · rfl
  exact ⟨fun heq => by rw [← hneg x, heq, hneg], congrArg _⟩

theorem withSign_round (negative : Bool) (num den : Nat) :
    withSign negative (round false num den) = round negative num den := by
  cases negative with
  | false => rw [withSign, if_neg Bool.false_ne_true]
  | true =>
    rw [withSign, if_pos rfl]
    unfold round
    by_cases h : nearest num den < overflow
    · rw [dif_pos h, dif_pos h]
      rfl
    · rw [dif_neg h, dif_neg h]
      rfl

theorem withSign_inj : withSign negative x = withSign negative y ↔ x = y := by
  cases negative with
  | false => exact Iff.rfl
  | true => exact neg_inj

theorem isRounded_withSign_iff (hden : 0 < den) (h : (num : ℚ) / den = r * one) :
    (withSign negative x).IsRounded negative r ↔ x.IsRounded false r := by
  rw [isRounded_iff hden h, isRounded_iff hden h, ← withSign_round, withSign_inj]

end Binary64

end PrintSettings.Numeric
