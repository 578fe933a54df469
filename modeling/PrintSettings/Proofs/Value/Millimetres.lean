import Mathlib.Data.Nat.Digits.Defs
import PrintSettings.Proofs.Numeric.Notation
import PrintSettings.Proofs.Numeric.Thousand
import PrintSettings.Value.Kind

/-! # Lengths in whole micrometres

A length is read from millimetres, so a whole number of micrometres is written with three digits
after the point (`millimetres`). The text is rounded, multiplied by a thousand with another rounding,
and cut to a whole number. That gives the micrometres again unless the two roundings leave the
product just below them (`FallsShort`); then a micrometre is lost (`read_millimetres`).

* `denotes_millimetres`: the text denotes the number nearest to so many thousandths.
* `ofMillimetres_round`: the length of that number, cut. -/

namespace PrintSettings.Numeric

namespace Binary64

variable {units : Nat} {negative : Bool}

theorem truncate_finite (hunits : Representable units) (h : units / one < pow2 63) :
    (finite negative units hunits).truncate int64Min int64Max = signed negative (units / one) := by
  have hmin : int64Min = -0x8000000000000000 := rfl
  have hmax : int64Max = 0x7fffffffffffffff := rfl
  have hpow : pow2 63 = 0x8000000000000000 := rfl
  rw [hpow] at h
  rw [truncate, hmin, hmax]
  generalize units / one = whole at *
  cases negative
  · simp only [signed, Bool.false_eq_true, if_false]
    omega
  · simp only [signed, if_true]
    omega

end Binary64

end PrintSettings.Numeric

namespace PrintSettings.Value.Length

open PrintSettings.Numeric
open PrintSettings.Numeric.Binary64 (signed)

variable {m : Nat} {n : Int}

/-! ## Texts of millimetres -/

/-- The three digits of a number below a thousand. -/
def thousandths (m : Nat) : List Char := (Decimal.digits m).leftpad 3 '0'

/-- Micrometres in millimetres: a sign if they are negative, the whole millimetres, a point and
three digits. -/
def millimetres (n : Int) : String :=
  .ofList (Notation.signText (decide (n < 0)) ++
    (Decimal.digits (n.natAbs / 1000) ++ '.' :: thousandths (n.natAbs % 1000)))

theorem thousandths_eq (m : Nat) : thousandths m =
    List.replicate (3 - (Decimal.digits m).length) '0' ++ Decimal.digits m := rfl

theorem allDigits_thousandths (m : Nat) : AllDigits (thousandths m) := by
  rw [thousandths_eq]
  exact (allDigits_zeros _).append (allDigits_digits m)

theorem length_thousandths (h : m < 1000) : (thousandths m).length = 3 := by
  have hle : (Decimal.digits m).length ≤ 3 := Nat.toDigits_length 10 m 3 (by decide) h
  rw [thousandths, List.length_leftpad]
  omega

theorem ofDigits_thousandths (m : Nat) : Decimal.ofDigits (thousandths m) = m := by
  rw [thousandths_eq, Decimal.ofDigits_zeros_append, Decimal.ofDigits_digits]

theorem denotes_millimetres (n : Int) :
    Denotes (millimetres n).toList (.round (decide (n < 0)) (n.natAbs * one) 1000) := by
  have hrest := length_thousandths (Nat.mod_lt n.natAbs (by decide))
  have hmantissa : Decimal.ofDigits (Decimal.digits (n.natAbs / 1000) ++
      thousandths (n.natAbs % 1000)) = n.natAbs := by
    have hpow : pow10 3 = 1000 := rfl
    rw [Decimal.ofDigits_append, hrest, hpow, Decimal.ofDigits_digits, ofDigits_thousandths]
    exact Nat.div_add_mod' _ _
  have hnumeral := isNumeral_point (allDigits_digits (n.natAbs / 1000))
    (allDigits_thousandths (n.natAbs % 1000)) (digits_ne_nil _)
  rw [hmantissa, hrest] at hnumeral
  refine ⟨_, _, _, _, Notation.isSign_signText _, hnumeral, String.toList_ofList, ?_⟩
  refine Decimal.toBinary64_eq_round (by decide) ?_
  have hten : (10 : ℚ) ^ (-(3 : ℕ) : ℤ) = 1 / 1000 := by norm_num
  rw [Decimal.value, Nat.cast_mul, hten, Nat.cast_ofNat]
  ring

/-! ## Lengths -/

/-- Neither the number of millimetres nor that of micrometres overflows. -/
theorem round_mul_thousand (negative : Bool) (h : m < pow2 52) :
    ∃ hunits, Binary64.round negative (m * one) 1000 * 1000 =
      .finite negative (nearest (nearest (m * one) 1000 * 1000) 1) hunits := by
  have hfirst : nearest (m * one) 1000 ≤ pow2 (52 + fractionBits) := by
    refine nearest_le (by decide) (rounded_pow2 _) ?_
    rw [pow2_add, ← one]
    exact (Nat.mul_le_mul_right one h.le).trans (Nat.le_mul_of_pos_right _ (by decide))
  have hsecond : nearest (nearest (m * one) 1000 * 1000) 1 ≤ pow2 (62 + fractionBits) := by
    refine nearest_le Nat.one_pos (rounded_pow2 _) ?_
    have h10 : 1000 ≤ pow2 10 := by decide
    rw [Nat.mul_one, Nat.add_right_comm 52 10 fractionBits, pow2_add _ 10]
    exact Nat.mul_le_mul hfirst h10
  have hmillimetres := representable_nearest (hfirst.trans_lt (by decide +kernel))
  have hunits := representable_nearest (hsecond.trans_lt (by decide +kernel))
  have hthousand : Rounded 1000 := rounded_of_lt (by decide)
  refine ⟨hunits, ?_⟩
  rw [Binary64.round_eq_finite rfl hmillimetres]
  exact (Binary64.finite_mul_ofNat hmillimetres hthousand (by decide +kernel)).trans
    (Binary64.round_eq_finite rfl hunits)

/-- **The length of the number nearest to so many thousandths** is cut to that many, or to one less
if they fall short. -/
theorem ofMillimetres_round (negative : Bool) (h : m < pow2 52) :
    ofMillimetres (.round negative (m * one) 1000) =
      ⟨signed negative (if FallsShort m then m - 1 else m : Nat)⟩ := by
  obtain ⟨hunits, hmul⟩ := round_mul_thousand negative h
  have hwhole := whole_thousandths h
  have hsmall : (if FallsShort m then m - 1 else m) < pow2 63 := by
    have hle : pow2 52 ≤ pow2 63 := pow2_le_pow2 (by decide)
    split_ifs <;> omega
  rw [ofMillimetres, hmul, Binary64.truncate_finite hunits (hwhole.symm ▸ hsmall), hwhole]

theorem signed_ite (p : Prop) [Decidable p] (n : Int) :
    signed (decide (n < 0)) (if p then n.natAbs - 1 else n.natAbs : Nat) =
      if p then n - n.sign else n := by
  split_ifs
  · rcases Int.lt_trichotomy n 0 with h | rfl | h
    · rw [decide_eq_true h, Int.sign_eq_neg_one_of_neg h, signed, if_pos rfl]
      omega
    · rfl
    · rw [decide_eq_false h.not_gt, Int.sign_eq_one_of_pos h, signed, if_neg Bool.false_ne_true]
      omega
  · exact Binary64.signed_natAbs n

theorem read_length (h : n.natAbs < pow2 52) (key : String) :
    Kind.read .length key (millimetres n) =
      pure ⟨if FallsShort n.natAbs then n - n.sign else n⟩ := by
  rw [Kind.read, floatOrZero, (denotes_millimetres n).leadingFloat?_eq, Option.getD_some,
    ofMillimetres_round _ h, signed_ite]

theorem not_fallsShort_zero : ¬ FallsShort 0 := by
  rintro ⟨s, -, hlow, -⟩
  rw [Nat.zero_mul] at hlow
  exact absurd hlow (Nat.not_le.2 (Nat.mul_pos (by decide) (pow2_pos 52)))

/-- **Lengths in whole micrometres are read exactly**, up to a thousand kilometres, unless they fall
short. Then they are read as the whole number of micrometres that is next to them toward zero. -/
theorem read_millimetres (hn : n.natAbs ≤ 1000000000000) (key : String) :
    Kind.read .length key (millimetres n) =
      pure ⟨if FallsShort n.natAbs then n - n.sign else n⟩ ∧
    (Kind.read .length key (millimetres n) = pure ⟨n⟩ ↔ ¬ FallsShort n.natAbs) := by
  have hread := read_length (hn.trans_lt (by decide)) key
  refine ⟨hread, fun hexact hshort => ?_, fun hshort => ?_⟩
  · have hmicrons : n - n.sign = n := by
      rw [hread, if_pos hshort] at hexact
      exact congrArg (fun l : Logged Length => l.value.microns) hexact
    have hzero : n = 0 := Int.sign_eq_zero_iff_zero.1 (by omega)
    rw [hzero] at hshort
    exact not_fallsShort_zero hshort
  · rw [hread, if_neg hshort]

/-- Layer heights of a fifth of a millimetre are read exactly; below zero, too, a length falls short
by a micrometre. -/
theorem read_millimetres_layer :
    (200 : Int).natAbs ≤ 1000000000000 ∧ Kind.read .length "k" "0.200" = pure ⟨200⟩ ∧
    (-2002 : Int).natAbs ≤ 1000000000000 ∧ Kind.read .length "k" "-2.002" = pure ⟨-2001⟩ := by
  have hlayer : (200 : Int).natAbs ≤ 1000000000000 := by decide
  have hshort : (-2002 : Int).natAbs ≤ 1000000000000 := by decide
  exact ⟨hlayer, (read_millimetres hlayer "k").2.2 (by decide +kernel), hshort,
    (read_millimetres hshort "k").1.trans (by decide +kernel)⟩

/-- A length just above a millimetre is not read exactly. -/
theorem not_read_millimetres :
    ¬ ∀ n : Int, n.natAbs ≤ 1000000000000 → ∀ key,
      Kind.read .length key (millimetres n) = pure ⟨n⟩ := by
  intro h
  have hread := h 1001 (by decide) "k"
  rw [read_length (by decide)] at hread
  exact absurd hread (by decide +kernel)

end PrintSettings.Value.Length
