import PrintSettings.Numeric.Notation
import PrintSettings.Proofs.Numeric.Numeral

/-! # Numbers as they are written

What a notation writes for a finite number is a numeral that denotes its shortest decimal, wherever
the point stands (`isNumeral_decimalText`), so the number is read back from its text
(`denotes_chars`). An integer is read back as the number nearest to it (`denotes_toString`). -/

namespace PrintSettings.Numeric

open Decimal

theorem allDigits_digits (n : Nat) : AllDigits (digits n) :=
  fun _ hc => Nat.isDigit_of_mem_toDigits (by decide) (by decide) hc

theorem digits_ne_nil (n : Nat) : digits n ≠ [] := Nat.toDigits_ne_nil

theorem allDigits_zeros (n : Nat) : AllDigits (List.replicate n '0') := fun c hc => by
  rw [List.eq_of_mem_replicate hc]
  rfl

theorem AllDigits.append {a b : List Char} (ha : AllDigits a) (hb : AllDigits b) :
    AllDigits (a ++ b) := List.forall_mem_append.2 ⟨ha, hb⟩

theorem AllDigits.take {a : List Char} (ha : AllDigits a) (n : Nat) : AllDigits (a.take n) :=
  fun c hc => ha c (List.mem_of_mem_take hc)

theorem AllDigits.drop {a : List Char} (ha : AllDigits a) (n : Nat) : AllDigits (a.drop n) :=
  fun c hc => ha c (List.mem_of_mem_drop hc)

theorem Binary64.signed_natAbs (n : Int) : signed (decide (n < 0)) n.natAbs = n := by
  unfold signed
  split
  next h => rw [decide_eq_true_eq] at h; omega
  next h => rw [decide_eq_true_eq] at h; omega

namespace Notation

/-- A notation that writes numerals. -/
structure Readable (n : Notation) : Prop where
  wholeEnd : n.wholeEnd = [] ∨ n.wholeEnd = ['.', '0']
  plus : n.plus = [] ∨ n.plus = ['+']

theorem readable_json : json.Readable := ⟨.inr rfl, .inr rfl⟩

theorem readable_yaml : yaml.Readable := ⟨.inr rfl, .inl rfl⟩

variable {n : Notation} {text : List Char}

theorem isNumeral_positionalText (hn : n.Readable) (htext : AllDigits text) (hne : text ≠ [])
    (point : Int) : ∃ d, IsNumeral (n.positionalText text point) d ∧
      d.value = (⟨ofDigits text, point - text.length⟩ : Decimal).value := by
  have hsmall : ∀ k, '0' :: '.' :: List.replicate k '0' ++ text =
      List.replicate 1 '0' ++ '.' :: (List.replicate k '0' ++ text) := fun _ => rfl
  unfold positionalText
  rw [hsmall]
  split
  next h =>
    have hfraction := (allDigits_zeros (-point).toNat).append htext
    have hexponent : -((List.replicate (-point).toNat '0' ++ text).length : Int) =
        point - text.length := by
      rw [List.length_append, List.length_replicate]
      omega
    refine ⟨_, isNumeral_point (allDigits_zeros 1) hfraction (List.cons_ne_nil _ _), ?_⟩
    rw [ofDigits_zeros_append, hexponent, ofDigits_zeros_append]
  next =>
    split
    next h =>
      have hwhole := htext.append (allDigits_zeros (point.toNat - text.length))
      have hwhole_ne : text ++ List.replicate (point.toNat - text.length) '0' ≠ [] := by simp [hne]
      rcases hn.wholeEnd with hend | hend
      · rw [hend, List.append_nil]
        refine ⟨_, isNumeral_whole hwhole hwhole_ne, ?_⟩
        rw [ofDigits_append_zeros, value_shift]
        congr 2
        omega
      · rw [hend]
        refine ⟨_, isNumeral_point hwhole (allDigits_zeros 1) hwhole_ne, ?_⟩
        rw [List.append_assoc, ← List.replicate_succ', ofDigits_append_zeros, value_shift]
        congr 2
        simp
        omega
    next h =>
      have hexponent : -((text.drop point.toNat).length : Int) = point - text.length := by
        rw [List.length_drop]
        omega
      have hwhole : text.take point.toNat ≠ [] := by
        rw [ne_eq, List.take_eq_nil_iff]
        rintro (h | h)
        · omega
        · exact hne h
      refine ⟨_, isNumeral_point (htext.take _) (htext.drop _) hwhole, ?_⟩
      rw [List.take_append_drop, hexponent]

theorem isSign_power (hn : n.Readable) (power : Int) :
    IsSign (decide (power < 0)) (if power < 0 then ['-'] else n.plus) := by
  by_cases h : power < 0
  · simp only [h, if_pos, decide_true]
    exact .minus
  · simp only [h, if_neg, decide_false, not_false_eq_true]
    rcases hn.plus with hplus | hplus
    · exact hplus ▸ .none
    · exact hplus ▸ .plus

theorem isPower_exponent (hn : n.Readable) (power : Int) : IsPower isExponentMark
    ('e' :: ((if power < 0 then ['-'] else n.plus) ++ digits power.natAbs)) power := by
  have hmark : isExponentMark 'e' := rfl
  have hpower := IsPower.marked hmark (isSign_power hn power) (digits_ne_nil power.natAbs)
    (allDigits_digits _)
  rwa [ofDigits_digits, Binary64.signed_natAbs] at hpower

theorem isNumeral_exponentText (hn : n.Readable) (htext : AllDigits text) (hne : text ≠ [])
    (power : Int) : IsNumeral (n.exponentText text power)
      ⟨ofDigits text, power - (text.length - 1 : Nat)⟩ := by
  have hfraction :
      IsFraction Char.isDigit (if text.length ≤ 1 then [] else '.' :: text.drop 1)
        (text.drop 1) := by
    split
    next h => rw [List.drop_eq_nil_iff.2 h]; exact .none
    next => exact .point (htext.drop 1)
  have hnumeral := IsNumeral.mk (htext.take 1) hfraction (by simp [hne]) (isPower_exponent hn power)
  rw [List.take_append_drop, List.length_drop] at hnumeral
  simpa only [exponentText, List.append_assoc, List.cons_append] using hnumeral

/-- **The text of a decimal is a numeral of the same value.** -/
theorem isNumeral_decimalText (hn : n.Readable) (d : Decimal) :
    ∃ d', IsNumeral (n.decimalText d) d' ∧ d'.value = d.value := by
  have hdigits := allDigits_digits d.mantissa
  have hne := digits_ne_nil d.mantissa
  have hlength := List.length_pos_iff.2 hne
  have hvalue : ∀ e, e = d.exponent →
      (⟨ofDigits (digits d.mantissa), e⟩ : Decimal).value = d.value := fun e he => by
    rw [ofDigits_digits, he]
  unfold decimalText
  dsimp only
  split_ifs
  · obtain ⟨d', hnumeral, hd'⟩ :=
      isNumeral_positionalText hn hdigits hne (d.exponent + (digits d.mantissa).length - 1 + 1)
    exact ⟨d', hnumeral, hd'.trans (hvalue _ (by omega))⟩
  · exact ⟨_, isNumeral_exponentText hn hdigits hne _, hvalue _ (by omega)⟩

theorem isSign_signText (negative : Bool) : IsSign negative (signText negative) := by
  cases negative
  · exact .none
  · exact .minus

/-- **The text of a finite number denotes it.** -/
theorem denotes_chars (hn : n.Readable) {x : Binary64} (hx : x.isFinite) :
    Denotes (n.chars x) x := by
  obtain ⟨negative, units, hunits⟩ | _ | _ := x
  · have hread : (if units = 0 then ⟨0, 0⟩ else shortest n.tie units).toBinary64 negative =
        .finite negative units hunits := by
      split_ifs with h0
      · subst h0
        have hzero : (⟨0, 0⟩ : Decimal).value = (exact 0).value := by simp [value, exact]
        rw [toBinary64_congr hzero, toBinary64_exact hunits]
      · exact toBinary64_shortest n.tie hunits
    obtain ⟨d, hnumeral, hd⟩ :=
      isNumeral_decimalText hn (if units = 0 then ⟨0, 0⟩ else shortest n.tie units)
    exact ⟨negative, _, _, d, isSign_signText negative, hnumeral, rfl,
      (toBinary64_congr hd).trans hread⟩
  · exact absurd hx Bool.false_ne_true
  · exact absurd hx Bool.false_ne_true

theorem denotes_text (hn : n.Readable) {x : Binary64} (hx : x.isFinite) :
    Denotes (n.text x).toList x := by
  rw [Notation.text, String.toList_ofList]
  exact denotes_chars hn hx

end Notation

/-! ## Integers -/

theorem toList_toString_int (n : Int) :
    (toString n).toList = Notation.signText (decide (n < 0)) ++ digits n.natAbs := by
  have hnat : ∀ m : Nat, (Nat.repr m).toList = digits m := fun m => by
    have hrepr : Nat.repr m = String.ofList (digits m) := Nat.toString_eq_ofList_toDigits
    rw [hrepr, String.toList_ofList]
  cases n with
  | ofNat m => exact hnat m
  | negSucc m =>
    have hminus : toString (Int.negSucc m) = "-" ++ Nat.repr (m + 1) := rfl
    have hneg : decide (Int.negSucc m < 0) = true := decide_eq_true (Int.negSucc_lt_zero m)
    rw [hminus, String.toList_append, hnat, hneg]
    rfl

/-- The number nearest to an integer. -/
def Binary64.ofInt (n : Int) : Binary64 := .round (decide (n < 0)) (n.natAbs * one) 1

/-- **The text of an integer denotes the number nearest to it.** -/
theorem denotes_toString (n : Int) : Denotes (toString n).toList (.ofInt n) := by
  have hvalue : ((n.natAbs * one : ℕ) : ℚ) / (1 : ℕ) = (⟨n.natAbs, 0⟩ : Decimal).value * one := by
    rw [value, zpow_zero, mul_one, Nat.cast_mul, Nat.cast_one, div_one]
  refine ⟨_, _, _, _, Notation.isSign_signText _,
    isNumeral_whole (allDigits_digits n.natAbs) (digits_ne_nil _), toList_toString_int n, ?_⟩
  rw [ofDigits_digits, toBinary64_eq_round Nat.one_pos hvalue]
  rfl

theorem Binary64.isNearest_ofInt {n : Int} (hn : n.natAbs ≤ pow2 64) :
    (Binary64.ofInt n).IsNearest n := by
  have hover : nearest (n.natAbs * one) 1 < overflow := by
    have hle : nearest (n.natAbs * one) 1 ≤ pow2 (64 + fractionBits) := by
      refine nearest_le Nat.one_pos (rounded_pow2 _) ?_
      rw [Nat.mul_one, pow2_add, ← one]
      exact Nat.mul_le_mul_right one hn
    exact Nat.lt_of_le_of_lt hle (by decide +kernel)
  have hvalue : (Binary64.signed (decide (n < 0)) 1 : ℚ) * ((n.natAbs * one : ℕ) / (1 : ℕ)) / one =
      n := by
    have hpos := cast_one_pos
    have hsigned := signed_natAbs n
    rw [Binary64.signed_eq_mul] at hsigned
    have hcast : (Binary64.signed (decide (n < 0)) 1 : ℚ) * n.natAbs = n := by
      rw [← Int.cast_natCast n.natAbs, ← Int.cast_mul, hsigned]
    rw [Nat.cast_one, div_one, Nat.cast_mul, ← mul_assoc, mul_div_cancel_right₀ _ hpos.ne', hcast]
  rw [← hvalue]
  exact Binary64.isNearest_round Nat.one_pos hover

end PrintSettings.Numeric
