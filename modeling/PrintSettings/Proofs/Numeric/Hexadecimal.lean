import PrintSettings.Proofs.Numeric.HexDigits
import PrintSettings.Proofs.Numeric.Leading
import PrintSettings.Proofs.Numeric.Whole

/-! # Hexadecimal numbers

A hexadecimal is a number of digits times a power of two (`Hexadecimal`). Its digits are appended in
floating point, and the power is multiplied at the end. So the value is rounded correctly unless a
half is lost among the digits, the digits overflow before the power can bring them back, or zero is
multiplied by a power that overflows (`Strays`, `isRounded_read_iff`). Words and decimals start in
another way, so this is what the number at the start of a text is read as
(`leadingFloat?_hexadecimal`). -/

namespace PrintSettings.Numeric

open PrintSettings.Text

variable {digits : List Char} {negative : Bool}

/-! ## Values -/

theorem foldl_appendHexDigit (digits : List Char) :
    digits.foldl appendHexDigit 0 = .ofNat (roundedDigits digits) := by
  induction digits using List.reverseRecOn with
  | nil =>
    have hnil : roundedDigits [] = 0 := rfl
    rw [List.foldl_nil, hnil]
    rfl
  | append_singleton digits c ih =>
    have happend : ∀ x, appendHexDigit x c = x * .ofNat 16 + .ofNat (hexDigit c) := fun _ => rfl
    rw [List.foldl_concat, ih, roundedDigits_concat, Binary64.ofNat_nearest, happend,
      Binary64.ofNat_mul_add (rounded_roundedDigits digits) (hexDigit_lt c)]

/-- A hexadecimal as it is written: all digits, and the power of two of the last one. -/
structure Hexadecimal where
  digits : List Char
  exponent : Int

namespace Hexadecimal

variable {h : Hexadecimal}

def mantissa (h : Hexadecimal) : Nat := ofHexDigits h.digits

def value (h : Hexadecimal) : ℚ := h.mantissa * 2 ^ h.exponent

/-- What a hexadecimal is read as without its sign. -/
def read (h : Hexadecimal) : Binary64 := h.digits.foldl appendHexDigit 0 * .twoPow h.exponent

/-- The power of two of the last digit, counted in units. -/
def unitExponent (h : Hexadecimal) : Nat := (h.exponent + 1074).toNat

/-- Where reading is not rounding the value. -/
inductive Strays (h : Hexadecimal) : Prop where
  /-- Zero is multiplied by a power of two that overflows. -/
  | vanishing : h.mantissa = 0 → 1024 ≤ h.exponent → Strays h
  /-- The mantissa overflows, although the value does not. -/
  | beyond : InRange h.value → ¬ InRange h.mantissa → Strays h
  /-- The mantissa is rounded at a half, although more digits follow. -/
  | half : InRange h.value → LosesHalf h.digits → Strays h

theorem value_eq (hlow : -1022 ≤ h.exponent) :
    ((h.mantissa * pow2 h.unitExponent : ℕ) : ℚ) / (1 : ℕ) = h.value * one := by
  have hexponent : (h.unitExponent : Int) = h.exponent + (fractionBits : ℕ) := by
    unfold unitExponent fractionBits
    omega
  rw [value, one, Nat.cast_one, div_one, Nat.cast_mul, cast_pow2, cast_pow2, mul_assoc,
    ← zpow_natCast, ← zpow_natCast, hexponent, zpow_add₀ two_ne_zero]

theorem not_inRange_value_iff (hlow : -1022 ≤ h.exponent) :
    ¬ InRange h.value ↔ overflow ≤ nearest h.mantissa 1 * pow2 h.unitExponent := by
  rw [← overflow_le_nearest_iff Nat.one_pos (value_eq hlow), nearest_mul_pow2]

theorem not_inRange_mantissa_iff :
    ¬ InRange h.mantissa ↔ pow2 1024 ≤ roundedDigits h.digits := by
  have hmantissa : ((h.mantissa * one : ℕ) : ℚ) / (1 : ℕ) = (h.mantissa : ℚ) * one := by
    rw [Nat.cast_one, div_one, Nat.cast_mul]
  rw [← overflow_le_nearest_iff Nat.one_pos hmantissa, Binary64.nearest_mul_one,
    Binary64.overflow_le_mul_one_iff, pow2_le_roundedDigits_iff, mantissa]

theorem roundedDigits_eq_zero_iff : roundedDigits h.digits = 0 ↔ h.mantissa = 0 := by
  have hiff := pow2_le_roundedDigits_iff h.digits 0
  have hone : pow2 0 = 1 := rfl
  have hnearest : 1 ≤ nearest h.mantissa 1 ↔ h.mantissa ≠ 0 := by
    constructor
    · intro hpos h0
      rw [h0, nearest_eq_zero Nat.one_pos] at hpos
      contradiction
    · intro hne
      exact le_nearest Nat.one_pos (rounded_pow2 0) (Nat.pos_of_ne_zero hne)
  rw [hone, ← mantissa, hnearest] at hiff
  omega

/-! ## Reading -/

/-- What is read, by the powers of two that overflow. -/
theorem read_cases (hlow : -1022 ≤ h.exponent) :
    (h.exponent < 1024 ∧ roundedDigits h.digits < pow2 1024 ∧
      h.read = .round false (roundedDigits h.digits * pow2 h.unitExponent) 1) ∨
    (h.exponent < 1024 ∧ pow2 1024 ≤ roundedDigits h.digits ∧ h.read = .infinite false) ∨
    (1024 ≤ h.exponent ∧ h.read =
      if h.mantissa = 0 then .nan else .infinite false) := by
  rw [read, foldl_appendHexDigit]
  have hrounded := rounded_roundedDigits h.digits
  rcases lt_or_ge h.exponent 1024 with hlt | hge
  · obtain ⟨units, hunits, hpower, heq⟩ := Binary64.twoPow_eq_finite hlt
    obtain rfl := heq (by omega)
    rw [hpower]
    rcases Nat.lt_or_ge (roundedDigits h.digits) (pow2 1024) with hsmall | hlarge
    · obtain ⟨_, hfinite⟩ := Binary64.ofNat_eq_finite hrounded hsmall
      rw [hfinite, Binary64.finite_mul_finite]
      exact .inl ⟨hlt, hsmall, rfl⟩
    · rw [Binary64.ofNat_eq_infinite hlarge, Binary64.infinite_mul_finite _ (pow2_pos _)]
      exact .inr (.inl ⟨hlt, hlarge, rfl⟩)
  · right
    right
    refine ⟨hge, ?_⟩
    rw [Binary64.twoPow_eq_infinite hge]
    rcases Nat.lt_or_ge (roundedDigits h.digits) (pow2 1024) with hsmall | hlarge
    · obtain ⟨_, hfinite⟩ := Binary64.ofNat_eq_finite hrounded hsmall
      rw [hfinite, Binary64.finite_mul_infinite]
      simp only [Nat.mul_eq_zero, one_pos.ne', or_false, roundedDigits_eq_zero_iff]
    · have hne := ((pow2_pos _).trans_le hlarge).ne'
      rw [Binary64.ofNat_eq_infinite hlarge, if_neg (mt roundedDigits_eq_zero_iff.2 hne)]
      rfl

theorem not_inRange_of_le (hpos : 0 < h.mantissa) (hge : 1024 ≤ h.exponent) :
    ¬ InRange h.value := by
  have hpower : (2 : ℚ) ^ 1024 ≤ 2 ^ h.exponent := by
    rw [← zpow_natCast]
    exact zpow_le_zpow_right₀ one_le_two hge
  have hvalue : (2 : ℚ) ^ h.exponent ≤ h.value :=
    le_mul_of_one_le_left (zpow_nonneg zero_le_two _) (by exact_mod_cast hpos)
  have hstep : (0 : ℚ) < 2 ^ 970 := pow_pos two_pos 970
  rw [InRange, not_lt]
  exact (sub_le_self _ hstep.le).trans (hpower.trans hvalue)

theorem strays_iff_of_lt (hlt : h.exponent < 1024) :
    h.Strays ↔ InRange h.value ∧ (¬ InRange h.mantissa ∨ LosesHalf h.digits) := by
  constructor
  · rintro (⟨-, hge⟩ | ⟨hrange, hnot⟩ | ⟨hrange, hhalf⟩)
    · omega
    · exact ⟨hrange, .inl hnot⟩
    · exact ⟨hrange, .inr hhalf⟩
  · rintro ⟨hrange, hnot | hhalf⟩
    · exact .beyond hrange hnot
    · exact .half hrange hhalf

theorem strays_iff_of_le (hge : 1024 ≤ h.exponent) : h.Strays ↔ h.mantissa = 0 := by
  refine ⟨fun hstrays => Nat.eq_zero_of_not_pos fun hpos => ?_, fun h0 => .vanishing h0 hge⟩
  have hrange := not_inRange_of_le hpos hge
  rcases hstrays with ⟨h0, -⟩ | ⟨hrange', -⟩ | ⟨hrange', -⟩
  · omega
  · exact hrange hrange'
  · exact hrange hrange'

theorem overflow_le_roundedDigits_mul_iff (hlt : h.exponent < 1024) :
    overflow ≤ roundedDigits h.digits * pow2 h.unitExponent ↔
      overflow ≤ nearest h.mantissa 1 * pow2 h.unitExponent := by
  have hexponent : 1024 + fractionBits = 1024 + fractionBits - h.unitExponent + h.unitExponent := by
    unfold unitExponent fractionBits
    omega
  have hiff : ∀ m, overflow ≤ m * pow2 h.unitExponent ↔
      pow2 (1024 + fractionBits - h.unitExponent) ≤ m := fun m => by
    rw [overflow, hexponent, pow2_add, Nat.add_sub_cancel]
    exact Nat.mul_le_mul_right_iff (pow2_pos _)
  rw [hiff, hiff, mantissa]
  exact pow2_le_roundedDigits_iff h.digits _

/-- If the mantissa does not overflow, the value is rounded correctly unless a half is lost. -/
theorem isRounded_round_iff (hlow : -1022 ≤ h.exponent) (hlt : h.exponent < 1024) :
    (Binary64.round false (roundedDigits h.digits * pow2 h.unitExponent) 1).IsRounded false h.value
      ↔ (InRange h.value → ¬ LosesHalf h.digits) := by
  have hvalue := not_inRange_value_iff hlow
  have hexact := (rounded_roundedDigits h.digits).nearest_eq
  rw [Binary64.isRounded_iff Nat.one_pos (value_eq hlow)]
  by_cases hrange : InRange h.value
  · -- both are finite, so the exponent cancels and the mantissas are compared
    have hfinite : nearest (h.mantissa * pow2 h.unitExponent) 1 < overflow := by
      rw [nearest_mul_pow2, ← not_le, ← hvalue, not_not]
      exact hrange
    rw [Binary64.round_eq_round_iff hfinite, nearest_mul_pow2, nearest_mul_pow2, hexact,
      Nat.mul_left_inj (pow2_pos _).ne', mantissa, roundedDigits_eq_iff, imp_iff_right hrange]
  · have hoverflow := hvalue.1 hrange
    refine iff_of_true ?_ fun hrange' => absurd hrange' hrange
    rw [Binary64.round_eq_infinite, Binary64.round_eq_infinite]
    · rwa [nearest_mul_pow2]
    · rwa [nearest_mul_pow2, hexact, overflow_le_roundedDigits_mul_iff hlt]

/-- **A hexadecimal is read as its value rounded correctly** unless it strays. -/
theorem isRounded_read_iff (hlow : -1022 ≤ h.exponent) :
    h.read.IsRounded false h.value ↔ ¬ h.Strays := by
  have hmantissa := @not_inRange_mantissa_iff h
  rcases read_cases hlow with ⟨hlt, hsmall, hread⟩ | ⟨hlt, hlarge, hread⟩ | ⟨hge, hread⟩
  · have hinRange : ¬ ¬ InRange h.mantissa := by rwa [hmantissa, Nat.not_le]
    rw [hread, isRounded_round_iff hlow hlt, strays_iff_of_lt hlt, or_iff_right hinRange, not_and]
  · rw [hread, Binary64.infinite_isRounded_iff, strays_iff_of_lt hlt, hmantissa,
      and_iff_left (.inl hlarge)]
  · rw [hread, strays_iff_of_le hge]
    split
    next h0 => exact iff_of_false Binary64.not_isRounded_nan (not_not_intro h0)
    next hne =>
      rw [Binary64.infinite_isRounded_iff]
      exact iff_of_true (not_inRange_of_le (Nat.pos_of_ne_zero hne) hge) hne

theorem strays_iff_of_mantissa_lt (hlt : h.mantissa < pow2 53) :
    h.Strays ↔ h.mantissa = 0 ∧ 1024 ≤ h.exponent := by
  have hrange : InRange h.mantissa := by
    refine inRange_of_le ?_
    rw [← cast_pow2]
    exact_mod_cast hlt.le.trans (pow2_le_pow2 (by decide))
  have hhalf : ¬ LosesHalf h.digits :=
    roundedDigits_eq_iff.1 (roundedDigits_of_lt (hlt.trans (by decide)))
  constructor
  · rintro (⟨h0, hge⟩ | ⟨-, hnot⟩ | ⟨-, hloses⟩)
    · exact ⟨h0, hge⟩
    · exact absurd hrange hnot
    · exact absurd hloses hhalf
  · exact fun ⟨h0, hge⟩ => .vanishing h0 hge

theorem read_eq_nan_iff (hlow : -1022 ≤ h.exponent) :
    h.read = .nan ↔ h.mantissa = 0 ∧ 1024 ≤ h.exponent := by
  rcases read_cases hlow with ⟨hlt, -, hread⟩ | ⟨hlt, -, hread⟩ | ⟨hge, hread⟩
  · rw [hread]
    exact iff_of_false Binary64.round_ne_nan (by omega)
  · rw [hread]
    exact iff_of_false Binary64.infinite_ne_nan (by omega)
  · rw [hread]
    split
    next h0 => exact iff_of_true rfl ⟨h0, hge⟩
    next hne => exact iff_of_false Binary64.infinite_ne_nan fun h' => hne h'.1

theorem read_of_eq_zero (h0 : h.mantissa = 0) :
    h.read = if h.exponent < 1024 then .zero false else .nan := by
  obtain ⟨_, hzero⟩ := Binary64.ofNat_eq_finite (rounded_of_lt (pow2_pos 53)) (pow2_pos 1024)
  rw [read, foldl_appendHexDigit, roundedDigits_eq_zero_iff.2 h0, hzero]
  split
  next hlt =>
    obtain ⟨units, hunits, hpower, -⟩ := Binary64.twoPow_eq_finite hlt
    rw [hpower, Binary64.finite_mul_finite, Nat.zero_mul]
    exact Binary64.round_eq_finite (nearest_eq_zero Nat.one_pos) representable_zero
  next hge =>
    rw [Binary64.twoPow_eq_infinite (not_lt.1 hge), Binary64.finite_mul_infinite,
      if_pos (Nat.zero_mul one)]

end Hexadecimal

/-! ## Texts -/

/-- The text is an unsigned hexadecimal, with its digits and its power. -/
inductive IsHexNumeral : List Char → Hexadecimal → Prop where
  | mk {x : Char} {whole fractionText fraction powerText : List Char} {power : Int} :
    isHexMark x → (∀ c ∈ whole, isHexDigit c) → IsFraction isHexDigit fractionText fraction →
    whole ++ fraction ≠ [] → IsPower isBinaryMark powerText power →
    IsHexNumeral ('0' :: x :: (whole ++ fractionText ++ powerText))
      ⟨whole ++ fraction, power - 4 * fraction.length⟩

section Texts

variable {text sign numeral : List Char} {h : Hexadecimal} {x : Binary64}

theorem isHexadecimal_iff : IsHexadecimal text ↔ ∃ h, IsHexNumeral text h := by
  constructor
  · rintro ⟨hx, ⟨⟨hwhole, hfraction, hne⟩, hpower⟩⟩
    exact ⟨_, .mk hx hwhole hfraction hne hpower⟩
  · rintro ⟨_, ⟨hx, hwhole, hfraction, hne, hpower⟩⟩
    exact .mk hx (.mk (.mk hwhole hfraction hne) hpower)

theorem isHexNumeral_whole {y : Char} {powerText : List Char} {power : Int} (hy : isHexMark y)
    (hdigits : ∀ c ∈ digits, isHexDigit c) (hne : digits ≠ [])
    (hpower : IsPower isBinaryMark powerText power) :
    IsHexNumeral ('0' :: y :: (digits ++ powerText)) ⟨digits, power⟩ := by
  simpa using IsHexNumeral.mk hy hdigits .none (by simpa using hne) hpower

theorem IsHexNumeral.isMagnitude (hnumeral : IsHexNumeral numeral h) : IsMagnitude numeral :=
  .inr (.inr (.inl (isHexadecimal_iff.2 ⟨h, hnumeral⟩)))

theorem IsHexNumeral.scanHexadecimal?_eq (hnumeral : IsHexNumeral numeral h) :
    scanHexadecimal? numeral = some (h.read, []) := by
  obtain @⟨_, _, _, _, powerText, _, hx, hwhole, hfraction, hne, hpower⟩ := hnumeral
  have hhead : ∀ c ∈ powerText.head?, isBinaryMark c := by
    cases hpower with
    | none => simp
    | marked hmark => simpa using hmark
  rw [Numeric.scanHexadecimal?_eq, if_pos hx,
    scanScientific?_parts apart_hexadecimal hwhole hfraction hne hhead, hpower.scanPower_eq]
  rfl

theorem IsHexNumeral.scanSigned?_eq (hsign : IsSign negative sign)
    (hnumeral : IsHexNumeral numeral h) :
    scanSigned? (sign ++ numeral) = some (h.read.withSign negative, []) := by
  have hleaves := hnumeral.isMagnitude.leaves_isSignChar []
  rw [List.append_nil] at hleaves
  rw [scanSigned?, hsign.takeSign_append hleaves,
    scanMagnitude?_of_numeric (.inl (isHexadecimal_iff.2 ⟨h, hnumeral⟩)) (List.prefix_refl _),
    hnumeral.scanHexadecimal?_eq]
  rfl

/-- **Hexadecimals are read as their values rounded correctly**, but for those that stray; a result
is undefined only for a zero with a power of two that overflows. -/
theorem leadingFloat?_hexadecimal
    (hlongest : LongestPrefix IsNumber (skipSpace text) (sign ++ numeral))
    (hsign : IsSign negative sign) (hnumeral : IsHexNumeral numeral h) :
    ∃ x, leadingFloat? text = some x ∧
      (-1022 ≤ h.exponent → (x.IsRounded negative h.value ↔ ¬ h.Strays)) ∧
      (-1022 ≤ h.exponent → (x = .nan ↔ h.mantissa = 0 ∧ 1024 ≤ h.exponent)) ∧
      (h.mantissa = 0 → x = if h.exponent < 1024 then .zero negative else .nan) := by
  obtain ⟨x, rest, -, hscan, hself⟩ := munches_scanSigned?.eq_some_of_longest hlongest
  have hread := (hnumeral.scanSigned?_eq hsign).symm.trans hself
  obtain ⟨rfl, -⟩ := Prod.mk.inj (Option.some.inj hread)
  refine ⟨h.read.withSign negative, ?_, fun hlow => ?_, fun hlow => ?_, fun h0 => ?_⟩
  · rw [leadingFloat?_eq, hscan, Option.map_some]
  · rw [Binary64.isRounded_withSign_iff Nat.one_pos (Hexadecimal.value_eq hlow),
      Hexadecimal.isRounded_read_iff hlow]
  · have hnan : Binary64.nan = Binary64.nan.withSign negative := by cases negative <;> rfl
    rw [← Hexadecimal.read_eq_nan_iff hlow, hnan, Binary64.withSign_inj, ← hnan]
  · rw [Hexadecimal.read_of_eq_zero h0]
    split <;> cases negative <;> rfl

/-- A sign before a hexadecimal, a point and a power in it, and text after it. -/
theorem leadingFloat?_hexadecimal_signed :
    ∃ x, leadingFloat? " -0x1.8p3,".toList = some x ∧ x.IsRounded true 12 := by
  have hone : ∀ c ∈ ['1'], isHexDigit c := List.all_eq_true.1 rfl
  have hfraction : IsFraction isHexDigit ['.', '8'] ['8'] := .point (List.all_eq_true.1 rfl)
  have hpower : IsPower isBinaryMark ['p', '3'] 3 :=
    @IsPower.marked _ 'p' false [] ['3'] rfl .none (by simp) (List.all_eq_true.1 rfl)
  have hnumeral : IsHexNumeral "0x1.8p3".toList ⟨['1', '8'], -1⟩ :=
    .mk (x := 'x') rfl hone hfraction (by simp) hpower
  have hrest : (scanSigned? "-0x1.8p3,".toList).map (·.2) = some [','] := rfl
  obtain ⟨⟨x, rest⟩, hscan, rfl⟩ := Option.map_eq_some_iff.1 hrest
  have hlongest : LongestPrefix IsNumber (skipSpace " -0x1.8p3,".toList)
      (['-'] ++ "0x1.8p3".toList) := (longest_of_scanSigned? rfl hscan).1
  obtain ⟨y, hread, hrounded, -, -⟩ := leadingFloat?_hexadecimal hlongest .minus hnumeral
  have hmantissa : (⟨['1', '8'], -1⟩ : Hexadecimal).mantissa = 24 := rfl
  have hvalue : (⟨['1', '8'], -1⟩ : Hexadecimal).value = 12 := by
    rw [Hexadecimal.value, hmantissa]
    norm_num
  have hstrays : ¬ (⟨['1', '8'], -1⟩ : Hexadecimal).Strays := by
    rw [Hexadecimal.strays_iff_of_mantissa_lt (by decide), hmantissa]
    decide
  rw [← hvalue]
  exact ⟨y, hread, (hrounded (by decide)).2 hstrays⟩

/-- A hexadecimal that is read from end to end, but not as its value rounded correctly. -/
def Misread (text : List Char) : Prop := ∃ h x, IsHexNumeral text h ∧ -1022 ≤ h.exponent ∧
  LongestPrefix IsNumber (skipSpace text) text ∧ leadingFloat? text = some x ∧
  ¬ x.IsRounded false h.value

theorem IsHexNumeral.misread (hnumeral : IsHexNumeral text h) (hlow : -1022 ≤ h.exponent)
    (hstrays : h.Strays) : Misread text := by
  have hskip : skipSpace text = text ++ [] := by
    rw [List.append_nil]
    exact IsNumber.skipSpace_eq ⟨_, [], text, .none, hnumeral.isMagnitude, rfl⟩
  have hscan : scanSigned? (text ++ []) = some (h.read, []) := by
    rw [List.append_nil]
    exact hnumeral.scanSigned?_eq .none
  obtain ⟨hlongest, hread, -⟩ := longest_of_scanSigned? hskip hscan
  exact ⟨h, h.read, hnumeral, hlow, hlongest, hread, fun hrounded =>
    (Hexadecimal.isRounded_read_iff hlow).1 hrounded hstrays⟩

/-- A zero with a large power, a half before the last digit, and a mantissa beyond the range that
its power brings back. -/
theorem misread_strays : Misread "0x0p1024".toList ∧ Misread "0x1000000000000081".toList ∧
    Misread ('0' :: 'x' :: ('1' :: List.replicate 256 '0' ++ ['p', '-', '4'])) := by
  refine ⟨?vanishing, ?half, ?beyond⟩
  case vanishing =>
    have hpower : IsPower isBinaryMark "p1024".toList 1024 :=
      @IsPower.marked _ 'p' false [] "1024".toList rfl .none (by simp) (List.all_eq_true.1 rfl)
    have hdigits : ∀ c ∈ ['0'], isHexDigit c := List.all_eq_true.1 rfl
    have hnumeral : IsHexNumeral "0x0p1024".toList ⟨['0'], 1024⟩ :=
      isHexNumeral_whole (y := 'x') rfl hdigits (by simp) hpower
    exact hnumeral.misread (by decide) (.vanishing rfl (by decide))
  case half =>
    have hdigits : ∀ c ∈ "1000000000000081".toList, isHexDigit c := List.all_eq_true.1 rfl
    have hnumeral : IsHexNumeral "0x1000000000000081".toList ⟨"1000000000000081".toList, 0⟩ :=
      isHexNumeral_whole (y := 'x') rfl hdigits (by simp) .none
    refine hnumeral.misread (by decide) (.half (inRange_of_le ?_) ?_)
    · have hmantissa : ofHexDigits "1000000000000081".toList ≤ pow2 1023 :=
        (by decide +kernel : _ ≤ pow2 61).trans (pow2_le_pow2 (by decide))
      rw [Hexadecimal.value, Hexadecimal.mantissa, zpow_zero, mul_one, ← cast_pow2]
      exact_mod_cast hmantissa
    · exact ⟨"100000000000008".toList, ['1'], rfl, by decide +kernel, by decide +kernel, by decide⟩
  case beyond =>
    have hdigits : ∀ c ∈ '1' :: List.replicate 256 '0', isHexDigit c := by
      simp only [List.mem_cons, List.mem_replicate]
      rintro c (rfl | ⟨-, rfl⟩) <;> rfl
    have hpower : IsPower isBinaryMark ['p', '-', '4'] (-4) :=
      @IsPower.marked _ 'p' true ['-'] ['4'] rfl .minus (by simp) (List.all_eq_true.1 rfl)
    have hnumeral := isHexNumeral_whole (y := 'x') rfl hdigits (List.cons_ne_nil _ _) hpower
    have hmantissa : ofHexDigits ('1' :: List.replicate 256 '0') = pow2 1024 := by decide +kernel
    refine hnumeral.misread (by decide) (.beyond (inRange_of_le ?_) ?_)
    · rw [Hexadecimal.value, Hexadecimal.mantissa, hmantissa, cast_pow2, ← zpow_natCast,
        ← zpow_add₀ two_ne_zero, ← zpow_natCast]
      exact zpow_le_zpow_right₀ one_le_two (by decide)
    · rw [InRange, Hexadecimal.mantissa, hmantissa, cast_pow2, not_lt]
      exact sub_le_self _ (pow_pos two_pos 970).le

end Texts

end PrintSettings.Numeric
