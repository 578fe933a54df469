import Mathlib.Data.List.TakeWhile
import PrintSettings.Numeric.Leading
import PrintSettings.Proofs.Numeric.Value

/-! # Numerals

A numeral is an unsigned decimal text: digits, perhaps a point and a fraction, perhaps a marked
power of ten (`IsNumeral`). With a sign before it, it is read as the number it denotes, from its
first character to the last (`Denotes.scanFloat?_eq`). -/

namespace PrintSettings.Numeric

open PrintSettings.Text

/-! ## Runs of a class -/

section Runs

variable {p : Char → Bool} {run rest : List Char}

/-- The text does not start with a character of the class. -/
def Leaves (p : Char → Bool) (rest : List Char) : Prop := ∀ c ∈ rest.head?, p c = false

theorem leaves_nil : Leaves p [] := by simp [Leaves]

theorem leaves_cons {c : Char} (h : p c = false) : Leaves p (c :: rest) := by simpa [Leaves] using h

theorem takeWhile_run (hrun : ∀ c ∈ run, p c) (hrest : Leaves p rest) :
    (run ++ rest).takeWhile p = run := by
  rw [List.takeWhile_append_of_pos hrun]
  cases rest with
  | nil => simp
  | cons c rest => simp [hrest c rfl]

theorem dropWhile_run (hrun : ∀ c ∈ run, p c) (hrest : Leaves p rest) :
    (run ++ rest).dropWhile p = rest := by
  rw [List.dropWhile_append_of_pos hrun]
  cases rest with
  | nil => rfl
  | cons c rest => simp [hrest c rfl]

theorem dropWhile_of_leaves (hrest : Leaves p rest) : rest.dropWhile p = rest :=
  @dropWhile_run p [] rest (by simp) hrest

theorem splitPoint_run (hrun : ∀ c ∈ run, p c) (hrest : Leaves p rest)
    (hpoint : Leaves (· == '.') rest) : splitPoint p (run ++ rest) = (run, [], rest) := by
  unfold splitPoint
  rw [takeWhile_run hrun hrest, dropWhile_run hrun hrest]
  split
  next => simp [Leaves] at hpoint
  next => rfl

theorem splitPoint_point {fraction : List Char} (hp : p '.' = false) (hrun : ∀ c ∈ run, p c)
    (hfraction : ∀ c ∈ fraction, p c) (hrest : Leaves p rest) :
    splitPoint p (run ++ '.' :: (fraction ++ rest)) = (run, fraction, rest) := by
  unfold splitPoint
  rw [dropWhile_run hrun (leaves_cons hp)]
  simp only [takeWhile_run hrun (leaves_cons hp), takeWhile_run hfraction hrest,
    dropWhile_run hfraction hrest]

end Runs

/-! ## Signs -/

/-- A text is a sign, and whether it is a minus sign. -/
inductive IsSign : Bool → List Char → Prop where
  | minus : IsSign true ['-']
  | plus : IsSign false ['+']
  | none : IsSign false []

def isSignChar (c : Char) : Bool := c == '-' || c == '+'

theorem takeSign_of_leaves {text : List Char} (h : Leaves isSignChar text) :
    takeSign text = (false, text) := by
  unfold takeSign
  split
  next => simp [Leaves, isSignChar] at h
  next => simp [Leaves, isSignChar] at h
  next => rfl

theorem IsSign.takeSign_append {negative : Bool} {sign text : List Char}
    (hsign : IsSign negative sign) (h : Leaves isSignChar text) :
    takeSign (sign ++ text) = (negative, text) := by
  cases hsign with
  | minus => rfl
  | plus => rfl
  | none => exact takeSign_of_leaves h

/-! ## Numerals -/

def AllDigits (text : List Char) : Prop := ∀ c ∈ text, c.isDigit

def isExponentMark (c : Char) : Bool := c == 'e' || c == 'E'

/-- What a fraction with digits of a class is written as. -/
inductive IsFraction (p : Char → Bool) : List Char → List Char → Prop where
  | none : IsFraction p [] []
  | point {digits : List Char} : (∀ c ∈ digits, p c) → IsFraction p ('.' :: digits) digits

/-- What a power after a mark of a class is written as. -/
inductive IsPower (isMark : Char → Bool) : List Char → Int → Prop where
  | none : IsPower isMark [] 0
  | marked {mark : Char} {negative : Bool} {sign digits : List Char} : isMark mark →
    IsSign negative sign → digits ≠ [] → AllDigits digits →
    IsPower isMark (mark :: (sign ++ digits)) (Binary64.signed negative (Decimal.ofDigits digits))

/-- The text is an unsigned decimal, which it denotes. -/
inductive IsNumeral : List Char → Decimal → Prop where
  | mk {whole fractionText fraction powerText : List Char} {power : Int} : AllDigits whole →
    IsFraction Char.isDigit fractionText fraction → whole ++ fraction ≠ [] →
    IsPower isExponentMark powerText power →
    IsNumeral (whole ++ (fractionText ++ powerText))
      ⟨Decimal.ofDigits (whole ++ fraction), power - fraction.length⟩

/-- The characters of numerals. -/
def isNumeralChar (c : Char) : Bool :=
  c.isDigit || c == '.' || isExponentMark c || isSignChar c

theorem isNumeral_whole {whole : List Char} (hwhole : AllDigits whole) (hne : whole ≠ []) :
    IsNumeral whole ⟨Decimal.ofDigits whole, 0⟩ := by
  simpa using IsNumeral.mk hwhole .none (by simpa using hne) .none

theorem isNumeral_point {whole fraction : List Char} (hwhole : AllDigits whole)
    (hfraction : AllDigits fraction) (hne : whole ≠ []) : IsNumeral (whole ++ '.' :: fraction)
      ⟨Decimal.ofDigits (whole ++ fraction), -fraction.length⟩ := by
  simpa using IsNumeral.mk hwhole (.point hfraction) (by simp [hne]) .none

section Reading

variable {text whole fractionText fraction powerText sign rest : List Char} {power : Int}
  {d : Decimal} {negative : Bool} {p isMark : Char → Bool}

theorem not_isDigit_of_mark {c : Char} (h : isExponentMark c) : c.isDigit = false := by
  simp only [isExponentMark, Bool.or_eq_true, beq_iff_eq] at h
  rcases h with rfl | rfl <;> rfl

theorem not_isSignChar_of_isDigit {c : Char} (h : c.isDigit) : isSignChar c = false := by
  rw [isSignChar, Bool.or_eq_false_iff, beq_eq_false_iff_ne, beq_eq_false_iff_ne]
  constructor <;> rintro rfl <;> exact absurd h (by decide)

theorem AllDigits.leaves_isSignChar (h : AllDigits text) : Leaves isSignChar text := fun c hc =>
  not_isSignChar_of_isDigit (h c (List.mem_of_head? hc))

theorem not_point_of_mark {c : Char} (h : isExponentMark c) : (c == '.') = false := by
  rw [beq_eq_false_iff_ne]
  rintro rfl
  exact absurd h (by decide)

theorem IsPower.leaves (h : IsPower isMark powerText power)
    (hmark : ∀ c, isMark c → p c = false) : Leaves p powerText := by
  cases h with
  | none => exact leaves_nil
  | marked hmark' => exact leaves_cons (hmark _ hmark')

theorem IsPower.scanPower_eq (h : IsPower isMark powerText power) :
    scanPower isMark powerText = (power, []) := by
  cases h with
  | none => rfl
  | @marked mark negative sign digits hmark hsign hne hdigits =>
    have htakeSign := hsign.takeSign_append hdigits.leaves_isSignChar
    have htake : digits.takeWhile Char.isDigit = digits := by
      simpa using takeWhile_run hdigits leaves_nil
    have hdrop : digits.dropWhile Char.isDigit = [] := by
      simpa using dropWhile_run hdigits leaves_nil
    have hempty : digits.isEmpty = false := by simpa using hne
    simp only [scanPower, scanPower?, htakeSign, htake, hdrop, hmark, hempty]
    cases negative <;> rfl

theorem IsFraction.splitPoint_eq (h : IsFraction p fractionText fraction) (hp : p '.' = false)
    (hwhole : ∀ c ∈ whole, p c) (hrest : Leaves p rest) (hpoint : Leaves (· == '.') rest) :
    splitPoint p (whole ++ (fractionText ++ rest)) = (whole, fraction, rest) := by
  cases h with
  | none => exact splitPoint_run hwhole hrest hpoint
  | point hfraction => exact splitPoint_point hp hwhole hfraction hrest

theorem IsNumeral.scanDecimal?_eq (h : IsNumeral text d) : scanDecimal? text = some (d, []) := by
  obtain ⟨hwhole, hfraction, hne, hpower⟩ := h
  have hempty := List.isEmpty_eq_false_iff.2 hne
  have hscan := hpower.scanPower_eq
  unfold scanDecimal?
  rw [hfraction.splitPoint_eq rfl hwhole (hpower.leaves fun _ => not_isDigit_of_mark)
    (hpower.leaves fun _ => not_point_of_mark)]
  dsimp only
  rw [hempty]
  unfold isExponentMark at hscan
  rw [hscan]
  rfl

theorem AllDigits.isNumeralChar (h : AllDigits text) : ∀ c ∈ text, isNumeralChar c :=
  fun c hc => by simp [Numeric.isNumeralChar, h c hc]

theorem IsSign.isNumeralChar (h : IsSign negative sign) : ∀ c ∈ sign, isNumeralChar c := by
  cases h <;> simp [Numeric.isNumeralChar, isSignChar]

theorem IsNumeral.isNumeralChar (h : IsNumeral text d) : ∀ c ∈ text, isNumeralChar c := by
  obtain ⟨hwhole, hfraction, -, hpower⟩ := h
  simp only [List.forall_mem_append]
  refine ⟨hwhole.isNumeralChar, ?_, ?_⟩
  · cases hfraction with
    | none => simp
    | point hdigits => exact List.forall_mem_cons.2 ⟨rfl, AllDigits.isNumeralChar hdigits⟩
  · cases hpower with
    | none => simp
    | marked hmark hsign _ hdigits =>
      rw [List.forall_mem_cons, List.forall_mem_append]
      exact ⟨by simp [Numeric.isNumeralChar, hmark], hsign.isNumeralChar, hdigits.isNumeralChar⟩

/-! ## Signed numerals -/

theorem dropWord?_eq_none {c : Char} {word : List Char} (h : ∀ d ∈ text.head?, d.toLower ≠ c) :
    dropWord? (c :: word) text = none := by
  cases text with
  | nil => rfl
  | cons d text =>
    have hd : d.toLower ≠ c := h d rfl
    simp [dropWord?, hd]

theorem exists_of_isDigit {c : Char} (h : c.isDigit) :
    ∃ n < 10, c = Char.ofNat ('0'.toNat + n) := by
  simp only [Char.isDigit, Bool.and_eq_true, decide_eq_true_eq] at h
  have hlow : '0'.toNat ≤ c.toNat := h.1
  have hhigh : c.toNat ≤ '9'.toNat := h.2
  have hnine : '9'.toNat = '0'.toNat + 9 := rfl
  refine ⟨c.toNat - '0'.toNat, by omega, ?_⟩
  rw [Nat.add_sub_cancel' hlow, Char.ofNat_toNat]

/-- A numeral does not start as anything else does. -/
theorem isNumeralChar_spec {c : Char} (h : isNumeralChar c) :
    c.toLower ≠ 'i' ∧ c.toLower ≠ 'n' ∧ c ≠ 'x' ∧ c ≠ 'X' ∧ isSpace c = false := by
  have hdigits : ∀ n < 10, (Char.ofNat ('0'.toNat + n)).toLower ≠ 'i' ∧
      (Char.ofNat ('0'.toNat + n)).toLower ≠ 'n' ∧ Char.ofNat ('0'.toNat + n) ≠ 'x' ∧
      Char.ofNat ('0'.toNat + n) ≠ 'X' ∧ isSpace (Char.ofNat ('0'.toNat + n)) = false := by
    decide
  simp only [isNumeralChar, isExponentMark, isSignChar, Bool.or_eq_true, beq_iff_eq] at h
  rcases h with ((h | rfl) | rfl | rfl) | rfl | rfl
  · obtain ⟨n, hn, rfl⟩ := exists_of_isDigit h
    exact hdigits n hn
  all_goals decide

theorem scanHexadecimal?_eq_none (h : ∀ c ∈ text, c ≠ 'x' ∧ c ≠ 'X') :
    scanHexadecimal? text = none := by
  unfold scanHexadecimal?
  split
  next x rest =>
    have hx := h x (by simp)
    simp [hx.1, hx.2]
  next => rfl

theorem IsNumeral.leaves_isSignChar (h : IsNumeral text d) : Leaves isSignChar text := by
  intro c hc
  rcases h with @⟨whole, _, _, _, _, hwhole, hfraction, hne, -⟩
  cases whole with
  | cons d whole => exact hwhole.leaves_isSignChar c hc
  | nil =>
    cases hfraction with
    | none => contradiction
    | point => cases hc; rfl

theorem scanMagnitude?_numeral (h : IsNumeral text d) :
    scanMagnitude? negative text = some (d.toBinary64 negative, []) := by
  have hchar : ∀ c ∈ text, _ := fun c hc => isNumeralChar_spec (h.isNumeralChar c hc)
  have hinf : dropWord? "inf".toList text = none :=
    dropWord?_eq_none fun c hc => (hchar c (List.mem_of_head? hc)).1
  have hnan : dropWord? "nan".toList text = none :=
    dropWord?_eq_none fun c hc => (hchar c (List.mem_of_head? hc)).2.1
  have hhexadecimal : scanHexadecimal? text = none :=
    scanHexadecimal?_eq_none fun c hc => ⟨(hchar c hc).2.2.1, (hchar c hc).2.2.2.1⟩
  simp only [scanMagnitude?, hinf, hnan, hhexadecimal, h.scanDecimal?_eq, Option.map_some]

/-- The text is a signed numeral that is read as the number. -/
def Denotes (text : List Char) (x : Binary64) : Prop :=
  ∃ negative sign numeral d, IsSign negative sign ∧ IsNumeral numeral d ∧ text = sign ++ numeral ∧
    d.toBinary64 negative = x

theorem Denotes.isNumeralChar {x : Binary64} (h : Denotes text x) :
    ∀ c ∈ text, isNumeralChar c := by
  obtain ⟨negative, sign, numeral, d, hsign, hnumeral, rfl, -⟩ := h
  exact List.forall_mem_append.2 ⟨hsign.isNumeralChar, hnumeral.isNumeralChar⟩

/-- **Signed numerals are read as what they denote.** -/
theorem Denotes.scanFloat?_eq {x : Binary64} (h : Denotes text x) :
    scanFloat? text = some (x, []) := by
  have hspace : skipSpace text = text := dropWhile_of_leaves fun c hc =>
    (isNumeralChar_spec (h.isNumeralChar c (List.mem_of_head? hc))).2.2.2.2
  obtain ⟨negative, sign, numeral, d, hsign, hnumeral, rfl, rfl⟩ := h
  unfold scanFloat?
  rw [hspace, hsign.takeSign_append hnumeral.leaves_isSignChar]
  exact scanMagnitude?_numeral hnumeral

theorem Denotes.leadingFloat?_eq {x : Binary64} (h : Denotes text x) :
    leadingFloat? text = some x := by
  rw [leadingFloat?, h.scanFloat?_eq]
  rfl

end Reading

end PrintSettings.Numeric
