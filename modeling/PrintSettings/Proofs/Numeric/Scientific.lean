import PrintSettings.Proofs.Numeric.Numeral
import PrintSettings.Proofs.Text.Longest

/-! # Mantissas and powers

Decimal and hexadecimal numbers have one shape: digits with at most one point, then perhaps a marked
power (`IsScientific`). They differ in the class of their digits and in the mark. As long as digits,
marks and the point are different characters (`Apart`), scanning takes the longest prefix of this
shape (`munches_scanScientific?`). A mark without digits after it is not part of the number
(`scanScientific?_dangling`). -/

namespace PrintSettings.Numeric

open PrintSettings.Text

variable {p isMark : Char → Bool} {text whole fractionText fraction rest : List Char}

/-! ## Shape -/

/-- Digits of a class with at most one point, and at least one digit in all. -/
inductive IsMantissa (p : Char → Bool) : List Char → Prop where
  | mk {whole fractionText fraction : List Char} : (∀ c ∈ whole, p c) →
    IsFraction p fractionText fraction → whole ++ fraction ≠ [] →
    IsMantissa p (whole ++ fractionText)

/-- A mantissa and perhaps a marked power. -/
inductive IsScientific (p isMark : Char → Bool) : List Char → Prop where
  | mk {mantissa powerText : List Char} {power : Int} : IsMantissa p mantissa →
    IsPower isMark powerText power → IsScientific p isMark (mantissa ++ powerText)

theorem IsMantissa.isScientific (h : IsMantissa p text) : IsScientific p isMark text := by
  rw [← List.append_nil text]
  exact .mk h .none

/-- The digits, the marks and the point are different characters. -/
structure Apart (p isMark : Char → Bool) : Prop where
  point : p '.' = false
  digit_of_mark : ∀ c, isMark c → p c = false
  point_of_mark : ∀ c, isMark c → (c == '.') = false

theorem IsScientific.forall_mem {c : Char} (h : IsScientific p isMark text) (hc : c ∈ text) :
    p c ∨ c = '.' ∨ isMark c ∨ isSignChar c ∨ c.isDigit := by
  obtain ⟨⟨hwhole, hfraction, -⟩, hpower⟩ := h
  rw [List.mem_append, List.mem_append] at hc
  rcases hc with (hc | hc) | hc
  · exact .inl (hwhole c hc)
  · cases hfraction with
    | none => contradiction
    | point hdigits =>
      rcases List.mem_cons.1 hc with rfl | hc
      · exact .inr (.inl rfl)
      · exact .inl (hdigits c hc)
  · cases hpower with
    | none => contradiction
    | @marked mark negative sign digits hmark hsign _ hdigits =>
      rcases List.mem_cons.1 hc with rfl | hc
      · exact .inr (.inr (.inl hmark))
      rcases List.mem_append.1 hc with hc | hc
      · have hsignChar : isSignChar c := by cases hsign <;> simp_all [isSignChar]
        exact .inr (.inr (.inr (.inl hsignChar)))
      · exact .inr (.inr (.inr (.inr (hdigits c hc))))

/-- The digits before and after the point and the power, and the text after them. -/
def scanScientific? (p isMark : Char → Bool) (text : List Char) :
    Option ((List Char × List Char × Int) × List Char) :=
  let (whole, fraction, rest) := splitPoint p text
  if (whole ++ fraction).isEmpty then none
  else
    let (power, rest) := scanPower isMark rest
    some ((whole, fraction, power), rest)

theorem scanScientific?_eq_some (hsplit : splitPoint p text = (whole, fraction, rest))
    (hne : whole ++ fraction ≠ []) :
    scanScientific? p isMark text =
      some ((whole, fraction, (scanPower isMark rest).1), (scanPower isMark rest).2) := by
  have hempty := List.isEmpty_eq_false_iff.2 hne
  unfold scanScientific?
  rw [hsplit]
  dsimp only
  rw [hempty]
  rfl

/-! ## Signs and powers -/

theorem exists_takeSign (text : List Char) :
    ∃ sign, text = sign ++ (takeSign text).2 ∧ IsSign (takeSign text).1 sign := by
  unfold takeSign
  split
  next rest => exact ⟨['-'], rfl, .minus⟩
  next rest => exact ⟨['+'], rfl, .plus⟩
  next => exact ⟨[], rfl, .none⟩

theorem scanPower_of_eq_none (h : scanPower? isMark text = none) :
    scanPower isMark text = (0, text) := by
  rw [scanPower, h, Option.getD_none]

theorem exists_scanPower {power : Int} (h : scanPower isMark text = (power, rest)) :
    ∃ powerText, text = powerText ++ rest ∧ IsPower isMark powerText power := by
  cases hscan : scanPower? isMark text with
  | none =>
    rw [scanPower_of_eq_none hscan] at h
    obtain ⟨rfl, rfl⟩ := Prod.mk.inj h
    exact ⟨[], rfl, .none⟩
  | some found =>
    rw [scanPower, hscan, Option.getD_some] at h
    subst h
    cases text with
    | nil => contradiction
    | cons mark text =>
      obtain ⟨sign, htext, hsign⟩ := exists_takeSign text
      have hbody := (takeSign text).2.takeWhile_append_dropWhile (p := Char.isDigit)
      have hdigits : AllDigits ((takeSign text).2.takeWhile Char.isDigit) :=
        fun _ hc => List.mem_takeWhile_imp hc
      simp only [scanPower?] at hscan
      generalize (takeSign text).1 = negative at *
      generalize (takeSign text).2 = body at *
      split at hscan
      next hcond =>
        obtain ⟨rfl, rfl⟩ := Prod.mk.inj (Option.some.inj hscan)
        rw [Bool.and_eq_true, Bool.not_eq_true', List.isEmpty_eq_false_iff] at hcond
        refine ⟨mark :: (sign ++ body.takeWhile Char.isDigit), ?_, ?_⟩
        · rw [List.cons_append, List.append_assoc, hbody, ← htext]
        · exact .marked hcond.1 hsign hcond.2 hdigits
      next => contradiction

theorem length_scanPower_le (isMark : Char → Bool) (text : List Char) :
    (scanPower isMark text).2.length ≤ text.length := by
  obtain ⟨⟨power, rest⟩, hscan⟩ : ∃ scanned, scanPower isMark text = scanned := ⟨_, rfl⟩
  obtain ⟨powerText, rfl, -⟩ := exists_scanPower hscan
  rw [hscan, List.length_append]
  exact Nat.le_add_left rest.length powerText.length

theorem IsPower.length_scanPower_le {powerText : List Char} {power : Int}
    (h : IsPower isMark powerText power) (rest : List Char) :
    (scanPower isMark (powerText ++ rest)).2.length ≤ rest.length := by
  cases h with
  | none => exact Numeric.length_scanPower_le isMark rest
  | @marked mark negative sign digits hmark hsign hne hdigits =>
    have hleaves : Leaves isSignChar (digits ++ rest) := by
      obtain ⟨d, digits, rfl⟩ := List.exists_cons_of_ne_nil hne
      exact leaves_cons (not_isSignChar_of_isDigit (hdigits d List.mem_cons_self))
    have htakeSign : takeSign (sign ++ digits ++ rest) = (negative, digits ++ rest) := by
      rw [List.append_assoc]
      exact hsign.takeSign_append hleaves
    have htake : (digits ++ rest).takeWhile Char.isDigit =
        digits ++ rest.takeWhile Char.isDigit := List.takeWhile_append_of_pos hdigits
    have hdrop : (digits ++ rest).dropWhile Char.isDigit = rest.dropWhile Char.isDigit :=
      List.dropWhile_append_of_pos hdigits
    have hempty : (digits ++ rest.takeWhile Char.isDigit).isEmpty = false := by simp [hne]
    have hscan : (scanPower isMark (mark :: (sign ++ digits) ++ rest)).2 =
        rest.dropWhile Char.isDigit := by
      rw [List.cons_append]
      simp only [scanPower, scanPower?, htakeSign, htake, hdrop, hmark, hempty]
      rfl
    rw [hscan]
    exact (List.dropWhile_sublist _).length_le

theorem scanPower_dangling {mark : Char} (h : Leaves Char.isDigit (takeSign rest).2) :
    scanPower isMark (mark :: rest) = (0, mark :: rest) := by
  refine scanPower_of_eq_none ?_
  have hdigits : (takeSign rest).2.takeWhile Char.isDigit = [] :=
    @takeWhile_run Char.isDigit [] _ (by simp) h
  simp only [scanPower?, hdigits, List.isEmpty_nil, Bool.not_true, Bool.and_false,
    Bool.false_eq_true, if_false]

/-! ## Digits and point -/

theorem exists_splitPoint (h : splitPoint p text = (whole, fraction, rest)) :
    ∃ fractionText, text = whole ++ (fractionText ++ rest) ∧ (∀ c ∈ whole, p c) ∧
      IsFraction p fractionText fraction := by
  have htake : ∀ text : List Char, ∀ c ∈ text.takeWhile p, p c :=
    fun _ _ hc => List.mem_takeWhile_imp hc
  have happend := text.takeWhile_append_dropWhile (p := p)
  unfold splitPoint at h
  split at h
  next after hafter =>
    simp only [Prod.mk.injEq] at h
    obtain ⟨rfl, rfl, rfl⟩ := h
    refine ⟨'.' :: after.takeWhile p, ?_, htake text, .point (htake after)⟩
    rw [List.cons_append, List.takeWhile_append_dropWhile, ← hafter, happend]
  next =>
    simp only [Prod.mk.injEq] at h
    obtain ⟨rfl, rfl, rfl⟩ := h
    exact ⟨[], happend.symm, htake text, .none⟩

theorem exists_splitPoint_append (hp : p '.' = false) (hwhole : ∀ c ∈ whole, p c)
    (hfraction : IsFraction p fractionText fraction) (rest : List Char) :
    ∃ a b rest', splitPoint p (whole ++ (fractionText ++ rest)) =
        (whole ++ a, fraction ++ b, rest') ∧ rest'.length ≤ rest.length := by
  have hlength : ∀ text : List Char, (text.dropWhile p).length ≤ text.length :=
    fun text => (List.dropWhile_sublist p).length_le
  cases hfraction with
  | none =>
    have htake : (whole ++ rest).takeWhile p = whole ++ rest.takeWhile p :=
      List.takeWhile_append_of_pos hwhole
    have hdrop : (whole ++ rest).dropWhile p = rest.dropWhile p :=
      List.dropWhile_append_of_pos hwhole
    have hrest := hlength rest
    rw [List.nil_append]
    unfold splitPoint
    rw [htake, hdrop]
    split
    next after hafter =>
      rw [hafter, List.length_cons] at hrest
      have := hlength after
      exact ⟨rest.takeWhile p, after.takeWhile p, after.dropWhile p, rfl, by omega⟩
    next => exact ⟨rest.takeWhile p, [], rest.dropWhile p, rfl, hrest⟩
  | point hdigits =>
    refine ⟨[], rest.takeWhile p, rest.dropWhile p, ?_, hlength rest⟩
    unfold splitPoint
    rw [List.cons_append, dropWhile_run hwhole (leaves_cons hp),
      takeWhile_run hwhole (leaves_cons hp), List.append_nil]
    simp only [List.takeWhile_append_of_pos hdigits, List.dropWhile_append_of_pos hdigits]

/-! ## Scanning -/

section Scanning

variable (hapart : Apart p isMark)
include hapart

/-- The parts of a mantissa are scanned if a mark or nothing follows. -/
theorem scanScientific?_parts (hwhole : ∀ c ∈ whole, p c)
    (hfraction : IsFraction p fractionText fraction) (hne : whole ++ fraction ≠ [])
    (hrest : ∀ c ∈ rest.head?, isMark c) :
    scanScientific? p isMark (whole ++ fractionText ++ rest) =
      some ((whole, fraction, (scanPower isMark rest).1), (scanPower isMark rest).2) := by
  have hdigit : Leaves p rest := fun c hc => hapart.digit_of_mark c (hrest c hc)
  have hpoint : Leaves (· == '.') rest := fun c hc => hapart.point_of_mark c (hrest c hc)
  rw [List.append_assoc]
  exact scanScientific?_eq_some (hfraction.splitPoint_eq hapart.point hwhole hdigit hpoint) hne

/-- **Scanning takes the longest prefix** that is a mantissa with or without a power. -/
theorem munches_scanScientific? :
    Munches (IsScientific p isMark) (scanScientific? p isMark) where
  taken := by
    intro text parts rest hscan
    obtain ⟨⟨whole, fraction, after⟩, hsplit⟩ : ∃ split, splitPoint p text = split := ⟨_, rfl⟩
    obtain ⟨⟨power, rest'⟩, hscanPower⟩ : ∃ scanned, scanPower isMark after = scanned := ⟨_, rfl⟩
    obtain ⟨fractionText, htext, hwhole, hfraction⟩ := exists_splitPoint hsplit
    obtain ⟨powerText, hafter, hpower⟩ := exists_scanPower hscanPower
    by_cases hne : whole ++ fraction = []
    · rw [scanScientific?, hsplit] at hscan
      simp [hne] at hscan
    rw [scanScientific?_eq_some hsplit hne, hscanPower] at hscan
    obtain ⟨rfl, rfl⟩ := Prod.mk.inj (Option.some.inj hscan)
    have hhead : ∀ c ∈ powerText.head?, isMark c := by
      cases hpower with
      | none => simp
      | marked hmark => simpa using hmark
    have happend : text = whole ++ fractionText ++ powerText ++ rest' := by
      rw [htext, hafter, List.append_assoc, List.append_assoc]
    refine ⟨_, happend, .mk (.mk hwhole hfraction hne) hpower, ?_⟩
    rw [scanScientific?_parts hapart hwhole hfraction hne hhead, hpower.scanPower_eq]
  greedy := by
    rintro _ rest ⟨@⟨whole, fractionText, fraction, hwhole, hfraction, hne⟩, hpower⟩
    have hlength := hpower.length_scanPower_le rest
    cases hpower with
    | none =>
      -- the digits may go on in the rest
      obtain ⟨a, b, rest', hsplit, hle⟩ :=
        exists_splitPoint_append hapart.point hwhole hfraction rest
      have hne' : whole ++ a ++ (fraction ++ b) ≠ [] := by
        intro h
        simp only [List.append_eq_nil_iff] at h
        exact hne (List.append_eq_nil_iff.2 ⟨h.1.1, h.2.1⟩)
      rw [List.append_nil, List.append_assoc]
      exact ⟨_, _, scanScientific?_eq_some hsplit hne', (length_scanPower_le _ _).trans hle⟩
    | marked hmark =>
      rw [List.append_assoc]
      exact ⟨_, _, scanScientific?_parts hapart hwhole hfraction hne (by simpa using hmark),
        hlength⟩

/-- A mark without digits after it is left out. -/
theorem scanScientific?_dangling {mark : Char} (hmantissa : IsMantissa p text) (hmark : isMark mark)
    (h : Leaves Char.isDigit (takeSign rest).2) :
    ∃ parts, scanScientific? p isMark (text ++ mark :: rest) = some (parts, mark :: rest) := by
  obtain ⟨hwhole, hfraction, hne⟩ := hmantissa
  have hhead : ∀ c ∈ (mark :: rest).head?, isMark c := by simpa using hmark
  have hscan := scanScientific?_parts hapart hwhole hfraction hne hhead
  rw [scanPower_dangling h] at hscan
  exact ⟨_, hscan⟩

end Scanning

end PrintSettings.Numeric
