import PrintSettings.Proofs.Numeric.Notation
import PrintSettings.Proofs.Yaml.Listing

/-! # Compact JSON

The grammar of JSON without blanks (`IsCompact`), and the texts of scalars in it. The digits of a
number have no zero in front (`isWhole_digits`), so numbers in the notation of JSON are numbers of
the grammar, in positional notation (`isNumber_positionalText`) and with an exponent
(`isNumber_exponentText`). Quoting leaves no character of a string that the grammar refuses
(`isString_jsonQuoted`). -/

namespace PrintSettings.Yaml.Json

open PrintSettings.Numeric

variable {text whole decimals powerText : List Char} {n : Notation} {x : Binary64}

/-! ## The grammar -/

/-- Digits without a zero in front of others. -/
structure IsWhole (text : List Char) : Prop where
  allDigits : AllDigits text
  ne_nil : text ≠ []
  zero : text.head? = some '0' → text = ['0']

/-- What stands between the whole part and the exponent of a number. -/
inductive IsDecimals : List Char → Prop where
  | none : IsDecimals []
  | point {digits : List Char} : AllDigits digits → digits ≠ [] → IsDecimals ('.' :: digits)

inductive IsNumber : List Char → Prop where
  | mk {whole decimals powerText : List Char} {power : Int} (negative : Bool) : IsWhole whole →
    IsDecimals decimals → IsPower isExponentMark powerText power →
    IsNumber (Notation.signText negative ++ (whole ++ (decimals ++ powerText)))

/-- The characters that a backslash may stand before in a string. -/
def escapes : List Char := ['"', '\\', '/', 'b', 'f', 'n', 'r', 't']

/-- What one character of a string is written as. -/
inductive IsCharacter : List Char → Prop where
  | plain {c : Char} : c ≠ '"' → c ≠ '\\' → 0x20 ≤ c.toNat → IsCharacter [c]
  | escape {c : Char} : c ∈ escapes → IsCharacter ['\\', c]
  | unicode {digits : List Char} : (∀ c ∈ digits, isHexDigit c) → digits.length = 4 →
    IsCharacter ('\\' :: 'u' :: digits)

inductive IsString : List Char → Prop where
  | mk {characters : List (List Char)} : (∀ c ∈ characters, IsCharacter c) →
    IsString ('"' :: (characters.flatten ++ ['"']))

/-- A JSON text without blanks between its tokens. -/
inductive IsCompact : List Char → Prop where
  | null : IsCompact "null".toList
  | bool (b : Bool) : IsCompact (jsonBool b).toList
  | number {text : List Char} : IsNumber text → IsCompact text
  | string {text : List Char} : IsString text → IsCompact text
  | array {items : List (List Char)} : (∀ item ∈ items, IsCompact item) →
    IsCompact ('[' :: ([','].intercalate items ++ [']']))
  | object {members : List (List Char × List Char)} : (∀ m ∈ members, IsString m.1) →
    (∀ m ∈ members, IsCompact m.2) → IsCompact ('\x7b' ::
      ([','].intercalate (members.map fun m => m.1 ++ ':' :: m.2) ++ ['\x7d']))

/-! ## Strings -/

theorem isHexDigit_digitChar {k : Nat} (h : k < 16) : isHexDigit (Nat.digitChar k) := by
  have hall : ∀ k < 16, isHexDigit (Nat.digitChar k) := by decide
  exact hall k h

theorem isCharacter_jsonChar (c : Char) : IsCharacter (jsonChar c) := by
  unfold jsonChar
  split
  case h_8 hquote hbackslash _ _ _ _ _ =>
    split
    next hcontrol =>
      refine .unicode ?_ rfl
      have hzero : isHexDigit '0' := by decide
      have hhigh : isHexDigit (Nat.digitChar (c.toNat / 16)) := isHexDigit_digitChar (by omega)
      have hlow : isHexDigit (Nat.digitChar (c.toNat % 16)) := isHexDigit_digitChar (by omega)
      simp [hzero, hhigh, hlow]
    next hprintable => exact .plain hquote hbackslash (Nat.not_lt.1 hprintable)
  all_goals exact .escape (by decide)

theorem isString_jsonQuoted (s : String) : IsString (jsonQuoted s).toList := by
  rw [jsonQuoted, String.toList_ofList, List.flatMap_def]
  refine .mk fun text htext => ?_
  obtain ⟨c, -, rfl⟩ := List.mem_map.1 htext
  exact isCharacter_jsonChar c

/-! ## Numbers -/

theorem head?_digits {m : Nat} (h : 0 < m) : (Decimal.digits m).head? ≠ some '0' := by
  induction m using Nat.strong_induction_on with
  | _ m ih =>
    rw [Decimal.digits, Nat.toDigits_eq_if (by decide)]
    split
    next hlt =>
      have hall : ∀ k < 10, 0 < k → [Nat.digitChar k].head? ≠ some '0' := by decide
      exact hall m hlt h
    next hge =>
      rw [List.head?_append_of_ne_nil _ Nat.toDigits_ne_nil]
      exact ih (m / 10) (by omega) (by omega)

theorem isWhole_digits (m : Nat) : IsWhole (Decimal.digits m) where
  allDigits := allDigits_digits m
  ne_nil := digits_ne_nil m
  zero hhead := by
    obtain rfl : m = 0 := Nat.eq_zero_of_not_pos fun hpos => head?_digits hpos hhead
    rfl

theorem isNumber_toString (m : Int) : IsNumber (toString m).toList := by
  have hnumber := IsNumber.mk (decide (m < 0)) (isWhole_digits m.natAbs) .none .none
  rwa [List.append_nil, List.append_nil, ← toList_toString_int] at hnumber

theorem shortest_mantissa_pos (tie : Tie) {units : Nat} (hunits : Representable units)
    (hpos : 0 < units) : 0 < (Decimal.shortest tie units).mantissa := by
  by_contra hzero
  have hvalue : (Decimal.shortest tie units).value = (Decimal.exact 0).value := by
    rw [Decimal.value, Nat.eq_zero_of_not_pos hzero]
    simp [Decimal.value, Decimal.exact]
  have hread : Binary64.finite false units hunits = Binary64.finite false 0 representable_zero := by
    rw [← Decimal.toBinary64_shortest tie hunits, Decimal.toBinary64_congr hvalue,
      Decimal.toBinary64_exact representable_zero]
  injection hread with _ hunits_eq
  omega

theorem isNumber_positionalText (hn : n.Readable) (negative : Bool) (htext : IsWhole text)
    {point : Int} (hzero : text.head? = some '0' → point = 1) :
    IsNumber (Notation.signText negative ++ n.positionalText text point) := by
  have hwhole : text.head? ≠ some '0' → ∀ {front}, AllDigits front → front ≠ [] →
      front.head? = text.head? → IsWhole front := fun hhead front hfront hne hsame =>
    ⟨hfront, hne, fun h0 => absurd (hsame ▸ h0) hhead⟩
  unfold Notation.positionalText
  split
  next h =>
    have hone : IsWhole ['0'] := isWhole_digits 0
    have hfraction := (allDigits_zeros (-point).toNat).append htext.allDigits
    have hnumber := IsNumber.mk negative hone
      (.point hfraction (List.append_ne_nil_of_right_ne_nil _ htext.ne_nil)) .none
    rwa [List.append_nil] at hnumber
  next hpoint =>
    split
    next h =>
      have hzeros : IsWhole (text ++ List.replicate (point.toNat - text.length) '0') := by
        by_cases hhead : text.head? = some '0'
        · rw [hzero hhead, htext.zero hhead]
          exact isWhole_digits 0
        · exact hwhole hhead (htext.allDigits.append (allDigits_zeros _))
            (List.append_ne_nil_of_left_ne_nil htext.ne_nil _)
            (List.head?_append_of_ne_nil _ htext.ne_nil)
      have hend : IsDecimals n.wholeEnd := by
        rcases hn.wholeEnd with hend | hend
        · exact hend ▸ .none
        · exact hend ▸ .point (allDigits_zeros 1) (List.cons_ne_nil _ _)
      have hnumber := IsNumber.mk negative hzeros hend .none
      rwa [List.append_nil] at hnumber
    next h =>
      have hhead : text.head? ≠ some '0' := fun hhead => by
        rw [hzero hhead, htext.zero hhead] at h
        exact h (le_refl _)
      have htake : text.take point.toNat ≠ [] := by
        rw [ne_eq, List.take_eq_nil_iff]
        rintro (h0 | h0)
        · omega
        · exact htext.ne_nil h0
      have hdrop : text.drop point.toNat ≠ [] := by
        rw [ne_eq, List.drop_eq_nil_iff]
        omega
      have hsame : (text.take point.toNat).head? = text.head? := by
        rw [List.head?_take, if_neg (by omega)]
      have hnumber := IsNumber.mk negative
        (hwhole hhead (htext.allDigits.take _) htake hsame)
        (.point (htext.allDigits.drop _) hdrop) .none
      rwa [List.append_nil] at hnumber

theorem isNumber_exponentText (hn : n.Readable) (negative : Bool) (htext : IsWhole text)
    (power : Int) : IsNumber (Notation.signText negative ++ n.exponentText text power) := by
  have hwhole : IsWhole (text.take 1) := by
    obtain ⟨c, rest, rfl⟩ := List.exists_cons_of_ne_nil htext.ne_nil
    refine ⟨htext.allDigits.take 1, List.cons_ne_nil c [], fun hhead => ?_⟩
    obtain rfl : c = '0' := Option.some.inj hhead
    rfl
  have hdecimals : IsDecimals (if text.length ≤ 1 then [] else '.' :: text.drop 1) := by
    split
    next => exact .none
    next h => exact .point (htext.allDigits.drop 1) fun h0 => h (List.drop_eq_nil_iff.1 h0)
  have hnumber := IsNumber.mk negative hwhole hdecimals (Notation.isPower_exponent hn power)
  simpa only [Notation.exponentText, List.append_assoc, List.cons_append] using hnumber

theorem isNumber_decimalText (hn : n.Readable) (negative : Bool) {d : Decimal}
    (hd : d.mantissa = 0 → d.exponent = 0) :
    IsNumber (Notation.signText negative ++ n.decimalText d) := by
  have htext := isWhole_digits d.mantissa
  unfold Notation.decimalText
  dsimp only
  split_ifs
  · refine isNumber_positionalText hn negative htext fun hhead => ?_
    have hmantissa : d.mantissa = 0 := Nat.eq_zero_of_not_pos fun h => head?_digits h hhead
    rw [htext.zero hhead, hd hmantissa]
    rfl
  · exact isNumber_exponentText hn negative htext _

/-- **The text of a finite number is a number of JSON.** -/
theorem isNumber_chars (hn : n.Readable) (hx : x.isFinite) : IsNumber (n.chars x) := by
  obtain ⟨negative, units, hunits⟩ | _ | _ := x
  · refine isNumber_decimalText hn negative fun hmantissa => ?_
    split_ifs at hmantissa ⊢ with h0
    · rfl
    · have hpos := shortest_mantissa_pos n.tie hunits (Nat.pos_of_ne_zero h0)
      omega
  · exact absurd hx Bool.false_ne_true
  · exact absurd hx Bool.false_ne_true

/-- **The JSON text of a number** is a number, or null if the number is not finite. -/
theorem isCompact_json (m : Number) : IsCompact m.json.toList := by
  cases m with
  | integer m => exact .number (isNumber_toString m)
  | float x =>
    rw [Number.json, Notation.text, String.toList_ofList]
    by_cases hx : x.isFinite
    · exact .number (isNumber_chars Notation.readable_json hx)
    · obtain ⟨_, _, _⟩ | _ | _ := x
      · exact absurd rfl hx
      · exact .null
      · exact .null

end PrintSettings.Yaml.Json
