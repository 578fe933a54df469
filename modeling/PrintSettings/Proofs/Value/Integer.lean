import PrintSettings.Proofs.Numeric.Notation
import PrintSettings.Proofs.Numeric.Scientific
import PrintSettings.Proofs.Numeric.Sum
import PrintSettings.Value.Kind

/-! # Integers at the start of a text

A text begins with blanks, then perhaps a sign, then digits as far as they go (`Begins`). Its
integer is that of the digits with the sign, however many they are. Digits are read one by one, with 64 bits
to hold the number; what comes out is the exact integer, clamped once (`foldl_appendDigit`). The
kinds of integers clamp it again to narrower ranges, with the same effect (`clamp_clamp64`), so each
of them gives the exact integer clamped to its own range (`integers_clamped`).

* `Begins.leadingInt?_eq`: what is read of a text.
* `exists_begins`, `Begins.unique`: every text begins in exactly one way.
* `leadingInt?_toString`: the text of an integer of 64 bits is read back. -/

namespace PrintSettings.Numeric

open PrintSettings.Text
open PrintSettings.Numeric.Binary64 (signed)

variable {text digits : List Char} {n lo hi : Int}

/-! ## Clamping -/

theorem clamp64_of_mem (hlo : int64Min ≤ n) (hhi : n ≤ int64Max) : clamp64 n = n := by
  unfold clamp64 clamp
  omega

/-- Within 64 bits, clamping to 64 bits first changes nothing. -/
theorem clamp_clamp64 (hlo : int64Min ≤ lo) (hle : lo ≤ hi) (hhi : hi ≤ int64Max) (n : Int) :
    clamp lo hi (clamp64 n) = clamp lo hi n := by
  unfold clamp64 clamp
  omega

theorem max_zero_clamp64 (n : Int) : max 0 (clamp64 n) = clamp 0 int64Max n := by
  have hmin : int64Min ≤ 0 := by decide
  have hmax : 0 ≤ int64Max := by decide
  unfold clamp64 clamp
  omega

/-! ## Digits with saturation -/

/-- One more digit of the exact number, clamped: a number beyond 64 bits stays beyond them, since
the digit goes further in the direction of the sign. -/
theorem appendDigit_clamp64 (negative : Bool) (m : Nat) (c : Char) :
    appendDigit negative (clamp64 (signed negative m)) c =
      clamp64 (signed negative (10 * m + (c.toNat - '0'.toNat))) := by
  have hmin : int64Min = -0x8000000000000000 := rfl
  have hmax : int64Max = 0x7fffffffffffffff := rfl
  unfold appendDigit clamp64 clamp signed
  generalize c.toNat - '0'.toNat = d
  cases negative with
  | false => simp only [Bool.false_eq_true, if_false]; omega
  | true => simp only [if_true]; omega

/-- **Digits read one by one with saturation** give their number, clamped once. -/
theorem foldl_appendDigit (negative : Bool) (digits : List Char) (m : Nat) :
    digits.foldl (appendDigit negative) (clamp64 (signed negative m)) =
      clamp64 (signed negative (Nat.ofDigitChars 10 digits m)) := by
  induction digits generalizing m with
  | nil => rfl
  | cons c digits ih => rw [List.foldl_cons, appendDigit_clamp64, ih, Nat.ofDigitChars_cons]

/-! ## The start of a text -/

/-- A text begins with blanks, a sign if one comes next, and these digits, as far as digits go. Its
integer is that of the digits with the sign. -/
inductive Begins : List Char → List Char → Int → Prop where
  | mk {blanks sign digits rest : List Char} {negative : Bool} : (∀ c ∈ blanks, isSpace c) →
    Leaves isSpace (sign ++ (digits ++ rest)) → IsSign negative sign →
    (sign = [] → Leaves isSignChar (digits ++ rest)) → AllDigits digits →
    Leaves Char.isDigit rest →
    Begins (blanks ++ (sign ++ (digits ++ rest))) digits (signed negative (Decimal.ofDigits digits))

theorem leaves_dropWhile (p : Char → Bool) (text : List Char) : Leaves p (text.dropWhile p) := by
  intro c hc
  have hhead := List.head?_dropWhile_not p text
  rw [Option.mem_def.1 hc] at hhead
  simpa using hhead

theorem leaves_of_takeSign (h : (takeSign text).2 = text) : Leaves isSignChar text := by
  intro c hc
  rw [← Bool.not_eq_true, isSignChar, Bool.or_eq_true, beq_iff_eq, beq_iff_eq]
  obtain ⟨rest, rfl⟩ : ∃ rest, text = c :: rest := List.head?_eq_some_iff.1 hc
  have hlength := congrArg List.length h
  rintro (rfl | rfl)
  · have htake : (takeSign ('-' :: rest)).2 = rest := rfl
    rw [htake, List.length_cons] at hlength
    omega
  · have htake : (takeSign ('+' :: rest)).2 = rest := rfl
    rw [htake, List.length_cons] at hlength
    omega

theorem exists_begins (text : List Char) : ∃ digits n, Begins text digits n := by
  obtain ⟨sign, hbody, hsign⟩ := exists_takeSign (text.dropWhile isSpace)
  have htext : text = text.takeWhile isSpace ++ text.dropWhile isSpace :=
    List.takeWhile_append_dropWhile.symm
  have hrest : (takeSign (text.dropWhile isSpace)).2 =
      (takeSign (text.dropWhile isSpace)).2.takeWhile Char.isDigit ++
        (takeSign (text.dropWhile isSpace)).2.dropWhile Char.isDigit :=
    List.takeWhile_append_dropWhile.symm
  have hspace := leaves_dropWhile isSpace text
  have hnone : sign = [] → Leaves isSignChar (takeSign (text.dropWhile isSpace)).2 := by
    rintro rfl
    rw [List.nil_append] at hbody
    rw [← hbody]
    exact leaves_of_takeSign hbody.symm
  generalize (takeSign (text.dropWhile isSpace)).2 = body at *
  rw [hbody, hrest] at htext hspace
  rw [hrest] at hnone
  rw [htext]
  exact ⟨_, _, .mk (fun _ hc => List.mem_takeWhile_imp hc) hspace hsign hnone
    (fun _ hc => List.mem_takeWhile_imp hc) (leaves_dropWhile Char.isDigit body)⟩

namespace Begins

theorem exists_takeSign_eq (h : Begins text digits n) :
    ∃ negative rest, takeSign (skipSpace text) = (negative, digits ++ rest) ∧
      (digits ++ rest).takeWhile Char.isDigit = digits ∧
      n = signed negative (Decimal.ofDigits digits) := by
  obtain @⟨blanks, sign, digits, rest, negative, hblanks, hspace, hsign, hnone, hdigits,
    hrest⟩ := h
  have hskip : skipSpace (blanks ++ (sign ++ (digits ++ rest))) = sign ++ (digits ++ rest) :=
    dropWhile_run hblanks hspace
  have htakeSign : takeSign (sign ++ (digits ++ rest)) = (negative, digits ++ rest) := by
    cases hsign with
    | minus => rfl
    | plus => rfl
    | none => exact takeSign_of_leaves (hnone rfl)
  rw [hskip]
  exact ⟨negative, rest, htakeSign, takeWhile_run hdigits hrest, rfl⟩

/-- **The integer of a text** is read exactly, but clamped; without digits there is none. -/
theorem leadingInt?_eq (h : Begins text digits n) :
    leadingInt? text = if digits = [] then none else some (clamp64 n) := by
  obtain ⟨negative, rest, htakeSign, htake, rfl⟩ := h.exists_takeSign_eq
  have hzero : clamp64 (signed negative 0) = 0 := by
    rw [Binary64.signed_zero]
    decide
  have hfold := foldl_appendDigit negative digits 0
  rw [hzero] at hfold
  unfold leadingInt?
  rw [htakeSign]
  dsimp only
  rw [htake, hfold]
  by_cases hne : digits = []
  · rw [if_pos hne, hne]
    rfl
  · rw [if_neg hne, List.isEmpty_eq_false_iff.2 hne]
    rfl

theorem intOrZero_eq (h : Begins text digits n) : intOrZero text = clamp64 n := by
  unfold intOrZero
  rw [h.leadingInt?_eq]
  by_cases hne : digits = []
  · obtain ⟨negative, rest, -, -, rfl⟩ := h.exists_takeSign_eq
    have hzero : Decimal.ofDigits [] = 0 := rfl
    rw [if_pos hne, hne, hzero, Binary64.signed_zero]
    decide
  · rw [if_neg hne, Option.getD_some]

theorem unique {digits' : List Char} {n' : Int} (h : Begins text digits n)
    (h' : Begins text digits' n') : digits' = digits ∧ n' = n := by
  obtain ⟨negative, rest, htakeSign, htake, rfl⟩ := h.exists_takeSign_eq
  obtain ⟨negative', rest', htakeSign', htake', rfl⟩ := h'.exists_takeSign_eq
  obtain ⟨rfl, hbody⟩ := Prod.mk.inj (htakeSign'.symm.trans htakeSign)
  have hdigits : digits' = digits := by rw [← htake', hbody, htake]
  exact ⟨hdigits, by rw [hdigits]⟩

end Begins

/-! ## Texts of integers -/

theorem begins_toString (n : Int) : Begins (toString n).toList (Decimal.digits n.natAbs) n := by
  have hsign := Notation.isSign_signText (decide (n < 0))
  have hdigits := allDigits_digits n.natAbs
  have hspace : Leaves isSpace
      (Notation.signText (decide (n < 0)) ++ (Decimal.digits n.natAbs ++ [])) := by
    intro c hc
    have hmem := List.mem_of_mem_head? hc
    have hchar : isNumeralChar c := by
      rw [List.append_nil] at hmem
      rcases List.mem_append.1 hmem with hmem | hmem
      · exact hsign.isNumeralChar c hmem
      · exact hdigits.isNumeralChar c hmem
    exact (isNumeralChar_spec hchar).2.2.2.2
  have hbegins := @Begins.mk [] _ _ [] _ (by simp) hspace hsign
    (fun _ => by rw [List.append_nil]; exact hdigits.leaves_isSignChar) hdigits leaves_nil
  rw [List.nil_append, List.append_nil, Decimal.ofDigits_digits, Binary64.signed_natAbs] at hbegins
  rw [toList_toString_int]
  exact hbegins

/-- **The text of every integer of 64 bits is read back.** -/
theorem leadingInt?_toString (hlo : int64Min ≤ n) (hhi : n ≤ int64Max) :
    leadingInt? (toString n).toList = some n := by
  rw [(begins_toString n).leadingInt?_eq, if_neg (digits_ne_nil _), clamp64_of_mem hlo hhi]

end PrintSettings.Numeric

namespace PrintSettings.Value.Kind

open PrintSettings.Numeric

/-! ## Kinds of integers -/

/-- **Integers are exact, and clamped once.** Every text begins with one run of digits, after blanks
and perhaps a sign; without digits there is no integer. Each kind of integers gives the exact one
clamped to its range, or zero if there is none. The text of an integer of 64 bits is read back. -/
theorem integers_clamped (text : String) :
    (∃ digits n, Begins text.toList digits n) ∧
    (∀ digits n, Begins text.toList digits n →
      (∀ digits' n', Begins text.toList digits' n' → digits' = digits ∧ n' = n) ∧
      (leadingInt? text.toList = none ↔ digits = []) ∧
      (digits ≠ [] → leadingInt? text.toList = some (clamp64 n)) ∧
      (digits = [] → n = 0) ∧
      ∀ key, read .int32 key text = pure (clamp (-0x80000000) 0x7fffffff n) ∧
        read .layer key text = pure ⟨clamp (-0x80000000) 0x7fffffff n⟩ ∧
        read .int64 key text = pure (clamp (-0x8000000000000000) 0x7fffffffffffffff n) ∧
        read .uint32 key text = pure (clamp 0 0xffffffff n) ∧
        read .index key text = pure (clamp 0 0x7fffffffffffffff n)) ∧
    ∀ n, int64Min ≤ n → n ≤ int64Max → leadingInt? (toString n).toList = some n ∧
      ∀ key, read .int64 key (toString n) = pure n := by
  refine ⟨exists_begins text.toList, fun digits n h => ⟨fun _ _ => h.unique, ?_, ?_, ?_, ?_⟩,
    fun n hlo hhi => ⟨leadingInt?_toString hlo hhi, fun key => ?_⟩⟩
  · rw [h.leadingInt?_eq]
    by_cases hne : digits = [] <;> simp [hne]
  · intro hne
    rw [h.leadingInt?_eq, if_neg hne]
  · intro hnil
    obtain ⟨negative, rest, -, -, rfl⟩ := h.exists_takeSign_eq
    rw [hnil]
    exact Binary64.signed_zero negative
  · intro key
    have hzero := h.intOrZero_eq
    have hint32 : readInt32 text = clamp (-0x80000000) 0x7fffffff n := by
      rw [readInt32, hzero, clamp_clamp64 (by decide) (by decide) (by decide)]
    have huint32 : readUInt32 text = clamp 0 0xffffffff n := by
      rw [readUInt32, hzero, clamp_clamp64 (by decide) (by decide) (by decide)]
    have hindex : readIndex text = clamp 0 int64Max n := by
      rw [readIndex, hzero, max_zero_clamp64]
    exact ⟨congrArg pure hint32, congrArg (fun n => pure (Layer.mk n)) hint32,
      congrArg pure hzero, congrArg pure huint32, congrArg pure hindex⟩
  · have hzero : intOrZero (toString n).toList = n := by
      rw [(begins_toString n).intOrZero_eq, clamp64_of_mem hlo hhi]
    exact congrArg pure hzero

/-- A number just below 64 bits, with zeros before it and a unit after it. -/
theorem integers_clamped_belowRange :
    Begins "\t-009223372036854775809mm".toList "009223372036854775809".toList
      (-9223372036854775809) ∧
    leadingInt? "\t-009223372036854775809mm".toList = some int64Min ∧
    read .int32 "k" "\t-009223372036854775809mm" = pure (-2147483648) ∧
    read .uint32 "k" "\t-009223372036854775809mm" = pure 0 ∧
    "009223372036854775809".toList ≠ [] ∧
    int64Min ≤ int64Min ∧ int64Min ≤ int64Max ∧
    leadingInt? (toString int64Min).toList = some int64Min ∧
    read .int64 "k" (toString int64Min) = pure int64Min := by
  have hblank : ∀ c ∈ "\t".toList, Text.isSpace c := List.all_eq_true.1 (by decide)
  have hdigits : AllDigits "009223372036854775809".toList := List.all_eq_true.1 (by decide)
  have hbegins : Begins "\t-009223372036854775809mm".toList "009223372036854775809".toList
      (-9223372036854775809) :=
    @Begins.mk "\t".toList "-".toList "009223372036854775809".toList "mm".toList true
      hblank (leaves_cons rfl) .minus nofun hdigits (leaves_cons rfl)
  have hne : "009223372036854775809".toList ≠ [] := by decide
  obtain ⟨-, hread, hback⟩ := integers_clamped "\t-009223372036854775809mm"
  obtain ⟨-, -, hsome, -, hkinds⟩ := hread _ _ hbegins
  obtain ⟨hint32, -, -, huint32, -⟩ := hkinds "k"
  have hrange : int64Min ≤ int64Max := by decide
  obtain ⟨hleading, hint64⟩ := hback int64Min (Int.le_refl _) hrange
  exact ⟨hbegins, (hsome hne).trans (by decide), hint32.trans rfl, huint32.trans rfl, hne,
    Int.le_refl _, hrange, hleading, hint64 "k"⟩

end PrintSettings.Value.Kind
