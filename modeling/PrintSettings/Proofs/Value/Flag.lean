import PrintSettings.Proofs.Value.Integer

/-! # Flags

A flag is true if its text is one of four words, or if the integer at the start of the text is not
zero. The digits of that integer are held to 64 bits while they are read, and what comes out is held
to 32 bits after that. Zero lies inside both ranges, so nothing else is brought to zero
(`clamp_eq_zero_iff`): one digit other than zero makes the flag true, wherever it stands and however
many digits there are (`read_flag`). -/

namespace PrintSettings.Numeric

open PrintSettings.Numeric.Binary64 (signed)

variable {text digits : List Char} {n lo hi : Int}

/-! ## Zero -/

theorem clamp_eq_zero_iff (hlo : lo < 0) (hhi : 0 < hi) (n : Int) : clamp lo hi n = 0 ↔ n = 0 := by
  unfold clamp
  omega

theorem signed_eq_zero_iff (negative : Bool) (m : Nat) : signed negative m = 0 ↔ m = 0 := by
  cases negative
  · exact Int.natCast_eq_zero
  · exact Int.neg_eq_zero.trans Int.natCast_eq_zero

theorem isDigit_sub_eq_zero_iff {c : Char} (h : c.isDigit) :
    c.toNat - '0'.toNat = 0 ↔ c = '0' := by
  have hlow : '0'.toNat ≤ c.toNat := (Char.isDigit_iff_toNat.1 h).1
  constructor
  · intro h0
    exact Char.toNat_inj.1 (by omega)
  · rintro rfl
    rfl

theorem ofDigitChars_eq_zero_iff (h : AllDigits digits) (m : Nat) :
    Nat.ofDigitChars 10 digits m = 0 ↔ m = 0 ∧ ∀ c ∈ digits, c = '0' := by
  induction digits generalizing m with
  | nil => simp
  | cons c digits ih =>
    have hdigit := isDigit_sub_eq_zero_iff (h c List.mem_cons_self)
    have hsum : 10 * m + (c.toNat - '0'.toNat) = 0 ↔ m = 0 ∧ c.toNat - '0'.toNat = 0 := by omega
    rw [Nat.ofDigitChars_cons, ih fun d hd => h d (List.mem_cons_of_mem c hd), hsum, hdigit,
      List.forall_mem_cons, and_assoc]

/-- **The integer of a text is not zero** exactly if one of its digits is not. -/
theorem Begins.ne_zero_iff (h : Begins text digits n) : n ≠ 0 ↔ ∃ c ∈ digits, c ≠ '0' := by
  obtain @⟨blanks, sign, digits, rest, negative, -, -, -, -, hdigits, -⟩ := h
  have hzero := ofDigitChars_eq_zero_iff hdigits 0
  rw [ne_eq, signed_eq_zero_iff, Decimal.ofDigits, hzero]
  simp

end PrintSettings.Numeric

namespace PrintSettings.Value.Kind

open PrintSettings.Numeric

/-! ## Reading -/

/-- Neither range hides an integer other than zero. -/
theorem readInt32_ne_zero_iff {text : String} {digits : List Char} {n : Int}
    (h : Begins text.toList digits n) : readInt32 text ≠ 0 ↔ n ≠ 0 := by
  rw [readInt32, h.intOrZero_eq, clamp_clamp64 (by decide) (by decide) (by decide), ne_eq,
    clamp_eq_zero_iff (by decide) (by decide)]

/-- **Flags.** Every text begins with one run of digits, after blanks and perhaps a sign. It is read
as true exactly if it is one of four words or one of these digits is not zero, which is to say that
the integer of the digits is not zero. -/
theorem read_flag (key text : String) : ∃ digits n, Begins text.toList digits n ∧
    (∀ digits' n', Begins text.toList digits' n' → digits' = digits ∧ n' = n) ∧
    ((∃ c ∈ digits, c ≠ '0') ↔ n ≠ 0) ∧
    ∃ flag, read .flag key text = pure flag ∧
      (flag = true ↔ text ∈ ["on", "yes", "true", "True"] ∨ ∃ c ∈ digits, c ≠ '0') := by
  obtain ⟨digits, n, hbegins⟩ := exists_begins text.toList
  refine ⟨digits, n, hbegins, fun _ _ => hbegins.unique, hbegins.ne_zero_iff.symm, readFlag text,
    rfl, ?_⟩
  rw [readFlag, Bool.or_eq_true, List.contains_iff_mem, bne_iff_ne, readInt32_ne_zero_iff hbegins,
    hbegins.ne_zero_iff]

/-- The number after the largest one of 64 bits, with a sign and a unit; all bits that 32 or 64 of
them could keep are zero. -/
theorem read_flag_beyondWords :
    Begins "\t-018446744073709551616mm".toList "018446744073709551616".toList
      (-18446744073709551616) ∧
    read .flag "k" "\t-018446744073709551616mm" = pure true := by
  have hblank : ∀ c ∈ "\t".toList, Text.isSpace c := List.all_eq_true.1 (by decide)
  have hdigits : AllDigits "018446744073709551616".toList := List.all_eq_true.1 (by decide)
  have hbegins : Begins "\t-018446744073709551616mm".toList "018446744073709551616".toList
      (-18446744073709551616) :=
    @Begins.mk "\t".toList "-".toList "018446744073709551616".toList "mm".toList true
      hblank (leaves_cons rfl) .minus nofun hdigits (leaves_cons rfl)
  obtain ⟨digits, n, -, hunique, hdigit, flag, hread, hflag⟩ :=
    read_flag "k" "\t-018446744073709551616mm"
  obtain ⟨rfl, rfl⟩ := hunique _ _ hbegins
  have htrue : flag = true := hflag.2 (.inr (hdigit.2 (by decide)))
  exact ⟨hbegins, by rw [hread, htrue]⟩

end PrintSettings.Value.Kind
