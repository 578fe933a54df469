import PrintSettings.Proofs.Pair.Quoted

/-! # Malformed pairs

What is wrong with an argument is said here of its characters, without the readers
(`Pair.Malformed`, `ExtruderPair.Malformed`). The readers refuse just these arguments, and say what
is wrong with them (`Pair.refuses_parse`, `ExtruderPair.refuses_parse`). -/

namespace PrintSettings

open PrintSettings.Text

/-! ## Refusals -/

/-- A reader refuses just the malformed arguments, and says what is wrong with them. -/
def Refuses {α : Type} (read : String → Except SettingError α)
    (malformed : String → ArgumentFault → Prop) : Prop :=
  ∀ arg e, read arg = .error e ↔ ∃ fault, malformed arg fault ∧ e = .invalidArgument fault

theorem Refuses.exists_ok_iff {α : Type} {read : String → Except SettingError α}
    {malformed : String → ArgumentFault → Prop} (h : Refuses read malformed) (arg : String) :
    (∃ a, read arg = .ok a) ↔ ∀ fault, ¬ malformed arg fault := by
  cases hread : read arg with
  | ok a =>
    refine iff_of_true ⟨a, rfl⟩ fun fault hfault => ?_
    rw [(h _ _).2 ⟨fault, hfault, rfl⟩] at hread
    contradiction
  | error e =>
    obtain ⟨fault, hfault, -⟩ := (h _ _).1 hread
    exact iff_of_false (fun ⟨_, h⟩ => nomatch h) fun hno => hno fault hfault

/-! ## Parts of a text -/

theorem Text.splitFirst?_eq_none_iff {mark : Char} {text : List Char} :
    splitFirst? mark text = none ↔ mark ∉ text := by
  have hnil : splitFirst? mark text = none ↔ text.dropWhile (· != mark) = [] := by
    unfold splitFirst?
    split
    next h => simp [h]
    next h => simp [h]
  rw [hnil, List.dropWhile_eq_nil_iff]
  constructor
  · exact fun h hmem => by simpa using h mark hmem
  · exact fun h c hc => by simpa using fun hcm : c = mark => h (hcm ▸ hc)

theorem Text.strip_eq_nil_iff {p : Char → Bool} {text : List Char} :
    strip p text = [] ↔ ∀ c ∈ text, p c := by
  have hstrip : strip p text = (text.dropWhile p).rdropWhile p := rfl
  rw [hstrip, List.rdropWhile_eq_nil_iff]
  constructor
  · intro h
    by_contra hne
    have hdrop : text.dropWhile p ≠ [] := fun hnil => hne (List.dropWhile_eq_nil_iff.1 hnil)
    -- what is left starts with a character that is not stripped
    have hhead := List.head_dropWhile_not p hdrop
    rw [h _ (List.head_mem hdrop)] at hhead
    contradiction
  · exact fun h c hc => h c ((List.dropWhile_sublist p).subset hc)

/-! ## Pairs -/

namespace Pair

/-- What is wrong with an argument that is no pair: it has no equals sign, or only blanks before the
first one. -/
inductive Malformed (arg : String) : ArgumentFault → Prop where
  | noEquals : '=' ∉ arg.toList → Malformed arg (.noEquals arg)
  | noKey {before value : List Char} : arg.toList = before ++ '=' :: value →
    (∀ c ∈ before, isBlank c) → Malformed arg (.noKey arg)

/-- **What is refused as a pair is malformed.** -/
theorem refuses_parse : Refuses parse Malformed := by
  intro arg e
  constructor
  · intro h
    unfold parse at h
    split at h
    next hs =>
      cases h
      exact ⟨_, .noEquals (splitFirst?_eq_none_iff.1 hs), rfl⟩
    next before value hs =>
      dsimp only at h
      split at h
      next hempty =>
        cases h
        rw [List.isEmpty_iff, strip_eq_nil_iff] at hempty
        exact ⟨_, .noKey (splitFirst?_eq_some hs) hempty, rfl⟩
      next => contradiction
  · rintro ⟨fault, hfault, rfl⟩
    unfold parse
    cases hfault with
    | noEquals h => rw [splitFirst?_eq_none_iff.2 h]
    | noKey harg hblank =>
      have hmark : '=' ∉ _ := fun hmem => absurd (hblank '=' hmem) (by decide)
      rw [harg, splitFirst?_append hmark]
      simp [strip_eq_nil_iff.2 hblank]

end Pair

/-! ## Indices -/

/-- The text is the decimal number of an index, which has 64 bits, with at most one plus sign. -/
def IsIndex (text : List Char) (n : Nat) : Prop :=
  ∃ digits, (text = digits ∨ text = '+' :: digits) ∧ digits ≠ [] ∧ (∀ c ∈ digits, c.isDigit) ∧
    Nat.ofDigitChars 10 digits 0 = n ∧ n < 0x10000000000000000

theorem le_ofDigitChars (text : List Char) (n : Nat) : n ≤ Nat.ofDigitChars 10 text n := by
  induction text generalizing n with
  | nil => exact Nat.le_refl n
  | cons c text ih =>
    rw [Nat.ofDigitChars_cons]
    exact Nat.le_trans (by omega) (ih _)

theorem indexFrom_eq_ok_iff {text : List Char} {start n : Nat}
    (hstart : start < 0x10000000000000000) :
    indexFrom start text = .ok n ↔
      (∀ c ∈ text, c.isDigit) ∧ Nat.ofDigitChars 10 text start = n ∧ n < 0x10000000000000000 := by
  induction text generalizing start with
  | nil =>
    simp only [indexFrom, Except.ok.injEq, Nat.ofDigitChars_nil]
    exact ⟨fun h => ⟨by simp, h, h ▸ hstart⟩, fun h => h.2.1⟩
  | cons c text ih =>
    rw [Nat.ofDigitChars_cons, List.forall_mem_cons]
    simp only [indexFrom]
    split
    next hc => simp_all
    next hc =>
      split
      next hlarge =>
        -- what is too large stays too large
        have hle := le_ofDigitChars text (10 * start + (c.toNat - '0'.toNat))
        exact iff_of_false (fun h => nomatch h) fun h => by omega
      next hsmall =>
        rw [ih (by omega)]
        simp_all

/-- **Indices are read as what they are.** -/
theorem parseIndex_eq_ok_iff {text : List Char} {n : Nat} :
    parseIndex text = .ok n ↔ IsIndex text n := by
  have hplus : '+'.isDigit = false := by decide
  unfold parseIndex IsIndex
  split
  next =>
    refine iff_of_false (fun h => nomatch h) ?_
    rintro ⟨digits, h | h, hne, -⟩
    · exact hne h.symm
    · contradiction
  next =>
    refine iff_of_false (fun h => nomatch h) ?_
    rintro ⟨digits, rfl | h, hne, hdigits, -⟩
    · simpa [hplus] using hdigits '+' (by simp)
    · exact hne (List.cons_eq_cons.1 h).2.symm
  next digits hne =>
    rw [indexFrom_eq_ok_iff (by decide)]
    constructor
    · rintro ⟨hdigits, hn, hlt⟩
      exact ⟨digits, .inr rfl, fun hnil => hne (by rw [hnil]), hdigits, hn, hlt⟩
    · rintro ⟨digits', rfl | h, -, hdigits, hn, hlt⟩
      · simpa [hplus] using hdigits '+' (by simp)
      · obtain rfl := (List.cons_eq_cons.1 h).2
        exact ⟨hdigits, hn, hlt⟩
  next hne _ hsign =>
    rw [indexFrom_eq_ok_iff (by decide)]
    constructor
    · rintro ⟨hdigits, hn, hlt⟩
      exact ⟨text, .inl rfl, fun hnil => hne hnil, hdigits, hn, hlt⟩
    · rintro ⟨digits, rfl | rfl, -, hdigits, hn, hlt⟩
      · exact ⟨hdigits, hn, hlt⟩
      · exact absurd rfl (hsign digits)

/-! ## Pairs for extruders -/

namespace ExtruderPair

/-- What is wrong with an argument that is no pair for an extruder: it has no colon, there is no
index before the first one, or no pair after it. -/
inductive Malformed (arg : String) : ArgumentFault → Prop where
  | noColon : ':' ∉ arg.toList → Malformed arg (.noColon arg)
  | badIndex {number rest : List Char} {fault : IndexFault} : arg.toList = number ++ ':' :: rest →
    ':' ∉ number → (∀ n, ¬ IsIndex (strip isBlank number) n) →
    parseIndex (strip isBlank number) = .error fault → Malformed arg (.badIndex arg fault)
  | badPair {number rest : List Char} {n : Nat} {fault : ArgumentFault} :
    arg.toList = number ++ ':' :: rest → ':' ∉ number → IsIndex (strip isBlank number) n →
    Pair.Malformed (.ofList rest) fault → Malformed arg fault

/-- **What is refused as a pair for an extruder is malformed.** -/
theorem refuses_parse : Refuses parse Malformed := by
  intro arg e
  constructor
  · intro h
    unfold parse at h
    split at h
    next hs =>
      cases h
      exact ⟨_, .noColon (splitFirst?_eq_none_iff.1 hs), rfl⟩
    next number rest hs =>
      have harg := splitFirst?_eq_some hs
      have hcolon := not_mem_of_splitFirst? hs
      split at h
      next fault hindex =>
        cases h
        refine ⟨_, .badIndex harg hcolon (fun n hn => ?_) hindex, rfl⟩
        rw [parseIndex_eq_ok_iff.2 hn] at hindex
        contradiction
      next n hindex =>
        cases hpair : Pair.parse (.ofList rest) with
        | ok p => rw [hpair] at h; contradiction
        | error e' =>
          rw [hpair] at h
          cases h
          obtain ⟨fault, hfault, rfl⟩ := (Pair.refuses_parse _ _).1 hpair
          exact ⟨fault, .badPair harg hcolon (parseIndex_eq_ok_iff.1 hindex) hfault, rfl⟩
  · rintro ⟨fault, hfault, rfl⟩
    unfold parse
    cases hfault with
    | noColon h => rw [splitFirst?_eq_none_iff.2 h]
    | badIndex harg hcolon _ hindex =>
      rw [harg, splitFirst?_append hcolon]
      simp only [hindex]
    | badPair harg hcolon hindex hpair =>
      rw [harg, splitFirst?_append hcolon]
      simp only [parseIndex_eq_ok_iff.2 hindex, (Pair.refuses_parse _ _).2 ⟨fault, hpair, rfl⟩]
      rfl

end ExtruderPair

end PrintSettings
