import Mathlib.Data.List.DropRight
import PrintSettings.Pair

/-! # Pairs in quoted form

The key that is read from a pair is not empty, holds no equals sign and has no blanks around it
(`isKey_of_parse`). A pair with such a key is read back from its quoted form (`parse_quoted`),
whatever its value. So the quoted form of what was read says the same, and every pair with such a
key can be given (`parse_lossless`). -/

namespace PrintSettings

open PrintSettings.Text

/-! ## Texts without blanks around them -/

theorem Text.strip_strip (p : Char → Bool) (text : List Char) :
    strip p (strip p text) = strip p text := by
  have hstrip : ∀ l, strip p l = (l.dropWhile p).rdropWhile p := fun _ => rfl
  set a := text.dropWhile p with ha
  -- what is cut off at the end leaves the first character in place
  have hfirst : (a.rdropWhile p).dropWhile p = a.rdropWhile p := by
    rw [List.dropWhile_eq_self_iff]
    intro hl
    have hpre := List.rdropWhile_prefix p (l := a)
    have hla : 0 < a.length := lt_of_lt_of_le hl hpre.length_le
    rw [hpre.getElem hl]
    exact List.dropWhile_eq_self_iff.mp (by rw [ha, List.dropWhile_idempotent]) hla
  rw [hstrip text, ← ha, hstrip, hfirst, List.rdropWhile_idempotent]

theorem Text.strip_eq_self_iff {p : Char → Bool} {text : List Char} : strip p text = text ↔
    (∀ c ∈ text.head?, p c = false) ∧ ∀ c ∈ text.getLast?, p c = false := by
  have hstrip : strip p text = (text.dropWhile p).rdropWhile p := rfl
  have hhead : text.dropWhile p = text ↔ ∀ c ∈ text.head?, p c = false := by
    cases text with
    | nil => simp
    | cons c text => simp [List.dropWhile_eq_self_iff]
  have hlast : text.rdropWhile p = text ↔ ∀ c ∈ text.getLast?, p c = false := by
    rw [List.rdropWhile_eq_self_iff]
    constructor
    · intro h c hc
      obtain ⟨hne, rfl⟩ := List.mem_getLast?_eq_getLast hc
      exact Bool.eq_false_iff.2 (h hne)
    · exact fun h hne => Bool.eq_false_iff.1 (h _ (List.getLast_mem_getLast? hne))
  rw [← hhead, ← hlast, hstrip]
  constructor
  · intro h
    -- what is stripped off at one end cannot come back at the other one
    have hdrop : text.dropWhile p = text := by
      refine (List.dropWhile_suffix p).eq_of_length_le ?_
      exact (congrArg List.length h).ge.trans (List.rdropWhile_prefix p _).length_le
    exact ⟨hdrop, by rwa [hdrop] at h⟩
  · rintro ⟨hdrop, hrdrop⟩
    rw [hdrop, hrdrop]

/-! ## Keys -/

/-- A text that can stand for a name before an equals sign. -/
structure IsKey (key : String) : Prop where
  nonempty : key ≠ ""
  noEquals : '=' ∉ key.toList
  stripped : strip isBlank key.toList = key.toList

namespace Pair

/-- **The key that is read from a pair is a key.** -/
theorem isKey_of_parse {arg : String} {p : Pair} (h : Pair.parse arg = .ok p) : IsKey p.key := by
  unfold Pair.parse at h
  split at h
  · contradiction
  next before value hs =>
    dsimp only at h
    split at h
    · contradiction
    next hne =>
      cases h
      refine ⟨?_, ?_, ?_⟩
      · simpa using hne
      · rw [String.toList_ofList]
        exact fun he => not_mem_of_splitFirst? hs (mem_of_mem_strip he)
      · rw [String.toList_ofList, Text.strip_strip]

theorem unquote_escapeChars (text : List Char) :
    unquote ('"' :: (escapeChars text ++ ['"'])) = text := by
  simp [unquote, unescapeChars_escapeChars]

theorem toList_quoted (p : Pair) :
    p.quoted.toList = p.key.toList ++ '=' :: '"' :: (escapeChars p.value.toList ++ ['"']) := by
  simp [quoted, escape]

/-- **A pair is read back from its quoted form.** -/
theorem parse_quoted {p : Pair} (h : IsKey p.key) : Pair.parse p.quoted = .ok p := by
  have hne : ¬ p.key.toList.isEmpty := by
    simpa using h.nonempty
  unfold Pair.parse
  rw [toList_quoted, splitFirst?_append h.noEquals]
  simp only [h.stripped, if_neg hne, unquote_escapeChars, String.ofList_toList]

/-- **Quoting what was read loses nothing.** The quoted form of a pair that was read is read as that
pair; and the pairs that can be given are those whose key is not empty, holds no equals sign and
neither starts nor ends in a blank, with any value. -/
theorem parse_lossless :
    (∀ arg p, Pair.parse arg = .ok p → Pair.parse p.quoted = .ok p) ∧
    ∀ key value, (∃ arg, Pair.parse arg = .ok ⟨key, value⟩) ↔
      key ≠ "" ∧ '=' ∉ key.toList ∧ (∀ c ∈ key.toList.head?, isBlank c = false) ∧
        ∀ c ∈ key.toList.getLast?, isBlank c = false := by
  refine ⟨fun arg p h => parse_quoted (isKey_of_parse h), fun key value => ?_⟩
  rw [← Text.strip_eq_self_iff]
  constructor
  · rintro ⟨arg, h⟩
    have hkey := isKey_of_parse h
    exact ⟨hkey.nonempty, hkey.noEquals, hkey.stripped⟩
  · rintro ⟨hne, heq, hstrip⟩
    exact ⟨_, parse_quoted (p := ⟨key, value⟩) ⟨hne, heq, hstrip⟩⟩

/-- A lone quote stands for itself, and so does a backslash at the end of a quoted text. -/
theorem parse_lossless_loneQuote :
    Pair.parse " speed =\"" = .ok ⟨"speed", "\""⟩ ∧
    Pair.parse "speed=\"\\\"\"" = .ok ⟨"speed", "\""⟩ ∧
    Pair.parse "speed=\"\\q\\\"" = .ok ⟨"speed", "q\\"⟩ ∧
    Pair.parse "speed=\"q\\\\\"" = .ok ⟨"speed", "q\\"⟩ := by
  have hquote : Pair.parse " speed =\"" = .ok ⟨"speed", "\""⟩ := by decide
  have hslash : Pair.parse "speed=\"\\q\\\"" = .ok ⟨"speed", "q\\"⟩ := by decide
  exact ⟨hquote, parse_lossless.1 _ _ hquote, hslash, parse_lossless.1 _ _ hslash⟩

end Pair

end PrintSettings
