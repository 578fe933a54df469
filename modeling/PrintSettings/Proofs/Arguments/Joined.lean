import PrintSettings.Proofs.Arguments.Reader
import PrintSettings.Scope.Store

/-! # Lines that two stores share

Values are escaped in a line of arguments and keys are not, so a key may hold a whole pair in quoted
form and the mark after it (`Joined`). An entry with such a key is written as two entries are
(`joined_iff_ofPairs_eq`). Nothing else makes lines ambiguous: stores without joined keys that give
the same line hold the same nonempty texts (`ofPairs_injective`).

* `append_opening_inj`: the last pair of a line is found from the end of the line.
* `exists_of_append_mark`: no mark begins or ends inside the value of that pair. -/

namespace PrintSettings.Arguments

open PrintSettings.Text

/-! ## Joined keys -/

/-- The key holds a pair in quoted form, with a mark and the rest of the key after it. -/
def Joined (key : String) : Prop :=
  ∃ (p : Pair) (rest : String), p.value ≠ "" ∧ key = p.quoted ++ " -s " ++ rest

theorem not_joined_of_not_mem {key : String} (h : '"' ∉ key.toList) : ¬ Joined key := by
  rintro ⟨p, rest, -, rfl⟩
  simp [Pair.toList_quoted] at h

/-! ## The end of a quoted pair -/

/-- What is written between a key and the closing quote. -/
def opening (value : String) : List Char := '=' :: '"' :: escapeChars value.toList

theorem toList_quoted_eq_opening (p : Pair) :
    p.quoted.toList = p.key.toList ++ opening p.value ++ ['"'] := by
  simp [Pair.toList_quoted, opening]

/-- A character is written as it is, if it may stand between quotes, or after a backslash. -/
theorem escapeChar_cases (c : Char) :
    (escapeChar c = [c] ∧ c ≠ '\\' ∧ c ≠ '"' ∧ c ≠ ' ') ∨ ∃ d, escapeChar c = ['\\', d] := by
  unfold escapeChar
  split
  case h_8 =>
    split
    next => exact .inr ⟨c, rfl⟩
    next h =>
      simp only [Bool.or_eq_true, beq_iff_eq, not_or] at h
      exact .inl ⟨rfl, h.1.1.1, h.1.2, h.2⟩
  all_goals exact .inr ⟨_, rfl⟩

theorem guarded_escapeChar {c d : Char} {before after : List Char} (hd : d = '"' ∨ d = ' ')
    (h : escapeChar c = before ++ d :: after) : before = ['\\'] := by
  rcases escapeChar_cases c with ⟨hc, -, hquote, hspace⟩ | ⟨e, hc⟩
  · rw [hc, List.singleton_eq_append_iff] at h
    simp_all
  · rw [hc] at h
    rcases before with - | ⟨b, - | ⟨b', before⟩⟩
    · obtain ⟨rfl, -⟩ := List.cons_eq_cons.1 h
      simp at hd
    · obtain ⟨rfl, -⟩ := List.cons_eq_cons.1 h
      rfl
    · simp at h

theorem guarded_escapeChars {d : Char} (hd : d = '"' ∨ d = ' ') {text before after : List Char}
    (h : escapeChars text = before ++ d :: after) : ∃ before', before = before' ++ ['\\'] := by
  induction text generalizing before with
  | nil => simp [escapeChars] at h
  | cons c text ih =>
    have h : escapeChar c ++ escapeChars text = before ++ d :: after := h
    rcases List.append_eq_append_iff.1 h with ⟨inner, rfl, hrest⟩ | ⟨inner, hc, hrest⟩
    · obtain ⟨inner', rfl⟩ := ih hrest
      exact ⟨escapeChar c ++ inner', by simp⟩
    · cases inner with
      | nil =>
        have hrest' : escapeChars text = [] ++ d :: after := hrest.symm
        obtain ⟨_, hnil⟩ := ih hrest'
        simp at hnil
      | cons d' inner =>
        obtain ⟨rfl, -⟩ := List.cons_eq_cons.1 hrest
        exact ⟨[], guarded_escapeChar hd hc⟩

theorem opening_injective {value value' : String} (h : opening value = opening value') :
    value = value' := by
  simp only [opening, List.cons_eq_cons, true_and] at h
  have htext := congrArg unescapeChars h
  rwa [unescapeChars_escapeChars, unescapeChars_escapeChars, String.toList_inj] at htext

/-- What is written between a key and the closing quote does not end in the same of another pair. -/
theorem eq_nil_of_opening_eq_append {value value' : String} {inner : List Char}
    (h : opening value = inner ++ opening value') : inner = [] := by
  rcases inner with - | ⟨c, - | ⟨c', inner⟩⟩
  · rfl
  · simp [opening] at h
  · simp only [opening, List.cons_append, List.cons_eq_cons] at h
    obtain ⟨-, -, h⟩ := h
    -- the other opening quote would stand after an equals sign, not after a backslash
    have hquote : escapeChars value.toList =
        (inner ++ ['=']) ++ '"' :: escapeChars value'.toList := by simpa using h
    obtain ⟨inner', hguard⟩ := guarded_escapeChars (.inl rfl) hquote
    exact absurd (List.append_inj_right' hguard rfl) (by decide)

/-- The last key and the last text of a line are found from its end. -/
theorem append_opening_inj {before before' : List Char} {value value' : String}
    (h : before ++ opening value = before' ++ opening value') :
    before = before' ∧ value = value' := by
  rcases List.append_eq_append_iff.1 h with ⟨inner, rfl, hv⟩ | ⟨inner, rfl, hv⟩
  · obtain rfl := eq_nil_of_opening_eq_append hv
    exact ⟨(List.append_nil _).symm, opening_injective hv⟩
  · obtain rfl := eq_nil_of_opening_eq_append hv
    exact ⟨List.append_nil _, (opening_injective hv).symm⟩

theorem guarded_opening {value : String} {before after : List Char}
    (h : opening value = before ++ ' ' :: after) : ∃ before', before = before' ++ ['\\'] := by
  rcases before with - | ⟨c, - | ⟨c', before⟩⟩
  · simp [opening] at h
  · simp [opening] at h
  · simp only [opening, List.cons_append, List.cons_eq_cons] at h
    obtain ⟨-, -, h⟩ := h
    obtain ⟨before', rfl⟩ := guarded_escapeChars (.inr rfl) h
    exact ⟨c :: c' :: before', rfl⟩

/-- A mark does not end within a text in quotes. -/
theorem exists_of_append_mark {before before' rest : List Char} {value : String}
    (h : before ++ mark ++ rest = before' ++ opening value) :
    ∃ key, rest = key ++ opening value := by
  rcases List.append_eq_append_iff.1 h with ⟨key, -, hrest⟩ | ⟨inner, hmark, hv⟩
  · exact ⟨key, hrest⟩
  rcases inner.eq_nil_or_concat' with rfl | ⟨inner, c, rfl⟩
  · exact ⟨[], hv.symm⟩
  have hend : (before ++ [' ', '-', 's']) ++ [' '] = (before' ++ inner) ++ [c] := by
    rw [List.append_assoc before' inner, ← hmark, List.append_assoc]
    rfl
  obtain ⟨hs, hc⟩ := List.append_inj' hend rfl
  obtain rfl : ' ' = c := List.singleton_inj.1 hc
  -- the last blank of the mark would stand after a backslash
  obtain ⟨inner', rfl⟩ := guarded_opening (hv.trans (List.append_assoc ..))
  have hguard : (before ++ [' ', '-']) ++ ['s'] = (before' ++ inner') ++ ['\\'] := by
    simpa using hs
  exact absurd (List.append_inj_right' hguard rfl) (by decide)

/-! ## Lines -/

theorem toList_ofPairs_append (pairs : List Pair) (p : Pair) :
    (ofPairs (pairs ++ [p])).toList =
      ((ofPairs pairs).toList ++ mark ++ p.key.toList) ++ opening p.value ++ ['"'] := by
  induction pairs with
  | nil => simp [ofPairs, mark, toList_quoted_eq_opening]
  | cons q pairs ih =>
    rw [List.cons_append, toList_ofPairs_cons, ih, toList_ofPairs_cons]
    simp

theorem exists_of_append_cons {c : Char} {l key extra rest : List Char} (hc : c ∉ l)
    (h : l ++ key = extra ++ c :: rest) : ∃ part, extra = l ++ part ∧ key = part ++ c :: rest := by
  rcases List.append_eq_append_iff.1 h with ⟨part, hextra, hkey⟩ | ⟨inner, rfl, hrest⟩
  · exact ⟨part, hextra, hkey⟩
  · rcases inner with - | ⟨c', inner⟩
    · exact ⟨[], by simp, hrest.symm⟩
    · obtain ⟨rfl, -⟩ := List.cons_eq_cons.1 hrest
      simp at hc

/-- A line does not go on with a mark within a key that is not joined. -/
theorem eq_nil_of_append_mark {pairs : List Pair} (hne : ∀ p ∈ pairs, p.value ≠ "")
    {before extra : List Char} {key key' : String} (hkey : ¬ Joined key)
    (hline : (ofPairs pairs).toList = before ++ extra)
    (h : mark ++ key.toList = extra ++ (mark ++ key'.toList)) : extra = [] := by
  rcases extra.eq_nil_or_concat' with rfl | ⟨extra, c, rfl⟩
  · rfl
  exfalso
  rcases pairs.eq_nil_or_concat' with rfl | ⟨pairs, p, rfl⟩
  · simpa [ofPairs] using congrArg List.length hline
  -- what the line goes on with ends in the closing quote of its last pair
  rw [toList_ofPairs_append, ← List.append_assoc] at hline
  obtain ⟨hopen, hc⟩ := List.append_inj' hline rfl
  obtain rfl : '"' = c := List.singleton_inj.1 hc
  rw [List.append_assoc, List.singleton_append] at h
  obtain ⟨part, rfl, hkeyText⟩ := exists_of_append_cons (by decide) h
  rw [← List.append_assoc] at hopen
  obtain ⟨name, rfl⟩ := exists_of_append_mark hopen.symm
  refine hkey ⟨⟨.ofList name, p.value⟩, key', hne p (by simp), ?_⟩
  rw [← String.toList_inj, hkeyText]
  simp [toList_quoted_eq_opening, mark]

/-- **Lines of pairs whose keys are not joined are the same only for the same pairs.** -/
theorem ofPairs_injective {pairs pairs' : List Pair}
    (hne : ∀ p ∈ pairs, p.value ≠ "") (hne' : ∀ p ∈ pairs', p.value ≠ "")
    (hkeys : ∀ p ∈ pairs, ¬ Joined p.key) (hkeys' : ∀ p ∈ pairs', ¬ Joined p.key)
    (h : ofPairs pairs = ofPairs pairs') : pairs = pairs' := by
  induction pairs using List.reverseRecOn generalizing pairs' with
  | nil =>
    rcases pairs'.eq_nil_or_concat' with rfl | ⟨pairs', p', rfl⟩
    · rfl
    · have hlen := congrArg (·.toList.length) h
      simp [ofPairs] at hlen
  | append_singleton pairs p ih =>
    rcases pairs'.eq_nil_or_concat' with rfl | ⟨pairs', p', rfl⟩
    · have hlen := congrArg (·.toList.length) h
      simp [ofPairs] at hlen
    simp only [List.forall_mem_append, List.forall_mem_singleton] at hne hne' hkeys hkeys'
    rw [← String.toList_inj, toList_ofPairs_append, toList_ofPairs_append] at h
    obtain ⟨hkey, hvalue⟩ := append_opening_inj (List.append_cancel_right h)
    simp only [List.append_assoc] at hkey
    obtain ⟨hline, hkey⟩ :
        (ofPairs pairs).toList = (ofPairs pairs').toList ∧ p.key.toList = p'.key.toList := by
      rcases List.append_eq_append_iff.1 hkey with ⟨extra, hextra, hrest⟩ | ⟨extra, hextra, hrest⟩
      · obtain rfl := eq_nil_of_append_mark hne'.1 hkeys.2 hextra hrest
        exact ⟨by simpa using hextra.symm, by simpa using hrest⟩
      · obtain rfl := eq_nil_of_append_mark hne.1 hkeys'.2 hextra hrest
        exact ⟨by simpa using hextra, by simpa using hrest.symm⟩
    obtain rfl : p = p' := by
      cases p
      cases p'
      exact congrArg₂ Pair.mk (String.toList_inj.1 hkey) hvalue
    rw [ih hne.1 hne'.1 hkeys.1 hkeys'.1 (String.toList_inj.1 hline)]

/-- A pair is written as two pairs are exactly if its key is joined. -/
theorem joined_iff_ofPairs_eq {p : Pair} (hp : p.value ≠ "") :
    Joined p.key ↔
      ∃ a b : Pair, a.value ≠ "" ∧ b.value ≠ "" ∧ ofPairs [p] = ofPairs [a, b] := by
  have hwritten (a b : Pair) : (ofPairs [a, b]).toList =
      (mark ++ (a.quoted ++ " -s " ++ b.key).toList) ++ opening b.value ++ ['"'] := by
    simp [ofPairs, mark, toList_quoted_eq_opening]
  have hsingle : (ofPairs [p]).toList = (mark ++ p.key.toList) ++ opening p.value ++ ['"'] := by
    simp [ofPairs, mark, toList_quoted_eq_opening]
  constructor
  · rintro ⟨a, rest, ha, hkey⟩
    refine ⟨a, ⟨rest, p.value⟩, ha, hp, ?_⟩
    rw [← String.toList_inj, hwritten, hsingle, hkey]
  · rintro ⟨a, b, ha, -, h⟩
    rw [← String.toList_inj, hwritten, hsingle] at h
    obtain ⟨hkey, -⟩ := append_opening_inj (List.append_cancel_right h)
    exact ⟨a, b.key, ha, String.toList_inj.1 (List.append_cancel_left hkey)⟩

/-! ## Stores -/

/-- The entries of a store that its line holds. -/
def writtenPairs {σ : Type} (s : Store σ) : List Pair := s.pairs.filter (·.value ≠ "")

theorem value_ne_of_mem_writtenPairs {σ : Type} {s : Store σ} {p : Pair}
    (h : p ∈ writtenPairs s) : p.value ≠ "" := by
  simpa using List.of_mem_filter h

/-- **Stores without joined keys are told apart by their lines.** Two of them give the same line
exactly if they have the same nonempty entries; and an entry looks like two others exactly if its
key is joined. -/
theorem arguments_eq_iff_of_not_joined {σ τ : Type} {s : Store σ} {t : Store τ}
    (hs : ∀ p ∈ writtenPairs s, ¬ Joined p.key) (ht : ∀ p ∈ writtenPairs t, ¬ Joined p.key) :
    (s.arguments = t.arguments ↔ writtenPairs s = writtenPairs t) ∧
    ∀ p : Pair, p.value ≠ "" → (Joined p.key ↔
      ∃ a b : Pair, a.value ≠ "" ∧ b.value ≠ "" ∧ ofPairs [p] = ofPairs [a, b]) := by
  refine ⟨⟨fun h => ?_, fun h => congrArg ofPairs h⟩, fun p hp => joined_iff_ofPairs_eq hp⟩
  exact ofPairs_injective (fun _ => value_ne_of_mem_writtenPairs)
    (fun _ => value_ne_of_mem_writtenPairs) hs ht h

/-- Two speeds, written in either order. -/
theorem arguments_eq_iff_of_not_joined_twoSpeeds :
    let s : Store Unit := (Store.root.setAll ∅ [⟨"print", "60"⟩, ⟨"move", "\" -s "⟩]).value
    let t : Store Unit := (Store.root.setAll ∅ [⟨"move", "\" -s "⟩, ⟨"print", "60"⟩]).value
    (∀ p ∈ writtenPairs s, ¬ Joined p.key) ∧ (∀ p ∈ writtenPairs t, ¬ Joined p.key) ∧
      s.arguments = t.arguments ∧ writtenPairs s = writtenPairs t := by
  intro s t
  have hkeys : ∀ u : Store Unit, (∀ p ∈ writtenPairs u, '"' ∉ p.key.toList) →
      ∀ p ∈ writtenPairs u, ¬ Joined p.key :=
    fun u hu p hp => not_joined_of_not_mem (hu p hp)
  have hs := hkeys s (by decide)
  have ht := hkeys t (by decide)
  have hline : s.arguments = t.arguments := by decide
  exact ⟨hs, ht, hline, (arguments_eq_iff_of_not_joined hs ht).1.1 hline⟩

/-- A store with one entry whose key is joined gives the line of a store with two. -/
theorem not_writtenPairs_eq_of_arguments_eq :
    ∃ s t : Store Unit, s = (Store.root.setAll ∅ [⟨"a", "1"⟩, ⟨"b", "2"⟩]).value ∧
      t = (Store.root.setAll ∅ [⟨"a=\"1\" -s b", "2"⟩]).value ∧
      s.arguments = t.arguments ∧ writtenPairs s ≠ writtenPairs t :=
  ⟨_, _, rfl, rfl, by decide, by decide⟩

end PrintSettings.Arguments
