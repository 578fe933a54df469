import Mathlib.Algebra.Ring.Parity
import Mathlib.Data.Bool.AllAny
import Mathlib.Data.List.DropRight
import PrintSettings.Text.Quoted

/-! # Escaped texts

What a text is escaped to consists of plain characters and of pairs of a backslash and another
character (`Escaped`), and every such text is an escaped one. So a backslash always belongs to a
pair: an odd number of them in a row takes the next character along, an even number does not
(`odd_backslashes_append`). A blank or a quote only occurs as the second half of a pair, and the end
of the text is never in the middle of one, so nothing in it ends or splits a quoted argument
(`escape_seals`). -/

namespace PrintSettings.Text

/-! ## The written form -/

/-- Bell, backspace, tab, line feed, vertical tab, form feed, carriage return. -/
def controls : List Char := ['\x07', '\x08', '\t', '\n', '\x0b', '\x0c', '\r']

/-- The letters that stand for control characters after a backslash. -/
def letters : List Char := ['a', 'b', 't', 'n', 'v', 'f', 'r']

/-- Characters that stand for themselves after a backslash: the backslash, the quotes, the blank. -/
def marks : List Char := ['\\', '\x27', '"', ' ']

/-- Plain characters, and pairs of a backslash and a letter or a mark. -/
inductive Escaped : List Char → Prop where
  | nil : Escaped []
  | plain {c : Char} {rest : List Char} : c ∉ controls → c ∉ marks → Escaped rest →
    Escaped (c :: rest)
  | pair {c : Char} {rest : List Char} : c ∈ letters ∨ c ∈ marks → Escaped rest →
    Escaped ('\\' :: c :: rest)

variable {text before after : List Char} {c : Char}

theorem escapeChar_plain (hcontrol : c ∉ controls) (hmark : c ∉ marks) : escapeChar c = [c] := by
  simp only [controls, marks, List.mem_cons, List.not_mem_nil, or_false, not_or] at hcontrol hmark
  unfold escapeChar
  split <;> simp_all

theorem escapeChar_cases (c : Char) : c ∉ controls ∧ c ∉ marks ∨
    ∃ d, (d ∈ letters ∨ d ∈ marks) ∧ escapeChar c = ['\\', d] := by
  by_cases hcontrol : c ∈ controls
  · right
    simp only [controls, List.mem_cons, List.not_mem_nil, or_false] at hcontrol
    rcases hcontrol with rfl | rfl | rfl | rfl | rfl | rfl | rfl <;>
      exact ⟨_, .inl (by decide), rfl⟩
  · by_cases hmark : c ∈ marks
    · right
      refine ⟨c, .inr hmark, ?_⟩
      simp only [marks, List.mem_cons, List.not_mem_nil, or_false] at hmark
      rcases hmark with rfl | rfl | rfl | rfl <;> rfl
    · exact .inl ⟨hcontrol, hmark⟩

theorem escaped_escapeChars (text : List Char) : Escaped (escapeChars text) := by
  induction text with
  | nil => exact .nil
  | cons c text ih =>
    rw [escapeChars, List.flatMap_cons]
    rcases escapeChar_cases c with ⟨hcontrol, hmark⟩ | ⟨d, hd, hpair⟩
    · rw [escapeChar_plain hcontrol hmark]
      exact .plain hcontrol hmark ih
    · rw [hpair]
      exact .pair hd ih

theorem escapeChar_unescapeChar (h : c ∈ letters ∨ c ∈ marks) :
    escapeChar (unescapeChar c) = ['\\', c] := by
  have hpairs : ∀ c ∈ letters ++ marks, escapeChar (unescapeChar c) = ['\\', c] :=
    List.all_iff_forall_prop.1 (by decide)
  exact hpairs c (List.mem_append.2 h)

theorem Escaped.escapeChars_unescapeChars (h : Escaped text) :
    escapeChars (unescapeChars text) = text := by
  induction h with
  | nil => rfl
  | @plain c rest hcontrol hmark _ ih =>
    have hne : c ≠ '\\' := fun h => hmark (by rw [h]; decide)
    rw [unescapeChars_cons hne, escapeChars, List.flatMap_cons, escapeChar_plain hcontrol hmark]
    exact congrArg (c :: ·) ih
  | @pair c rest hc _ ih =>
    rw [unescapeChars, escapeChars, List.flatMap_cons, escapeChar_unescapeChar hc]
    exact congrArg ('\\' :: c :: ·) ih

/-- **The texts in written form are those that are written again as they are.** -/
theorem escapeChars_unescapeChars_iff :
    escapeChars (unescapeChars text) = text ↔ Escaped text :=
  ⟨fun h => h ▸ escaped_escapeChars _, Escaped.escapeChars_unescapeChars⟩

theorem Escaped.not_mem_controls (h : Escaped text) : ∀ c ∈ text, c ∉ controls := by
  have hpair : ∀ c ∈ '\\' :: (letters ++ marks), c ∉ controls :=
    List.all_iff_forall_prop.1 (by decide)
  induction h with
  | nil => exact List.forall_mem_nil _
  | plain hcontrol _ _ ih => exact List.forall_mem_cons.2 ⟨hcontrol, ih⟩
  | @pair c rest hc _ ih =>
    have hsecond := hpair c (List.mem_cons_of_mem _ (List.mem_append.2 hc))
    exact List.forall_mem_cons.2
      ⟨hpair '\\' List.mem_cons_self, List.forall_mem_cons.2 ⟨hsecond, ih⟩⟩

/-! ## Runs of backslashes -/

/-- The number of backslashes at the end of a text. -/
def backslashes (text : List Char) : Nat := (text.rtakeWhile (· == '\\')).length

theorem odd_backslashes_concat (text : List Char) (c : Char) :
    Odd (backslashes (text ++ [c])) ↔ c = '\\' ∧ ¬ Odd (backslashes text) := by
  unfold backslashes
  rw [List.rtakeWhile_concat]
  by_cases h : c = '\\'
  · rw [if_pos (by rw [h]; rfl), List.length_append, List.length_singleton, Nat.odd_add_one]
    simp [h]
  · rw [if_neg (by rwa [beq_iff_eq])]
    simp [h]

/-- After an even number of backslashes, whether the next ones are odd in number is seen from what
follows alone. -/
theorem odd_backslashes_append (h : ¬ Odd (backslashes before)) (text : List Char) :
    Odd (backslashes (before ++ text)) ↔ Odd (backslashes text) := by
  induction text using List.reverseRecOn with
  | nil =>
    rw [List.append_nil]
    exact iff_of_false h (by decide)
  | append_singleton text c ih =>
    rw [← List.append_assoc, odd_backslashes_concat, odd_backslashes_concat, ih]

theorem not_odd_backslashes_singleton (h : c ≠ '\\') : ¬ Odd (backslashes [c]) :=
  fun hodd => h ((odd_backslashes_concat [] c).1 hodd).1

theorem not_odd_backslashes_pair (c : Char) : ¬ Odd (backslashes ['\\', c]) :=
  fun hodd => ((odd_backslashes_concat ['\\'] c).1 hodd).2 (by decide)

namespace Escaped

theorem not_odd_backslashes (h : Escaped text) : ¬ Odd (backslashes text) := by
  induction h with
  | nil => decide
  | @plain c rest _ hmark _ ih =>
    have hne : c ≠ '\\' := fun h => hmark (by rw [h]; decide)
    exact mt (odd_backslashes_append (not_odd_backslashes_singleton hne) rest).1 ih
  | @pair c rest _ _ ih => exact mt (odd_backslashes_append (not_odd_backslashes_pair c) rest).1 ih

/-- A quote or a blank in a written text is the second half of a pair. -/
theorem odd_backslashes (h : Escaped text) (htext : text = before ++ c :: after)
    (hmark : c ∈ marks) (hne : c ≠ '\\') : Odd (backslashes before) := by
  induction h generalizing before with
  | nil => exact absurd htext (by simp)
  | @plain d rest _ hplain _ ih =>
    cases before with
    | nil =>
      obtain ⟨rfl, -⟩ := List.cons.inj htext
      exact absurd hmark hplain
    | cons x before =>
      obtain ⟨rfl, hrest⟩ := List.cons.inj htext
      have hd : d ≠ '\\' := fun h => hplain (by rw [h]; decide)
      exact (odd_backslashes_append (not_odd_backslashes_singleton hd) before).2 (ih hrest)
  | @pair d rest _ _ ih =>
    match before with
    | [] =>
      obtain ⟨rfl, -⟩ := List.cons.inj htext
      exact absurd rfl hne
    | [x] =>
      obtain ⟨rfl, -⟩ := List.cons.inj htext
      decide
    | x :: y :: before =>
      obtain ⟨rfl, hpair⟩ := List.cons.inj htext
      obtain ⟨rfl, hrest⟩ := List.cons.inj hpair
      exact (odd_backslashes_append (not_odd_backslashes_pair d) before).2 (ih hrest)

end Escaped

/-! ## Texts -/

theorem toList_escape (v : String) : (escape v).toList = escapeChars v.toList :=
  String.toList_ofList

theorem escape_append (v w : String) : escape (v ++ w) = escape v ++ escape w := by
  simp only [escape, escapeChars, String.toList_append, List.flatMap_append, String.ofList_append]

theorem escape_unescape_iff (t : String) : escape (unescape t) = t ↔ Escaped t.toList := by
  rw [← escapeChars_unescapeChars_iff, ← String.toList_inj, toList_escape, unescape,
    String.toList_ofList]

/-- **Escaping leaves nothing that ends or splits a quoted argument.** There are no control
characters in an escaped text, an odd number of backslashes stands before every blank and every
quote, and an even number at the end. Texts are escaped piece by piece, and the texts that are
escaped again as they are after reading them are exactly the escaped ones, which have one form. -/
theorem escape_seals :
    (∀ v, ∀ c ∈ (escape v).toList, c ∉ ['\x07', '\x08', '\t', '\n', '\x0b', '\x0c', '\r']) ∧
    (∀ v before c after, (escape v).toList = before ++ c :: after → c ∈ [' ', '"', '\x27'] →
      Odd (backslashes before)) ∧
    (∀ v, Even (backslashes (escape v).toList)) ∧
    (∀ v w, escape (v ++ w) = escape v ++ escape w) ∧
    ∀ t, (escape (unescape t) = t ↔ ∃ v, escape v = t) ∧
      ((∃ v, escape v = t) ↔ Escaped t.toList) := by
  have hwritten : ∀ v, Escaped (escape v).toList := fun v => by
    rw [toList_escape]
    exact escaped_escapeChars v.toList
  have hmarks : ∀ c ∈ [' ', '"', '\x27'], c ∈ marks ∧ c ≠ '\\' :=
    List.all_iff_forall_prop.1 (by decide)
  have himage : ∀ t, (∃ v, escape v = t) ↔ Escaped t.toList := fun t =>
    ⟨fun ⟨v, h⟩ => h ▸ hwritten v, fun h => ⟨unescape t, (escape_unescape_iff t).2 h⟩⟩
  refine ⟨fun v => (hwritten v).not_mem_controls, fun v before c after htext hc => ?_,
    fun v => Nat.not_odd_iff_even.1 (hwritten v).not_odd_backslashes, escape_append, fun t => ?_⟩
  · obtain ⟨hmark, hne⟩ := hmarks c hc
    exact (hwritten v).odd_backslashes htext hmark hne
  · rw [himage]
    exact ⟨escape_unescape_iff t, Iff.rfl⟩

/-- A tab, a backslash, a quote and a backslash: three backslashes before the quote, and two at the
end. -/
theorem escape_seals_backslashes :
    (escape "\t\\\"\\").toList = "\\t\\\\\\".toList ++ '"' :: "\\\\".toList ∧
    '"' ∈ [' ', '"', '\x27'] ∧ Odd (backslashes "\\t\\\\\\".toList) := by
  have htext : (escape "\t\\\"\\").toList = "\\t\\\\\\".toList ++ '"' :: "\\\\".toList := by decide
  have hmem : '"' ∈ [' ', '"', '\x27'] := by decide
  exact ⟨htext, hmem, escape_seals.2.1 _ _ _ _ htext hmem⟩

end PrintSettings.Text
