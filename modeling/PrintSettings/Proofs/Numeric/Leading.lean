import Mathlib.Data.List.DropRight
import PrintSettings.Proofs.Numeric.Magnitude

/-! # The longest number at the start of a text

After blanks, a number is a sign and a magnitude (`IsNumber`). The longest prefix that is a number
is scanned (`munches_scanSigned?`), and nothing after it has an effect on what is read
(`leadingFloat?_longest`). Blanks before a text (`floatOrZero_skipSpace`) and after it
(`floatOrZero_append_blanks`) have none, either. -/

namespace PrintSettings.Numeric

open PrintSettings.Text

variable {text p rest : List Char} {negative : Bool}

/-! ## Signs -/

/-- What comes before a magnitude, if anything, is a sign. -/
def Signed (P : List Char → Prop) (text : List Char) : Prop :=
  ∃ negative sign magnitude, IsSign negative sign ∧ P magnitude ∧ text = sign ++ magnitude

/-- A number: a sign and a word, a hexadecimal or a decimal. -/
def IsNumber (text : List Char) : Prop := Signed IsMagnitude text

/-- The number at the start of a text without blanks before it. -/
def scanSigned? (text : List Char) : Option (Binary64 × List Char) :=
  scanMagnitude? (takeSign text).1 (takeSign text).2

theorem isSpace_spec {c : Char} (h : isSpace c) : isSpace c.toLower ∧ c ≠ '.' ∧
    isHexDigit c = false ∧ isBinaryMark c = false ∧ isSignChar c = false ∧ c.isDigit = false ∧
    isHexMark c = false := by
  simp only [isSpace, Bool.or_eq_true, beq_iff_eq] at h
  rcases h with ((((rfl | rfl) | rfl) | rfl) | rfl) | rfl <;> decide

theorem IsWord.not_isSpace {word ending : List Char} (h : IsWord word ending p)
    (hword : (word ++ ending).any isSpace = false) : ∀ c ∈ p, isSpace c = false := by
  intro c hc
  rw [← Bool.not_eq_true]
  intro hspace
  have hmem : c.toLower ∈ p.map Char.toLower := List.mem_map_of_mem hc
  have hmem : c.toLower ∈ word ++ ending := by
    rcases h with h | h
    · exact List.mem_append_left _ (h ▸ hmem)
    · exact h ▸ hmem
  exact List.any_eq_false.1 hword _ hmem (isSpace_spec hspace).1

theorem IsHexadecimal.not_isSpace (h : IsHexadecimal p) : ∀ c ∈ p, isSpace c = false := by
  intro c hc
  rw [← Bool.not_eq_true]
  intro hspace
  obtain ⟨-, hpoint, hdigit, hmark, hsign, hdecimal, hhex⟩ := isSpace_spec hspace
  obtain ⟨hx, hscientific⟩ := h
  rcases List.mem_cons.1 hc with rfl | hc
  · contradiction
  rcases List.mem_cons.1 hc with rfl | hc
  · rw [hhex] at hx
    contradiction
  · simpa [hpoint, hdigit, hmark, hsign, hdecimal] using hscientific.forall_mem hc

theorem IsMagnitude.not_isSpace (h : IsMagnitude p) : ∀ c ∈ p, isSpace c = false := by
  rcases h with h | h | h | h
  · exact h.not_isSpace rfl
  · exact h.not_isSpace rfl
  · exact h.not_isSpace
  · exact fun c hc => (isNumeralChar_spec (h.isNumeralChar c hc)).2.2.2.2

theorem IsMagnitude.exists_head? (h : IsMagnitude p) :
    ∃ c, p.head? = some c ∧ isSignChar c = false := by
  have hlower : ∀ c : Char, c.toLower = 'i' ∨ c.toLower = 'n' → isSignChar c = false := by
    intro c hc
    rw [← Bool.not_eq_true, isSignChar, Bool.or_eq_true, beq_iff_eq, beq_iff_eq]
    rintro (rfl | rfl)
    · revert hc
      decide
    · revert hc
      decide
  rcases h with h | h | h | h
  · obtain ⟨c, hc, hi⟩ := h.exists_head?
    exact ⟨c, hc, hlower c (.inl hi)⟩
  · obtain ⟨c, hc, hn⟩ := h.exists_head?
    exact ⟨c, hc, hlower c (.inr hn)⟩
  · obtain ⟨hx, -⟩ := h
    exact ⟨'0', rfl, rfl⟩
  · obtain ⟨d, hd⟩ := isDecimal_iff.1 h
    obtain ⟨c, p, rfl⟩ := List.exists_cons_of_ne_nil h.ne_nil
    exact ⟨c, rfl, hd.leaves_isSignChar c rfl⟩

theorem IsMagnitude.leaves_isSignChar (h : IsMagnitude p) (rest : List Char) :
    Leaves isSignChar (p ++ rest) := by
  intro c hc
  obtain ⟨d, hd, hnot⟩ := h.exists_head?
  rw [head?_of_isPrefix (List.prefix_append p rest) hd, Option.mem_some_iff] at hc
  exact hc ▸ hnot

/-- **Scanning takes the longest number.** -/
theorem munches_scanSigned? : Munches IsNumber scanSigned? where
  taken := by
    intro text x rest hscan
    obtain ⟨sign, htext, hsign⟩ := exists_takeSign text
    rw [scanSigned?] at hscan
    obtain ⟨p, hp, hmagnitude, hread⟩ := (munches_scanMagnitude? _).taken hscan
    have htakeSign : takeSign (sign ++ p) = ((takeSign text).1, p) :=
      hsign.takeSign_append (List.append_nil p ▸ hmagnitude.leaves_isSignChar [])
    refine ⟨sign ++ p, ?_, ⟨_, sign, p, hsign, hmagnitude, rfl⟩, ?_⟩
    · rw [List.append_assoc, ← hp, ← htext]
    · rw [scanSigned?, htakeSign]
      exact hread
  greedy := by
    rintro _ rest ⟨negative, sign, magnitude, hsign, hmagnitude, rfl⟩
    rw [List.append_assoc, scanSigned?, hsign.takeSign_append (hmagnitude.leaves_isSignChar rest)]
    exact (munches_scanMagnitude? negative).greedy rest hmagnitude

/-! ## Reading a text -/

theorem leadingFloat?_eq (text : List Char) :
    leadingFloat? text = (scanSigned? (skipSpace text)).map (·.1) := rfl

theorem IsNumber.not_isSpace (h : IsNumber p) : ∀ c ∈ p, isSpace c = false := by
  obtain ⟨negative, sign, magnitude, hsign, hmagnitude, rfl⟩ := h
  refine List.forall_mem_append.2 ⟨fun c hc => ?_, hmagnitude.not_isSpace⟩
  exact (isNumeralChar_spec (hsign.isNumeralChar c hc)).2.2.2.2

theorem IsNumber.skipSpace_eq (h : IsNumber p) : skipSpace p = p :=
  dropWhile_of_leaves fun c hc => h.not_isSpace c (List.mem_of_head? hc)

theorem exists_denotes (h : Signed IsDecimal p) : ∃ x, Denotes p x := by
  obtain ⟨negative, sign, magnitude, hsign, hdecimal, rfl⟩ := h
  obtain ⟨d, hd⟩ := isDecimal_iff.1 hdecimal
  exact ⟨_, negative, sign, magnitude, d, hsign, hd, rfl, rfl⟩

/-- What is scanned is the longest number, and has no effect beyond itself. -/
theorem longest_of_scanSigned? {x : Binary64} (htext : skipSpace text = p ++ rest)
    (hscan : scanSigned? (p ++ rest) = some (x, rest)) :
    LongestPrefix IsNumber (skipSpace text) p ∧ leadingFloat? text = some x ∧
      leadingFloat? p = some x := by
  obtain ⟨hlongest, hread⟩ := munches_scanSigned?.longest_of_eq_some hscan
  rw [leadingFloat?_eq, leadingFloat?_eq, hlongest.mem.skipSpace_eq, hread, htext, hscan]
  exact ⟨hlongest, rfl, rfl⟩

/-- **The longest number that a text starts with is read, on its own.** Texts without a number, and
only these, give nothing. Of a decimal, what it denotes is read. A mark of a power without digits
after it, and a mark of hexadecimals without digits, are left out with all that follows. -/
theorem leadingFloat?_longest (text : List Char) :
    (leadingFloat? text = none ↔ ∀ p, p <+: skipSpace text → ¬ IsNumber p) ∧
    (leadingFloat? text ≠ none → ∃ p, LongestPrefix IsNumber (skipSpace text) p) ∧
    (∀ p, LongestPrefix IsNumber (skipSpace text) p → ∃ x, leadingFloat? text = some x ∧
      leadingFloat? p = some x ∧ (Signed IsDecimal p → Denotes p x)) ∧
    (∀ negative sign p mark rest, IsSign negative sign → TakesMark p mark →
      Leaves Char.isDigit (takeSign rest).2 → skipSpace text = sign ++ p ++ mark :: rest →
      LongestPrefix IsNumber (skipSpace text) (sign ++ p)) ∧
    (∀ negative sign x rest, IsSign negative sign → isHexMark x →
      (∀ q, q <+: rest → ¬ IsMantissa isHexDigit q) → skipSpace text = sign ++ '0' :: x :: rest →
      LongestPrefix IsNumber (skipSpace text) (sign ++ ['0']) ∧
        leadingFloat? text = some (.zero negative)) := by
  refine ⟨?absent, ?present, ?longest, ?dangling, ?zero⟩
  case absent =>
    rw [leadingFloat?_eq, Option.map_eq_none_iff]
    exact munches_scanSigned?.eq_none_iff
  case present =>
    intro hne
    rw [leadingFloat?_eq, Option.ne_none_iff_exists'] at hne
    obtain ⟨_, hne⟩ := hne
    obtain ⟨⟨x, rest⟩, hscan, -⟩ := Option.map_eq_some_iff.1 hne
    obtain ⟨p, htext, -⟩ := munches_scanSigned?.taken hscan
    exact ⟨p, (longest_of_scanSigned? htext (htext ▸ hscan)).1⟩
  case longest =>
    intro p hlongest
    obtain ⟨x, rest, htext, hscan, -⟩ := munches_scanSigned?.eq_some_of_longest hlongest
    obtain ⟨-, hread, hself⟩ := longest_of_scanSigned? htext (htext ▸ hscan)
    refine ⟨x, hread, hself, fun hdecimal => ?_⟩
    obtain ⟨y, hy⟩ := exists_denotes hdecimal
    obtain rfl := Option.some.inj (hself.symm.trans hy.leadingFloat?_eq)
    exact hy
  case dangling =>
    intro negative sign p mark rest hsign hmark hrest htext
    obtain ⟨x, hscan⟩ := exists_scanMagnitude?_dangling negative hmark hrest
    refine (longest_of_scanSigned? (x := x) htext ?_).1
    rw [List.append_assoc, scanSigned?,
      hsign.takeSign_append (hmark.isMagnitude.leaves_isSignChar _), hscan]
  case zero =>
    intro negative sign x rest hsign hx hrest htext
    have hscan : scanSigned? (sign ++ ['0'] ++ x :: rest) = some (.zero negative, x :: rest) := by
      have hzero : Leaves isSignChar ('0' :: x :: rest) := leaves_cons rfl
      rw [← List.append_cons, scanSigned?, hsign.takeSign_append hzero]
      exact scanMagnitude?_zero hx hrest
    rw [List.append_cons] at htext
    obtain ⟨hlongest, hread, -⟩ := longest_of_scanSigned? htext hscan
    exact ⟨hlongest, hread⟩

/-- A sign in place of a power is left out, and so is `0x` without digits. -/
theorem leadingFloat?_longest_danglingMarks :
    (∃ x, leadingFloat? " -1.5e+x".toList = some x ∧ Denotes "-1.5".toList x) ∧
      leadingFloat? "\t-0X.g".toList = some (.zero true) := by
  obtain ⟨-, -, hlongest, hdangling, -⟩ := leadingFloat?_longest " -1.5e+x".toList
  obtain ⟨-, -, -, -, hzero⟩ := leadingFloat?_longest "\t-0X.g".toList
  constructor
  · have hmantissa : IsMantissa Char.isDigit ("1".toList ++ ".5".toList) :=
      .mk (List.all_eq_true.1 rfl) (.point (List.all_eq_true.1 rfl)) (by simp)
    have hlong := hdangling true "-".toList "1.5".toList 'e' "+x".toList .minus
      (.decimal hmantissa rfl) (leaves_cons rfl) rfl
    obtain ⟨x, hx, -, hdenotes⟩ := hlongest _ hlong
    exact ⟨x, hx, hdenotes ⟨true, "-".toList, "1.5".toList, .minus, hmantissa.isScientific, rfl⟩⟩
  · have hnone : scanScientific? isHexDigit isBinaryMark ".g".toList = none := by decide
    refine (hzero true "-".toList 'X' ".g".toList .minus rfl (fun q hq hmantissa => ?_) rfl).2
    exact (munches_scanScientific? apart_hexadecimal).eq_none_iff.1 hnone q hq
      hmantissa.isScientific

/-! ## Blanks -/

theorem exists_skipSpace_append (text rest : List Char) :
    ∃ left, skipSpace (text ++ rest) = skipSpace text ++ left ∧
      skipSpace left = skipSpace rest := by
  unfold skipSpace
  rw [List.dropWhile_append]
  split
  next hempty =>
    rw [List.isEmpty_iff] at hempty
    exact ⟨rest.dropWhile isSpace, by rw [hempty, List.nil_append], List.dropWhile_idempotent _ _⟩
  next => exact ⟨rest, rfl, rfl⟩

/-- **Blanks at the end have no effect.** -/
theorem leadingFloat?_append_blanks {blanks : List Char} (h : ∀ c ∈ blanks, isSpace c)
    (text : List Char) : leadingFloat? (text ++ blanks) = leadingFloat? text := by
  obtain ⟨left, hskip, hleft⟩ := exists_skipSpace_append text blanks
  have hblanks : ∀ c ∈ left, isSpace c :=
    List.dropWhile_eq_nil_iff.1 (hleft.trans (List.dropWhile_eq_nil_iff.2 h))
  rw [leadingFloat?_eq, leadingFloat?_eq, hskip]
  refine munches_scanSigned?.map_fst_append fun p hp hnumber => ?_
  rcases List.prefix_or_prefix_of_prefix hp (List.prefix_append _ left) with hp' | ⟨q, rfl⟩
  · exact hp'
  · -- what the number has of the blanks is empty
    have hq : q <+: left := (List.prefix_append_right_inj _).1 hp
    have hnil : q = [] := List.eq_nil_iff_forall_not_mem.2 fun c hc => by
      have hspace := hblanks c (hq.subset hc)
      rw [hnumber.not_isSpace c (List.mem_append_right _ hc)] at hspace
      contradiction
    rw [hnil, List.append_nil]

theorem floatOrZero_append_blanks {blanks : List Char} (h : ∀ c ∈ blanks, isSpace c)
    (text : List Char) : floatOrZero (text ++ blanks) = floatOrZero text := by
  rw [floatOrZero, floatOrZero, leadingFloat?_append_blanks h]

theorem floatOrZero_skipSpace (text : List Char) :
    floatOrZero (skipSpace text) = floatOrZero text := by
  have hskip : skipSpace (skipSpace text) = skipSpace text :=
    List.dropWhile_idempotent isSpace text
  rw [floatOrZero, floatOrZero, leadingFloat?_eq, leadingFloat?_eq, hskip]

end PrintSettings.Numeric
