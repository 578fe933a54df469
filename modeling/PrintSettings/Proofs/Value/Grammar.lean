import PrintSettings.Proofs.Numeric.Leading
import PrintSettings.Value.Matrix

/-! # The grammar of matrices

A matrix is written as three rows of three tokens, with blanks before and after each bracket, comma
and token (`IsMatrix`). A tab or an end of line is a blank and may also belong to a token, so there
may be several ways to write a text. The scanner takes every blank before a token, and every
character after it up to a comma, a closing bracket or a space. Neither is ever a bracket or comma
that the grammar needs, so what can be written is accepted (`Reads`); and the characters that a
token has in one way of writing and not in another one are blanks at its ends, so all ways give the
same numbers. -/

namespace PrintSettings.Value.Matrix

open PrintSettings.Numeric PrintSettings.Text

variable {α β : Type} {text rest blanks token : List Char} {mark : Char}

/-! ## The grammar -/

def IsBlanks (text : List Char) : Prop := ∀ c ∈ text, isSpace c

/-- A bracket or a comma, with blanks around it. -/
inductive IsMark (mark : Char) : List Char → Prop where
  | mk {before after : List Char} : IsBlanks before → IsBlanks after →
    IsMark mark (before ++ mark :: after)

/-- A token, possibly empty, with blanks around it. -/
inductive IsToken : List Char → List Char → Prop where
  | mk {before token after : List Char} : IsBlanks before → (∀ c ∈ token, endsToken c = false) →
    IsBlanks after → IsToken token (before ++ token ++ after)

/-- Three items in brackets with commas between them. -/
inductive IsTriple (item : α → List Char → Prop) : Triple α → List Char → Prop where
  | mk {a b c : α} {opening first comma second comma' third closing : List Char} :
    IsMark '[' opening → item a first → IsMark ',' comma → item b second → IsMark ',' comma' →
    item c third → IsMark ']' closing →
    IsTriple item ⟨a, b, c⟩
      (opening ++ (first ++ (comma ++ (second ++ (comma' ++ (third ++ closing))))))

/-- A way to write a text as rows of tokens. -/
def IsMatrix (tokens : Triple (Triple (List Char))) (text : List Char) : Prop :=
  IsTriple (IsTriple IsToken) tokens text

/-! ## Blanks and marks -/

theorem isBlanks_nil : IsBlanks [] := by simp [IsBlanks]

theorem IsBlanks.append (h : IsBlanks blanks) (h' : IsBlanks rest) : IsBlanks (blanks ++ rest) :=
  List.forall_mem_append.2 ⟨h, h'⟩

theorem isBlanks_of_skipSpace (h : skipSpace text = []) : IsBlanks text :=
  List.dropWhile_eq_nil_iff.1 h

theorem exists_blanks (text : List Char) :
    ∃ blanks, IsBlanks blanks ∧ text = blanks ++ skipSpace text :=
  ⟨text.takeWhile isSpace, fun _ hc => List.mem_takeWhile_imp hc,
    List.takeWhile_append_dropWhile.symm⟩

theorem skipSpace_cons (h : isSpace mark = false) : skipSpace (mark :: text) = mark :: text :=
  dropWhile_of_leaves (leaves_cons h)

theorem skipSpace_append (h : IsBlanks blanks) (text : List Char) :
    skipSpace (blanks ++ text) = skipSpace text := List.dropWhile_append_of_pos h

theorem expect?_eq_some_iff : expect? mark text = some rest ↔ skipSpace text = mark :: rest := by
  unfold expect?
  split
  next c rest' hskip =>
    rw [hskip]
    by_cases hc : c = mark <;> simp [hc]
  next hskip => simp [hskip]

theorem isMark_of_expect? (h : expect? mark text = some rest) :
    ∃ front, text = front ++ rest ∧ IsMark mark front := by
  obtain ⟨blanks, hblanks, htext⟩ := exists_blanks text
  rw [expect?_eq_some_iff] at h
  refine ⟨blanks ++ [mark], ?_, .mk hblanks isBlanks_nil⟩
  rw [htext, h, List.append_assoc, List.singleton_append]

theorem expect?_append (hblanks : IsBlanks blanks) (text : List Char) :
    expect? mark (blanks ++ text) = expect? mark text := by
  unfold expect?
  rw [skipSpace_append hblanks]

theorem IsMark.exists_skipSpace (h : IsMark mark text) (hmark : isSpace mark = false)
    (rest : List Char) :
    ∃ blanks, IsBlanks blanks ∧ skipSpace (text ++ rest) = mark :: (blanks ++ rest) := by
  obtain ⟨hbefore, hafter⟩ := h
  refine ⟨_, hafter, ?_⟩
  rw [List.append_assoc, skipSpace_append hbefore, List.cons_append, skipSpace_cons hmark]

/-! ## Scanning what can be written -/

/-- After blanks, the text ends or goes on with a mark that no token contains. -/
def Closes (rest : List Char) : Prop := ∀ c ∈ (skipSpace rest).head?, c = ',' ∨ c = ']'

/-- A scanner reads whatever can be written as an item, up to blanks, and nothing else. -/
structure Reads (item : α → List Char → Prop) (value : α → β)
    (scan : List Char → Option (β × List Char)) : Prop where
  skips : ∀ {blanks} text, IsBlanks blanks → scan (blanks ++ text) = scan text
  complete : ∀ {a text} rest, item a text → Closes rest →
    ∃ left, scan (text ++ rest) = some (value a, left) ∧ skipSpace left = skipSpace rest
  sound : ∀ {text y rest}, scan text = some (y, rest) →
    ∃ a front, text = front ++ rest ∧ item a front ∧ value a = y

/-- What a token takes before a mark, but for the token itself, is blanks. -/
theorem token_blanks (h : Closes rest) : IsBlanks (rest.takeWhile (!endsToken ·)) ∧
    skipSpace (rest.dropWhile (!endsToken ·)) = skipSpace rest := by
  induction rest with
  | nil => exact ⟨isBlanks_nil, rfl⟩
  | cons c rest ih =>
    by_cases hspace : isSpace c
    case pos =>
      have hskip : skipSpace (c :: rest) = skipSpace rest := List.dropWhile_cons_of_pos hspace
      obtain ⟨hblanks, hleft⟩ := ih (by rwa [Closes, hskip] at h)
      cases hend : endsToken c with
      | true => simp [hend, isBlanks_nil]
      | false =>
        have hnot : (!endsToken c) = true := by rw [hend, Bool.not_false]
        rw [List.takeWhile_cons_of_pos (p := (!endsToken ·)) hnot,
          List.dropWhile_cons_of_pos (p := (!endsToken ·)) hnot, hskip]
        exact ⟨List.forall_mem_cons.2 ⟨hspace, hblanks⟩, hleft⟩
    case neg =>
      rw [Closes, skipSpace_cons (Bool.eq_false_iff.2 hspace)] at h
      have hend : endsToken c := by rcases h c rfl with rfl | rfl <;> rfl
      simp [hend, isBlanks_nil]

theorem reads_scanNumber? : Reads IsToken floatOrZero scanNumber? where
  skips text hblanks := by
    unfold scanNumber? scanToken
    rw [skipSpace_append hblanks]
  complete := by
    rintro token _ rest ⟨hbefore, htoken, hafter⟩ hcloses
    obtain ⟨left, hbody, hleft⟩ := exists_skipSpace_append token (_ ++ rest)
    rw [skipSpace_append hafter] at hleft
    obtain ⟨hblanks, hrest⟩ := token_blanks (by rwa [Closes, hleft] : Closes left)
    have hends : ∀ c ∈ skipSpace token, (!endsToken c) := fun c hc => by
      rw [htoken c ((List.dropWhile_sublist _).subset hc), Bool.not_false]
    refine ⟨left.dropWhile (!endsToken ·), ?_, hrest.trans hleft⟩
    unfold scanNumber? scanToken
    rw [List.append_assoc, List.append_assoc, skipSpace_append hbefore, hbody]
    simp only [List.takeWhile_append_of_pos hends, List.dropWhile_append_of_pos hends]
    rw [floatOrZero_append_blanks hblanks, floatOrZero_skipSpace]
  sound := by
    intro text y rest hscan
    obtain ⟨blanks, hblanks, htext⟩ := exists_blanks text
    obtain ⟨rfl, rfl⟩ := Prod.mk.inj (Option.some.inj hscan)
    have hends : ∀ c ∈ (scanToken text).1, endsToken c = false := fun c hc => by
      simpa using List.mem_takeWhile_imp hc
    refine ⟨_, _, ?_, .mk hblanks hends isBlanks_nil, rfl⟩
    rw [List.append_nil, List.append_assoc]
    exact htext.trans (congrArg _ List.takeWhile_append_dropWhile.symm)

theorem Reads.complete_mark {item : α → List Char → Prop} {value : α → β}
    {scan : List Char → Option (β × List Char)} (h : Reads item value scan) {a : α}
    {markText : List Char} (hblanks : IsBlanks blanks) (hitem : item a text)
    (hmark : IsMark mark markText) (hcloses : mark = ',' ∨ mark = ']') (rest : List Char) :
    ∃ left blanks', IsBlanks blanks' ∧ expect? mark left = some (blanks' ++ rest) ∧
      scan (blanks ++ (text ++ (markText ++ rest))) = some (value a, left) := by
  have hspace : isSpace mark = false := by rcases hcloses with rfl | rfl <;> rfl
  obtain ⟨blanks', hblanks', hskip⟩ := hmark.exists_skipSpace hspace rest
  have hrest : Closes (markText ++ rest) := by
    rw [Closes, hskip]
    simpa using hcloses
  obtain ⟨left, hscan, hleft⟩ := h.complete (markText ++ rest) hitem hrest
  refine ⟨left, blanks', hblanks', ?_, by rw [h.skips _ hblanks, hscan]⟩
  rw [expect?_eq_some_iff, hleft, hskip]

/-- **Three items in brackets are read if each of them is.** -/
theorem Reads.scanTriple? {item : α → List Char → Prop} {value : α → β}
    {scan : List Char → Option (β × List Char)} (h : Reads item value scan) :
    Reads (IsTriple item) (Triple.map value) (scanTriple? scan) where
  skips text hblanks := by
    unfold Matrix.scanTriple?
    rw [expect?_append hblanks]
  complete := by
    rintro _ _ rest @⟨a, b, c, opening, first, comma, second, comma', third, closing, hopening,
      hfirst, hcomma, hsecond, hcomma', hthird, hclosing⟩ -
    obtain ⟨b₀, hb₀, hskip⟩ := hopening.exists_skipSpace rfl
      (first ++ (comma ++ (second ++ (comma' ++ (third ++ (closing ++ rest))))))
    rw [← expect?_eq_some_iff] at hskip
    obtain ⟨r₁, b₁, hb₁, hexpect₁, hscan₁⟩ := h.complete_mark hb₀ hfirst hcomma (.inl rfl)
      (second ++ (comma' ++ (third ++ (closing ++ rest))))
    obtain ⟨r₂, b₂, hb₂, hexpect₂, hscan₂⟩ := h.complete_mark hb₁ hsecond hcomma' (.inl rfl)
      (third ++ (closing ++ rest))
    obtain ⟨r₃, b₃, hb₃, hexpect₃, hscan₃⟩ := h.complete_mark hb₂ hthird hclosing (.inr rfl) rest
    refine ⟨b₃ ++ rest, ?_, skipSpace_append hb₃ rest⟩
    simp only [Matrix.scanTriple?, List.append_assoc, Option.bind_eq_bind, Option.bind_some, hskip,
      hscan₁, hexpect₁, hscan₂, hexpect₂, hscan₃, hexpect₃]
    rfl
  sound := by
    intro text y rest hscan
    simp only [Matrix.scanTriple?, Option.bind_eq_bind, Option.bind_eq_some_iff, Prod.exists]
      at hscan
    obtain ⟨r₀, h₀, y₁, r₁, h₁, r₂, h₂, y₂, r₃, h₃, r₄, h₄, y₃, r₅, h₅, r₆, h₆, hy⟩ := hscan
    obtain ⟨rfl, rfl⟩ := Prod.mk.inj (Option.some.inj hy)
    obtain ⟨opening, rfl, hopening⟩ := isMark_of_expect? h₀
    obtain ⟨a, first, rfl, hfirst, rfl⟩ := h.sound h₁
    obtain ⟨comma, rfl, hcomma⟩ := isMark_of_expect? h₂
    obtain ⟨b, second, rfl, hsecond, rfl⟩ := h.sound h₃
    obtain ⟨comma', rfl, hcomma'⟩ := isMark_of_expect? h₄
    obtain ⟨c, third, rfl, hthird, rfl⟩ := h.sound h₅
    obtain ⟨closing, rfl, hclosing⟩ := isMark_of_expect? h₆
    refine ⟨⟨a, b, c⟩, _, ?_, .mk hopening hfirst hcomma hsecond hcomma' hthird hclosing, rfl⟩
    simp only [List.append_assoc]

theorem reads_scanRow? : Reads (IsTriple IsToken) (Triple.map floatOrZero)
    (scanTriple? scanNumber?) := reads_scanNumber?.scanTriple?

/-! ## Whole texts -/

theorem IsTriple.append_blanks {item : α → List Char → Prop} {items : Triple α}
    (h : IsTriple item items text) (hblanks : IsBlanks blanks) :
    IsTriple item items (text ++ blanks) := by
  obtain ⟨hopening, hfirst, hcomma, hsecond, hcomma', hthird, ⟨hbefore, hafter⟩⟩ := h
  simp only [List.append_assoc, List.cons_append]
  exact .mk hopening hfirst hcomma hsecond hcomma' hthird (.mk hbefore (hafter.append hblanks))

/-- **The scanner accepts what can be written, and reads the tokens.** -/
theorem rows?_eq_some_iff {rows : Triple (Triple Binary64)} :
    rows? text = some rows ↔
      ∃ tokens, IsMatrix tokens text ∧ tokens.map (Triple.map floatOrZero) = rows := by
  have hreads := reads_scanRow?.scanTriple?
  constructor
  · intro h
    simp only [rows?, Option.bind_eq_bind, Option.bind_eq_some_iff, Prod.exists] at h
    obtain ⟨rows', rest, hscan, h⟩ := h
    split at h
    next hrest =>
      obtain rfl := Option.some.inj h
      obtain ⟨tokens, front, rfl, htokens, rfl⟩ := hreads.sound hscan
      rw [List.isEmpty_iff] at hrest
      exact ⟨tokens, htokens.append_blanks (isBlanks_of_skipSpace hrest), rfl⟩
    next => contradiction
  · rintro ⟨tokens, htokens, rfl⟩
    obtain ⟨left, hscan, hleft⟩ := hreads.complete [] htokens (by simp [Closes, skipSpace])
    rw [List.append_nil] at hscan
    have hempty : (skipSpace left).isEmpty := by rw [hleft]; rfl
    simp only [rows?, Option.bind_eq_bind, hscan, Option.bind_some, hempty, if_true]

/-- **A text is read as a matrix exactly if it can be written as one**, and then as the numbers of
the tokens, in whatever way it is written. Any other text but the empty one is reported and quoted.
-/
theorem ofText_grammar (text : String) :
    ((rows? text.toList).isSome ↔ ∃ tokens, IsMatrix tokens text.toList) ∧
    (∀ tokens, IsMatrix tokens text.toList →
      ofText text = ⟨⟨tokens.map (Triple.map floatOrZero)⟩, []⟩) ∧
    (text ≠ "" → (∀ tokens, ¬ IsMatrix tokens text.toList) →
      ofText text = ⟨identity, [rejected text]⟩ ∧ (rejected text).level = .warn ∧
        ∃ before after, (rejected text).text = before ++ text ++ after) ∧
    (text = "" → ofText text = ⟨identity, []⟩) := by
  refine ⟨?accepts, ?reads, ?rejects, ?empty⟩
  case accepts =>
    rw [Option.isSome_iff_exists]
    constructor
    · rintro ⟨rows, hrows⟩
      obtain ⟨tokens, htokens, -⟩ := rows?_eq_some_iff.1 hrows
      exact ⟨tokens, htokens⟩
    · rintro ⟨tokens, htokens⟩
      exact ⟨_, rows?_eq_some_iff.2 ⟨tokens, htokens, rfl⟩⟩
  case reads =>
    intro tokens htokens
    have hrows := rows?_eq_some_iff.2 ⟨tokens, htokens, rfl⟩
    have hempty : text.isEmpty = false := by
      rw [← Bool.not_eq_true, String.isEmpty_iff]
      rintro rfl
      contradiction
    rw [ofText, hempty, hrows]
    rfl
  case rejects =>
    intro hne hnone
    have hrows : rows? text.toList = none := by
      refine Option.eq_none_iff_forall_ne_some.2 fun rows hrows => ?_
      obtain ⟨tokens, htokens, -⟩ := rows?_eq_some_iff.1 hrows
      exact hnone tokens htokens
    have hempty : text.isEmpty = false := by
      rw [← Bool.not_eq_true, String.isEmpty_iff]
      exact hne
    refine ⟨?_, rfl, _, _, rfl⟩
    rw [ofText, hempty, hrows]
    rfl
  case empty =>
    rintro rfl
    rfl

/-- A tab may follow a token, tokens may be empty, and no space may be inside of one. -/
theorem ofText_grammar_tab :
    ofText "[[2\t,,],[,,],[,,]]" =
      ⟨⟨⟨⟨floatOrZero ['2'], 0, 0⟩, ⟨0, 0, 0⟩, ⟨0, 0, 0⟩⟩⟩, []⟩ ∧
    ofText "[[1 0]]" = ⟨identity, [rejected "[[1 0]]"]⟩ := by
  have hmark (mark : Char) : IsMark mark [mark] := .mk isBlanks_nil isBlanks_nil
  have hempty : IsToken [] [] := .mk isBlanks_nil (by simp) isBlanks_nil
  have htab : IsToken ['2'] ([] ++ ['2'] ++ ['\t']) :=
    .mk isBlanks_nil (List.forall_mem_singleton.2 rfl) (List.forall_mem_singleton.2 rfl)
  have hrow {token first : List Char} (h : IsToken token first) :=
    IsTriple.mk (hmark '[') h (hmark ',') hempty (hmark ',') hempty (hmark ']')
  have hmatrix : IsMatrix _ "[[2\t,,],[,,],[,,]]".toList := .mk (hmark '[') (hrow htab) (hmark ',')
    (hrow hempty) (hmark ',') (hrow hempty) (hmark ']')
  have hnone : rows? "[[1 0]]".toList = none := rfl
  obtain ⟨-, hreads, -⟩ := ofText_grammar "[[2\t,,],[,,],[,,]]"
  obtain ⟨haccepts, -, hrejects, -⟩ := ofText_grammar "[[1 0]]"
  have hread := hreads _ hmatrix
  refine ⟨hread, (hrejects (by decide) fun tokens htokens => ?_).1⟩
  have hrows := haccepts.2 ⟨tokens, htokens⟩
  rw [hnone] at hrows
  exact absurd hrows Bool.false_ne_true

end PrintSettings.Value.Matrix
