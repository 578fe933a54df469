import PrintSettings.Proofs.Pair.Quoted

/-! # Reading arguments back

A line of arguments is read from left to right: after the mark ` -s ` comes a key up to the first
equals sign, and then a text in double quotes, which ends at the first quote that no backslash takes
(`upToQuote?`). `readPairs?` gives the pairs as they are written; of a line that is written from pairs
with keys it gives exactly their quoted forms (`readPairs?_ofPairs`). -/

namespace PrintSettings.Arguments

open PrintSettings.Text

/-! ## The reader -/

/-- The text before the quote that closes it and the text after that quote. A backslash takes the
character after it. -/
def upToQuote? : List Char → Option (List Char × List Char)
  | [] => none
  | '"' :: after => some ([], after)
  | '\\' :: c :: rest => (upToQuote? rest).map fun (inner, after) => ('\\' :: c :: inner, after)
  | c :: rest => (upToQuote? rest).map fun (inner, after) => (c :: inner, after)

/-- The mark before each pair. -/
def mark : List Char := [' ', '-', 's', ' ']

/-- The pair as it is written at the start of a line, and the rest of the line. -/
def nextPair? (line : List Char) : Option (List Char × List Char) := do
  let rest ← mark.isPrefixOf? line
  let (key, value) ← splitFirst? '=' rest
  let text ← ['"'].isPrefixOf? value
  let (inner, after) ← upToQuote? text
  return (key ++ '=' :: '"' :: (inner ++ ['"']), after)

theorem upToQuote?_eq_some {text inner after : List Char}
    (h : upToQuote? text = some (inner, after)) : text = inner ++ '"' :: after := by
  fun_induction upToQuote? text generalizing inner with
  | case1 => contradiction
  | case2 => cases h; rfl
  | case3 c rest ih =>
    obtain ⟨⟨inner', after'⟩, hr, he⟩ := Option.map_eq_some_iff.1 h
    cases he
    rw [ih hr]; rfl
  | case4 c rest _ _ ih =>
    obtain ⟨⟨inner', after'⟩, hr, he⟩ := Option.map_eq_some_iff.1 h
    cases he
    rw [ih hr]; rfl

theorem nextPair?_eq_some {line pair after : List Char}
    (h : nextPair? line = some (pair, after)) : line = mark ++ (pair ++ after) := by
  simp only [nextPair?, Option.bind_eq_bind, Option.bind_eq_some_iff, Option.pure_def,
    Option.some.injEq, Prod.mk.injEq, Prod.exists] at h
  obtain ⟨rest, hm, key, value, hs, text, hq, inner, after', hu, rfl, rfl⟩ := h
  rw [← List.isPrefixOf?_eq_some_iff_append_eq.1 hm, splitFirst?_eq_some hs,
    ← List.isPrefixOf?_eq_some_iff_append_eq.1 hq, upToQuote?_eq_some hu]
  simp

/-- The pairs of a line as they are written. -/
def readPairs? (line : List Char) : Option (List String) :=
  match line with
  | [] => some []
  | c :: rest =>
    match _h : nextPair? (c :: rest) with
    | none => none
    | some (pair, after) => (readPairs? after).map (String.ofList pair :: ·)
termination_by line.length
decreasing_by
  rw [nextPair?_eq_some _h]
  simp [mark]
  omega

/-! ## Lines that are written from pairs -/

theorem upToQuote?_escapeChar_append (c : Char) (text : List Char) :
    upToQuote? (escapeChar c ++ text) =
      (upToQuote? text).map fun (inner, after) => (escapeChar c ++ inner, after) := by
  unfold escapeChar
  split <;> try rfl
  next =>
    by_cases h : c = '\\' ∨ c = '\x27' ∨ c = '"' ∨ c = ' '
    · rcases h with rfl | rfl | rfl | rfl <;> rfl
    · simp only [not_or] at h
      simp [h, upToQuote?]

theorem upToQuote?_escapeChars_append (text after : List Char) :
    upToQuote? (escapeChars text ++ '"' :: after) = some (escapeChars text, after) := by
  induction text with
  | nil => rfl
  | cons c text ih =>
    rw [escapeChars, List.flatMap_cons, List.append_assoc, upToQuote?_escapeChar_append]
    rw [escapeChars] at ih
    rw [ih, Option.map_some]

theorem nextPair?_quoted {p : Pair} (h : IsKey p.key) (after : List Char) :
    nextPair? (mark ++ (p.quoted.toList ++ after)) = some (p.quoted.toList, after) := by
  have hm : mark.isPrefixOf? (mark ++ (p.quoted.toList ++ after)) =
      some (p.quoted.toList ++ after) := List.isPrefixOf?_eq_some_iff_append_eq.2 rfl
  have hq : p.quoted.toList ++ after =
      p.key.toList ++ '=' :: ('"' :: (escapeChars p.value.toList ++ '"' :: after)) := by
    rw [Pair.toList_quoted]; simp
  rw [nextPair?, hm, hq]
  simp [splitFirst?_append h.noEquals, List.isPrefixOf?, upToQuote?_escapeChars_append,
    Pair.toList_quoted]

theorem readPairs?_of_nextPair? {line pair after : List Char}
    (h : nextPair? line = some (pair, after)) :
    readPairs? line = (readPairs? after).map (String.ofList pair :: ·) := by
  cases line with
  | nil => exact absurd (nextPair?_eq_some h) (by simp [mark])
  | cons c rest =>
    rw [readPairs?]
    split
    next h' => rw [h] at h'; contradiction
    next pair' after' h' => rw [h] at h'; cases h'; rfl

/-- The line of some pairs. -/
def ofPairs (pairs : List Pair) : String := String.join (pairs.map fun p => " -s " ++ p.quoted)

theorem toList_ofPairs_cons (p : Pair) (pairs : List Pair) :
    (ofPairs (p :: pairs)).toList = mark ++ (p.quoted.toList ++ (ofPairs pairs).toList) := by
  simp [ofPairs, String.join_cons, mark]

/-- **Reading the line of some pairs gives their quoted forms and nothing else.** -/
theorem readPairs?_ofPairs {pairs : List Pair} (h : ∀ p ∈ pairs, IsKey p.key) :
    readPairs? (ofPairs pairs).toList = some (pairs.map Pair.quoted) := by
  induction pairs with
  | nil => rw [show (ofPairs []).toList = [] from rfl, readPairs?]; rfl
  | cons p pairs ih =>
    have hp := nextPair?_quoted (h p List.mem_cons_self) (ofPairs pairs).toList
    rw [← toList_ofPairs_cons] at hp
    rw [readPairs?_of_nextPair? hp, ih fun p' hp' => h p' (List.mem_cons_of_mem _ hp')]
    simp

end PrintSettings.Arguments
