import PrintSettings.Proofs.Numeric.Scientific

/-! # Magnitudes

A magnitude is a word for infinity, a word for an undefined result, a hexadecimal or a decimal
(`IsMagnitude`). Words start with letters that no number of digits starts with, and a decimal before
the mark of a hexadecimal is a zero only, so the longest prefix that is a magnitude is scanned
although each form is tried after the one before (`munches_scanMagnitude?`). A mark of a power
without digits after it is left out (`exists_scanMagnitude?_dangling`), and so is `x` without digits
(`scanMagnitude?_zero`). -/

namespace PrintSettings.Numeric

open PrintSettings.Text

variable {text p rest : List Char} {negative : Bool}

/-! ## Words -/

/-- A word in any case of ASCII letters, perhaps with an ending. -/
def IsWord (word ending text : List Char) : Prop :=
  text.map Char.toLower = word ∨ text.map Char.toLower = word ++ ending

/-- A word with its ending, if there is one, as a number. -/
def scanWord? (word ending : List Char) (x : Binary64) (text : List Char) :
    Option (Binary64 × List Char) :=
  (dropWord? word text).map fun rest => (x, (dropWord? ending rest).getD rest)

theorem dropWord?_eq_some_iff {word : List Char} :
    dropWord? word text = some rest ↔ ∃ p, text = p ++ rest ∧ p.map Char.toLower = word := by
  induction word generalizing text with
  | nil =>
    rw [dropWord?, Option.some.injEq]
    constructor
    · rintro rfl
      exact ⟨[], rfl, rfl⟩
    · rintro ⟨p, rfl, hp⟩
      rw [List.map_eq_nil_iff.1 hp, List.nil_append]
  | cons c word ih =>
    cases text with
    | nil =>
      refine iff_of_false (by simp [dropWord?]) ?_
      rintro ⟨p, hp, hword⟩
      obtain ⟨rfl, rfl⟩ := List.append_eq_nil_iff.1 hp.symm
      contradiction
    | cons d text =>
      rw [dropWord?]
      split
      next hd =>
        rw [beq_iff_eq] at hd
        rw [ih]
        constructor
        · rintro ⟨p, rfl, rfl⟩
          exact ⟨d :: p, rfl, by rw [List.map_cons, hd]⟩
        · rintro ⟨- | ⟨d', p⟩, hp, hword⟩
          · contradiction
          · obtain ⟨rfl, rfl⟩ := List.cons_eq_cons.1 hp
            exact ⟨p, rfl, (List.cons_eq_cons.1 hword).2⟩
      next hd =>
        refine iff_of_false (by simp) ?_
        rintro ⟨- | ⟨d', p⟩, hp, hword⟩
        · contradiction
        · obtain ⟨rfl, rfl⟩ := List.cons_eq_cons.1 hp
          exact hd (beq_iff_eq.2 (List.cons_eq_cons.1 hword).1)

theorem dropWord?_append {word : List Char} (h : p.map Char.toLower = word) (rest : List Char) :
    dropWord? word (p ++ rest) = some rest := dropWord?_eq_some_iff.2 ⟨p, rfl, h⟩

theorem dropWord?_self {word : List Char} (h : p.map Char.toLower = word) :
    dropWord? word p = some [] := dropWord?_eq_some_iff.2 ⟨p, (List.append_nil p).symm, h⟩

theorem munches_scanWord? (word ending : List Char) (x : Binary64) :
    Munches (IsWord word ending) (scanWord? word ending x) where
  taken := by
    intro text y rest hscan
    obtain ⟨after, hafter, heq⟩ := Option.map_eq_some_iff.1 hscan
    obtain ⟨rfl, hrest⟩ := Prod.mk.inj heq
    obtain ⟨p, rfl, hp⟩ := dropWord?_eq_some_iff.1 hafter
    cases hending : dropWord? ending after with
    | none =>
      rw [hending, Option.getD_none] at hrest
      have hnil : (dropWord? ending []).getD [] = [] := by cases ending <;> rfl
      refine ⟨p, by rw [hrest], .inl hp, ?_⟩
      rw [scanWord?, dropWord?_self hp, Option.map_some, hnil]
    | some after' =>
      rw [hending, Option.getD_some] at hrest
      obtain ⟨q, rfl, hq⟩ := dropWord?_eq_some_iff.1 hending
      refine ⟨p ++ q, by rw [hrest, List.append_assoc], .inr (by rw [List.map_append, hp, hq]), ?_⟩
      rw [scanWord?, dropWord?_append hp, Option.map_some, dropWord?_self hq, Option.getD_some]
  greedy := by
    rintro p rest (hp | hp)
    · refine ⟨x, (dropWord? ending rest).getD rest, ?_, ?_⟩
      · rw [scanWord?, dropWord?_append hp, Option.map_some]
      · cases hending : dropWord? ending rest with
        | none => rw [Option.getD_none]
        | some after =>
          obtain ⟨q, rfl, -⟩ := dropWord?_eq_some_iff.1 hending
          rw [Option.getD_some, List.length_append]
          exact Nat.le_add_left after.length q.length
    · obtain ⟨a, b, rfl, ha, hb⟩ := List.map_eq_append_iff.1 hp
      refine ⟨x, rest, ?_, Nat.le_refl _⟩
      rw [List.append_assoc, scanWord?, dropWord?_append ha, Option.map_some, dropWord?_append hb,
        Option.getD_some]

/-! ## Hexadecimals and decimals -/

def isBinaryMark (c : Char) : Bool := c == 'p' || c == 'P'

def isHexMark (c : Char) : Bool := c == 'x' || c == 'X'

/-- An unsigned hexadecimal: `0x`, digits with at most one point, perhaps a power of two. -/
inductive IsHexadecimal : List Char → Prop where
  | mk {x : Char} {text : List Char} : isHexMark x → IsScientific isHexDigit isBinaryMark text →
    IsHexadecimal ('0' :: x :: text)

/-- An unsigned decimal: digits with at most one point, perhaps a power of ten. -/
def IsDecimal (text : List Char) : Prop := IsScientific Char.isDigit isExponentMark text

theorem apart_decimal : Apart Char.isDigit isExponentMark where
  point := rfl
  digit_of_mark _ := not_isDigit_of_mark
  point_of_mark _ := not_point_of_mark

theorem apart_hexadecimal : Apart isHexDigit isBinaryMark where
  point := rfl
  digit_of_mark c h := by
    simp only [isBinaryMark, Bool.or_eq_true, beq_iff_eq] at h
    rcases h with rfl | rfl <;> rfl
  point_of_mark c h := by
    simp only [isBinaryMark, Bool.or_eq_true, beq_iff_eq] at h
    rcases h with rfl | rfl <;> rfl

theorem isDecimal_iff : IsDecimal text ↔ ∃ d, IsNumeral text d := by
  constructor
  · rintro ⟨⟨hwhole, hfraction, hne⟩, hpower⟩
    rw [List.append_assoc]
    exact ⟨_, .mk hwhole hfraction hne hpower⟩
  · rintro ⟨_, ⟨hwhole, hfraction, hne, hpower⟩⟩
    rw [← List.append_assoc]
    exact .mk (.mk hwhole hfraction hne) hpower

/-- The value of the parts of a decimal. -/
def decimalOf : List Char × List Char × Int → Decimal
  | (whole, fraction, power) => ⟨Decimal.ofDigits (whole ++ fraction), power - fraction.length⟩

/-- The number that the parts of a hexadecimal are read as. -/
def hexadecimalOf : List Char × List Char × Int → Binary64
  | (whole, fraction, power) =>
    (whole ++ fraction).foldl appendHexDigit 0 * .twoPow (power - 4 * fraction.length)

theorem scanDecimal?_eq (text : List Char) : scanDecimal? text =
    (scanScientific? Char.isDigit isExponentMark text).map
      fun (parts, rest) => (decimalOf parts, rest) := by
  unfold scanDecimal? scanScientific?
  dsimp only
  split <;> rfl

theorem scanHexadecimal?_eq (x : Char) (text : List Char) : scanHexadecimal? ('0' :: x :: text) =
    if isHexMark x then
      (scanScientific? isHexDigit isBinaryMark text).map
        fun (parts, rest) => (hexadecimalOf parts, rest)
    else none := by
  have hmark : (x == 'x' || x == 'X') = isHexMark x := rfl
  simp only [scanHexadecimal?, scanScientific?, hmark]
  cases isHexMark x with
  | false => rfl
  | true =>
    cases ((splitPoint isHexDigit text).1 ++ (splitPoint isHexDigit text).2.1).isEmpty <;> rfl

theorem munches_scanDecimal? : Munches IsDecimal scanDecimal? := by
  have hscan := (munches_scanScientific? apart_decimal).map decimalOf
  rw [funext scanDecimal?_eq]
  exact hscan

theorem exists_of_scanHexadecimal? {found : Binary64 × List Char}
    (h : scanHexadecimal? text = some found) : ∃ x after, text = '0' :: x :: after := by
  unfold scanHexadecimal? at h
  split at h
  next x after => exact ⟨x, after, rfl⟩
  next => contradiction

theorem munches_scanHexadecimal? : Munches IsHexadecimal scanHexadecimal? where
  taken := by
    intro text y rest hscan
    obtain ⟨x, after, rfl⟩ := exists_of_scanHexadecimal? hscan
    rw [scanHexadecimal?_eq] at hscan
    split at hscan
    next hx =>
      obtain ⟨⟨parts, rest'⟩, hparts, heq⟩ := Option.map_eq_some_iff.1 hscan
      obtain ⟨rfl, rfl⟩ := Prod.mk.inj heq
      obtain ⟨p, rfl, hp, hread⟩ := (munches_scanScientific? apart_hexadecimal).taken hparts
      refine ⟨'0' :: x :: p, rfl, .mk hx hp, ?_⟩
      rw [scanHexadecimal?_eq, if_pos hx, hread, Option.map_some]
    next => contradiction
  greedy := by
    rintro _ rest ⟨hx, hscientific⟩
    obtain ⟨parts, rest', hscan, hle⟩ :=
      (munches_scanScientific? apart_hexadecimal).greedy rest hscientific
    refine ⟨hexadecimalOf parts, rest', ?_, hle⟩
    rw [List.cons_append, List.cons_append, scanHexadecimal?_eq, if_pos hx, hscan, Option.map_some]

/-! ## Magnitudes -/

/-- An unsigned number. -/
def IsMagnitude (text : List Char) : Prop :=
  IsWord "inf".toList "inity".toList text ∨ IsWord "nan".toList [] text ∨ IsHexadecimal text ∨
    IsDecimal text

theorem scanMagnitude?_eq (negative : Bool) (text : List Char) :
    scanMagnitude? negative text =
      (scanWord? "inf".toList "inity".toList (.infinite negative) text).or
        ((scanWord? "nan".toList [] .nan text).or
          (((scanHexadecimal? text).map fun (x, rest) => (if negative then -x else x, rest)).or
            ((scanDecimal? text).map fun (d, rest) => (d.toBinary64 negative, rest)))) := by
  unfold scanMagnitude? scanWord?
  cases dropWord? "inf".toList text with
  | some rest => rfl
  | none =>
    cases dropWord? "nan".toList text with
    | some rest => rfl
    | none => cases scanHexadecimal? text <;> rfl

theorem IsWord.exists_head? {c : Char} {word ending : List Char}
    (h : IsWord (c :: word) ending p) : ∃ d, p.head? = some d ∧ d.toLower = c := by
  refine Option.map_eq_some_iff.1 ?_
  rcases h with h | h
  · rw [← List.head?_map, h, List.head?_cons]
  · rw [← List.head?_map, h, List.cons_append, List.head?_cons]

theorem IsDecimal.isNumeralChar (h : IsDecimal p) : ∀ c ∈ p, isNumeralChar c := by
  obtain ⟨d, hd⟩ := isDecimal_iff.1 h
  exact hd.isNumeralChar

theorem IsDecimal.ne_nil (h : IsDecimal p) : p ≠ [] := by
  rintro rfl
  obtain ⟨x, rest, hscan, -⟩ := munches_scanDecimal?.greedy [] h
  contradiction

theorem exists_head?_of_numeric (h : IsHexadecimal p ∨ IsDecimal p) :
    ∃ c, p.head? = some c ∧ isNumeralChar c := by
  rcases h with ⟨hx, hscientific⟩ | hdecimal
  · exact ⟨'0', rfl, rfl⟩
  · obtain ⟨c, p, rfl⟩ := List.exists_cons_of_ne_nil hdecimal.ne_nil
    exact ⟨c, rfl, hdecimal.isNumeralChar c List.mem_cons_self⟩

/-- No text starts with a word and with a numeral. -/
theorem not_word_and_numeric {c : Char} {word ending q : List Char} (hc : c = 'i' ∨ c = 'n')
    (hword : IsWord (c :: word) ending p) (hnumeric : IsHexadecimal q ∨ IsDecimal q)
    (hp : p <+: text) (hq : q <+: text) : False := by
  obtain ⟨d, hd, hlower⟩ := hword.exists_head?
  obtain ⟨e, he, hnumeral⟩ := exists_head?_of_numeric hnumeric
  have hhead := (head?_of_isPrefix hp hd).symm.trans (head?_of_isPrefix hq he)
  obtain rfl := Option.some.inj hhead
  have hspec := isNumeralChar_spec hnumeral
  rcases hc with rfl | rfl
  · exact hspec.1 hlower
  · exact hspec.2.1 hlower

theorem length_le_of_isDecimal {x : Char} (hx : isHexMark x) (h : IsDecimal p)
    (hp : p <+: '0' :: x :: text) : p.length ≤ 1 := by
  match p, hp with
  | [], _ => exact Nat.zero_le 1
  | [c], _ => exact Nat.le_refl 1
  | c :: d :: p, ⟨rest, hrest⟩ =>
    obtain ⟨-, hrest⟩ := List.cons_eq_cons.1 hrest
    obtain ⟨rfl, -⟩ := List.cons_eq_cons.1 hrest
    have hd := isNumeralChar_spec (h.isNumeralChar d (by simp))
    simp [isHexMark, hd.2.2.1, hd.2.2.2.1] at hx

/-- **Scanning takes the longest unsigned number.** -/
theorem munches_scanMagnitude? (negative : Bool) :
    Munches IsMagnitude (scanMagnitude? negative) := by
  have hhexadecimal := munches_scanHexadecimal?.map fun x => if negative then -x else x
  have hdecimal := munches_scanDecimal?.map fun d => d.toBinary64 negative
  have hnumeric := hhexadecimal.or hdecimal fun {p q text} hp hq hp' hq' => by
    obtain ⟨hx, -⟩ := hp
    obtain ⟨rest, rfl⟩ := hp'
    exact (length_le_of_isDecimal hx hq hq').trans (by simp)
  have hnan := (munches_scanWord? "nan".toList [] .nan).or hnumeric
    fun hp hq hp' hq' => (not_word_and_numeric (.inr rfl) hp hq hp' hq').elim
  have hall := (munches_scanWord? "inf".toList "inity".toList (.infinite negative)).or hnan
    fun {p q text} hp hq hp' hq' => by
      rcases hq with hq | hq
      · -- the two words start with different letters
        obtain ⟨d, hd, hi⟩ := hp.exists_head?
        obtain ⟨e, he, hn⟩ := hq.exists_head?
        have hhead := (head?_of_isPrefix hp' hd).symm.trans (head?_of_isPrefix hq' he)
        rw [Option.some.inj hhead, hn] at hi
        contradiction
      · exact (not_word_and_numeric (.inl rfl) hp hq hp' hq').elim
  rw [funext (scanMagnitude?_eq negative)]
  exact hall

theorem scanMagnitude?_of_numeric (h : IsHexadecimal p ∨ IsDecimal p) (hp : p <+: text) :
    scanMagnitude? negative text =
      ((scanHexadecimal? text).map fun (x, rest) => (if negative then -x else x, rest)).or
        ((scanDecimal? text).map fun (d, rest) => (d.toBinary64 negative, rest)) := by
  have hinf : scanWord? "inf".toList "inity".toList (.infinite negative) text = none :=
    (munches_scanWord? _ _ _).eq_none_iff.2 fun _ hq hword =>
      not_word_and_numeric (.inl rfl) hword h hq hp
  have hnan : scanWord? "nan".toList [] .nan text = none :=
    (munches_scanWord? _ _ _).eq_none_iff.2 fun _ hq hword =>
      not_word_and_numeric (.inr rfl) hword h hq hp
  rw [scanMagnitude?_eq, hinf, hnan, Option.none_or, Option.none_or]

/-! ## Marks that are left out -/

/-- A magnitude without a power, and a mark that a power of it starts with. -/
inductive TakesMark : List Char → Char → Prop where
  | decimal {mantissa : List Char} {mark : Char} : IsMantissa Char.isDigit mantissa →
    isExponentMark mark → TakesMark mantissa mark
  | hexadecimal {x : Char} {mantissa : List Char} {mark : Char} : isHexMark x →
    IsMantissa isHexDigit mantissa → isBinaryMark mark → TakesMark ('0' :: x :: mantissa) mark

theorem TakesMark.isMagnitude {mark : Char} (h : TakesMark p mark) : IsMagnitude p := by
  cases h with
  | decimal hmantissa => exact .inr (.inr (.inr hmantissa.isScientific))
  | hexadecimal hx hmantissa => exact .inr (.inr (.inl (.mk hx hmantissa.isScientific)))

/-- There is no hexadecimal where a decimal reaches the mark of its power. -/
theorem scanHexadecimal?_of_mark {mark : Char} (h : IsDecimal p) (hmark : isExponentMark mark) :
    scanHexadecimal? (p ++ mark :: rest) = none := by
  refine munches_scanHexadecimal?.eq_none_iff.2 ?_
  rintro _ ⟨after, htext⟩ ⟨hx, -⟩
  rw [List.cons_append, List.cons_append] at htext
  have hlength := length_le_of_isDecimal hx h ⟨mark :: rest, htext.symm⟩
  match p, h.ne_nil, hlength with
  | [c], _, _ =>
    obtain ⟨-, hmarks⟩ := List.cons_eq_cons.1 htext
    obtain ⟨rfl, -⟩ := List.cons_eq_cons.1 hmarks
    simp only [isExponentMark, Bool.or_eq_true, beq_iff_eq] at hmark
    rcases hmark with rfl | rfl <;> contradiction

/-- A mark without digits after it is left out. -/
theorem exists_scanMagnitude?_dangling (negative : Bool) {mark : Char} (h : TakesMark p mark)
    (hrest : Leaves Char.isDigit (takeSign rest).2) :
    ∃ x, scanMagnitude? negative (p ++ mark :: rest) = some (x, mark :: rest) := by
  have hprefix := List.prefix_append p (mark :: rest)
  cases h with
  | decimal hmantissa hmark =>
    obtain ⟨parts, hscan⟩ := scanScientific?_dangling apart_decimal hmantissa hmark hrest
    have hdecimal : IsDecimal p := hmantissa.isScientific
    rw [scanMagnitude?_of_numeric (.inr hdecimal) hprefix, scanHexadecimal?_of_mark hdecimal hmark,
      scanDecimal?_eq, hscan]
    exact ⟨_, rfl⟩
  | hexadecimal hx hmantissa hmark =>
    obtain ⟨parts, hscan⟩ := scanScientific?_dangling apart_hexadecimal hmantissa hmark hrest
    rw [scanMagnitude?_of_numeric (.inl (.mk hx hmantissa.isScientific)) hprefix, List.cons_append,
      List.cons_append, scanHexadecimal?_eq, if_pos hx, hscan]
    exact ⟨_, rfl⟩

theorem toBinary64_zero : (⟨0, 0⟩ : Decimal).toBinary64 negative = .zero negative := by
  have hvalue : (⟨0, 0⟩ : Decimal).value = (Decimal.exact 0).value := by
    simp [Decimal.value, Decimal.exact]
  rw [Decimal.toBinary64_congr hvalue]
  exact Decimal.toBinary64_exact representable_zero

/-- A mark of hexadecimals without digits after it is left out, too. -/
theorem scanMagnitude?_zero {x : Char} (hx : isHexMark x)
    (hrest : ∀ q, q <+: rest → ¬ IsMantissa isHexDigit q) :
    scanMagnitude? negative ('0' :: x :: rest) = some (.zero negative, x :: rest) := by
  have hmantissa : IsMantissa Char.isDigit (['0'] ++ []) :=
    .mk (List.forall_mem_singleton.2 rfl) .none (by simp)
  have hprefix : ['0'] <+: '0' :: x :: rest := ⟨x :: rest, rfl⟩
  have hhexadecimal : scanHexadecimal? ('0' :: x :: rest) = none := by
    refine munches_scanHexadecimal?.eq_none_iff.2 ?_
    rintro _ ⟨after, htext⟩ ⟨-, @⟨mantissa, powerText, -, hmantissa, -⟩⟩
    rw [List.cons_append, List.cons_append] at htext
    obtain ⟨-, htext⟩ := List.cons_eq_cons.1 htext
    obtain ⟨-, rfl⟩ := List.cons_eq_cons.1 htext
    exact hrest mantissa ⟨powerText ++ after, by rw [List.append_assoc]⟩ hmantissa
  have hsplit : splitPoint Char.isDigit ('0' :: x :: rest) = (['0'], [], x :: rest) := by
    simp only [isHexMark, Bool.or_eq_true, beq_iff_eq] at hx
    rcases hx with rfl | rfl <;> rfl
  have hpower : scanPower isExponentMark (x :: rest) = (0, x :: rest) := by
    simp only [isHexMark, Bool.or_eq_true, beq_iff_eq] at hx
    rcases hx with rfl | rfl <;> rfl
  rw [scanMagnitude?_of_numeric (.inr hmantissa.isScientific) hprefix, hhexadecimal,
    scanDecimal?_eq, scanScientific?_eq_some hsplit (by simp), hpower]
  exact congrArg (fun y => some (y, x :: rest)) toBinary64_zero

end PrintSettings.Numeric
