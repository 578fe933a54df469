import PrintSettings.Proofs.Numeric.Numeral
import PrintSettings.Value.Curve

/-! # The pairs of a text

A match is a written pair at a position of a text (`IsMatch`). The pairs of a text are its leftmost
matches without overlap: each one starts at the first match at or after the end of the one before
(`Leftmost`). There is one such list for every text, and the search finds it (`exists_leftmost`,
`Leftmost.unique`). What the search leaves out is only what starts inside of a match that it found
(`Leftmost.mem_or_inside`): a bracket that no match starts at hides nothing. -/

namespace PrintSettings.Value.Curve

open PrintSettings.Numeric

variable {pair : List Char × List Char} {text first second after : List Char} {pos : Nat}

/-! ## One step of the search -/

/-- A pair as it is written. -/
def bracketed (pair : List Char × List Char) : List Char :=
  '[' :: (pair.1 ++ ',' :: (pair.2 ++ [']']))

theorem pairs_of_nextPair? (h : nextPair? text = some (pair.1, pair.2, after)) :
    pairs text = pair :: pairs after := by
  rw [pairs]
  split
  next h' => rw [h] at h'; contradiction
  next h' => rw [h] at h'; cases h'; rfl

theorem pairs_of_nextPair?_eq_none (h : nextPair? text = none) : pairs text = [] := by
  rw [pairs]
  split
  next => rfl
  next h' => rw [h] at h'; contradiction

/-! ## Matches -/

/-- No comma and no opening bracket is in the first half of a pair, no comma and no closing one in
the second half. -/
def IsPair (pair : List Char × List Char) : Prop :=
  (∀ c ∈ pair.1, c ≠ ',' ∧ c ≠ '[') ∧ ∀ c ∈ pair.2, c ≠ ',' ∧ c ≠ ']'

/-- A pair and the position of its opening bracket. -/
structure Match where
  start : Nat
  pair : List Char × List Char

/-- The position after the closing bracket. -/
def Match.stop (m : Match) : Nat := m.start + (bracketed m.pair).length

/-- The pair is written at its position. -/
def IsMatch (text : List Char) (m : Match) : Prop :=
  IsPair m.pair ∧ bracketed m.pair <+: text.drop m.start

theorem bracketed_append (pair : List Char × List Char) (after : List Char) :
    bracketed pair ++ after = '[' :: (pair.1 ++ ',' :: (pair.2 ++ ']' :: after)) := by
  simp [bracketed]

theorem pairInside?_eq_some_iff : pairInside? text = some (pair.1, pair.2, after) ↔
    IsPair pair ∧ '[' :: text = bracketed pair ++ after := by
  rw [bracketed_append, List.cons_inj_right]
  constructor
  · intro h
    unfold pairInside? at h
    split at h
    next rest hrest =>
      split at h
      next after' hafter =>
        simp only [Option.some.injEq, Prod.mk.injEq] at h
        obtain ⟨hfirst, hsecond, rfl⟩ := h
        rw [← hfirst, ← hsecond, ← hafter, List.takeWhile_append_dropWhile, ← hrest,
          List.takeWhile_append_dropWhile]
        refine ⟨⟨fun c hc => ?_, fun c hc => ?_⟩, rfl⟩
        · rw [← hfirst] at hc
          simpa using List.mem_takeWhile_imp hc
        · rw [← hsecond] at hc
          simpa using List.mem_takeWhile_imp hc
      next => contradiction
    next => contradiction
  · rintro ⟨⟨hfirst, hsecond⟩, rfl⟩
    have hfirst : ∀ c ∈ pair.1, (c != ',' && c != '[') = true := fun c hc => by
      simpa using hfirst c hc
    have hsecond : ∀ c ∈ pair.2, (c != ',' && c != ']') = true := fun c hc => by
      simpa using hsecond c hc
    have htake := takeWhile_run hsecond (@leaves_cons _ after ']' rfl)
    have hdrop := dropWhile_run hsecond (@leaves_cons _ after ']' rfl)
    unfold pairInside?
    rw [dropWhile_run hfirst (leaves_cons rfl), takeWhile_run hfirst (leaves_cons rfl)]
    simp only [hdrop, htake]

theorem isMatch_iff {m : Match} : IsMatch text m ↔ ∃ rest after,
    text.drop m.start = '[' :: rest ∧
      pairInside? rest = some (m.pair.1, m.pair.2, after) := by
  simp only [pairInside?_eq_some_iff]
  constructor
  · rintro ⟨hpair, after, hafter⟩
    exact ⟨_, after, hafter.symm.trans (bracketed_append m.pair after), hpair,
      (bracketed_append m.pair after).symm⟩
  · rintro ⟨rest, after, hrest, hpair, happend⟩
    exact ⟨hpair, after, by rw [hrest, happend]⟩

theorem IsMatch.start_lt {m : Match} (h : IsMatch text m) : m.start < text.length := by
  obtain ⟨rest, after, hrest, -⟩ := isMatch_iff.1 h
  by_contra hle
  rw [List.drop_eq_nil_of_le (Nat.le_of_not_lt hle)] at hrest
  contradiction

theorem IsMatch.unique {m m' : Match} (h : IsMatch text m) (h' : IsMatch text m')
    (hstart : m.start = m'.start) : m = m' := by
  obtain ⟨rest, after, hrest, hpair⟩ := isMatch_iff.1 h
  obtain ⟨rest', after', hrest', hpair'⟩ := isMatch_iff.1 h'
  obtain ⟨start, first, second⟩ := m
  obtain ⟨start', first', second'⟩ := m'
  obtain rfl : start = start' := hstart
  obtain ⟨-, rfl⟩ := List.cons_eq_cons.1 (hrest.symm.trans hrest')
  have hsame := hpair.symm.trans hpair'
  simp only [Option.some.injEq, Prod.mk.injEq] at hsame
  rw [hsame.1, hsame.2.1]

/-! ## The leftmost matches -/

/-- The first match that starts at a position or later. -/
structure IsNext (text : List Char) (pos : Nat) (m : Match) : Prop where
  isMatch : IsMatch text m
  le : pos ≤ m.start
  least : ∀ m', IsMatch text m' → pos ≤ m'.start → m.start ≤ m'.start

/-- The leftmost matches without overlap, from a position on. -/
inductive Leftmost (text : List Char) : Nat → List Match → Prop where
  | done {pos : Nat} : (∀ m, IsMatch text m → m.start < pos) → Leftmost text pos []
  | found {pos : Nat} {m : Match} {ms : List Match} : IsNext text pos m →
    Leftmost text m.stop ms → Leftmost text pos (m :: ms)

theorem IsNext.unique {m m' : Match} (h : IsNext text pos m) (h' : IsNext text pos m') : m = m' :=
  h.isMatch.unique h'.isMatch
    (Nat.le_antisymm (h.least m' h'.isMatch h'.le) (h'.least m h.isMatch h.le))

theorem Leftmost.unique {ms ms' : List Match} (h : Leftmost text pos ms)
    (h' : Leftmost text pos ms') : ms = ms' := by
  induction h generalizing ms' with
  | done hnone =>
    cases h' with
    | done => rfl
    | found hnext =>
      have hlt := hnone _ hnext.isMatch
      exact absurd hnext.le (Nat.not_le_of_lt hlt)
  | found hnext _ ih =>
    cases h' with
    | done hnone =>
      have hlt := hnone _ hnext.isMatch
      exact absurd hnext.le (Nat.not_le_of_lt hlt)
    | found hnext' hrest =>
      obtain rfl := hnext.unique hnext'
      rw [ih hrest]

/-- **A match that is not found starts inside of one that is.** -/
theorem Leftmost.mem_or_inside {ms : List Match} (h : Leftmost text pos ms) {m : Match}
    (hm : IsMatch text m) (hle : pos ≤ m.start) :
    m ∈ ms ∨ ∃ found ∈ ms, found.start < m.start ∧ m.start < found.stop := by
  induction h with
  | done hnone => exact absurd hle (Nat.not_le_of_lt (hnone m hm))
  | @found pos found ms hnext hrest ih =>
    rcases Nat.eq_or_lt_of_le (hnext.least m hm hle) with heq | hlt
    · obtain rfl := hnext.isMatch.unique hm heq
      exact .inl List.mem_cons_self
    rcases Nat.lt_or_ge m.start found.stop with hinside | hafter
    · exact .inr ⟨found, List.mem_cons_self, hlt, hinside⟩
    · rcases ih hafter with hmem | ⟨found', hmem, hinside⟩
      · exact .inl (List.mem_cons_of_mem _ hmem)
      · exact .inr ⟨found', List.mem_cons_of_mem _ hmem, hinside⟩

/-! ## The search -/

/-- A step of the search goes to the next match. -/
theorem nextPair?_spec {rest : List Char} (hrest : text.drop pos = rest) :
    (nextPair? rest = none ∧ ∀ m, IsMatch text m → m.start < pos) ∨
    ∃ m, IsNext text pos m ∧ nextPair? rest = some (m.pair.1, m.pair.2, text.drop m.stop) := by
  induction rest generalizing pos with
  | nil => exact .inl ⟨rfl, fun m hm => hm.start_lt.trans_le (List.drop_eq_nil_iff.1 hrest)⟩
  | cons c rest ih =>
    have htail : text.drop (pos + 1) = rest := by
      rw [List.drop_add_one_eq_tail_drop, hrest, List.tail_cons]
    by_cases hmatch : ∃ m, IsMatch text m ∧ m.start = pos
    case pos =>
      obtain ⟨m, hm, rfl⟩ := hmatch
      obtain ⟨rest', after, hopening, hpair⟩ := isMatch_iff.1 hm
      obtain ⟨rfl, rfl⟩ := List.cons_eq_cons.1 (hrest.symm.trans hopening)
      have hafter : text.drop m.stop = after := by
        rw [Match.stop, ← List.drop_drop, hrest, (pairInside?_eq_some_iff.1 hpair).2,
          List.drop_left]
      refine .inr ⟨m, ⟨hm, Nat.le_refl _, fun _ _ hle => hle⟩, ?_⟩
      rw [nextPair?, hpair, hafter]
      rfl
    case neg =>
      have hne : ∀ m, IsMatch text m → m.start ≠ pos := fun m hm heq => hmatch ⟨m, hm, heq⟩
      have hskip : nextPair? (c :: rest) = nextPair? rest := by
        rw [nextPair?]
        split
        next hc =>
          rw [eq_of_beq hc] at hrest
          cases hpair : pairInside? rest with
          | none => rw [Option.none_or]
          | some found =>
            obtain ⟨first, second, after⟩ := found
            have hm : IsMatch text ⟨pos, first, second⟩ :=
              isMatch_iff.2 ⟨rest, after, hrest, hpair⟩
            exact absurd rfl (hne _ hm)
        next => rfl
      rw [hskip]
      rcases ih htail with ⟨hnone, hall⟩ | ⟨m, hnext, hfound⟩
      · refine .inl ⟨hnone, fun m hm => ?_⟩
        exact Nat.lt_of_le_of_ne (Nat.le_of_lt_succ (hall m hm)) (hne m hm)
      · refine .inr ⟨m, ⟨hnext.isMatch, Nat.le_of_succ_le hnext.le, fun m' hm' hle => ?_⟩, hfound⟩
        exact hnext.least m' hm' (Nat.lt_of_le_of_ne hle (hne m' hm').symm)

theorem exists_leftmost {rest : List Char} (hrest : text.drop pos = rest) :
    ∃ ms, Leftmost text pos ms ∧ ms.map Match.pair = pairs rest := by
  induction rest using pairs.induct generalizing pos with
  | case1 rest hnone =>
    rcases nextPair?_spec hrest with ⟨-, hall⟩ | ⟨m, -, hfound⟩
    · exact ⟨[], .done hall, (pairs_of_nextPair?_eq_none hnone).symm⟩
    · rw [hnone] at hfound
      contradiction
  | case2 rest first second after hsome ih =>
    rcases nextPair?_spec hrest with ⟨hnone, -⟩ | ⟨m, hnext, hfound⟩
    · rw [hnone] at hsome
      contradiction
    · obtain ⟨rfl, rfl, rfl⟩ : first = m.pair.1 ∧ second = m.pair.2 ∧ after = text.drop m.stop := by
        simpa [hsome] using hfound
      obtain ⟨ms, hms, hpairs⟩ := ih rfl
      refine ⟨m :: ms, .found hnext hms, ?_⟩
      rw [pairs_of_nextPair? hfound, List.map_cons, hpairs]

/-- A closing bracket in the first half of a pair, and an opening one in the second half. -/
example : pairs "[[1],2] [3,4,5] [6,[7]".toList =
    [("1]".toList, "2".toList), ("6".toList, "[7".toList)] := by decide +kernel

/-! ## Curves -/

/-- Both halves of a pair start with numbers. -/
def Match.isReadable (m : Match) : Bool :=
  (leadingFloat? m.pair.1).isSome && (leadingFloat? m.pair.2).isSome

/-- The control point is what the halves of the pair are read as. -/
def Match.ReadsAs (m : Match) (p : Point Binary64) : Prop :=
  leadingFloat? m.pair.1 = some p.flow ∧ leadingFloat? m.pair.2 = some p.temperature

theorem isNone_point? (m : Match) : (point? m.pair).isNone = !m.isReadable := by
  unfold point? Match.isReadable
  cases leadingFloat? m.pair.1 <;> cases leadingFloat? m.pair.2 <;> rfl

theorem Match.isReadable_iff {m : Match} : m.isReadable ↔ ∃ p, point? m.pair = some p := by
  rw [← Option.isSome_iff_exists, ← Option.not_isNone, isNone_point?, Bool.not_not]

theorem Match.ReadsAs.of_point? {m : Match} {p : Point Binary64} (h : point? m.pair = some p) :
    m.ReadsAs p := by
  simp only [point?, Option.bind_eq_bind, Option.bind_eq_some_iff] at h
  obtain ⟨flow, hflow, temperature, htemperature, hp⟩ := h
  obtain rfl := Option.some.inj hp
  exact ⟨hflow, htemperature⟩

theorem forall₂_readsAs (ms : List Match) : List.Forall₂ Match.ReadsAs
    (ms.filter Match.isReadable) ((ms.map Match.pair).filterMap point?) := by
  induction ms with
  | nil => exact .nil
  | cons m ms ih =>
    rw [List.map_cons]
    cases hpoint : point? m.pair with
    | none =>
      have hreadable : m.isReadable = false := by
        rw [← Bool.not_eq_true, Match.isReadable_iff, hpoint]
        simp
      rw [List.filter_cons_of_neg (by simp [hreadable]), List.filterMap_cons_none hpoint]
      exact ih
    | some p =>
      rw [List.filter_cons_of_pos (Match.isReadable_iff.2 ⟨p, hpoint⟩),
        List.filterMap_cons_some hpoint]
      exact .cons (.of_point? hpoint) ih

/-- **A curve is read from the leftmost matches of its text**, for every text. They are uniquely
determined, and a match that is not one of them starts inside of one. The readable ones are the
control points, in their order; each of the others is reported, in their order. -/
theorem ofText_leftmost (key text : String) :
    ∃ ms, Leftmost text.toList 0 ms ∧ (∀ ms', Leftmost text.toList 0 ms' → ms' = ms) ∧
      (∀ m, IsMatch text.toList m →
        m ∈ ms ∨ ∃ found ∈ ms, found.start < m.start ∧ m.start < found.stop) ∧
      pairs text.toList = ms.map Match.pair ∧
      List.Forall₂ Match.ReadsAs (ms.filter Match.isReadable) (ofText key text).value ∧
      (ofText key text).log = (ms.filter (!Match.isReadable ·)).map fun m =>
        ⟨.warn, "Couldn't read 2D graph element [" ++ String.ofList m.pair.1 ++ "," ++
          String.ofList m.pair.2 ++ "] in setting '" ++ key ++ "'. Ignored."⟩ := by
  obtain ⟨ms, hms, hpairs⟩ := exists_leftmost (@List.drop_zero Char text.toList)
  refine ⟨ms, hms, fun ms' hms' => hms'.unique hms,
    fun m hm => hms.mem_or_inside hm (Nat.zero_le _), hpairs.symm, ?_, ?_⟩
  · rw [ofText, ← hpairs]
    exact forall₂_readsAs ms
  · have hreported : (fun pair => (point? pair).isNone) ∘ Match.pair = (!Match.isReadable ·) :=
      funext isNone_point?
    rw [ofText, ← hpairs, List.filter_map, hreported, List.map_map]
    rfl

end PrintSettings.Value.Curve
