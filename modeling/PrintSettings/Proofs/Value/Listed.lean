import PrintSettings.Proofs.Value.Matches
import PrintSettings.Proofs.Yaml.Listing
import PrintSettings.Proofs.Yaml.Number

/-! # Curves from lists

A list of pairs of numbers in a document is a setting text of nested brackets. The pairs that are
found in it are those of the list (`pairs_listed`), so the curve has a control point for every pair
of finite numbers, in their order, and the others are reported (`ofText_settingText`). -/

namespace PrintSettings.Value.Curve

open PrintSettings.Numeric PrintSettings.Yaml

/-! ## Pairs in brackets -/

/-- The text has no separator of pairs in it. -/
def IsPart (text : List Char) : Prop := ∀ c ∈ text, c ≠ ',' ∧ c ≠ '[' ∧ c ≠ ']'

variable {pair : List Char × List Char} {text after : List Char} {c : Char}

theorem pairs_congr {text' : List Char} (h : nextPair? text = nextPair? text') :
    pairs text = pairs text' := by
  cases h' : nextPair? text' with
  | none => rw [pairs_of_nextPair?_eq_none h', pairs_of_nextPair?_eq_none (h.trans h')]
  | some found =>
    obtain ⟨first, second, after⟩ := found
    rw [@pairs_of_nextPair? (first, second) text' after h',
      @pairs_of_nextPair? (first, second) text after (h.trans h')]

theorem pairs_cons_of_ne (h : c ≠ '[') : pairs (c :: text) = pairs text :=
  pairs_congr (by simp [nextPair?, h])

theorem pairs_bracketed (hpair : IsPart pair.1 ∧ IsPart pair.2) (after : List Char) :
    pairs (bracketed pair ++ after) = pair :: pairs after := by
  have hparts : IsPair pair :=
    ⟨fun c hc => ⟨(hpair.1 c hc).1, (hpair.1 c hc).2.1⟩,
      fun c hc => ⟨(hpair.2 c hc).1, (hpair.2 c hc).2.2⟩⟩
  have hinside := pairInside?_eq_some_iff.2 ⟨hparts, (bracketed_append pair after).symm⟩
  refine pairs_of_nextPair? ?_
  rw [bracketed_append, nextPair?, hinside]
  rfl

theorem pairs_cons_opening (h : pairInside? text = none) : pairs ('[' :: text) = pairs text :=
  pairs_congr (by simp [nextPair?, h])

/-! ## Lists -/

theorem pairs_intercalate {l : List (List Char × List Char)}
    (h : ∀ pair ∈ l, IsPart pair.1 ∧ IsPart pair.2) :
    pairs ([','].intercalate (l.map bracketed) ++ [']']) = l := by
  have hend : pairs [']'] = [] := pairs_of_nextPair?_eq_none rfl
  induction l with
  | nil => exact hend
  | cons pair l ih =>
    have hpair := h pair List.mem_cons_self
    have ih := ih fun pair' hpair' => h pair' (List.mem_cons_of_mem _ hpair')
    cases l with
    | nil =>
      have hone : [','].intercalate ([pair].map bracketed) = bracketed pair := by
        simp [List.intercalate]
      rw [hone, pairs_bracketed hpair, hend]
    | cons pair' l =>
      have hcons : [','].intercalate ((pair :: pair' :: l).map bracketed) = bracketed pair ++
          ',' :: [','].intercalate ((pair' :: l).map bracketed) := by simp [List.intercalate]
      rw [hcons, List.append_assoc, pairs_bracketed hpair, List.cons_append,
        pairs_cons_of_ne (by decide), ih]

/-- **The pairs of a written list are those of the list.** The bracket around the list is not taken
for that of a pair. -/
theorem pairs_listed {l : List (List Char × List Char)}
    (h : ∀ pair ∈ l, IsPart pair.1 ∧ IsPart pair.2) :
    pairs ('[' :: ([','].intercalate (l.map bracketed) ++ [']'])) = l := by
  have hopening : pairInside? ([','].intercalate (l.map bracketed) ++ [']']) = none := by
    cases l with
    | nil => rfl
    | cons pair l =>
      have hcons : ∃ text, [','].intercalate ((pair :: l).map bracketed) = '[' :: text := by
        cases l <;> exact ⟨_, rfl⟩
      obtain ⟨text, htext⟩ := hcons
      rw [htext]
      simp [pairInside?]
  rw [pairs_cons_opening hopening, pairs_intercalate h]

/-! ## Curves -/

/-- The list of some pairs of numbers. -/
def listed (l : List (Yaml.Number × Yaml.Number)) : Yaml.Value :=
  .sequence (l.map fun p => .sequence [.number p.1, .number p.2])

/-- Both numbers of a pair are finite. -/
def isFinitePair (p : Yaml.Number × Yaml.Number) : Bool := p.1.isFinite && p.2.isFinite

/-- The control point of a pair of numbers. -/
def pointOf (p : Yaml.Number × Yaml.Number) : Point Binary64 := ⟨p.1.toBinary64, p.2.toBinary64⟩

/-- The texts of a pair of numbers. -/
def textsOf (p : Yaml.Number × Yaml.Number) : List Char × List Char :=
  (p.1.json.toList, p.2.json.toList)

theorem toList_settingText_listed (l : List (Yaml.Number × Yaml.Number)) :
    (listed l).settingText.toList =
      '[' :: ([','].intercalate ((l.map textsOf).map bracketed) ++ [']']) := by
  have hpair : ∀ p : Yaml.Number × Yaml.Number,
      (Yaml.Value.sequence [.number p.1, .number p.2]).json? =
        some (Yaml.Value.jsonList "[" "]" [p.1.json, p.2.json]) := fun p => rfl
  have htexts :
      (l.map fun p => Yaml.Value.jsonList "[" "]" [p.1.json, p.2.json]).map String.toList =
        (l.map textsOf).map bracketed := by
    simp only [List.map_map]
    refine List.map_congr_left fun p _ => ?_
    rw [Function.comp_apply, Yaml.Value.toList_jsonList]
    simp [List.intercalate, bracketed, textsOf]
  rw [listed, Yaml.Value.settingText_sequence_map l hpair, Yaml.Value.toList_jsonList, htexts]

theorem point?_textsOf (p : Yaml.Number × Yaml.Number) :
    point? (textsOf p) = if isFinitePair p then some (pointOf p) else none := by
  unfold point? textsOf isFinitePair
  rw [Yaml.Number.leadingFloat?_json, Yaml.Number.leadingFloat?_json]
  cases p.1.isFinite <;> cases p.2.isFinite <;> rfl

theorem pairs_settingText (l : List (Yaml.Number × Yaml.Number)) :
    pairs (listed l).settingText.toList = l.map textsOf := by
  have hparts : ∀ pair ∈ l.map textsOf, IsPart pair.1 ∧ IsPart pair.2 := fun pair hpair => by
    obtain ⟨p, -, rfl⟩ := List.mem_map.1 hpair
    exact ⟨fun c => Yaml.Number.not_separator_of_mem_json,
      fun c => Yaml.Number.not_separator_of_mem_json⟩
  rw [toList_settingText_listed, pairs_listed hparts]

theorem ofText_settingText (key : String) (l : List (Yaml.Number × Yaml.Number)) :
    ofText key (listed l).settingText =
      ⟨(l.filter isFinitePair).map pointOf,
        (l.filter (!isFinitePair ·)).map fun p => unreadablePair key (textsOf p)⟩ := by
  have hpoints : (l.map textsOf).filterMap point? = (l.filter isFinitePair).map pointOf := by
    rw [List.filterMap_map, ← List.filterMap_eq_map, List.filterMap_filter]
    exact List.filterMap_congr fun p _ => point?_textsOf p
  have hnone : (fun pair => (point? pair).isNone) ∘ textsOf = (!isFinitePair ·) := by
    funext p
    rw [Function.comp_apply, point?_textsOf]
    cases isFinitePair p <;> rfl
  unfold ofText
  simp only [pairs_settingText, hpoints, List.filter_map, hnone, List.map_map]
  rfl

/-- **Lists reach the curve intact.** There is a control point for every pair of finite numbers, in
the order of the list, with the numbers nearest to them; every other pair is reported. -/
theorem ofText_listed (key : String) (l : List (Yaml.Number × Yaml.Number)) :
    let curve := ofText key (listed l).settingText
    curve.value = (l.filter isFinitePair).map pointOf ∧
    curve.log = ((l.filter (!isFinitePair ·)).map fun p => unreadablePair key (textsOf p)) ∧
    ((∀ p ∈ l, isFinitePair p) → curve.value = l.map pointOf ∧ curve.log = []) ∧
    ∀ p ∈ l, p.1.InRange → p.2.InRange → isFinitePair p →
      (pointOf p).flow.IsNearest p.1.value ∧ (pointOf p).temperature.IsNearest p.2.value := by
  intro curve
  have hcurve := ofText_settingText key l
  refine ⟨congrArg Logged.value hcurve, congrArg Logged.log hcurve, fun hfinite => ?_,
    fun p _ hfirst hsecond hfinite => ?_⟩
  · have hall : l.filter isFinitePair = l := List.filter_eq_self.2 hfinite
    have hrest : l.filter (!isFinitePair ·) = [] :=
      List.filter_eq_nil_iff.2 fun p hp => by simp [hfinite p hp]
    rw [hall, hrest] at hcurve
    exact ⟨congrArg Logged.value hcurve, congrArg Logged.log hcurve⟩
  · have hboth : p.1.isFinite ∧ p.2.isFinite := by simpa [isFinitePair] using hfinite
    exact ⟨Yaml.Number.isNearest_toBinary64 hfirst hboth.1,
      Yaml.Number.isNearest_toBinary64 hsecond hboth.2⟩

/-- Two pairs of finite numbers. -/
def twoPairs : List (Yaml.Number × Yaml.Number) :=
  [(.integer 1, .integer 18446744073709551615), (.float (.zero true), .integer (-210))]

theorem ofText_listed_twoPairs :
    (∀ p ∈ twoPairs, isFinitePair p ∧ p.1.InRange ∧ p.2.InRange) ∧
    ofText "curve" (listed twoPairs).settingText = ⟨twoPairs.map pointOf, []⟩ ∧
    ofText "curve" (listed ((.integer 0, .float .nan) :: twoPairs)).settingText =
      ⟨twoPairs.map pointOf,
        [⟨.warn, "Couldn't read 2D graph element [0,null] in setting 'curve'. Ignored."⟩]⟩ ∧
    ∀ p ∈ twoPairs, (pointOf p).temperature.IsNearest p.2.value := by
  have hfinite : ∀ p ∈ twoPairs, isFinitePair p ∧ p.1.InRange ∧ p.2.InRange := by
    simp only [twoPairs, List.forall_mem_cons, List.not_mem_nil, Yaml.Number.InRange]
    exact ⟨⟨rfl, by omega, by omega⟩, ⟨rfl, trivial, by omega⟩, by simp⟩
  obtain ⟨-, -, hall, hnearest⟩ := ofText_listed "curve" twoPairs
  obtain ⟨hvalue, hlog⟩ := hall fun p hp => (hfinite p hp).1
  obtain ⟨hvalue', hlog', -, -⟩ := ofText_listed "curve" ((.integer 0, .float .nan) :: twoPairs)
  refine ⟨hfinite, congrArg₂ Logged.mk hvalue hlog,
    congrArg₂ Logged.mk (hvalue'.trans rfl) (hlog'.trans ?_), fun p hp => ?_⟩
  · decide +kernel
  · obtain ⟨hfin, h1, h2⟩ := hfinite p hp
    exact (hnearest p hp h1 h2 hfin).2

end PrintSettings.Value.Curve
