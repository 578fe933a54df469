import Mathlib.Order.Monotone.Defs
import PrintSettings.Proofs.Value.Interpolation

/-! # Curves with rising flows

On a curve whose flows rise strictly, the temperature is the piecewise linear function through the
control points, constant beyond the ends, and a flow is reported exactly if it lies beyond one of
them (`temperature_piecewise`). Wherever two windows of the search meet, both give the temperature
of the control point they share, so it does not matter which of them the search stops at
(`temperatureFrom_between`).

* `temperatureFrom`: the temperature from a control point on, with one lemma for each step of the
  search.
* `temperatureFrom_mono`: between rising temperatures more flow means no less temperature, by
  induction on the control points that are left.
* `LiesAt.reports_eq`: what is reported. -/

namespace PrintSettings.Value.Curve

open PrintSettings.Numeric

/-- The flows rise strictly along the curve. -/
def Rising (curve : List (Point ℚ)) : Prop := curve.Pairwise fun p q => p.flow < q.flow

/-- The temperatures never fall along the curve. -/
def Warming (curve : List (Point ℚ)) : Prop :=
  curve.Pairwise fun p q => p.temperature ≤ q.temperature

/-- The temperatures never rise along the curve. -/
def Cooling (curve : List (Point ℚ)) : Prop :=
  curve.Pairwise fun p q => q.temperature ≤ p.temperature

variable {low high first second last : Point ℚ} {rest before after curve : List (Point ℚ)} {x y : ℚ}

/-! ## From a control point on -/

/-- The temperature for a flow that is not below the first one of these control points. -/
def temperatureFrom (x : ℚ) (low : Point ℚ) (rest : List (Point ℚ)) : ℚ :=
  (placeFrom x low rest).temperature x

theorem temperatureFrom_nil : temperatureFrom x low [] = low.temperature := rfl

theorem temperatureFrom_of_le (h : x ≤ high.flow) :
    temperatureFrom x low (high :: rest) = interpolate low high x := by
  rw [temperatureFrom, placeFrom, if_pos h]
  rfl

theorem temperatureFrom_of_lt (h : high.flow < x) :
    temperatureFrom x low (high :: rest) = temperatureFrom x high rest := by
  rw [temperatureFrom, placeFrom, if_neg h.not_ge]
  rfl

/-- **Between two neighbours** the temperature is interpolated between them, even if the search
stops before, where the flow is that of the lower one. -/
theorem temperatureFrom_between {l h : Point ℚ} (hrise : Rising (low :: rest))
    (hsplit : low :: rest = before ++ l :: h :: after) (hlow : l.flow ≤ x) (hhigh : x ≤ h.flow) :
    temperatureFrom x low rest = interpolate l h x := by
  induction before generalizing low rest with
  | nil =>
    obtain ⟨rfl, rfl⟩ := List.cons_eq_cons.1 hsplit
    exact temperatureFrom_of_le hhigh
  | cons p before ih =>
    obtain ⟨rfl, rfl⟩ := List.cons_eq_cons.1 hsplit
    obtain ⟨hfirst, htail⟩ := List.pairwise_cons.1 hrise
    cases before with
    | nil =>
      have hwidth : low.flow < l.flow := hfirst l List.mem_cons_self
      rcases hlow.lt_or_eq with hlt | rfl
      · exact (temperatureFrom_of_lt hlt).trans (ih htail rfl)
      · have hstop : temperatureFrom l.flow low (l :: h :: after) = interpolate low l l.flow :=
          temperatureFrom_of_le le_rfl
        exact hstop.trans ((interpolate_high hwidth).trans interpolate_low.symm)
    | cons next before =>
      have hnext : next.flow < l.flow :=
        (List.pairwise_cons.1 htail).1 l (by simp)
      exact (temperatureFrom_of_lt (hnext.trans_le hlow)).trans (ih htail rfl)

theorem temperatureFrom_above (hlast : (low :: rest).getLast? = some last)
    (hbeyond : ∀ p ∈ rest, p.flow < x) : temperatureFrom x low rest = last.temperature := by
  induction rest generalizing low with
  | nil =>
    obtain rfl : low = last := by simpa using hlast
    exact temperatureFrom_nil
  | cons high rest ih =>
    obtain ⟨hhigh, hrest⟩ := List.forall_mem_cons.1 hbeyond
    rw [List.getLast?_cons_cons] at hlast
    rw [temperatureFrom_of_lt hhigh, ih hlast hrest]

/-! ## Monotony -/

theorem le_temperatureFrom (hrise : Rising (low :: rest)) (hwarm : Warming (low :: rest))
    (hx : low.flow ≤ x) : low.temperature ≤ temperatureFrom x low rest := by
  induction rest generalizing low with
  | nil => exact le_rfl
  | cons high rest ih =>
    obtain ⟨hflow, hrise⟩ := List.pairwise_cons.1 hrise
    obtain ⟨htemp, hwarm⟩ := List.pairwise_cons.1 hwarm
    have hhigh : low.temperature ≤ high.temperature := htemp high List.mem_cons_self
    rcases le_or_gt x high.flow with hreach | hbeyond
    · rw [temperatureFrom_of_le hreach]
      exact le_interpolate (hflow high List.mem_cons_self) hx hreach le_rfl hhigh
    · rw [temperatureFrom_of_lt hbeyond]
      exact hhigh.trans (ih hrise hwarm hbeyond.le)

theorem temperatureFrom_mono (hrise : Rising (low :: rest)) (hwarm : Warming (low :: rest))
    (hx : low.flow ≤ x) (hxy : x ≤ y) :
    temperatureFrom x low rest ≤ temperatureFrom y low rest := by
  induction rest generalizing low with
  | nil => exact le_rfl
  | cons high rest ih =>
    obtain ⟨hflow, hrise⟩ := List.pairwise_cons.1 hrise
    obtain ⟨htemp, hwarm⟩ := List.pairwise_cons.1 hwarm
    have hwidth : low.flow < high.flow := hflow high List.mem_cons_self
    have hhigh : low.temperature ≤ high.temperature := htemp high List.mem_cons_self
    rcases le_or_gt y high.flow with hreach | hbeyond
    · rw [temperatureFrom_of_le (hxy.trans hreach), temperatureFrom_of_le hreach]
      exact interpolate_mono hwidth hhigh hxy
    rw [temperatureFrom_of_lt hbeyond]
    rcases le_or_gt x high.flow with hreach | hbeyond'
    · -- the flows are in different windows, and the control point between them bounds both
      rw [temperatureFrom_of_le hreach]
      exact (interpolate_le hwidth hx hreach hhigh le_rfl).trans
        (le_temperatureFrom hrise hwarm hbeyond.le)
    · rw [temperatureFrom_of_lt hbeyond']
      exact ih hrise hwarm hbeyond'.le

/-! ## From the start of the curve -/

section Start

variable {α β : Type} {textOf : ℚ → String} {default : ℚ} {place : Place ℚ} {flowText : String}

theorem temperatureOver_of_place (hplace : place? x curve = some place) :
    temperatureOver textOf curve x default true =
      ⟨place.temperature x, place.reports (textOf x)⟩ := by
  simp only [temperatureOver, if_true, hplace]

theorem value_temperatureOver :
    (temperatureOver textOf (first :: second :: rest) x default true).value =
      if x < first.flow then first.temperature else temperatureFrom x first (second :: rest) := by
  by_cases hbelow : x < first.flow
  · have hplace : place? x (first :: second :: rest) = some (.below first) := if_pos hbelow
    rw [temperatureOver_of_place hplace, if_pos hbelow]
    rfl
  · have hplace : place? x (first :: second :: rest) =
        some (placeFrom x first (second :: rest)) := if_neg hbelow
    rw [temperatureOver_of_place hplace, if_neg hbelow]
    rfl

theorem monotone_temperatureOver (hrise : Rising (first :: second :: rest))
    (hwarm : Warming (first :: second :: rest)) :
    Monotone fun x => (temperatureOver textOf (first :: second :: rest) x default true).value := by
  intro x y hxy
  dsimp only
  rw [value_temperatureOver, value_temperatureOver]
  by_cases hy : y < first.flow
  · rw [if_pos hy, if_pos (hxy.trans_lt hy)]
  rw [if_neg hy]
  by_cases hx : x < first.flow
  · rw [if_pos hx]
    exact le_temperatureFrom hrise hwarm (not_lt.1 hy)
  · rw [if_neg hx]
    exact temperatureFrom_mono hrise hwarm (not_lt.1 hx) hxy

/-! ## Falling temperatures -/

/-- The control point with the opposite temperature. -/
def negated (p : Point ℚ) : Point ℚ := ⟨p.flow, -p.temperature⟩

theorem temperature_negated (place : Place ℚ) (x : ℚ) :
    (place.map negated).temperature x = -place.temperature x := by
  cases place with
  | between low high =>
    show -low.temperature + (-high.temperature - -low.temperature) * (x - low.flow) /
      (high.flow - low.flow) = -(low.temperature + (high.temperature - low.temperature) *
        (x - low.flow) / (high.flow - low.flow))
    ring
  | only | below | above => rfl

theorem value_negated (hne : curve ≠ []) :
    (temperatureOver textOf (curve.map negated) x default true).value =
      -(temperatureOver textOf curve x default true).value := by
  obtain ⟨place, hplace, -⟩ := exists_place hne x
  have hmap : place? x (curve.map negated) = (place? x curve).map (Place.map negated) :=
    place?_map (fun _ _ => Iff.rfl) (fun _ _ => Iff.rfl)
  rw [hplace, Option.map_some] at hmap
  rw [temperatureOver_of_place hmap, temperatureOver_of_place hplace]
  exact temperature_negated place x

theorem antitone_temperatureOver (hrise : Rising (first :: second :: rest))
    (hcool : Cooling (first :: second :: rest)) :
    Antitone fun x => (temperatureOver textOf (first :: second :: rest) x default true).value := by
  have hrise' : Rising ((first :: second :: rest).map negated) := List.pairwise_map.2 hrise
  have hwarm : Warming ((first :: second :: rest).map negated) :=
    List.pairwise_map.2 (hcool.imp fun h => neg_le_neg h)
  intro x y hxy
  have hle := @monotone_temperatureOver _ _ _ textOf default hrise' hwarm x y hxy
  have hx := @value_negated (first :: second :: rest) x textOf default (List.cons_ne_nil _ _)
  have hy := @value_negated (first :: second :: rest) y textOf default (List.cons_ne_nil _ _)
  rw [List.map_cons, List.map_cons] at hx hy
  dsimp only at hle ⊢
  rw [hx, hy] at hle
  exact neg_le_neg_iff.1 hle

/-! ## Reports -/

theorem reports_map (f : Point α → Point β) (place : Place α) (flowText : String) :
    (place.map f).reports flowText = place.reports flowText := by
  cases place <;> rfl

/-- What is reported of a flow, given the ends of the curve. -/
def reportsOf (first last : Point ℚ) (x : ℚ) (flowText : String) : List Record :=
  if x < first.flow then [offCurve flowText "below"]
  else if last.flow < x then [offCurve flowText "above"]
  else []

theorem Rising.bounds (hrise : Rising curve) (hfirst : curve.head? = some first)
    (hlast : curve.getLast? = some last) {p : Point ℚ} (hp : p ∈ curve) :
    first.flow ≤ p.flow ∧ p.flow ≤ last.flow := by
  constructor
  · obtain ⟨rest, rfl⟩ := List.head?_eq_some_iff.1 hfirst
    rcases List.mem_cons.1 hp with rfl | hp
    · exact le_rfl
    · exact ((List.pairwise_cons.1 hrise).1 p hp).le
  · obtain ⟨init, rfl⟩ := List.getLast?_eq_some_iff.1 hlast
    rcases List.mem_append.1 hp with hp | hp
    · exact ((List.pairwise_append.1 hrise).2.2 p hp last (List.mem_singleton_self last)).le
    · rw [List.mem_singleton.1 hp]

/-- **A flow is reported exactly if it lies beyond an end of the curve.** -/
theorem LiesAt.reports_eq (h : LiesAt x curve place) (hlength : 2 ≤ curve.length)
    (hrise : Rising curve) (hfirst : curve.head? = some first)
    (hlast : curve.getLast? = some last) :
    place.reports flowText = reportsOf first last x flowText := by
  have hbounds := @Rising.bounds _ _ _ hrise hfirst hlast
  unfold reportsOf
  cases h with
  | only => simp at hlength
  | @below p _ _ hbelow =>
    obtain rfl : p = first := by simpa using hfirst
    rw [if_pos hbelow]
    rfl
  | @between before after low high hlow hhigh =>
    have hfirst_le : first.flow ≤ x := (hbounds (by simp : low ∈ _)).1.trans hlow
    have hle_last : x ≤ last.flow := hhigh.trans (hbounds (by simp : high ∈ _)).2
    rw [if_neg hfirst_le.not_gt, if_neg hle_last.not_gt]
    rfl
  | @above before p q hle hall =>
    obtain rfl : p = first := by simpa using hfirst
    obtain rfl : q = last := by
      rw [← List.cons_append, List.getLast?_concat, Option.some.injEq] at hlast
      exact hlast
    rw [if_neg hle.not_gt, if_pos (hall q (by simp))]
    rfl

/-- A report in floating point is that of the exact values. -/
theorem log_temperatureAt {points : Curve} {flow standard : Binary64} (hpoints : points ≠ [])
    (hfinite : ∀ p ∈ points, p.flow.isFinite) (hflow : flow.isFinite) :
    ∃ place, LiesAt flow.value (points.map Point.value) place ∧
      (temperatureAt points flow standard true).log =
        place.reports (Notation.plain.text flow) := by
  have hne : points.map Point.value ≠ [] := mt List.map_eq_nil_iff.1 hpoints
  obtain ⟨place, hplace, h⟩ := exists_place hne flow.value
  rw [place?_value hfinite hflow, Option.map_eq_some_iff] at hplace
  obtain ⟨found, hfound, rfl⟩ := hplace
  refine ⟨found.map Point.value, h, ?_⟩
  simp only [temperatureAt, temperatureOver, if_true, hfound, reports_map]

end Start

/-! ## The piecewise linear function -/

theorem exists_neighbour {p : Point ℚ} (hlength : 2 ≤ curve.length) (hp : p ∈ curve) :
    ∃ q, [p, q] <:+: curve ∨ [q, p] <:+: curve := by
  obtain ⟨before, after, rfl⟩ := List.append_of_mem hp
  cases after with
  | cons q after => exact ⟨q, .inl ⟨before, after, by simp⟩⟩
  | nil =>
    rcases List.eq_nil_or_concat' before with rfl | ⟨before, q, rfl⟩
    · simp at hlength
    · exact ⟨q, .inr ⟨before, [], by simp⟩⟩

theorem Rising.lt_of_neighbours (hrise : Rising curve) (h : [low, high] <:+: curve) :
    low.flow < high.flow := by
  have hpair : [low, high].Pairwise fun p q => p.flow < q.flow := hrise.sublist h.sublist
  exact List.rel_of_pairwise_cons hpair (List.mem_singleton_self high)

theorem value_between {textOf : ℚ → String} {default : ℚ}
    (hrise : Rising (first :: second :: rest)) (h : [low, high] <:+: first :: second :: rest)
    (hlow : low.flow ≤ x) (hhigh : x ≤ high.flow) :
    (temperatureOver textOf (first :: second :: rest) x default true).value =
      interpolate low high x := by
  obtain ⟨before, after, heq⟩ := h
  have hfirst : first.flow ≤ low.flow := by
    have hmem : low ∈ first :: second :: rest := heq ▸ by simp
    rcases List.mem_cons.1 hmem with rfl | hmem
    · exact le_rfl
    · exact ((List.pairwise_cons.1 hrise).1 low hmem).le
  have hsplit : first :: second :: rest = before ++ low :: high :: after := by simp [← heq]
  rw [value_temperatureOver, if_neg (hfirst.trans hlow).not_gt]
  exact temperatureFrom_between hrise hsplit hlow hhigh

/-- **The temperature of a rising curve is piecewise linear.** It is that of every control point at
its flow, lies on the line through two neighbours between them, and is that of the first or the last
control point beyond them. It follows the temperatures of the curve if they never fall, or never
rise. A flow is reported exactly if it lies beyond an end, also in floating point. -/
theorem temperature_piecewise (textOf : ℚ → String) (default : ℚ) (hlength : 2 ≤ curve.length)
    (hrise : Rising curve) (hfirst : curve.head? = some first)
    (hlast : curve.getLast? = some last) :
    let reading := fun x => temperatureOver textOf curve x default true
    (∀ p ∈ curve, (reading p.flow).value = p.temperature) ∧
    (∀ low high x, [low, high] <:+: curve → low.flow ≤ x → x ≤ high.flow →
      ((reading x).value - low.temperature) * (high.flow - low.flow) =
        (high.temperature - low.temperature) * (x - low.flow)) ∧
    (∀ x, x < first.flow → (reading x).value = first.temperature) ∧
    (∀ x, last.flow < x → (reading x).value = last.temperature) ∧
    (Warming curve → Monotone fun x => (reading x).value) ∧
    (Cooling curve → Antitone fun x => (reading x).value) ∧
    (∀ x, (reading x).log = reportsOf first last x (textOf x)) ∧
    ∀ (points : Curve) (flow standard : Binary64), points.map Point.value = curve →
      (∀ p ∈ points, p.flow.isFinite) → flow.isFinite →
      (temperatureAt points flow standard true).log =
        reportsOf first last flow.value (Notation.plain.text flow) := by
  intro reading
  obtain ⟨p, second, rest, rfl⟩ : ∃ p second rest, curve = p :: second :: rest := by
    match curve, hlength with
    | p :: second :: rest, _ => exact ⟨p, second, rest, rfl⟩
  obtain rfl : p = first := by simpa using hfirst
  have hbetween : ∀ {low high x}, [low, high] <:+: p :: second :: rest → low.flow ≤ x →
      x ≤ high.flow → (reading x).value = interpolate low high x := value_between hrise
  refine ⟨fun q hq => ?point, fun low high x hneighbours hlow hhigh => ?line,
    fun x hbelow => ?below, fun x habove => ?above, monotone_temperatureOver hrise,
    antitone_temperatureOver hrise, fun x => ?reports,
    fun points flow standard hpoints hfinite hflow => ?floating⟩
  case point =>
    obtain ⟨neighbour, hneighbours | hneighbours⟩ := exists_neighbour hlength hq
    · have hwidth := hrise.lt_of_neighbours hneighbours
      rw [hbetween hneighbours le_rfl hwidth.le, interpolate_low]
    · have hwidth := hrise.lt_of_neighbours hneighbours
      rw [hbetween hneighbours hwidth.le le_rfl, interpolate_high hwidth]
  case line =>
    rw [hbetween hneighbours hlow hhigh]
    exact interpolate_sub_mul (hrise.lt_of_neighbours hneighbours) x
  case below =>
    rw [value_temperatureOver, if_pos hbelow]
  case above =>
    have hbounds := @Rising.bounds _ _ _ hrise hfirst hlast
    have hfirst_le : p.flow ≤ x := (hbounds List.mem_cons_self).2.trans habove.le
    rw [value_temperatureOver, if_neg hfirst_le.not_gt]
    exact temperatureFrom_above hlast fun q hq =>
      (hbounds (List.mem_cons_of_mem p hq)).2.trans_lt habove
  case reports =>
    obtain ⟨place, hplace, h⟩ := exists_place (List.cons_ne_nil p (second :: rest)) x
    have hlog : (reading x).log = place.reports (textOf x) :=
      congrArg Logged.log (temperatureOver_of_place hplace)
    rw [hlog]
    exact h.reports_eq hlength hrise hfirst hlast
  case floating =>
    have hne : points ≠ [] := by
      rintro rfl
      contradiction
    obtain ⟨place, h, hlog⟩ := @log_temperatureAt points flow standard hne hfinite hflow
    rw [hpoints] at h
    rw [hlog]
    exact h.reports_eq hlength hrise hfirst hlast

/-- Three control points, and flows at one of them, between two and off the curve. -/
theorem temperature_piecewise_threePoints :
    let curve : List (Point ℚ) := [⟨2, 200⟩, ⟨4, 220⟩, ⟨8, 230⟩]
    let points : Curve := [⟨2, 200⟩, ⟨4, 220⟩, ⟨8, 230⟩]
    let reading := fun x => temperatureOver (fun _ => "x") curve x 180 true
    2 ≤ curve.length ∧ Rising curve ∧ curve.head? = some ⟨2, 200⟩ ∧
    curve.getLast? = some ⟨8, 230⟩ ∧ (reading 4).value = 220 ∧
    [⟨4, 220⟩, ⟨8, 230⟩] <:+: curve ∧ ((reading 6).value - 220) * (8 - 4) = (230 - 220) * (6 - 4) ∧
    (1 : ℚ) < 2 ∧ (reading 1).value = 200 ∧ (8 : ℚ) < 9 ∧ (reading 9).value = 230 ∧
    Warming curve ∧ (reading 3).value ≤ (reading 5).value ∧
    (reading 9).log = [offCurve "x" "above"] ∧
    points.map Point.value = curve ∧ (∀ p ∈ points, p.flow.isFinite) ∧ Binary64.isFinite 1 ∧
    (temperatureAt points 1 180 true).log = [offCurve "1" "below"] := by
  intro curve points reading
  have hlength : 2 ≤ curve.length := by decide
  have hrise : Rising curve := by unfold Rising; decide +kernel
  have hwarm : Warming curve := by unfold Warming; decide +kernel
  have hneighbours : [⟨4, 220⟩, ⟨8, 230⟩] <:+: curve := ⟨[⟨2, 200⟩], [], rfl⟩
  have hpoints : points.map Point.value = curve := by decide +kernel
  have hfinite : ∀ p ∈ points, p.flow.isFinite := by decide +kernel
  have hflow : Binary64.isFinite 1 := by decide +kernel
  obtain ⟨hpoint, hline, hbelow, habove, hmono, -, hlog, hfloating⟩ :=
    temperature_piecewise (fun _ => "x") 180 hlength hrise rfl rfl
  exact ⟨hlength, hrise, rfl, rfl, hpoint ⟨4, 220⟩ (by simp [curve]), hneighbours,
    hline _ _ 6 hneighbours (by norm_num) (by norm_num), by norm_num, hbelow 1 (by norm_num),
    by norm_num, habove 9 (by norm_num), hwarm, hmono hwarm (by norm_num),
    (hlog 9).trans (by decide +kernel), hpoints, hfinite, hflow,
    (hfloating points 1 180 hpoints hfinite hflow).trans (by decide +kernel)⟩

end PrintSettings.Value.Curve
