import Mathlib.Tactic.LinearCombination
import PrintSettings.Proofs.Value.Place

/-! # Interpolation in exact numbers

Temperatures are interpolated with the four operations, here on rational numbers. Where a division
by zero has no result (`Exact`), the only one is at the start of a curve: a flow that both of the
first two control points have leaves no width to divide by (`StartsTwice`). Any other flow gets a
temperature between those of two control points, whatever the order of their flows
(`temperature_within`).

* `interpolate_mul`: the temperature as a weighted mean of the two ends.
* `le_interpolate`, `interpolate_le`, `interpolate_mono`: bounds and monotony between the ends.
* `interpolate_exact`: with divisions that may fail. -/

namespace PrintSettings.Numeric

/-! ## Divisions that may fail -/

/-- A rational number, or what a division by zero leaves. -/
inductive Exact where
  | number (x : ℚ)
  | undefined
deriving DecidableEq

namespace Exact

/-- An operation that always has a result. -/
def lift (f : ℚ → ℚ → ℚ) : Exact → Exact → Exact
  | number x, number y => number (f x y)
  | _, _ => undefined

def div : Exact → Exact → Exact
  | number x, number y => if y = 0 then undefined else number (x / y)
  | _, _ => undefined

/-- Whether a relation holds of two numbers; it does not hold of what is undefined. -/
def compares (r : ℚ → ℚ → Bool) : Exact → Exact → Bool
  | number x, number y => r x y
  | _, _ => false

instance : Add Exact := ⟨lift (· + ·)⟩
instance : Sub Exact := ⟨lift (· - ·)⟩
instance : Mul Exact := ⟨lift (· * ·)⟩
instance : Div Exact := ⟨div⟩
instance : LT Exact := ⟨fun x y => compares (fun a b => a < b) x y⟩
instance : LE Exact := ⟨fun x y => compares (fun a b => a ≤ b) x y⟩
instance : DecidableLT Exact := fun _ _ => inferInstanceAs (Decidable (_ = true))
instance : DecidableLE Exact := fun _ _ => inferInstanceAs (Decidable (_ = true))

variable {x y : ℚ}

theorem number_le_iff : number x ≤ number y ↔ x ≤ y := decide_eq_true_iff

theorem number_lt_iff : number x < number y ↔ x < y := decide_eq_true_iff

theorem number_div : number x / number y = if y = 0 then undefined else number (x / y) := rfl

end Exact

end PrintSettings.Numeric

namespace PrintSettings.Value

open PrintSettings.Numeric

/-- The control point with its numbers as exact ones. -/
def Point.exact (p : Point ℚ) : Point Exact := ⟨.number p.flow, .number p.temperature⟩

namespace Curve

/-! ## Two control points -/

section Interpolate

variable {low high : Point ℚ} {x y bound : ℚ}

theorem interpolate_low : interpolate low high low.flow = low.temperature := by
  rw [interpolate, sub_self, mul_zero, zero_div, add_zero]

theorem interpolate_high (h : low.flow < high.flow) :
    interpolate low high high.flow = high.temperature := by
  have hwidth : high.flow - low.flow ≠ 0 := sub_ne_zero.2 h.ne'
  rw [interpolate, mul_div_cancel_right₀ _ hwidth, add_sub_cancel]

/-- The temperature lies on the line through the control points. -/
theorem interpolate_sub_mul (h : low.flow < high.flow) (x : ℚ) :
    (interpolate low high x - low.temperature) * (high.flow - low.flow) =
      (high.temperature - low.temperature) * (x - low.flow) := by
  have hwidth : high.flow - low.flow ≠ 0 := sub_ne_zero.2 h.ne'
  rw [interpolate, add_sub_cancel_left, div_mul_cancel₀ _ hwidth]

/-- The temperature is the mean of the two ends, weighted by the distances of the flow. -/
theorem interpolate_mul (h : low.flow < high.flow) (x : ℚ) :
    interpolate low high x * (high.flow - low.flow) =
      low.temperature * (high.flow - x) + high.temperature * (x - low.flow) := by
  have hline := interpolate_sub_mul h x
  linear_combination hline

theorem le_interpolate (h : low.flow < high.flow) (hlow : low.flow ≤ x) (hhigh : x ≤ high.flow)
    (hl : bound ≤ low.temperature) (hh : bound ≤ high.temperature) :
    bound ≤ interpolate low high x := by
  have hwidth : 0 < high.flow - low.flow := sub_pos.2 h
  refine le_of_mul_le_mul_right ?_ hwidth
  rw [interpolate_mul h]
  calc bound * (high.flow - low.flow)
      = bound * (high.flow - x) + bound * (x - low.flow) := by ring
    _ ≤ low.temperature * (high.flow - x) + high.temperature * (x - low.flow) :=
        add_le_add (mul_le_mul_of_nonneg_right hl (sub_nonneg.2 hhigh))
          (mul_le_mul_of_nonneg_right hh (sub_nonneg.2 hlow))

theorem interpolate_le (h : low.flow < high.flow) (hlow : low.flow ≤ x) (hhigh : x ≤ high.flow)
    (hl : low.temperature ≤ bound) (hh : high.temperature ≤ bound) :
    interpolate low high x ≤ bound := by
  have hwidth : 0 < high.flow - low.flow := sub_pos.2 h
  refine le_of_mul_le_mul_right ?_ hwidth
  rw [interpolate_mul h]
  calc low.temperature * (high.flow - x) + high.temperature * (x - low.flow)
      ≤ bound * (high.flow - x) + bound * (x - low.flow) :=
        add_le_add (mul_le_mul_of_nonneg_right hl (sub_nonneg.2 hhigh))
          (mul_le_mul_of_nonneg_right hh (sub_nonneg.2 hlow))
    _ = bound * (high.flow - low.flow) := by ring

theorem interpolate_mono (h : low.flow < high.flow) (htemp : low.temperature ≤ high.temperature)
    (hxy : x ≤ y) : interpolate low high x ≤ interpolate low high y := by
  have hwidth : 0 < high.flow - low.flow := sub_pos.2 h
  have hx := interpolate_sub_mul h x
  have hy := interpolate_sub_mul h y
  have hrise : (high.temperature - low.temperature) * (x - low.flow) ≤
      (high.temperature - low.temperature) * (y - low.flow) :=
    mul_le_mul_of_nonneg_left (sub_le_sub_right hxy _) (sub_nonneg.2 htemp)
  rw [← hx, ← hy] at hrise
  have hle := le_of_mul_le_mul_right hrise hwidth
  exact (sub_le_sub_iff_right _).1 hle

end Interpolate

/-! ## Where the interpolation divides by zero -/

/-- The only division is by the distance of the flows. -/
theorem interpolate_exact (low high : Point ℚ) (x : ℚ) :
    interpolate low.exact high.exact (.number x) =
      if high.flow = low.flow then .undefined else .number (interpolate low high x) := by
  have hquotient : interpolate low.exact high.exact (.number x) =
      .number low.temperature + .number ((high.temperature - low.temperature) * (x - low.flow)) /
        .number (high.flow - low.flow) := rfl
  rw [hquotient, Exact.number_div]
  by_cases h : high.flow = low.flow
  · rw [if_pos h, if_pos (sub_eq_zero.2 h)]
    rfl
  · rw [if_neg h, if_neg (sub_ne_zero.2 h)]
    rfl

/-- The first two control points both have the flow. -/
def StartsTwice (flow : ℚ) (curve : List (Point ℚ)) : Prop :=
  ∃ low high after, curve = low :: high :: after ∧ low.flow = flow ∧ high.flow = flow

variable {flow : ℚ} {curve : List (Point ℚ)} {place : Place ℚ}

theorem place?_exact (flow : ℚ) (curve : List (Point ℚ)) :
    place? (.number flow) (curve.map Point.exact) =
      (place? flow curve).map (Place.map Point.exact) :=
  place?_map (fun _ _ => Exact.number_le_iff) (fun _ _ => Exact.number_lt_iff)

/-- The two control points have one flow only where the curve starts with it twice. -/
theorem LiesAt.flow_eq_iff {low high : Point ℚ} (h : LiesAt flow curve (.between low high)) :
    high.flow = low.flow ↔ StartsTwice flow curve := by
  cases h with
  | @between before after _ _ hlow hhigh hpast =>
    cases before with
    | nil =>
      constructor
      · intro hwidth
        have hflow : low.flow = flow := le_antisymm hlow (hwidth ▸ hhigh)
        exact ⟨low, high, after, rfl, hflow, hwidth.trans hflow⟩
      · rintro ⟨first, second, rest, hcurve, hfirst, hsecond⟩
        obtain ⟨rfl, htail⟩ := List.cons_eq_cons.1 hcurve
        obtain ⟨rfl, -⟩ := List.cons_eq_cons.1 htail
        exact hsecond.trans hfirst.symm
    | cons first before =>
      -- the second control point was passed, and so was the lower one
      have hpast' : ∀ p ∈ before ++ [low], p.flow < flow := hpast
      constructor
      · intro hwidth
        have hlt : low.flow < flow := hpast' low (by simp)
        exact absurd hhigh (hwidth ▸ hlt).not_ge
      · rintro ⟨first', second, rest, hcurve, -, hsecond⟩
        have hmem : second ∈ before ++ [low] := by
          obtain ⟨-, htail⟩ := List.cons_eq_cons.1 hcurve
          cases before with
          | nil =>
            obtain ⟨rfl, -⟩ := List.cons_eq_cons.1 htail
            exact List.mem_singleton_self low
          | cons p before =>
            obtain ⟨rfl, -⟩ := List.cons_eq_cons.1 htail
            exact List.mem_cons_self
        exact absurd hsecond (hpast' second hmem).ne

theorem LiesAt.exists_between (h : LiesAt flow curve place) (hstart : StartsTwice flow curve) :
    ∃ low high, place = .between low high := by
  obtain ⟨first, second, rest, rfl, hfirst, hsecond⟩ := hstart
  generalize hcurve : first :: second :: rest = curve at h
  cases h with
  | only => simp at hcurve
  | below hbelow =>
    obtain ⟨rfl, -⟩ := List.cons_eq_cons.1 hcurve
    exact absurd hfirst hbelow.ne'
  | between => exact ⟨_, _, rfl⟩
  | @above before first' last hle hall =>
    obtain ⟨-, htail⟩ := List.cons_eq_cons.1 hcurve
    have hmem : second ∈ before ++ [last] := htail ▸ List.mem_cons_self
    exact absurd hsecond (hall second hmem).ne

theorem LiesAt.temperature_undefined (h : LiesAt flow curve place)
    (hstart : StartsTwice flow curve) :
    (place.map Point.exact).temperature (.number flow) = .undefined := by
  obtain ⟨low, high, rfl⟩ := h.exists_between hstart
  have hexact := interpolate_exact low high flow
  rw [if_pos (h.flow_eq_iff.2 hstart)] at hexact
  exact hexact

theorem LiesAt.temperature_number (h : LiesAt flow curve place)
    (hstart : ¬ StartsTwice flow curve) :
    (place.map Point.exact).temperature (.number flow) = .number (place.temperature flow) := by
  cases place with
  | between low high =>
    have hexact := interpolate_exact low high flow
    rw [if_neg (mt h.flow_eq_iff.1 hstart)] at hexact
    exact hexact
  | only | below | above => rfl

/-! ## Bounds -/

/-- No temperature is colder than all control points, or hotter. -/
theorem LiesAt.temperature_mem (h : LiesAt flow curve place) (hstart : ¬ StartsTwice flow curve) :
    (∃ p ∈ curve, p.temperature ≤ place.temperature flow) ∧
      ∃ p ∈ curve, place.temperature flow ≤ p.temperature := by
  have hpoint : ∀ p ∈ curve, place.temperature flow = p.temperature →
      (∃ p ∈ curve, p.temperature ≤ place.temperature flow) ∧
        ∃ p ∈ curve, place.temperature flow ≤ p.temperature := fun p hp heq =>
    ⟨⟨p, hp, heq.ge⟩, p, hp, heq.le⟩
  cases place with
  | between low high =>
    obtain ⟨hneighbours, hlow, hhigh⟩ := h.bracket
    have hmem_low : low ∈ curve := hneighbours.subset (by simp)
    have hmem_high : high ∈ curve := hneighbours.subset (by simp)
    have hwidth : low.flow < high.flow :=
      lt_of_le_of_ne (hlow.trans hhigh) (Ne.symm (mt h.flow_eq_iff.1 hstart))
    rcases le_total low.temperature high.temperature with htemp | htemp
    · exact ⟨⟨low, hmem_low, le_interpolate hwidth hlow hhigh le_rfl htemp⟩,
        high, hmem_high, interpolate_le hwidth hlow hhigh htemp le_rfl⟩
    · exact ⟨⟨high, hmem_high, le_interpolate hwidth hlow hhigh htemp le_rfl⟩,
        low, hmem_low, interpolate_le hwidth hlow hhigh le_rfl htemp⟩
  | only p =>
    cases h
    exact hpoint p (List.mem_singleton_self p) rfl
  | below first =>
    cases h
    exact hpoint first List.mem_cons_self rfl
  | above last =>
    cases h
    exact hpoint last (by simp) rfl

/-- **A temperature between those of the curve.** The temperature for a flow is undefined exactly if
the first two control points both have the flow. Everywhere else it is at least the temperature of
one control point and at most that of another one. What is interpolated lies between neighbouring
control points, with the flow between theirs. -/
theorem temperature_within (textOf : Exact → String) (hne : curve ≠ []) (flow default : ℚ) :
    let t := temperatureOver textOf (curve.map Point.exact) (.number flow) (.number default) true
    (t.value = .undefined ↔ StartsTwice flow curve) ∧
    (¬ StartsTwice flow curve → ∃ x, t.value = .number x ∧
      (∃ p ∈ curve, p.temperature ≤ x) ∧ ∃ p ∈ curve, x ≤ p.temperature) ∧
    ∀ low high : Point Exact,
      place? (.number flow) (curve.map Point.exact) = some (.between low high) →
      ∃ l h, low = l.exact ∧ high = h.exact ∧ [l, h] <:+: curve ∧ l.flow ≤ flow ∧
        flow ≤ h.flow := by
  intro t
  obtain ⟨place, hplace, h⟩ := exists_place hne flow
  have hexact : place? (.number flow) (curve.map Point.exact) = some (place.map Point.exact) := by
    rw [place?_exact, hplace, Option.map_some]
  have ht : t.value = (place.map Point.exact).temperature (.number flow) := by
    simp only [t, temperatureOver, if_true, hexact]
  refine ⟨⟨fun hundefined => ?_, fun hstart => ?_⟩, fun hstart => ?_, fun low high hbetween => ?_⟩
  · by_contra hstart
    rw [ht, h.temperature_number hstart] at hundefined
    contradiction
  · rw [ht, h.temperature_undefined hstart]
  · exact ⟨place.temperature flow, ht.trans (h.temperature_number hstart), h.temperature_mem hstart⟩
  · rw [hexact, Option.some.injEq] at hbetween
    cases place with
    | between l h' =>
      obtain ⟨rfl, rfl⟩ := Place.between.inj hbetween
      exact ⟨l, h', rfl, rfl, h.bracket⟩
    | only | below | above => contradiction

/-- Flows out of order, one of them repeated: a flow between the last two. -/
theorem temperature_within_unordered :
    let curve : List (Point ℚ) := [⟨4, 220⟩, ⟨2, 200⟩, ⟨2, 190⟩, ⟨8, 230⟩]
    let t := temperatureOver (fun _ => "5") (curve.map Point.exact) (.number 5) (.number 180) true
    curve ≠ [] ∧ ¬ StartsTwice 5 curve ∧
    (∃ x, t.value = .number x ∧ (∃ p ∈ curve, p.temperature ≤ x) ∧ ∃ p ∈ curve, x ≤ p.temperature) ∧
    place? (.number 5) (curve.map Point.exact) =
      some (.between (Point.exact ⟨2, 190⟩) (Point.exact ⟨8, 230⟩)) ∧
    ∃ l h : Point ℚ, Point.exact ⟨2, 190⟩ = l.exact ∧ Point.exact ⟨8, 230⟩ = h.exact ∧
      [l, h] <:+: curve ∧ l.flow ≤ 5 ∧ 5 ≤ h.flow := by
  intro curve t
  have hne : curve ≠ [] := List.cons_ne_nil _ _
  have hstart : ¬ StartsTwice 5 curve := by
    rintro ⟨low, high, after, hcurve, hlow, -⟩
    obtain ⟨rfl, -⟩ := List.cons_eq_cons.1 hcurve
    exact absurd hlow (by decide +kernel)
  have hplace : place? (.number 5) (curve.map Point.exact) =
      some (.between (Point.exact ⟨2, 190⟩) (Point.exact ⟨8, 230⟩)) := by decide +kernel
  obtain ⟨-, hwithin, hbetween⟩ := temperature_within (fun _ => "5") hne 5 180
  exact ⟨hne, hstart, hwithin hstart, hplace, hbetween _ _ hplace⟩

/-- Two control points with one flow and one temperature leave nothing to divide by: in exact
numbers the temperature is undefined, and in floating point it is not a number. -/
theorem temperature_undefined_doubledStart :
    (temperatureOver (fun _ => "2") [⟨.number 2, .number 200⟩, ⟨.number 2, .number 200⟩]
      (.number 2) (.number 180) true).value = Exact.undefined ∧
    (temperatureAt [⟨2, 200⟩, ⟨2, 200⟩] 2 180 true).value = .nan := by
  decide +kernel

end Curve

end PrintSettings.Value
