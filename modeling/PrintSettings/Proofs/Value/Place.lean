import PrintSettings.Proofs.Numeric.Sum
import PrintSettings.Proofs.Numeric.Value
import PrintSettings.Value.Curve

/-! # Places on a curve

The search for a flow only compares it with the flows of the control points. So it finds the same
place in any numbers in which these comparisons have the same results (`place?_map`); those of
floating point are the comparisons of the exact values (`place?_value`).

* `LiesAt`: what a place says of the flow and the curve. Two neighbouring control points that are
  found have the flow between them, and the flow is beyond all control points up to the lower one,
  but for the first: they were tried before and passed.
* `exists_place`: every flow has a place on every curve with a control point, and lies there. -/

namespace PrintSettings.Value

open PrintSettings.Numeric

/-- The control point with the exact values of its numbers. -/
def Point.value (p : Point Binary64) : Point ℚ := ⟨p.flow.value, p.temperature.value⟩

namespace Curve

variable {α β : Type}

/-! ## The search in other numbers -/

/-- The place with other control points. -/
def Place.map (f : Point α → Point β) : Place α → Place β
  | only point => only (f point)
  | below first => below (f first)
  | between low high => between (f low) (f high)
  | above last => above (f last)

section Map

variable [LE α] [DecidableLE α] [LE β] [DecidableLE β] {f : Point α → Point β} {flow : α}
  {flow' : β}

theorem placeFrom_map {points : List (Point α)} (low : Point α)
    (h : ∀ p ∈ points, flow' ≤ (f p).flow ↔ flow ≤ p.flow) :
    placeFrom flow' (f low) (points.map f) = (placeFrom flow low points).map f := by
  induction points generalizing low with
  | nil => rfl
  | cons high points ih =>
    obtain ⟨hhigh, hpoints⟩ := List.forall_mem_cons.1 h
    rw [List.map_cons, placeFrom, placeFrom]
    by_cases hreach : flow ≤ high.flow
    · rw [if_pos hreach, if_pos (hhigh.2 hreach), Place.map]
    · rw [if_neg hreach, if_neg (mt hhigh.1 hreach), ih high hpoints]

variable [LT α] [DecidableLT α] [LT β] [DecidableLT β]

/-- **The place depends on comparisons of flows only.** -/
theorem place?_map {curve : List (Point α)}
    (hle : ∀ p ∈ curve, flow' ≤ (f p).flow ↔ flow ≤ p.flow)
    (hlt : ∀ p ∈ curve, flow' < (f p).flow ↔ flow < p.flow) :
    place? flow' (curve.map f) = (place? flow curve).map (Place.map f) := by
  cases curve with
  | nil => rfl
  | cons first rest =>
    cases rest with
    | nil => rfl
    | cons second rest =>
      have hrest := (List.forall_mem_cons.1 hle).2
      have hfirst := (List.forall_mem_cons.1 hlt).1
      have hfrom := placeFrom_map first hrest
      rw [List.map_cons] at hfrom
      rw [List.map_cons, List.map_cons, place?, place?, hfrom]
      by_cases hbelow : flow < first.flow
      · rw [if_pos hbelow, if_pos (hfirst.2 hbelow)]
        rfl
      · rw [if_neg hbelow, if_neg (mt hfirst.1 hbelow)]
        rfl

end Map

/-! ## Finite numbers -/

theorem value_le_iff {x y : Binary64} (hx : x.isFinite) (hy : y.isFinite) :
    x.value ≤ y.value ↔ x ≤ y := by
  obtain ⟨a, m, hm⟩ | _ | _ := x <;> try contradiction
  obtain ⟨b, n, hn⟩ | _ | _ := y <;> try contradiction
  rw [Binary64.value_finite, Binary64.value_finite, Binary64.finite_le_iff,
    div_le_div_iff_of_pos_right cast_one_pos, Int.cast_le]

theorem value_lt_iff {x y : Binary64} (hx : x.isFinite) (hy : y.isFinite) :
    x.value < y.value ↔ x < y := by
  obtain ⟨a, m, hm⟩ | _ | _ := x <;> try contradiction
  obtain ⟨b, n, hn⟩ | _ | _ := y <;> try contradiction
  rw [Binary64.value_finite, Binary64.value_finite, Binary64.finite_lt_iff,
    div_lt_div_iff_of_pos_right cast_one_pos, Int.cast_lt]

/-- **In floating point the place is that of the exact values.** -/
theorem place?_value {curve : Curve} {flow : Binary64} (hcurve : ∀ p ∈ curve, p.flow.isFinite)
    (hflow : flow.isFinite) :
    place? flow.value (curve.map Point.value) = (place? flow curve).map (Place.map Point.value) :=
  place?_map (fun p hp => value_le_iff hflow (hcurve p hp))
    (fun p hp => value_lt_iff hflow (hcurve p hp))

/-! ## Where a flow lies -/

/-- What a place says of the flow and the curve. -/
inductive LiesAt (flow : ℚ) : List (Point ℚ) → Place ℚ → Prop where
  | only {point : Point ℚ} : LiesAt flow [point] (.only point)
  | below {first second : Point ℚ} {rest : List (Point ℚ)} : flow < first.flow →
    LiesAt flow (first :: second :: rest) (.below first)
  | between {before after : List (Point ℚ)} {low high : Point ℚ} : low.flow ≤ flow →
    flow ≤ high.flow → (∀ p ∈ (before ++ [low]).tail, p.flow < flow) →
    LiesAt flow (before ++ low :: high :: after) (.between low high)
  | above {before : List (Point ℚ)} {first last : Point ℚ} : first.flow ≤ flow →
    (∀ p ∈ before ++ [last], p.flow < flow) →
    LiesAt flow (first :: (before ++ [last])) (.above last)

theorem liesAt_placeFrom {flow : ℚ} {low high : Point ℚ} {rest : List (Point ℚ)}
    (hlow : low.flow ≤ flow) :
    LiesAt flow (low :: high :: rest) (placeFrom flow low (high :: rest)) := by
  induction rest generalizing low high with
  | nil =>
    rw [placeFrom]
    by_cases hreach : flow ≤ high.flow
    · rw [if_pos hreach]
      exact @LiesAt.between flow [] [] low high hlow hreach (by simp)
    · rw [if_neg hreach]
      have hlast : ∀ p ∈ [] ++ [high], p.flow < flow := by simpa using hreach
      exact @LiesAt.above flow [] low high hlow hlast
  | cons next rest ih =>
    rw [placeFrom]
    by_cases hreach : flow ≤ high.flow
    · rw [if_pos hreach]
      exact @LiesAt.between flow [] (next :: rest) low high hlow hreach (by simp)
    · rw [if_neg hreach]
      have hbeyond : high.flow < flow := not_le.1 hreach
      have hrest := @ih high next hbeyond.le
      generalize placeFrom flow high (next :: rest) = place at hrest
      generalize hcurve : high :: next :: rest = curve at hrest
      cases hrest with
      | only => simp at hcurve
      | below hfirst =>
        obtain ⟨rfl, -⟩ := List.cons_eq_cons.1 hcurve
        exact absurd hfirst hbeyond.not_gt
      | @between before after l h hle hge hpast =>
        -- one more control point is passed: the first of those that were searched
        have hpast' : ∀ p ∈ before ++ [l], p.flow < flow := by
          cases before with
          | nil =>
            obtain ⟨rfl, -⟩ := List.cons_eq_cons.1 hcurve
            exact List.forall_mem_singleton.2 hbeyond
          | cons p before =>
            obtain ⟨rfl, -⟩ := List.cons_eq_cons.1 hcurve
            exact List.forall_mem_cons.2 ⟨hbeyond, hpast⟩
        exact @LiesAt.between flow (low :: before) after l h hle hge hpast'
      | @above before first last hfirst hall =>
        obtain ⟨rfl, -⟩ := List.cons_eq_cons.1 hcurve
        exact @LiesAt.above flow (high :: before) low last hlow
          (List.forall_mem_cons.2 ⟨hbeyond, hall⟩)

/-- **Every flow has a place on a curve**, and lies there. -/
theorem exists_place {curve : List (Point ℚ)} (hne : curve ≠ []) (flow : ℚ) :
    ∃ place, place? flow curve = some place ∧ LiesAt flow curve place := by
  obtain ⟨first, rest, rfl⟩ := List.exists_cons_of_ne_nil hne
  cases rest with
  | nil => exact ⟨_, rfl, .only⟩
  | cons second rest =>
    rw [place?]
    by_cases hbelow : flow < first.flow
    · exact ⟨_, if_pos hbelow, .below hbelow⟩
    · exact ⟨_, if_neg hbelow, liesAt_placeFrom (not_lt.1 hbelow)⟩

theorem LiesAt.bracket {flow : ℚ} {curve : List (Point ℚ)} {low high : Point ℚ}
    (h : LiesAt flow curve (.between low high)) :
    [low, high] <:+: curve ∧ low.flow ≤ flow ∧ flow ≤ high.flow := by
  cases h with
  | @between before after _ _ hlow hhigh _ => exact ⟨⟨before, after, by simp⟩, hlow, hhigh⟩

end Curve

end PrintSettings.Value
