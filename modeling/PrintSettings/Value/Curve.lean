import PrintSettings.Log
import PrintSettings.Numeric.Leading
import PrintSettings.Numeric.Notation

/-! # Flow and temperature curves

A curve is a list of control points. Its text is searched for bracketed pairs `[first,second]`, left
to right and without overlap (`pairs`); the rest of the text does not matter. Between two control
points the temperature is interpolated linearly (`interpolate`), over any numbers with the four
operations. -/

namespace PrintSettings.Value

open PrintSettings.Numeric

/-- A control point: the temperature to print at for a flow. -/
structure Point (α : Type) where
  flow : α
  temperature : α
deriving DecidableEq

/-- Control points in the order of the text. -/
abbrev Curve := List (Point Binary64)

namespace Curve

/-! ## Bracketed pairs -/

/-- The pair whose opening bracket stands just before the text, and the text after it. -/
def pairInside? (text : List Char) : Option (List Char × List Char × List Char) :=
  match text.dropWhile (fun c => c != ',' && c != '[') with
  | ',' :: rest =>
    match rest.dropWhile (fun c => c != ',' && c != ']') with
    | ']' :: after =>
      some (text.takeWhile (fun c => c != ',' && c != '['),
        rest.takeWhile (fun c => c != ',' && c != ']'), after)
    | _ => none
  | _ => none

/-- The first pair of a text, and the text after it. -/
def nextPair? : List Char → Option (List Char × List Char × List Char)
  | [] => none
  | c :: text => if c == '[' then (pairInside? text).or (nextPair? text) else nextPair? text

theorem length_dropWhile_le {p : Char → Bool} {text : List Char} :
    (text.dropWhile p).length ≤ text.length :=
  (List.dropWhile_sublist p).length_le

theorem pairInside?_length {text first second after : List Char}
    (h : pairInside? text = some (first, second, after)) : after.length < text.length := by
  unfold pairInside? at h
  split at h <;> try contradiction
  next rest h1 =>
    split at h <;> try contradiction
    next after' h2 =>
      have e1 := congrArg List.length h1
      have e2 := congrArg List.length h2
      have l1 := @length_dropWhile_le (fun c => c != ',' && c != '[') text
      have l2 := @length_dropWhile_le (fun c => c != ',' && c != ']') rest
      simp only [Option.some.injEq, Prod.mk.injEq] at h
      obtain ⟨-, -, rfl⟩ := h
      simp only [List.length_cons] at e1 e2
      omega

theorem nextPair?_length {text first second after : List Char}
    (h : nextPair? text = some (first, second, after)) : after.length < text.length := by
  induction text with
  | nil => simp [nextPair?] at h
  | cons c text ih =>
    simp only [nextPair?] at h
    split at h
    · cases hp : pairInside? text with
      | some p =>
        rw [hp, Option.some_or] at h
        cases h
        have := pairInside?_length hp
        simp only [List.length_cons]
        omega
      | none =>
        rw [hp, Option.none_or] at h
        have := ih h
        simp only [List.length_cons]
        omega
    · have := ih h
      simp only [List.length_cons]
      omega

/-- All pairs of a text, each searched for after the end of the one before. -/
def pairs (text : List Char) : List (List Char × List Char) :=
  match _h : nextPair? text with
  | none => []
  | some (first, second, after) => (first, second) :: pairs after
termination_by text.length
decreasing_by exact nextPair?_length (by assumption)

/-! ## Reading -/

/-- A pair whose halves start with numbers is a control point. -/
def point? (pair : List Char × List Char) : Option (Point Binary64) := do
  return ⟨← leadingFloat? pair.1, ← leadingFloat? pair.2⟩

def unreadablePair (key : String) (pair : List Char × List Char) : Record where
  level := .warn
  text := "Couldn't read 2D graph element [" ++ String.ofList pair.1 ++ "," ++
    String.ofList pair.2 ++ "] in setting '" ++ key ++ "'. Ignored."

/-- The curve held by a setting; pairs that are no control points are reported and left out. -/
def ofText (key text : String) : Logged Curve :=
  let found := pairs text.toList
  ⟨found.filterMap point?, (found.filter (point? · |>.isNone)).map (unreadablePair key)⟩

/-! ## Places

The search for a flow compares flows only; it finds the control points that the temperature is taken
from. -/

/-- The control points that a temperature is taken from. -/
inductive Place (α : Type) where
  /-- The one control point of a curve holds everywhere. -/
  | only (point : Point α)
  | below (first : Point α)
  | between (low high : Point α)
  | above (last : Point α)
deriving DecidableEq

section
variable {α : Type}

section
variable [LT α] [DecidableLT α] [LE α] [DecidableLE α]

/-- The place between a control point and the first later one that the flow does not exceed. -/
def placeFrom (flow : α) (low : Point α) : List (Point α) → Place α
  | [] => .above low
  | high :: rest => if flow ≤ high.flow then .between low high else placeFrom flow high rest

/-- The place of a flow; without a control point there is none. -/
def place? (flow : α) : List (Point α) → Option (Place α)
  | [] => none
  | [point] => some (.only point)
  | first :: second :: rest =>
    if flow < first.flow then some (.below first)
    else some (placeFrom flow first (second :: rest))

end

/-! ## Temperature -/

section
variable [Add α] [Sub α] [Mul α] [Div α]

/-- The temperature on the line through two control points. -/
def interpolate (low high : Point α) (flow : α) : α :=
  low.temperature + (high.temperature - low.temperature) * (flow - low.flow) /
    (high.flow - low.flow)

/-- The temperature for a flow that has this place. -/
def Place.temperature (flow : α) : Place α → α
  | between low high => interpolate low high flow
  | only point | below point | above point => point.temperature

end

/-- Reports a flow off the curve. -/
def offCurve (flow side : String) : Record where
  level := .warn
  text := "Flow " ++ flow ++ " is " ++ side ++ " the flow/temperature curve"

/-- What is reported of a flow that has this place. -/
def Place.reports (flow : String) : Place α → List Record
  | only _ | between _ _ => []
  | below _ => [offCurve flow "below"]
  | above _ => [offCurve flow "above"]

/-- The temperature for a flow, or the default if it does not depend on flow or the curve is empty;
numbers are shown by `textOf`. -/
def temperatureOver [Add α] [Sub α] [Mul α] [Div α] [LT α] [DecidableLT α] [LE α] [DecidableLE α]
    (textOf : α → String) (curve : List (Point α)) (flow default : α) (flowDependent : Bool) :
    Logged α :=
  match if flowDependent then place? flow curve else none with
  | none => ⟨default, []⟩
  | some place => ⟨place.temperature flow, place.reports (textOf flow)⟩

end

/-- The temperature for a flow, in floating point. -/
def temperatureAt (curve : Curve) (flow default : Binary64) (flowDependent : Bool) :
    Logged Binary64 :=
  temperatureOver Notation.plain.text curve flow default flowDependent

/-! ## Text -/

def pointText (p : Point Binary64) : String :=
  "\x7b\"flow\":" ++ Notation.json.text p.flow ++ ",\"temperature\":" ++
    Notation.json.text p.temperature ++ "\x7d"

/-- The control points as compact JSON. -/
def text (curve : Curve) : String := "[" ++ ",".intercalate (curve.map pointText) ++ "]"

end Curve

end PrintSettings.Value
