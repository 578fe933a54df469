import PrintSettings.Proofs.Command.Answers
import PrintSettings.Proofs.Scope.Limits

/-! # Extruders that are not there

An extruder is asked for by its number in three ways (`Asked`): by the limit of a setting, to fill a
container with its settings, and as the scope of a question. If there is no extruder with this
number, each of them fails, and the error tells a number and how many extruders there are
(`Asked.error_eq`). The number goes through a signed word of 64 bits on its way into the error. So
it is the number that was asked for up to `2⁶³`, and a negative one from there on
(`tells_number_iff`). -/

namespace PrintSettings

open PrintSettings.Value

namespace Container

/-! ## Signed words -/

variable {n : Nat}

theorem signedWord_eq (h : n < 0x10000000000000000) :
    signedWord n = if n < 0x8000000000000000 then (n : Int) else n - 0x10000000000000000 := by
  unfold signedWord
  rw [Int.bmod_def]
  split <;> split <;> omega

end Container

namespace Command

open Container

/-! ## Requests -/

/-- The error of a failure. -/
def failure? {α : Type} : Except SettingError α → Option SettingError
  | .ok _ => none
  | .error e => some e

/-- The extruder with a number is asked for, among so many extruders. If this fails, there is an
error. -/
inductive Asked (index : Nat) : (count : Nat) → Option SettingError → Prop where
  /-- By a lookup that the limit of the nearest entry sends there. -/
  | limit {c : Container} {key value : String} (kind : Kind) (extruders : List Container) :
    c.Nearest key ⟨value, some index⟩ →
    Asked index extruders.length (failure? (c.getLimited kind key extruders).result)
  /-- For its settings, to fill a container with them. -/
  | settings (d : Document) (c : Container) :
    Asked index d.extruderCount (failure? (d.applyExtruder index c))
  /-- For its scope, to look up the setting of a question. -/
  | scope (d : Document) (registry : Registry) (key : String) (form : Form) (limited : Bool) :
    Asked index d.extruderCount
      (failure? (get d registry ⟨key, form, some index, limited⟩).result)

variable {index count : Nat} {error : Option SettingError}

theorem result_get_of_count_le {d : Document} (h : d.extruderCount ≤ index) (registry : Registry)
    (key : String) (form : Form) (limited : Bool) :
    (get d registry ⟨key, form, some index, limited⟩).result = .error (d.outOfRange index) := by
  have hnone : d.extruders[index]? = none := List.getElem?_eq_none h
  rw [get_eq_enter, Outcome.result_bind, result_enter]
  simp only [hnone]
  rfl

/-- **A request for an extruder that is not there fails**, whichever way it is made. -/
theorem Asked.error_eq (h : Asked index count error) (hcount : count ≤ index) :
    error = some (.extruderOutOfRange (signedWord index) count) := by
  cases h with
  | limit kind extruders hnearest =>
    rw [getLimited_of_outOfRange hnearest hcount kind]
    rfl
  | settings d c =>
    have hnone : d.extruders[index]? = none := List.getElem?_eq_none hcount
    simp only [Document.applyExtruder, hnone]
    rfl
  | scope d registry key form limited =>
    rw [result_get_of_count_le hcount registry key form limited]
    rfl

/-- **What the error tells.** A request for an extruder that is not there fails and tells how many
there are. Its number is that of the request, not negative, and not less than their count, exactly
if the request is for one below `2⁶³`; from there on it is less by `2⁶⁴`. -/
theorem tells_number_iff (h : Asked index count error) (hcount : count ≤ index)
    (hword : index < 0x10000000000000000) :
    ∃ n : Int, error = some (.extruderOutOfRange n count) ∧
      (n = index ↔ index < 0x8000000000000000) ∧ (0 ≤ n ↔ index < 0x8000000000000000) ∧
      (count ≤ n ↔ index < 0x8000000000000000) ∧
      (0x8000000000000000 ≤ index → n = index - 0x10000000000000000) := by
  refine ⟨signedWord index, h.error_eq hcount, ?_⟩
  rw [signedWord_eq hword]
  split <;> omega

/-- One extruder, and a width that is limited to the one with the largest number there can be. -/
def limitedToLast : Document where
  global := KeyMap.ofList [("width", "0.4")]
  limits := KeyMap.ofList [("width", 0xffffffffffffffff)]
  extruders := [KeyMap.ofList [("speed", "50")]]

theorem nearest_limitedToLast :
    limitedToLast.globalContainer.Nearest "width" ⟨"0.4", some 0xffffffffffffffff⟩ :=
  nearest_iff.2 (by decide)

/-- The last number that is told, for the scope of a question, and one that is not, for a limit. -/
theorem tells_number_iff_limitedToLast :
    1 ≤ 0x7fffffffffffffff ∧ 0x7fffffffffffffff < 0x10000000000000000 ∧
    failure? (get limitedToLast ∅ ⟨"width", .value .text, some 0x7fffffffffffffff, false⟩).result =
      some (.extruderOutOfRange 0x7fffffffffffffff 1) ∧
    1 ≤ 0xffffffffffffffff ∧ 0xffffffffffffffff < 0x10000000000000000 ∧
    failure? (limitedToLast.globalContainer.getLimited .text "width"
      limitedToLast.extruderContainers).result = some (.extruderOutOfRange (-1) 1) := by
  have hscope : Asked 0x7fffffffffffffff limitedToLast.extruderCount _ :=
    .scope limitedToLast ∅ "width" (.value .text) false
  have hlimit := Asked.limit .text limitedToLast.extruderContainers nearest_limitedToLast
  obtain ⟨n, hfailure, hn, -⟩ := tells_number_iff hscope (by decide) (by decide)
  obtain ⟨m, hfailure', -, -, -, hm⟩ := tells_number_iff hlimit (by decide) (by decide)
  have htold : n = 0x7fffffffffffffff := hn.2 (by decide)
  have hwrapped : m = -1 := hm (by decide)
  refine ⟨by decide, by decide, ?_, by decide, by decide, ?_⟩
  · rw [hfailure, htold]
    rfl
  · rw [hfailure', hwrapped]
    rfl

/-- For the largest number all three ways tell minus one. -/
theorem not_tells_number_limitedToLast :
    (get limitedToLast ∅ ⟨"width", .value .text, some 0xffffffffffffffff, false⟩).result =
      .error (.extruderOutOfRange (-1) 1) ∧
    (limitedToLast.globalContainer.getLimited .text "width"
      limitedToLast.extruderContainers).result = .error (.extruderOutOfRange (-1) 1) ∧
    limitedToLast.applyExtruder 0xffffffffffffffff .root = .error (.extruderOutOfRange (-1) 1) ∧
    ¬ ∀ index count error, Asked index count error → count ≤ index →
      index < 0x10000000000000000 → error = some (.extruderOutOfRange index count) := by
  have hscope : (get limitedToLast ∅
      ⟨"width", .value .text, some 0xffffffffffffffff, false⟩).result =
      .error (.extruderOutOfRange (-1) 1) :=
    result_get_of_count_le (by decide) ∅ "width" (.value .text) false
  refine ⟨hscope, ?_, rfl, fun h => ?_⟩
  · rw [getLimited_of_outOfRange nearest_limitedToLast (by decide) .text]
    rfl
  · have htold := h 0xffffffffffffffff _ _ (.scope limitedToLast ∅ "width" (.value .text) false)
      (by decide) (by decide)
    rw [hscope] at htold
    exact absurd htold (by decide)

end Command

end PrintSettings
