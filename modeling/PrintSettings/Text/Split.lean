/-! # Splitting at a mark

A text is cut at the first occurrence of a character, which belongs to neither part. -/

namespace PrintSettings.Text

/-- The parts before and after the first `mark`. -/
def splitFirst? (mark : Char) (text : List Char) : Option (List Char × List Char) :=
  match text.dropWhile (· != mark) with
  | [] => none
  | _ :: rest => some (text.takeWhile (· != mark), rest)

theorem splitFirst?_eq_some {mark : Char} {text first rest : List Char}
    (h : splitFirst? mark text = some (first, rest)) : text = first ++ mark :: rest := by
  unfold splitFirst? at h
  split at h
  · contradiction
  next c rest' hd =>
    simp only [Option.some.injEq, Prod.mk.injEq] at h
    obtain ⟨rfl, rfl⟩ := h
    have hc : c = mark := by
      have := List.head?_dropWhile_not (· != mark) text
      rw [hd] at this
      simpa using this
    rw [← hc, ← hd, hc]
    exact (List.takeWhile_append_dropWhile).symm

theorem not_mem_of_splitFirst? {mark : Char} {text first rest : List Char}
    (h : splitFirst? mark text = some (first, rest)) : mark ∉ first := by
  unfold splitFirst? at h
  split at h
  · contradiction
  next c rest' hd =>
    simp only [Option.some.injEq, Prod.mk.injEq] at h
    obtain ⟨rfl, rfl⟩ := h
    intro hm
    simpa using List.all_eq_true.1 (List.all_takeWhile (l := text)) mark hm

theorem splitFirst?_append {mark : Char} {first : List Char} (h : mark ∉ first) (rest : List Char) :
    splitFirst? mark (first ++ mark :: rest) = some (first, rest) := by
  have hp : ∀ c ∈ first, (c != mark) = true := fun c hc => by
    simpa using fun hcm : c = mark => h (hcm ▸ hc)
  unfold splitFirst?
  rw [List.dropWhile_append_of_pos hp, List.takeWhile_append_of_pos hp]
  simp

/-- The parts between marks; there is always at least one. -/
def splitAll (mark : Char) : List Char → List (List Char)
  | [] => [[]]
  | c :: rest =>
    if c == mark then [] :: splitAll mark rest
    else match splitAll mark rest with
      | [] => [[c]]
      | part :: parts => (c :: part) :: parts

end PrintSettings.Text
