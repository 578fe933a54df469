import PrintSettings.Pair
import PrintSettings.Proofs.KeyMap

/-! # The last text of a key

Of several pairs with one key the last one counts, whatever they are written into
(`get?_foldl_insert_pairs`). -/

namespace PrintSettings

/-- The text of the last pair with a key. -/
def lastText? (key : String) (pairs : List Pair) : Option String :=
  pairs.reverse.findSome? fun p => if p.key = key then some p.value else none

theorem lastText?_eq_none {key : String} {pairs : List Pair} (h : ∀ p ∈ pairs, p.key ≠ key) :
    lastText? key pairs = none := by
  rw [lastText?, List.findSome?_eq_none_iff]
  intro p hp
  rw [if_neg (h p (List.mem_reverse.1 hp))]

theorem lastText?_eq_some {p : Pair} {pairs : List Pair} (hp : p ∈ pairs)
    (h : ∀ q ∈ pairs, q.key = p.key → q.value = p.value) :
    lastText? p.key pairs = some p.value := by
  have hsome : (lastText? p.key pairs).isSome := by
    rw [lastText?, List.findSome?_isSome_iff]
    exact ⟨p, List.mem_reverse.2 hp, by simp⟩
  obtain ⟨text, htext⟩ := Option.isSome_iff_exists.1 hsome
  obtain ⟨q, hq, hqtext⟩ := List.exists_of_findSome?_eq_some htext
  split at hqtext
  next hkey =>
    rw [htext, ← hqtext, h q (List.mem_reverse.1 hq) hkey]
  next => contradiction

/-- Writing pairs into a map gives every key its last text. -/
theorem KeyMap.get?_foldl_insert_pairs (pairs : List Pair) (m : KeyMap String) (key : String) :
    (pairs.foldl (fun m p => m.insert p.key p.value) m).get? key =
      (lastText? key pairs).or (m.get? key) :=
  get?_foldl_insert_last Pair.key Pair.value pairs m key

end PrintSettings
