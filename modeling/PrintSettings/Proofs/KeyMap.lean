import Mathlib.Data.Finset.Card
import PrintSettings.KeyMap

/-! # Runs of insertions

What a run of insertions leaves in a map: of several under one name the last one counts
(`get?_foldl_insert_last`), and there is one entry for each name (`size_foldl_insert`). A map can lie
over another one, whose entries are then seen where it has none (`overlay`). -/

namespace PrintSettings.KeyMap

variable {α β : Type}

/-! ## Keys -/

theorem nodup_keys (m : KeyMap α) : m.keys.Nodup := by
  rw [keys, List.nodup_iff_pairwise_ne, List.pairwise_map]
  refine m.sorted.imp fun {a b} hlt heq => ?_
  rw [heq] at hlt
  exact String.lt_irrefl _ hlt

theorem mem_keys_iff {m : KeyMap α} {key : String} : key ∈ m.keys ↔ ∃ a, m.get? key = some a := by
  rw [keys, List.mem_map]
  constructor
  · rintro ⟨e, he, rfl⟩
    exact ⟨e.2, mem_entries_iff.1 he⟩
  · rintro ⟨a, ha⟩
    exact ⟨(key, a), mem_entries_iff.2 ha, rfl⟩

/-! ## Insertions -/

section Insertions

variable (name : β → String) (value : β → α) (l : List β)

theorem get?_foldl_insert_last (m : KeyMap α) (key : String) :
    (l.foldl (fun m b => m.insert (name b) (value b)) m).get? key =
      (l.reverse.findSome? fun b => if name b = key then some (value b) else none).or
        (m.get? key) := by
  induction l generalizing m with
  | nil => rfl
  | cons b l ih =>
    rw [List.foldl_cons, ih, get?_insert, List.reverse_cons, List.findSome?_append,
      Option.or_assoc]
    by_cases h : name b = key <;> simp [h]

theorem size_foldl_insert :
    (l.foldl (fun m b => m.insert (name b) (value b)) (∅ : KeyMap α)).size =
      (l.map name).toFinset.card := by
  set m := l.foldl (fun m b => m.insert (name b) (value b)) (∅ : KeyMap α) with hm
  have hkeys : m.keys.toFinset = (l.map name).toFinset := by
    ext key
    rw [List.mem_toFinset, List.mem_toFinset, mem_keys_iff, List.mem_map, hm,
      get?_foldl_insert_last, get?_empty, Option.or_none, ← Option.isSome_iff_exists,
      List.findSome?_isSome_iff]
    simp
  calc m.size = m.keys.length := (List.length_map _).symm
    _ = m.keys.toFinset.card := (List.toFinset_card_of_nodup m.nodup_keys).symm
    _ = (l.map name).toFinset.card := by rw [hkeys]

end Insertions

/-! ## Overlays -/

/-- A map with the entries of another one over it. -/
def overlay (lower upper : KeyMap α) : KeyMap α :=
  upper.entries.foldl (fun m e => m.insert e.1 e.2) lower

theorem get?_overlay (lower upper : KeyMap α) (key : String) :
    (lower.overlay upper).get? key = (upper.get? key).or (lower.get? key) :=
  get?_foldl_insert upper.entries upper.sorted lower key

end PrintSettings.KeyMap
