import Mathlib.Data.Set.Card
import Mathlib.Logic.Relation
import PrintSettings.Definitions
import PrintSettings.Proofs.KeyMap
import PrintSettings.Proofs.Outcome

/-! # Declared names

A definitions document declares the string keys of its `settings` mapping, and of every mapping that
is reached from that by going over and over from an entry to the `children` of its value
(`Declares`). What is not a mapping has no entries, so it declares nothing and leads nowhere. The
names that are collected from a document are those that it declares (`mem_names_iff`), however deep
they are; for one value nests in another only if it is smaller (`wellFounded_nests`). So the
registry of a document is the set of its declared names (`registry_declared`). -/

namespace PrintSettings

open PrintSettings.Yaml

namespace Definitions

/-! ## Declarations -/

/-- The second value is the `children` of a definition in the first. -/
def Nests (x y : Value) : Prop := ∃ e ∈ x.entries, e.2.get? "children" = some y

/-- The value under `settings` of a document, or one that nests in it at some depth. -/
def Reached (document y : Value) : Prop :=
  ∃ x, document.get? "settings" = some x ∧ Relation.ReflTransGen Nests x y

/-- The name is a string key of a mapping in which a document declares names. -/
def Declares (document : Value) (name : String) : Prop :=
  ∃ y, Reached document y ∧ ∃ e ∈ y.entries, e.1.text? = some name

variable {x y document : Value} {name key : String}

/-! ## Collected names -/

theorem names_eq (x : Value) : names x = entryNames x.entries := by
  induction x using Value.untagged.induct with
  | case1 tag x ih => exact ih
  | case2 x h =>
    cases x with
    | tagged tag x => exact absurd rfl (h tag x)
    | mapping entries => rfl
    | _ => rfl

theorem entryNames_eq (l : List (Value × Value)) :
    entryNames l = l.flatMap fun e => e.1.text?.toList ++ namesUnder "children" e.2 := by
  induction l with
  | nil => rfl
  | cons e l ih => rw [entryNames, ih, List.flatMap_cons]

theorem entryNamesUnder_eq (key : String) (l : List (Value × Value)) :
    entryNamesUnder key l =
      (((l.find? fun e => e.1.same (.string key)).map (·.2)).map names).getD [] := by
  induction l with
  | nil => rfl
  | cons e l ih =>
    rw [entryNamesUnder, ih, List.find?_cons]
    cases e.1.same (.string key) <;> rfl

theorem namesUnder_eq (key : String) (x : Value) :
    namesUnder key x = ((x.get? key).map names).getD [] := by
  induction x using Value.untagged.induct with
  | case1 tag x ih => exact ih
  | case2 x h =>
    cases x with
    | tagged tag x => exact absurd rfl (h tag x)
    | mapping entries => exact entryNamesUnder_eq key entries
    | _ => rfl

theorem mem_names_step : name ∈ names x ↔
    (∃ e ∈ x.entries, e.1.text? = some name) ∨ ∃ y, Nests x y ∧ name ∈ names y := by
  have hunder : ∀ e : Value × Value, name ∈ namesUnder "children" e.2 ↔
      ∃ y, e.2.get? "children" = some y ∧ name ∈ names y := fun e => by
    rw [namesUnder_eq]
    cases e.2.get? "children" <;> simp
  rw [names_eq, entryNames_eq, List.mem_flatMap]
  simp only [List.mem_append, Option.mem_toList, hunder, Nests]
  constructor
  · rintro ⟨e, he, hkey | ⟨y, hy, hname⟩⟩
    · exact .inl ⟨e, he, hkey⟩
    · exact .inr ⟨y, ⟨e, he, hy⟩, hname⟩
  · rintro (⟨e, he, hkey⟩ | ⟨y, ⟨e, he, hy⟩, hname⟩)
    · exact ⟨e, he, .inl hkey⟩
    · exact ⟨e, he, .inr ⟨y, hy, hname⟩⟩

/-! ## Depth -/

theorem sizeOf_untagged_le (x : Value) : sizeOf x.untagged ≤ sizeOf x := by
  induction x using Value.untagged.induct with
  | case1 tag x ih =>
    rw [Value.untagged, Value.tagged.sizeOf_spec]
    omega
  | case2 x h =>
    cases x with
    | tagged tag x => exact absurd rfl (h tag x)
    | _ => exact Nat.le_refl _

theorem sizeOf_lt_of_mem_entries {e : Value × Value} (he : e ∈ x.entries) :
    sizeOf e.2 < sizeOf x := by
  have huntagged := sizeOf_untagged_le x
  unfold Value.entries at he
  split at he
  next l hl =>
    rw [hl, Value.mapping.sizeOf_spec] at huntagged
    have hmem := List.sizeOf_lt_of_mem he
    have hpair : sizeOf e = 1 + sizeOf e.1 + sizeOf e.2 := Prod.mk.sizeOf_spec _ _
    omega
  next => simp at he

theorem sizeOf_lt_of_get? (h : x.get? key = some y) : sizeOf y < sizeOf x := by
  obtain ⟨e, he, rfl⟩ := Option.map_eq_some_iff.1 h
  exact sizeOf_lt_of_mem_entries (List.mem_of_find?_eq_some he)

theorem wellFounded_nests : WellFounded fun y x => Nests x y := by
  refine Subrelation.wf ?_ (measure (sizeOf : Value → Nat)).wf
  rintro y x ⟨e, he, hy⟩
  exact (sizeOf_lt_of_get? hy).trans (sizeOf_lt_of_mem_entries he)

/-- **The names of a value** are the string keys of the mappings that nest in it at any depth. -/
theorem mem_names_iff : name ∈ names x ↔
    ∃ y, Relation.ReflTransGen Nests x y ∧ ∃ e ∈ y.entries, e.1.text? = some name := by
  constructor
  · induction x using wellFounded_nests.induction with
    | _ x ih =>
      intro hname
      rcases mem_names_step.1 hname with hkey | ⟨y, hy, hname⟩
      · exact ⟨x, .refl, hkey⟩
      · obtain ⟨z, hz, hkey⟩ := ih y hy hname
        exact ⟨z, .head hy hz, hkey⟩
  · rintro ⟨y, hy, hkey⟩
    induction hy using Relation.ReflTransGen.head_induction_on with
    | refl => exact mem_names_step.2 (.inl hkey)
    | head hx _ ih => exact mem_names_step.2 (.inr ⟨_, hx, ih⟩)

theorem mem_namesUnder_settings :
    name ∈ namesUnder "settings" document ↔ Declares document name := by
  rw [namesUnder_eq]
  unfold Declares Reached
  cases document.get? "settings" with
  | none => simp
  | some x =>
    rw [Option.map_some, Option.getD_some, mem_names_iff]
    simp

end Definitions

/-! ## Registries -/

namespace Registry

theorem names_insertAll (r : Registry) (keys : List String) :
    (r.insertAll keys).names = keys.foldl (fun m key => m.insert key ()) r.names := by
  induction keys generalizing r with
  | nil => rfl
  | cons key keys ih => exact ih (r.insert key)

theorem contains_insertAll {r : Registry} {keys : List String} {name : String} :
    (r.insertAll keys).contains name ↔ name ∈ keys ∨ r.contains name := by
  unfold Registry.contains KeyMap.contains
  rw [names_insertAll, KeyMap.get?_foldl_insert_last (fun key => key) fun _ => (),
    Option.isSome_or, Bool.or_eq_true, List.findSome?_isSome_iff]
  simp

theorem contains_ofList {keys : List String} {name : String} :
    (ofList keys).contains name ↔ name ∈ keys := by
  have hempty : (∅ : Registry).contains name = false := rfl
  simp [ofList, contains_insertAll, hempty]

theorem size_ofList (keys : List String) :
    ((ofList keys).size : ℕ∞) = {name | name ∈ keys}.encard := by
  have hsize : (ofList keys).size = keys.toFinset.card := by
    have hnames := names_insertAll ∅ keys
    rw [size, ofList, hnames]
    refine (KeyMap.size_foldl_insert (fun key => key) (fun _ => ()) keys).trans ?_
    rw [List.map_id']
  have hset : {name | name ∈ keys} = (keys.toFinset : Set String) := by
    ext name
    simp
  rw [hsize, hset, Set.encard_coe_eq_coe_finsetCard]

end Registry

namespace Definitions

/-- **The registry of a document is the set of its declared names**, and further insertions add
their names to that. A text without a document gives no registry, and any other text that of its
document. -/
theorem registry_declared :
    (∀ document name, (registry document).contains name ↔ Declares document name) ∧
    (∀ document, ((registry document).size : ℕ∞) = {name | Declares document name}.encard) ∧
    (∀ (r : Registry) keys name, (r.insertAll keys).contains name ↔
      name ∈ keys ∨ r.contains name) ∧
    ∀ text, (Registry.ofText text).run = match Value.ofText? text with
      | none => ⟨.error .malformed, []⟩
      | some document => ⟨.ok (registry document), [⟨.debug, "Loaded " ++
          toString (registry document).size ++ " setting definitions"⟩]⟩ := by
  refine ⟨fun document name => ?_, fun document => ?_, fun r keys name =>
    Registry.contains_insertAll, fun text => ?_⟩
  · rw [registry, Registry.contains_ofList, mem_namesUnder_settings]
  · simp only [registry, Registry.size_ofList, mem_namesUnder_settings]
  · unfold Registry.ofText
    cases Value.ofText? text <;> rfl

/-- A label is no name, and neither is a number, but what nests under a number is. -/
example : (registry (.mapping [(.string "settings", .mapping [
      (.string "speed", .mapping [(.string "label", .string "width"), (.string "children", .null)]),
      (.number (.integer 1), .mapping [(.string "children", .mapping [
        (.string "jerk", .bool true), (.string "speed", .null)])])])])).toList =
    ["jerk", "speed"] := by
  decide

end Definitions

end PrintSettings
