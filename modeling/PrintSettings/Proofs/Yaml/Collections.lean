import Mathlib.Logic.Relation
import PrintSettings.Proofs.Yaml.Compact

/-! # Collections as setting texts

A list or a mapping as a setting is compact JSON, unless a mapping somewhere in it has a key that
JSON has no text for (`HasOddKey`). Then the whole setting is empty, as null is
(`settingText_collection`).

Values are followed along their parts (`HasPart`): a value has no JSON text if it is a mapping with
such a key, or if one of its parts has none (`json?_eq_none_step`), so by induction if there is such
a mapping at any depth (`json?_eq_none_iff`). The texts of the parts are put together by the grammar
(`isCompact_of_json?`). -/

namespace PrintSettings.Yaml.Value

open Json

variable {x y k : Value} {s : String} {c : Char}

/-- A key that JSON has a text for. None has a tag. -/
inductive IsKey : Value → Prop where
  | string (s : String) : IsKey (string s)
  | bool (b : Bool) : IsKey (bool b)
  | integer (n : Int) : IsKey (number (.integer n))
  | float {x : Numeric.Binary64} : x.isFinite → IsKey (number (.float x))

/-- The second value is an item of the first, the value of an entry, or what a tag is put on. -/
inductive HasPart : Value → Value → Prop where
  | item {items : List Value} {x : Value} : x ∈ items → HasPart (sequence items) x
  | entry {entries : List (Value × Value)} {e : Value × Value} : e ∈ entries →
    HasPart (mapping entries) e.2
  | tagged {tag : String} {x : Value} : HasPart (tagged tag x) x

/-- The value is a mapping with a key that JSON has no text for. -/
def IsOdd (x : Value) : Prop := ∃ entries, x = mapping entries ∧ ∃ e ∈ entries, ¬ e.1.IsKey

/-- Such a mapping is in the value, at any depth. -/
def HasOddKey (x : Value) : Prop := ∃ y, Relation.ReflTransGen HasPart x y ∧ y.IsOdd

/-- What the JSON text of a collection begins with. -/
def bracket? (x : Value) : Option Char :=
  match x.untagged with
  | sequence _ => some '['
  | mapping _ => some '\x7b'
  | _ => none

/-! ## Keys -/

theorem IsKey.exists_jsonKey? (h : k.IsKey) : ∃ s, k.jsonKey? = some (jsonQuoted s) := by
  cases h with
  | string s => exact ⟨s, rfl⟩
  | bool b => exact ⟨jsonBool b, rfl⟩
  | integer n => exact ⟨(Number.integer n).json, rfl⟩
  | @float x hx => exact ⟨(Number.float x).json, if_pos hx⟩

theorem jsonKey?_eq_none (h : ¬ k.IsKey) : k.jsonKey? = none := by
  cases k with
  | null | sequence | mapping | tagged => rfl
  | bool b => exact absurd (.bool b) h
  | string s => exact absurd (.string s) h
  | number n =>
    cases n with
    | integer n => exact absurd (.integer n) h
    | float x => exact if_neg fun hx => h (.float hx)

theorem jsonKey?_eq_none_iff : k.jsonKey? = none ↔ ¬ k.IsKey := by
  refine ⟨fun hnone hkey => ?_, jsonKey?_eq_none⟩
  obtain ⟨s, hs⟩ := hkey.exists_jsonKey?
  rw [hs] at hnone
  contradiction

theorem isString_of_jsonKey? (h : k.jsonKey? = some s) : IsString s.toList := by
  have hkey : k.IsKey := by
    by_contra hkey
    rw [jsonKey?_eq_none hkey] at h
    contradiction
  obtain ⟨t, ht⟩ := hkey.exists_jsonKey?
  obtain rfl : jsonQuoted t = s := Option.some.inj (ht.symm.trans h)
  exact isString_jsonQuoted t

/-! ## Parts -/

theorem HasPart.sizeOf_lt (h : HasPart x y) : sizeOf y < sizeOf x := by
  cases h with
  | item hmem =>
    have hlt := List.sizeOf_lt_of_mem hmem
    rw [sequence.sizeOf_spec]
    omega
  | @entry entries e hmem =>
    have hlt := List.sizeOf_lt_of_mem hmem
    have hpair : sizeOf e = 1 + sizeOf e.1 + sizeOf e.2 := Prod.mk.sizeOf_spec _ _
    rw [mapping.sizeOf_spec]
    omega
  | tagged =>
    rw [tagged.sizeOf_spec]
    omega

theorem hasPart_sequence_iff {items : List Value} : HasPart (sequence items) y ↔ y ∈ items :=
  ⟨fun h => by cases h; assumption, .item⟩

theorem hasPart_mapping_iff {entries : List (Value × Value)} :
    HasPart (mapping entries) y ↔ ∃ e ∈ entries, e.2 = y := by
  constructor
  · rintro (_ | hmem)
    exact ⟨_, hmem, rfl⟩
  · rintro ⟨e, hmem, rfl⟩
    exact .entry hmem

theorem hasPart_tagged_iff {tag : String} : HasPart (tagged tag x) y ↔ y = x :=
  ⟨fun h => by cases h; rfl, fun h => h ▸ .tagged⟩

theorem isOdd_mapping_iff {entries : List (Value × Value)} :
    (mapping entries).IsOdd ↔ ∃ e ∈ entries, ¬ e.1.IsKey :=
  ⟨fun ⟨_, heq, h⟩ => mapping.inj heq ▸ h, fun h => ⟨entries, rfl, h⟩⟩

theorem wellFounded_hasPart : WellFounded fun y x => HasPart x y :=
  Subrelation.wf (fun h => h.sizeOf_lt) (measure (sizeOf : Value → Nat)).wf

/-! ## Values without a JSON text -/

theorem jsonItems?_eq_none_iff (l : List Value) :
    jsonItems? l = none ↔ ∃ x ∈ l, x.json? = none := by
  induction l with
  | nil => simp [jsonItems?]
  | cons x l ih =>
    rw [jsonItems?, List.exists_mem_cons_iff, ← ih]
    cases x.json? <;> cases jsonItems? l <;> simp

theorem jsonEntries?_eq_none_iff (l : List (Value × Value)) :
    jsonEntries? l = none ↔ ∃ e ∈ l, ¬ e.1.IsKey ∨ e.2.json? = none := by
  induction l with
  | nil => simp [jsonEntries?]
  | cons e l ih =>
    rw [jsonEntries?, List.exists_mem_cons_iff, ← ih, ← jsonKey?_eq_none_iff]
    cases e.1.jsonKey? <;> cases e.2.json? <;> cases jsonEntries? l <;> simp

/-- A value has no JSON text on its own account or on that of a part. -/
theorem json?_eq_none_step : x.json? = none ↔ x.IsOdd ∨ ∃ y, HasPart x y ∧ y.json? = none := by
  have hodd : (∀ entries, x ≠ mapping entries) → ¬ x.IsOdd := fun hx ⟨entries, heq, _⟩ =>
    hx entries heq
  cases x with
  | null | bool | number | string =>
    refine ⟨fun h => ?_, ?_⟩
    · rw [json?] at h
      contradiction
    · rintro (h | ⟨y, h, -⟩)
      · exact absurd h (hodd (by simp))
      · cases h
  | sequence items =>
    simp only [json?, Option.map_eq_none_iff, jsonItems?_eq_none_iff, hasPart_sequence_iff,
      hodd (by simp), false_or]
  | mapping entries =>
    rw [json?, Option.map_eq_none_iff, jsonEntries?_eq_none_iff, isOdd_mapping_iff]
    simp only [hasPart_mapping_iff]
    constructor
    · rintro ⟨e, he, hkey | hnone⟩
      · exact .inl ⟨e, he, hkey⟩
      · exact .inr ⟨e.2, ⟨e, he, rfl⟩, hnone⟩
    · rintro (⟨e, he, hkey⟩ | ⟨_, ⟨e, he, rfl⟩, hnone⟩)
      · exact ⟨e, he, .inl hkey⟩
      · exact ⟨e, he, .inr hnone⟩
  | tagged tag x =>
    simp only [json?, Option.map_eq_none_iff, hasPart_tagged_iff, hodd (by simp), false_or,
      exists_eq_left]

/-- **A value has no JSON text** exactly if a mapping at some depth has a key without one. -/
theorem json?_eq_none_iff : x.json? = none ↔ x.HasOddKey := by
  constructor
  · induction x using wellFounded_hasPart.induction with
    | _ x ih =>
      intro hnone
      rcases json?_eq_none_step.1 hnone with hodd | ⟨y, hy, hnone⟩
      · exact ⟨x, .refl, hodd⟩
      · obtain ⟨z, hz, hodd⟩ := ih y hy hnone
        exact ⟨z, .head hy hz, hodd⟩
  · -- along the parts, from the mapping back to the value
    rintro ⟨y, hy, hodd⟩
    induction hy using Relation.ReflTransGen.head_induction_on with
    | refl => exact json?_eq_none_step.2 (.inl hodd)
    | head hx _ ih => exact json?_eq_none_step.2 (.inr ⟨_, hx, ih⟩)

/-! ## JSON texts -/

theorem isCompact_items {items : List Value} {parts : List String}
    (hparts : ∀ x ∈ items, ∀ s, x.json? = some s → IsCompact s.toList)
    (h : jsonItems? items = some parts) : ∀ part ∈ parts, IsCompact part.toList := by
  induction items generalizing parts with
  | nil =>
    obtain rfl : [] = parts := Option.some.inj h
    simp
  | cons x items ih =>
    rw [List.forall_mem_cons] at hparts
    simp only [jsonItems?, Option.bind_eq_bind, Option.bind_eq_some_iff, Option.pure_def,
      Option.some.injEq] at h
    obtain ⟨s, hs, rest, hrest, rfl⟩ := h
    exact List.forall_mem_cons.2 ⟨hparts.1 s hs, ih hparts.2 hrest⟩

theorem exists_members {entries : List (Value × Value)} {parts : List String}
    (hparts : ∀ e ∈ entries, ∀ s, e.2.json? = some s → IsCompact s.toList)
    (h : jsonEntries? entries = some parts) : ∃ members : List (List Char × List Char),
      parts.map String.toList = members.map (fun m => m.1 ++ ':' :: m.2) ∧
      (∀ m ∈ members, IsString m.1) ∧ ∀ m ∈ members, IsCompact m.2 := by
  induction entries generalizing parts with
  | nil =>
    obtain rfl : [] = parts := Option.some.inj h
    exact ⟨[], rfl, by simp, by simp⟩
  | cons e entries ih =>
    rw [List.forall_mem_cons] at hparts
    simp only [jsonEntries?, Option.bind_eq_bind, Option.bind_eq_some_iff, Option.pure_def,
      Option.some.injEq] at h
    obtain ⟨key, hkey, s, hs, rest, hrest, rfl⟩ := h
    obtain ⟨members, hmembers, hkeys, hvalues⟩ := ih hparts.2 hrest
    refine ⟨(key.toList, s.toList) :: members, ?_, ?_, ?_⟩
    · simp [hmembers]
    · exact List.forall_mem_cons.2 ⟨isString_of_jsonKey? hkey, hkeys⟩
    · exact List.forall_mem_cons.2 ⟨hparts.1 s hs, hvalues⟩

/-- **The JSON text of a value** is compact JSON. -/
theorem isCompact_of_json? (h : x.json? = some s) : IsCompact s.toList := by
  -- parts are smaller, so their texts are known to be compact before they are put together
  induction x using wellFounded_hasPart.induction generalizing s with
  | _ x ih =>
    cases x with
    | null =>
      obtain rfl : "null" = s := Option.some.inj h
      exact .null
    | bool b =>
      obtain rfl : jsonBool b = s := Option.some.inj h
      exact .bool b
    | number n =>
      obtain rfl : n.json = s := Option.some.inj h
      exact isCompact_json n
    | string t =>
      obtain rfl : jsonQuoted t = s := Option.some.inj h
      exact .string (isString_jsonQuoted t)
    | sequence items =>
      rw [json?, Option.map_eq_some_iff] at h
      obtain ⟨parts, hparts, rfl⟩ := h
      have hitems := isCompact_items (fun x hx s hs => ih x (.item hx) hs) hparts
      rw [toList_jsonList]
      exact .array (List.forall_mem_map.2 hitems)
    | mapping entries =>
      rw [json?, Option.map_eq_some_iff] at h
      obtain ⟨parts, hparts, rfl⟩ := h
      obtain ⟨members, hmembers, hkeys, hvalues⟩ :=
        exists_members (fun e he s hs => ih e.2 (.entry he) hs) hparts
      rw [toList_jsonObject, hmembers]
      exact .object hkeys hvalues
    | tagged tag x =>
      rw [json?, Option.map_eq_some_iff] at h
      obtain ⟨text, htext, rfl⟩ := h
      have hobject := @IsCompact.object [((jsonQuoted ("!" ++ tag)).toList, text.toList)]
        (by simpa using isString_jsonQuoted _) (by simpa using ih x .tagged htext)
      rw [toList_jsonObject]
      simpa using hobject

/-! ## Settings -/

theorem hasOddKey_untagged (x : Value) : x.untagged.HasOddKey ↔ x.HasOddKey := by
  induction x using Value.untagged.induct with
  | case1 tag x ih =>
    rw [Value.untagged, ih, ← json?_eq_none_iff, ← json?_eq_none_iff, json?, Option.map_eq_none_iff]
  | case2 x h =>
    cases x with
    | tagged tag x => exact absurd rfl (h tag x)
    | _ => rfl

theorem settingText_of_bracket? (h : x.bracket? = some c) :
    x.settingText = x.untagged.json?.getD "" := by
  induction x using Value.untagged.induct with
  | case1 tag x ih => exact ih h
  | case2 x hx =>
    cases x with
    | tagged tag x => exact absurd rfl (hx tag x)
    | sequence | mapping => rfl
    | _ => cases h

theorem head?_of_bracket? (h : x.bracket? = some c) (hjson : x.untagged.json? = some s) :
    s.toList.head? = some c := by
  unfold bracket? at h
  split at h
  next items hx =>
    rw [hx, json?, Option.map_eq_some_iff] at hjson
    obtain ⟨parts, -, rfl⟩ := hjson
    rw [toList_jsonList]
    exact h
  next entries hx =>
    rw [hx, json?, Option.map_eq_some_iff] at hjson
    obtain ⟨parts, -, rfl⟩ := hjson
    rw [toList_jsonObject]
    exact h
  next => contradiction

/-- **A list or a mapping as a setting** is compact JSON in its own brackets, unless a mapping at
some depth has a key that JSON has no text for; then it is empty. -/
theorem settingText_collection (h : x.bracket? = some c) :
    (x.settingText = "" ↔ x.HasOddKey) ∧
    (¬ x.HasOddKey → IsCompact x.settingText.toList ∧ x.settingText.toList.head? = some c) := by
  rw [settingText_of_bracket? h, ← hasOddKey_untagged, ← json?_eq_none_iff]
  cases hjson : x.untagged.json? with
  | none => exact ⟨iff_of_true rfl rfl, fun hsome => absurd rfl hsome⟩
  | some text =>
    have hhead := head?_of_bracket? h hjson
    have hne : text ≠ "" := by
      rintro rfl
      contradiction
    exact ⟨iff_of_false hne (Option.some_ne_none text), fun _ => ⟨isCompact_of_json? hjson, hhead⟩⟩

/-- A list that JSON has a text for, tags and all, and a mapping that is lost for a key inside. -/
theorem settingText_collection_nested :
    (sequence [mapping [(string "a", tagged "t" null)]]).bracket? = some '[' ∧
    IsCompact "[\x7b\"a\":\x7b\"!t\":null\x7d\x7d]".toList ∧
    (mapping [(string "a", sequence [mapping [(null, bool true)]])]).bracket? = some '\x7b' ∧
    (mapping [(string "a", sequence [mapping [(null, bool true)]])]).HasOddKey := by
  have hlist : (sequence [mapping [(string "a", tagged "t" null)]]).bracket? = some '[' := rfl
  have hmapping : (mapping [(string "a", sequence [mapping [(null, bool true)]])]).bracket? =
      some '\x7b' := rfl
  obtain ⟨hempty, hcompact⟩ := settingText_collection hlist
  have hfull : ¬ (sequence [mapping [(string "a", tagged "t" null)]]).HasOddKey :=
    mt hempty.2 (by decide +kernel)
  exact ⟨hlist, (hcompact hfull).1, hmapping, (settingText_collection hmapping).1.1 rfl⟩

/-- A mapping with null as a key is as empty as null. -/
theorem not_settingText_ne_empty :
    ¬ ∀ (x : Value) (c : Char), x.bracket? = some c →
      x.settingText ≠ "" ∧ IsCompact x.settingText.toList ∧
        x.settingText.toList.head? = some c := by
  intro h
  exact (h (mapping [(null, number (.integer 1))]) '\x7b' rfl).1 rfl

end PrintSettings.Yaml.Value
