import PrintSettings.Proofs.Arguments.Reader
import PrintSettings.Proofs.Command.Inputs

/-! # Round trip of arguments

The global settings of a document are written as one line of arguments (`value_args`): the quoted
forms of the settings that have a text, in ascending order of names. For a document that was loaded
from pairs the line can be taken apart again, and its parts, given as pairs, make the same document
without the settings that have no text (`args_roundTrip`). -/

namespace PrintSettings.Arguments

open PrintSettings.Command

/-! ## The written line -/

theorem value_foldlM_set (registry : Registry) (l : List (String × String)) (s : Store Scope) :
    (l.foldlM (fun (scope : WritableScope) e => scope.set registry ⟨e.1, e.2⟩) (.direct s)).value =
      .direct { s with values := l.foldl (fun m e => m.insert e.1 e.2) s.values } := by
  induction l generalizing s with
  | nil => rfl
  | cons e l ih => exact ih _

theorem value_applyTo_root (d : Document) (registry : Registry) :
    (d.applyTo registry (.direct .root)).value = .direct ⟨d.global, [], none⟩ := by
  rw [Document.applyTo, value_foldlM_set]
  exact congrArg (fun m => WritableScope.direct ⟨m, [], none⟩) (KeyMap.ofList_entries d.global)

/-- The document without the global settings that have no text. -/
def withoutEmpty (d : Document) : Document := { d with global := d.global.filter fun _ v => v ≠ "" }

/-- The global settings that have a text, in ascending order of names. -/
def settingPairs (d : Document) : List Pair :=
  (withoutEmpty d).global.entries.map fun e => ⟨e.1, e.2⟩

/-- **The line holds the settings that have a text.** -/
theorem value_args (d : Document) (registry : Registry) :
    (args d registry).value = ofPairs (settingPairs d) := by
  show ((d.applyTo registry (.direct .root)).value.store).arguments = _
  rw [value_applyTo_root]
  show String.join _ = _
  rw [ofPairs, settingPairs, Store.pairs, List.filter_map]
  rfl

theorem mem_settingPairs {d : Document} {p : Pair} :
    p ∈ settingPairs d ↔ d.global.get? p.key = some p.value ∧ p.value ≠ "" := by
  rw [settingPairs, List.mem_map]
  constructor
  · rintro ⟨e, he, rfl⟩
    simpa using KeyMap.get?_filter_eq_some.1 (KeyMap.mem_entries_iff.1 he)
  · rintro ⟨hget, hne⟩
    exact ⟨(p.key, p.value), KeyMap.mem_entries_iff.2
      (KeyMap.get?_filter_eq_some.2 ⟨hget, by simpa using hne⟩), rfl⟩

theorem sorted_settingPairs (d : Document) : (settingPairs d).Pairwise (·.key < ·.key) := by
  rw [settingPairs, List.pairwise_map]
  exact (withoutEmpty d).global.sorted

theorem settingPairs_withoutEmpty (d : Document) :
    settingPairs (withoutEmpty d) = settingPairs d := by
  simp [settingPairs, withoutEmpty, KeyMap.filter]

/-! ## The document of the line -/

theorem isKey_of_mem_settingPairs {pairs : List Pair} (h : ∀ p ∈ pairs, IsKey p.key) {p : Pair}
    (hp : p ∈ settingPairs (documentOf pairs)) : IsKey p.key :=
  have he : (p.key, p.value) ∈ (documentOf pairs).global.entries :=
    KeyMap.mem_entries_iff.2 (mem_settingPairs.1 hp).1
  isKey_of_mem_documentOf h he

theorem documentOf_settingPairs (d : Document) :
    documentOf (settingPairs d) = { (∅ : Document) with global := (withoutEmpty d).global } := by
  rw [documentOf, Document.foldl_set, settingPairs, List.foldl_map]
  exact congrArg (fun m => Document.mk m ∅ []) (KeyMap.ofList_entries _)

theorem documentOf_settingPairs_documentOf (pairs : List Pair) :
    documentOf (settingPairs (documentOf pairs)) = withoutEmpty (documentOf pairs) := by
  rw [documentOf_settingPairs, withoutEmpty, documentOf, Document.foldl_set]

/-! ## Round trip -/

/-- **The line of a document that was loaded from pairs is read back.** The line is made of the
settings that have a text, in ascending order of their names. Reading it gives their quoted forms;
loading these gives the document without the other settings, and the same line. -/
theorem args_roundTrip (files : String → Contents) (registry : Registry)
    {environment : List Variable}
    (henv : ∀ v ∈ environment, Loader.standard.namedPart? v = none) {arguments : List String}
    (h : ∀ arg ∈ arguments, ∃ p, Pair.parse arg = .ok p) :
    ∃ (d : Document) (pairs : List Pair),
      loadDocument files environment none ⟨arguments, []⟩ = pure d ∧
      pairs.Pairwise (·.key < ·.key) ∧
      (∀ p, p ∈ pairs ↔ d.global.get? p.key = some p.value ∧ p.value ≠ "") ∧
      (args d registry).value = String.join (pairs.map fun p => " -s " ++ p.quoted) ∧
      readPairs? (args d registry).value.toList = some (pairs.map Pair.quoted) ∧
      loadDocument files environment none ⟨pairs.map Pair.quoted, []⟩ =
        pure { d with global := d.global.filter fun _ v => v ≠ "" } ∧
      (args { d with global := d.global.filter fun _ v => v ≠ "" } registry).value =
        (args d registry).value := by
  obtain ⟨given, hgiven, hkeys⟩ := exists_mapM_parse h
  set d := documentOf given with hd
  have hk : ∀ p ∈ settingPairs d, IsKey p.key := fun p => isKey_of_mem_settingPairs hkeys
  refine ⟨d, settingPairs d, ?_, sorted_settingPairs d, fun p => mem_settingPairs,
    value_args d registry, ?_, ?_, ?_⟩
  · exact loadDocument_eq_documentOf files henv hgiven
  · rw [value_args]
    exact readPairs?_ofPairs hk
  · rw [loadDocument_eq_documentOf files henv (mapM_parse_quoted hk), hd,
      documentOf_settingPairs_documentOf]
    rfl
  · rw [value_args d, ← settingPairs_withoutEmpty d]
    exact value_args (withoutEmpty d) registry

/-- A text that looks like a further argument is still one text. -/
theorem args_roundTrip_lookalike :
    (∀ v ∈ [Variable.mk "HOME".toUTF8 "/".toUTF8], Loader.standard.namedPart? v = none) ∧
    (∀ arg ∈ ["note=x\" -s y=\"z\\", " blank = ", "empty="], ∃ p, Pair.parse arg = .ok p) ∧
    ∃ (d : Document) (pairs : List Pair),
      loadDocument (fun _ => .error .notFound) [⟨"HOME".toUTF8, "/".toUTF8⟩] none
        ⟨["note=x\" -s y=\"z\\", " blank = ", "empty="], []⟩ = pure d ∧
      readPairs? (args d ∅).value.toList = some (pairs.map Pair.quoted) := by
  have henv : ∀ v ∈ [Variable.mk "HOME".toUTF8 "/".toUTF8],
      Loader.standard.namedPart? v = none := by
    intro v hv
    rw [List.mem_singleton.1 hv]
    decide
  have h : ∀ arg ∈ ["note=x\" -s y=\"z\\", " blank = ", "empty="],
      ∃ p, Pair.parse arg = .ok p := by
    intro arg harg
    simp only [List.mem_cons, List.not_mem_nil, or_false] at harg
    rcases harg with rfl | rfl | rfl
    · exact ⟨⟨"note", "x\" -s y=\"z\\"⟩, by decide⟩
    · exact ⟨⟨"blank", " "⟩, by decide⟩
    · exact ⟨⟨"empty", ""⟩, by decide⟩
  obtain ⟨d, pairs, hload, -, -, -, hread, -⟩ :=
    args_roundTrip (fun _ => .error .notFound) ∅ henv h
  exact ⟨henv, h, d, pairs, hload, hread⟩

end PrintSettings.Arguments
