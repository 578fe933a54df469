import PrintSettings.Proofs.Value.Grammar
import PrintSettings.Proofs.Yaml.Listing
import PrintSettings.Proofs.Yaml.Number
import PrintSettings.Value.Kind

/-! # Matrices in brackets

Rows of texts in brackets, with commas and no blanks, are a way to write a matrix
(`isMatrix_rowsText`). Both the JSON text of a matrix and the setting text of a list of lists of
numbers have this form, and each of their texts denotes its number, so each of the nine numbers is
read back in its place (`ofText_text_and_listed`). -/

namespace PrintSettings.Value

open PrintSettings.Numeric PrintSettings.Text

variable {α β : Type}

namespace Triple

/-- An item by its place. -/
def get (t : Triple α) : Fin 3 → α
  | 0 => t.first
  | 1 => t.second
  | 2 => t.third

theorem get_map (f : α → β) (t : Triple α) (i : Fin 3) : (t.map f).get i = f (t.get i) := by
  match i with
  | 0 => rfl
  | 1 => rfl
  | 2 => rfl

theorem ext_get {t t' : Triple α} (h : ∀ i, t.get i = t'.get i) : t = t' := by
  obtain ⟨a, b, c⟩ := t
  obtain ⟨a', b', c'⟩ := t'
  have h0 : a = a' := h 0
  have h1 : b = b' := h 1
  have h2 : c = c' := h 2
  rw [h0, h1, h2]

end Triple

namespace Matrix

variable {item : β → List Char → Prop} {f : α → β} {text : α → String} {value : α → Binary64}

/-- The number in a row and a column. -/
def entry (m : Matrix) (i j : Fin 3) : Binary64 := (m.rows.get i).get j

/-- The list of three lists of numbers. -/
def listed (rows : Triple (Triple Yaml.Number)) : Yaml.Value :=
  .sequence (rows.toList.map fun row => .sequence (row.toList.map .number))

/-! ## Texts in brackets -/

def rowsText (text : α → String) (rows : Triple (Triple α)) : String :=
  Yaml.Value.jsonList "[" "]"
    (rows.toList.map fun row => Yaml.Value.jsonList "[" "]" (row.toList.map text))

theorem isTriple_jsonList {t : Triple α} (h : ∀ i, item (f (t.get i)) (text (t.get i)).toList) :
    IsTriple item (t.map f) (Yaml.Value.jsonList "[" "]" (t.toList.map text)).toList := by
  have hmark (mark : Char) : IsMark mark [mark] := .mk isBlanks_nil isBlanks_nil
  have hwritten : (Yaml.Value.jsonList "[" "]" (t.toList.map text)).toList =
      ['['] ++ ((text t.first).toList ++ ([','] ++ ((text t.second).toList ++ ([','] ++
        ((text t.third).toList ++ [']']))))) := by
    rw [Yaml.Value.toList_jsonList]
    simp [Triple.toList, List.intercalate]
  rw [hwritten]
  exact .mk (hmark '[') (h 0) (hmark ',') (h 1) (hmark ',') (h 2) (hmark ']')

theorem isToken_of_denotes {token : List Char} {x : Binary64} (h : Denotes token x) :
    IsToken token token := by
  have hends : ∀ c ∈ token, endsToken c = false := fun c hc => by
    have hnumeral := h.isNumeralChar c hc
    rw [← Bool.not_eq_true, endsToken, Bool.or_eq_true, Bool.or_eq_true, beq_iff_eq, beq_iff_eq,
      beq_iff_eq]
    rintro ((rfl | rfl) | rfl) <;> exact absurd hnumeral (by decide)
  simpa using IsToken.mk isBlanks_nil hends isBlanks_nil

theorem isMatrix_rowsText {rows : Triple (Triple α)}
    (h : ∀ i j, Denotes (text ((rows.get i).get j)).toList (value ((rows.get i).get j))) :
    IsMatrix (rows.map (Triple.map fun a => (text a).toList)) (rowsText text rows).toList :=
  isTriple_jsonList fun i => isTriple_jsonList fun j => isToken_of_denotes (h i j)

/-- **Rows of texts are read as the numbers that they denote**, each in its place. -/
theorem ofText_rowsText {rows : Triple (Triple α)}
    (h : ∀ i j, Denotes (text ((rows.get i).get j)).toList (value ((rows.get i).get j))) :
    ofText (rowsText text rows) = ⟨⟨rows.map (Triple.map value)⟩, []⟩ := by
  have hvalues : (rows.map (Triple.map fun a => (text a).toList)).map (Triple.map floatOrZero) =
      rows.map (Triple.map value) := by
    refine Triple.ext_get fun i => Triple.ext_get fun j => ?_
    simp only [Triple.get_map, floatOrZero, (h i j).leadingFloat?_eq, Option.getD_some]
  have hrows := rows?_eq_some_iff.2 ⟨_, isMatrix_rowsText h, hvalues⟩
  have hempty : (rowsText text rows).isEmpty = false := by
    rw [← Bool.not_eq_true, String.isEmpty_iff]
    intro hnil
    rw [hnil] at hrows
    contradiction
  rw [ofText, hempty, hrows]
  rfl

/-! ## Matrices and lists -/

theorem text_eq (m : Matrix) : m.text = rowsText Notation.json.text m.rows := rfl

theorem settingText_listed (rows : Triple (Triple Yaml.Number)) :
    (listed rows).settingText = rowsText Yaml.Number.json rows :=
  Yaml.Value.settingText_sequence_map _ fun row =>
    Yaml.Value.json?_sequence_map row.toList fun _ => rfl

theorem ofText_text {m : Matrix} (h : ∀ i j, (m.entry i j).isFinite) :
    ofText m.text = ⟨m, []⟩ := by
  have hdenotes : ∀ i j, Denotes (Notation.json.text ((m.rows.get i).get j)).toList
      (id ((m.rows.get i).get j)) := fun i j =>
    Notation.denotes_text Notation.readable_json (h i j)
  rw [text_eq, ofText_rowsText hdenotes]
  rfl

theorem ofText_settingText {rows : Triple (Triple Yaml.Number)}
    (h : ∀ i j, ((rows.get i).get j).isFinite) :
    ofText (listed rows).settingText = ⟨⟨rows.map (Triple.map Yaml.Number.toBinary64)⟩, []⟩ := by
  rw [settingText_listed]
  exact ofText_rowsText fun i j => Yaml.Number.denotes_json (h i j)

/-- **A matrix survives its texts.** What is shown for a matrix of finite numbers is read as the
same matrix, and a list of three lists of three finite numbers as the numbers nearest to them, each
in its place. Nothing is reported. -/
theorem ofText_text_and_listed :
    (∀ m : Matrix, (∀ i j, (m.entry i j).isFinite) →
      ofText (Kind.matrix.render m) = ⟨m, []⟩) ∧
    ∀ rows : Triple (Triple Yaml.Number),
      (∀ i j, ((rows.get i).get j).isFinite ∧ ((rows.get i).get j).InRange) →
      ∃ m : Matrix, ofText (listed rows).settingText = ⟨m, []⟩ ∧
        ∀ i j, (m.entry i j).IsNearest ((rows.get i).get j).value := by
  refine ⟨fun m h => ofText_text h, fun rows h => ?_⟩
  refine ⟨_, ofText_settingText fun i j => (h i j).1, fun i j => ?_⟩
  rw [entry, Triple.get_map, Triple.get_map]
  exact Yaml.Number.isNearest_toBinary64 (h i j).2 (h i j).1

/-- Numbers with a sign, with an exponent, with a fraction, and the smallest one. -/
def uneven : Matrix :=
  ⟨⟨⟨.zero true, .ofBits 0x4341c37937e08000, .ofBits 0xbfb999999999999a⟩, ⟨1, 0, 0⟩,
    ⟨0, 0, .ofBits 1⟩⟩⟩

/-- Integers, of which the largest is not a number of 64 bits with a point, and a zero. -/
def wide : Triple (Triple Yaml.Number) :=
  ⟨⟨.integer (-1), .integer 18446744073709551615, .float (.zero true)⟩,
    ⟨.integer 0, .integer 1, .integer 0⟩, ⟨.integer 0, .integer 0, .integer 1⟩⟩

theorem ofText_text_and_listed_uneven :
    ofText "[[-0.0,1e+16,-0.1],[1.0,0.0,0.0],[0.0,0.0,5e-324]]" = ⟨uneven, []⟩ ∧
    ∃ m : Matrix, ofText (listed wide).settingText = ⟨m, []⟩ ∧
      (m.entry 0 1).IsNearest 18446744073709551615 := by
  obtain ⟨hmatrix, hlisted⟩ := ofText_text_and_listed
  constructor
  · have htext : Kind.matrix.render uneven =
        "[[-0.0,1e+16,-0.1],[1.0,0.0,0.0],[0.0,0.0,5e-324]]" := by decide +kernel
    have hread := hmatrix uneven (by decide +kernel)
    rwa [htext] at hread
  · obtain ⟨m, hread, hnearest⟩ := hlisted wide (by decide)
    have hvalue : ((wide.get 0).get 1).value = 18446744073709551615 := rfl
    exact ⟨m, hread, hvalue ▸ hnearest 0 1⟩

end Matrix

end PrintSettings.Value
