import PrintSettings.Proofs.Value.Integer
import PrintSettings.Proofs.Yaml.Number

/-! # Numbers of documents as settings

A finite number of a document is written with digits and read back as the number nearest to it
(`leadingFloat?_text`). The texts of infinities and of undefined numbers start with a point and a
letter, which no number does, so these are not read back but count as zero. Integers are read back
within 64 bits (`readsBack_iff_isFinite`). -/

namespace PrintSettings.Yaml.Number

open PrintSettings.Numeric PrintSettings.Value

variable {n : Number}

/-- An integer is read as the number nearest to it, a float as itself. -/
def ReadsBack : Number → Binary64 → Prop
  | integer n, x => x.IsNearest n
  | float y, x => x = y

/-! ## Texts -/

theorem denotes_text (h : n.isFinite) : Denotes n.text.toList n.toBinary64 := by
  cases n with
  | integer n => exact denotes_toString n
  | float x => exact Notation.denotes_text Notation.readable_yaml h

theorem text_of_not_isFinite (h : n.isFinite = false) :
    n.text = ".inf" ∨ n.text = "-.inf" ∨ n.text = ".nan" := by
  cases n with
  | integer n => exact absurd h.symm Bool.false_ne_true
  | float x =>
    obtain ⟨_, _, _⟩ | negative | _ := x
    · exact absurd h.symm Bool.false_ne_true
    · cases negative
      · exact .inl rfl
      · exact .inr (.inl rfl)
    · exact .inr (.inr rfl)

/-- **A number is read back from its text** if it is finite; any other text has no number. -/
theorem leadingFloat?_text (n : Number) :
    leadingFloat? n.text.toList = if n.isFinite then some n.toBinary64 else none := by
  cases h : n.isFinite with
  | true => exact (denotes_text h).leadingFloat?_eq
  | false => rcases text_of_not_isFinite h with htext | htext | htext <;> rw [htext] <;> rfl

/-! ## Settings -/

theorem read_float (key : String) (n : Number) :
    Kind.read .float key (Value.number n).settingText =
      pure (if n.isFinite then n.toBinary64 else 0) := by
  show pure (floatOrZero n.text.toList) = _
  rw [floatOrZero, leadingFloat?_text]
  cases n.isFinite <;> rfl

theorem readsBack_toBinary64 (hn : n.InRange) (h : n.isFinite) : n.ReadsBack n.toBinary64 := by
  cases n with
  | integer m => exact isNearest_toBinary64 hn h
  | float x => rfl

theorem not_readsBack_zero (h : n.isFinite = false) : ¬ n.ReadsBack 0 := by
  cases n with
  | integer m => exact absurd h.symm Bool.false_ne_true
  | float x =>
    rintro rfl
    exact absurd h (by decide +kernel)

/-- **Numbers of documents are read back if they are finite**, and count as zero if they are not.
Integers are read back as integers, too, clamped to 64 bits. -/
theorem readsBack_iff_isFinite (hn : n.InRange) (key : String) :
    (∃ x, Kind.read .float key (Value.number n).settingText = pure x ∧
      (n.ReadsBack x ↔ n.isFinite) ∧ (n.isFinite = false → x = 0)) ∧
    ∀ m, n = .integer m → Kind.read .int64 key (Value.number n).settingText =
      pure (clamp (-0x8000000000000000) 0x7fffffffffffffff m) := by
  refine ⟨⟨_, read_float key n, ?_, fun h => by rw [h]; rfl⟩, ?integers⟩
  · cases h : n.isFinite with
    | true => simpa using readsBack_toBinary64 hn h
    | false => simpa using not_readsBack_zero h
  case integers =>
    rintro m rfl
    exact congrArg pure (begins_toString m).intOrZero_eq

/-- The largest integer, beyond the integers with a sign. -/
theorem readsBack_iff_isFinite_largest :
    (integer 0xffffffffffffffff).InRange ∧
    (∃ x, Kind.read .float "k" "18446744073709551615" = pure x ∧
      x.IsNearest 18446744073709551615) ∧
    Kind.read .int64 "k" "18446744073709551615" = pure 9223372036854775807 := by
  have hn : (integer 0xffffffffffffffff).InRange := by decide
  obtain ⟨⟨x, hread, hback, -⟩, hinteger⟩ := readsBack_iff_isFinite hn "k"
  exact ⟨hn, ⟨x, hread, hback.2 rfl⟩, (hinteger _ rfl).trans rfl⟩

theorem read_of_not_isFinite {x : Binary64} (h : x.isFinite = false) (key : String) :
    Kind.read .float key (Value.number (.float x)).settingText = pure 0 ∧
      ¬ (float x).ReadsBack 0 := by
  refine ⟨?_, not_readsBack_zero h⟩
  rw [read_float, isFinite, h]
  rfl

/-- Neither infinity is read back, nor is an undefined number. -/
theorem not_readsBack_infinite :
    (Kind.read .float "k" (Value.number (.float (.infinite false))).settingText = pure 0 ∧
      ¬ (float (.infinite false)).ReadsBack 0) ∧
    (Kind.read .float "k" (Value.number (.float (.infinite true))).settingText = pure 0 ∧
      ¬ (float (.infinite true)).ReadsBack 0) ∧
    Kind.read .float "k" (Value.number (.float .nan)).settingText = pure 0 ∧
      ¬ (float .nan).ReadsBack 0 :=
  ⟨read_of_not_isFinite rfl "k", read_of_not_isFinite rfl "k", read_of_not_isFinite rfl "k"⟩

end PrintSettings.Yaml.Number
