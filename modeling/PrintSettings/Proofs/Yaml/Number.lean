import PrintSettings.Proofs.Numeric.Notation
import PrintSettings.Yaml.SettingText

/-! # Numbers of documents as JSON

A finite number of a document is read back from its JSON text as the 64-bit number nearest to it;
what is not finite has no number at the start of its text (`leadingFloat?_json`). -/

namespace PrintSettings.Yaml.Number

open PrintSettings.Numeric

/-- Integers of documents have 64 bits, with or without a sign. -/
def InRange : Number → Prop
  | integer n => -0x8000000000000000 ≤ n ∧ n ≤ 0xffffffffffffffff
  | float _ => True

instance : DecidablePred InRange
  | integer _ => inferInstanceAs (Decidable (_ ∧ _))
  | float _ => inferInstanceAs (Decidable True)

def isFinite : Number → Bool
  | integer _ => true
  | float x => x.isFinite

/-- The value of a finite number. -/
def value : Number → ℚ
  | integer n => n
  | float x => x.value

/-- The number in the 64-bit format. -/
def toBinary64 : Number → Binary64
  | integer n => .ofInt n
  | float x => x

variable {n : Number}

theorem isNearest_toBinary64 (hn : n.InRange) (h : n.isFinite) :
    n.toBinary64.IsNearest n.value := by
  cases n with
  | integer n =>
    have hpow : pow2 64 = 0x10000000000000000 := rfl
    obtain ⟨hlow, hhigh⟩ := hn
    exact Binary64.isNearest_ofInt (by omega)
  | float x => exact Binary64.isNearest_value h

theorem denotes_json (h : n.isFinite) : Denotes n.json.toList n.toBinary64 := by
  cases n with
  | integer n => exact denotes_toString n
  | float x => exact Notation.denotes_text Notation.readable_json h

theorem json_eq_null (h : n.isFinite = false) : n.json = "null" := by
  cases n with
  | integer n => exact absurd h.symm Bool.false_ne_true
  | float x =>
    obtain ⟨_, _, _⟩ | _ | _ := x
    · exact absurd h.symm Bool.false_ne_true
    · rfl
    · rfl

/-- **A number is read back from its JSON text** if it is finite. -/
theorem leadingFloat?_json (n : Number) :
    leadingFloat? n.json.toList = if n.isFinite then some n.toBinary64 else none := by
  cases h : n.isFinite with
  | true => exact (denotes_json h).leadingFloat?_eq
  | false =>
    rw [json_eq_null h]
    rfl

theorem isNumeralChar_not_separator {c : Char} (h : isNumeralChar c) :
    c ≠ ',' ∧ c ≠ '[' ∧ c ≠ ']' := by
  refine ⟨?_, ?_, ?_⟩ <;> rintro rfl <;> exact absurd h (by decide)

theorem not_separator_of_mem_json {c : Char} (h : c ∈ n.json.toList) :
    c ≠ ',' ∧ c ≠ '[' ∧ c ≠ ']' := by
  cases hfinite : n.isFinite with
  | true => exact isNumeralChar_not_separator ((denotes_json hfinite).isNumeralChar c h)
  | false =>
    rw [json_eq_null hfinite] at h
    have hnull : ∀ c ∈ ['n', 'u', 'l', 'l'], c ≠ ',' ∧ c ≠ '[' ∧ c ≠ ']' := by simp
    exact hnull c h

end PrintSettings.Yaml.Number
