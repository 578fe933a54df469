import PrintSettings.Definitions
import PrintSettings.Document.Loader
import PrintSettings.Proofs.Outcome

/-! # Files that are refused

A file cannot be used if it cannot be read, is no text, or has a text that breaks the rules of what
it should be (`FileFault`). Definitions and settings files are refused for just that. -/

namespace PrintSettings

/-- What is wrong with a file whose text must not be malformed. -/
inductive FileFault (malformed : String → Prop) (file : Contents) : SettingError → Prop where
  | unreadable {fault : ReadFault} : file.text = .error (.unreadable fault) →
    FileFault malformed file (.unreadable fault)
  | malformed {text : String} : file.text = .ok text → malformed text →
    FileFault malformed file .malformed

/-- A text is no definitions document. -/
def Definitions.Malformed (text : String) : Prop := Yaml.Value.ofText? text = none

/-- A text is no settings document. -/
def Document.Malformed (text : String) : Prop :=
  ¬ (Text.trim text).isEmpty ∧ Document.ofText? text = none

theorem Contents.eq_unreadable_of_text {file : Contents} {e : SettingError}
    (h : file.text = .error e) : ∃ fault, e = .unreadable fault := by
  unfold Contents.text at h
  split at h
  · exact ⟨_, (Except.error.inj h).symm⟩
  · split at h
    · contradiction
    · exact ⟨_, (Except.error.inj h).symm⟩

/-- A file that must not be malformed is refused for what is wrong with it. -/
theorem text_bind_eq_error_iff {α : Type} {parse : String → Except SettingError α}
    {malformed : String → Prop}
    (hparse : ∀ text e, parse text = .error e ↔ malformed text ∧ e = .malformed)
    {file : Contents} {e : SettingError} :
    file.text >>= parse = .error e ↔ FileFault malformed file e := by
  cases htext : file.text with
  | error e' =>
    obtain ⟨fault, rfl⟩ := file.eq_unreadable_of_text htext
    constructor
    · rintro ⟨⟩
      exact .unreadable htext
    · rintro (hread | ⟨htext', -⟩)
      · rw [htext] at hread
        cases hread
        rfl
      · rw [htext] at htext'
        contradiction
  | ok text =>
    refine (hparse text e).trans ⟨?_, ?_⟩
    · rintro ⟨hmalformed, rfl⟩
      exact .malformed htext hmalformed
    · rintro (hread | ⟨htext', hmalformed⟩)
      · rw [htext] at hread
        contradiction
      · rw [htext] at htext'
        cases htext'
        exact ⟨hmalformed, rfl⟩

theorem Registry.result_ofFile_eq_error_iff {file : Contents} {e : SettingError} :
    (Registry.ofFile file).result = .error e ↔ FileFault Definitions.Malformed file e := by
  rw [Registry.ofFile, Outcome.result_bind, Outcome.result_ofExcept]
  refine text_bind_eq_error_iff fun text e => ?_
  unfold Registry.ofText Definitions.Malformed
  cases Yaml.Value.ofText? text with
  | none => exact ⟨fun h => ⟨rfl, (Except.error.inj h).symm⟩, fun h => h.2 ▸ rfl⟩
  | some document => exact iff_of_false (fun h => nomatch h) fun h => nomatch h.1

theorem Loader.base_file_eq_error_iff {file : Contents} {e : SettingError} :
    Loader.base (.file file) = .error e ↔ FileFault Document.Malformed file e := by
  refine text_bind_eq_error_iff fun text e => ?_
  unfold Loader.parse Document.Malformed
  split
  next hblank => simp [hblank]
  next hblank => cases Document.ofText? text <;> simp [hblank, eq_comm]

end PrintSettings
