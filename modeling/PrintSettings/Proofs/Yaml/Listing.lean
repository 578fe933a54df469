import PrintSettings.Yaml.SettingText

/-! # Lists as setting texts

The JSON text of a list is what its items have as texts, between commas and in brackets, and a list
is a setting with this text (`settingText_sequence_map`). -/

namespace PrintSettings.Yaml.Value

variable {α : Type} {item : α → Value} {text : α → String}

theorem toList_bracketed (opening closing : String) (parts : List String) :
    (jsonList opening closing parts).toList =
      opening.toList ++ ([','].intercalate (parts.map String.toList) ++ closing.toList) := by
  simp [jsonList, String.toList_intercalate]

theorem toList_jsonList (parts : List String) :
    (jsonList "[" "]" parts).toList =
      '[' :: ([','].intercalate (parts.map String.toList) ++ [']']) :=
  toList_bracketed "[" "]" parts

theorem toList_jsonObject (parts : List String) :
    (jsonObject parts).toList =
      '\x7b' :: ([','].intercalate (parts.map String.toList) ++ ['\x7d']) :=
  toList_bracketed "\x7b" "\x7d" parts

theorem jsonItems?_map (l : List α) (h : ∀ a, (item a).json? = some (text a)) :
    jsonItems? (l.map item) = some (l.map text) := by
  induction l with
  | nil => rfl
  | cons a l ih => simp [jsonItems?, h, ih]

theorem json?_sequence_map (l : List α) (h : ∀ a, (item a).json? = some (text a)) :
    (sequence (l.map item)).json? = some (jsonList "[" "]" (l.map text)) := by
  rw [json?, jsonItems?_map l h, Option.map_some]

theorem settingText_sequence_map (l : List α) (h : ∀ a, (item a).json? = some (text a)) :
    (sequence (l.map item)).settingText = jsonList "[" "]" (l.map text) := by
  have hsetting : (sequence (l.map item)).settingText = (sequence (l.map item)).json?.getD "" := rfl
  rw [hsetting, json?_sequence_map l h, Option.getD_some]

end PrintSettings.Yaml.Value
