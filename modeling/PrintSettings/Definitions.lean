import PrintSettings.File
import PrintSettings.Registry
import PrintSettings.Yaml.Composition

/-! # Definitions of settings

A definitions document lists the names that settings may have: they are the string keys of its
`settings` mapping, and of the mappings that nest in it under `children`. Whatever else a definition
says is passed over, and so is what has the wrong shape. -/

namespace PrintSettings

open PrintSettings.Yaml

namespace Definitions

mutual

/-- The names that a value defines: the string keys of a mapping, each followed by the names under
the `children` of its definition. -/
def names : Value → List String
  | .tagged _ x => names x
  | .mapping entries => entryNames entries
  | _ => []

def entryNames : List (Value × Value) → List String
  | [] => []
  | (name, definition) :: rest =>
    name.text?.toList ++ namesUnder "children" definition ++ entryNames rest

/-- The names that a mapping defines in its value under a key. -/
def namesUnder (key : String) : Value → List String
  | .tagged _ x => namesUnder key x
  | .mapping entries => entryNamesUnder key entries
  | _ => []

def entryNamesUnder (key : String) : List (Value × Value) → List String
  | [] => []
  | (k, x) :: rest => if k.same (.string key) then names x else entryNamesUnder key rest

end

/-- The registry of a definitions document. -/
def registry (document : Value) : Registry := .ofList (namesUnder "settings" document)

end Definitions

namespace Registry

/-- The registry of a definitions text. -/
def ofText (text : String) : Outcome Registry := do
  match Value.ofText? text with
  | none => throw .malformed
  | some document =>
    let registry := Definitions.registry document
    Outcome.record .debug ("Loaded " ++ toString registry.size ++ " setting definitions")
    return registry

def ofFile (file : Contents) : Outcome Registry := do
  ofText (← Outcome.ofExcept file.text)

end Registry

end PrintSettings
