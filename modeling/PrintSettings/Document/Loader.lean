import PrintSettings.Document.Sections
import PrintSettings.Environment
import PrintSettings.File
import PrintSettings.Text.Lowercase

/-! # Loading settings documents

A document comes from a text, from a file or from nothing, and is then overridden by the
environment: a variable named `FAMILY_SET_KEY` gives the global setting whose name is `KEY` in lower
case. Variables take effect in the order in which they are listed. -/

namespace PrintSettings

/-- Where a document comes from. -/
inductive Source where
  | text (text : String)
  | file (file : Contents)
  /-- The environment alone. -/
  | environment

/-- Loads documents; `family` is the first part of the names of its variables. -/
structure Loader where
  family : String
deriving DecidableEq, Repr

namespace Loader

def standard : Loader := ⟨"STRATA"⟩

/-- The part of a variable's name after the family's mark, unless there is nothing after it. -/
def keyPart? (l : Loader) (name : String) : Option String := do
  let rest ← (l.family ++ "_SET_").toList.isPrefixOf? name.toList
  if rest.isEmpty then none else some (.ofList rest)

/-- Overrides a setting if a variable says so. The value of such a variable must be a text. -/
def override (l : Loader) (d : Document) (v : Variable) : Outcome Document := do
  match String.fromUTF8? v.name with
  | none => return d
  | some name =>
    match l.keyPart? name with
    | none => return d
    | some part =>
      match String.fromUTF8? v.value with
      | none => throw (.invalidArgument (.notUtf8 name))
      | some value =>
        let key := Text.lowercase part
        Outcome.record .debug ("Environment override " ++ name ++ " -> " ++ key)
        return d.set ⟨key, value⟩

def overrideAll (l : Loader) (d : Document) (environment : List Variable) : Outcome Document :=
  environment.foldlM l.override d

/-! ## Loading -/

/-- The document of a text, which is empty if the text is blank. -/
def parse (text : String) : Except SettingError Document :=
  if (Text.trim text).isEmpty then .ok ∅
  else match Document.ofText? text with
    | some d => .ok d
    | none => .error .malformed

/-- The document of a source before the environment overrides it. -/
def base : Source → Except SettingError Document
  | .text text => parse text
  | .file file => file.text >>= parse
  | .environment => .ok ∅

def load (l : Loader) (source : Source) (environment : List Variable) : Outcome Document := do
  l.overrideAll (← Outcome.ofExcept (base source)) environment

end Loader

end PrintSettings
