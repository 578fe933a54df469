import PrintSettings.KeyMap
import PrintSettings.Pair
import PrintSettings.Registry
import PrintSettings.Text.Listing

/-! # Stores of plain texts

A store keeps texts under names, sends the lookup of single names to other scopes, and may have a
parent scope. What kind of scopes it refers to is left open here. Writing a name that the registry
lacks is reported. Its texts can be given to another program as arguments (`arguments`). -/

namespace PrintSettings

open PrintSettings.Text

/-- Texts under names; `overrides` holds the scopes that single names are looked up in, in ascending
order of names. -/
structure Store (σ : Type) where
  values : KeyMap String
  overrides : List (String × σ)
  parent : Option σ

namespace Store

variable {σ : Type}

/-! ## Writing -/

def root : Store σ := ⟨∅, [], none⟩

def inside (parent : σ) : Store σ := ⟨∅, [], some parent⟩

def unregistered (key value : String) : Record where
  level := .warn
  text := "Setting an unregistered setting " ++ key ++ " to " ++ value

/-- Writes a text under a name. -/
def set (s : Store σ) (registry : Registry) (p : Pair) : Logged (Store σ) :=
  ⟨{ s with values := s.values.insert p.key p.value },
    if registry.contains p.key then [] else [unregistered p.key p.value]⟩

/-- Writes several texts one after another. -/
def setAll (s : Store σ) (registry : Registry) (pairs : List Pair) : Logged (Store σ) :=
  pairs.foldlM (fun s p => s.set registry p) s

/-- Sends the lookup of a name to another scope. -/
def inherit (s : Store σ) (key : String) (target : σ) : Store σ :=
  { s with overrides := KeyMap.insertEntry key target s.overrides }

/-! ## Looking -/

def hasLocal (s : Store σ) (key : String) : Bool := s.values.contains key

def hasOverride (s : Store σ) (key : String) : Bool := (KeyMap.find? key s.overrides).isSome

/-- The texts in ascending order of names. -/
def pairs (s : Store σ) : List Pair := s.values.entries.map fun e => ⟨e.1, e.2⟩

/-- The nonempty texts as command-line arguments, in ascending order of names. -/
def arguments (s : Store σ) : String :=
  String.join ((s.pairs.filter (·.value ≠ "")).map fun p => " -s " ++ p.quoted)

/-- A listing of the store. -/
def listing (s : Store σ) : String :=
  "SettingsBase \x7b setting_values: " ++
    listEntries (s.pairs.map fun p => (listText p.key, listText p.value)) ++
    ", setting_inherit_base: " ++ listItems (s.overrides.map fun e => listText e.1) ++
    ", has_parent: " ++ (if s.parent.isSome then "true" else "false") ++ " \x7d"

end Store

end PrintSettings
