import PrintSettings.Document
import PrintSettings.Yaml.Composition
import PrintSettings.Yaml.SettingText

/-! # Sections of a settings document

A document text is a mapping with the sections `global`, `limit_to_extruder` and `extruders`, each
of which may be missing or empty; other sections are passed over. Names are the texts of scalars,
however they are written, and of settings with the same name the last one counts; but a section must
not occur twice. -/

namespace PrintSettings.Document

open PrintSettings.Yaml

/-! ## Shapes -/

/-- Whether a scalar is left out. -/
def isBlankScalar (s : Scalar) : Bool := s.style = .plain ∧ s.text = ""

/-- The text of a scalar. -/
def scalarText (nodes : List Node) (node : Node) : Compose String := do
  match ← Compose.follow nodes node with
  | .scalar _ s => return s.text
  | _ => failure

/-- The entries of a mapping, which has none if it is left out. -/
def mappingEntries (nodes : List Node) (node : Node) : Compose (List (Node × Node)) := do
  match ← Compose.follow nodes node with
  | .mapping _ _ entries => return entries
  | .scalar _ s => if isBlankScalar s then return [] else failure
  | _ => failure

/-- The items of a sequence, which has none if it is left out. -/
def sequenceItems (nodes : List Node) (node : Node) : Compose (List Node) := do
  match ← Compose.follow nodes node with
  | .sequence _ _ items => return items
  | .scalar _ s => if isBlankScalar s then return [] else failure
  | _ => failure

/-- A mapping from names to what is read of its values. -/
def namedEntries {α : Type} (nodes : List Node) (read : Node → Compose α) (node : Node) :
    Compose (List (String × α)) := do
  (← mappingEntries nodes node).mapM fun (k, x) => do
    return (← scalarText nodes k, ← read x)

/-! ## Sections -/

/-- Settings; their values may nest `depth` deep. -/
def settings (nodes : List Node) (depth : Nat) (node : Node) : Compose (KeyMap String) := do
  let read (x : Node) : Compose String := do return (← x.value nodes depth).settingText
  return .ofList (← namedEntries nodes read node)

/-- The number of an extruder: a plain scalar, or a literal one with the tag for integers. -/
def extruderNumber? (s : Scalar) : Option Nat :=
  let mayBeInteger := match s.style with
    | .plain => true
    | .literal => s.tag == some .int
    | _ => false
  let text := s.text.toList
  if mayBeInteger && text.head? != some '-' then
    (integer? text).bind fun n => if isWord n then some n.toNat else none
  else none

def extruderNumber (nodes : List Node) (node : Node) : Compose Nat := do
  match ← Compose.follow nodes node with
  | .scalar _ s => extruderNumber? s
  | _ => failure

def limitSection (nodes : List Node) (node : Node) : Compose (KeyMap Nat) := do
  return .ofList (← namedEntries nodes (extruderNumber nodes) node)

def extruderSection (nodes : List Node) (depth : Nat) (node : Node) :
    Compose (List (KeyMap String)) := do
  (← sequenceItems nodes node).mapM (settings nodes depth)

/-! ## Documents -/

/-- What is read of a section, or the default if the section is missing; it must not occur twice. -/
def section? {α : Type} (name : String) (sections : List (String × Node)) (default : α)
    (read : Node → Compose α) : Compose α :=
  match sections.filter (·.1 = name) with
  | [] => return default
  | [(_, node)] => read node
  | _ => failure

/-- The document of a tree. Two collections stand around the values of global settings and three
around those of an extruder. -/
def ofTree (nodes : List Node) (node : Node) : Compose Document := do
  let sections ← namedEntries nodes pure node
  let global ← section? "global" sections ∅ (settings nodes (maxDepth - 2))
  let limits ← section? "limit_to_extruder" sections ∅ (limitSection nodes)
  let extruders ← section? "extruders" sections [] (extruderSection nodes (maxDepth - 3))
  return ⟨global, limits, extruders⟩

/-- The document of a text; a text without contents is an empty document. -/
def ofText? (text : String) : Option Document := do
  match ← Node.ofText? text.toList with
  | some tree => (ofTree tree.subtrees tree).run' (maxFollowed tree)
  | none => return ∅

end PrintSettings.Document
