import PrintSettings.Value.Kind

/-! # Invocations

What a command line asks for: the value of a setting, or all global settings as arguments, from the
documents and pairs that it names. -/

namespace PrintSettings.Command

open PrintSettings.Value

/-- What a setting is printed as. -/
inductive Form where
  | value (kind : Kind)
  /-- The number of an extruder, which must be there. -/
  | extruder
deriving DecidableEq, Repr

/-- The forms and the words for them. -/
def Form.words : List (String × Form) := [
  ("string", .value .text), ("int", .value .int64), ("float", .value .float),
  ("bool", .value .flag), ("coord", .value .length), ("degrees", .value .degrees),
  ("radians", .value .angle), ("ratio", .value .ratio), ("velocity", .value .velocity),
  ("duration", .value .duration), ("temperature", .value .temperature), ("layer", .value .layer),
  ("draft-shield", .value .draftShield), ("flow-temp", .value .curve), ("matrix", .value .matrix),
  ("flavor", .value .flavor), ("extruder", .extruder)]

def Form.ofWord? (word : String) : Option Form := Form.words.lookup word

/-- A question for the value of one setting. -/
structure Query where
  key : String
  form : Form
  /-- The extruder in whose scope the setting is looked up. -/
  extruder : Option Nat
  /-- Whether the limit of the setting is followed. -/
  limited : Bool
deriving DecidableEq, Repr

inductive Action where
  | get (query : Query)
  | args
deriving DecidableEq, Repr

/-- Settings given on the command line, not yet taken apart. -/
structure Inputs where
  pairs : List String
  extruderPairs : List String
deriving DecidableEq, Repr

structure Invocation where
  logFilter : Option String
  /-- The path of the definitions file. -/
  definitions : Option String
  /-- The path of the settings file. -/
  settings : Option String
  inputs : Inputs
  action : Action
deriving DecidableEq, Repr

end PrintSettings.Command
