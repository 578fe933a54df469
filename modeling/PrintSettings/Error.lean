import PrintSettings.Log

/-! # Errors of settings

Each error says what went wrong; its wording is `SettingError.message`, its process exit status
`SettingError.exitCode`. A lookup or a load is an `Outcome`: a result or an error, with the log
records made on the way in either case. -/

namespace PrintSettings

/-! ## Causes -/

/-- Why a file could not be read. -/
inductive ReadFault where
  | notFound
  | isDirectory
  | notDirectory
  | nameTooLong
  | notUtf8
  | other (text : String)
deriving DecidableEq, Repr

def ReadFault.message : ReadFault → String
  | notFound => "No such file or directory (os error 2)"
  | isDirectory => "Is a directory (os error 21)"
  | notDirectory => "Not a directory (os error 20)"
  | nameTooLong => "File name too long (os error 36)"
  | notUtf8 => "stream did not contain valid UTF-8"
  | other text => text

/-- Why a text is no index. -/
inductive IndexFault where
  | empty
  | invalidDigit
  | tooLarge
deriving DecidableEq, Repr

def IndexFault.message : IndexFault → String
  | empty => "cannot parse integer from empty string"
  | invalidDigit => "invalid digit found in string"
  | tooLarge => "number too large to fit in target type"

/-- What is wrong with a pair or an environment variable. -/
inductive ArgumentFault where
  | noEquals (arg : String)
  | noKey (arg : String)
  | noColon (arg : String)
  | badIndex (arg : String) (fault : IndexFault)
  | notUtf8 (name : String)
deriving DecidableEq, Repr

def ArgumentFault.message : ArgumentFault → String
  | noEquals arg => "Expected key=value, got '" ++ arg ++ "'"
  | noKey arg => "Missing setting key in '" ++ arg ++ "'"
  | noColon arg => "Expected N:key=value, got '" ++ arg ++ "'"
  | badIndex arg fault => "Invalid extruder number in '" ++ arg ++ "': " ++ fault.message
  | notUtf8 name => "Environment variable " ++ name ++ " is not valid UTF-8"

/-! ## Errors -/

inductive SettingError where
  /-- No scope on the way holds a value for the key. -/
  | missingKey (key : String)
  /-- A number addresses no extruder. -/
  | extruderOutOfRange (index : Int) (count : Nat)
  | unreadable (fault : ReadFault)
  /-- The text of a document breaks the rules of YAML or has the wrong shape. -/
  | malformed
  | invalidArgument (fault : ArgumentFault)
deriving DecidableEq, Repr

namespace SettingError

def message : SettingError → String
  | missingKey key =>
    "Trying to retrieve unregistered setting with no value given: '" ++ key ++ "'"
  | extruderOutOfRange index count =>
    "Extruder " ++ toString index ++ " requested but only " ++ toString count ++
      " extruder(s) are configured"
  | unreadable fault => "Failed to read settings file: " ++ fault.message
  | malformed => "Failed to parse settings"
  | invalidArgument fault => "Invalid argument: " ++ fault.message

/-- The texts of what lies behind an error. -/
def causes : SettingError → List String
  | unreadable fault => [fault.message]
  | _ => []

def exitCode : SettingError → Nat
  | missingKey _ => 2
  | extruderOutOfRange .. => 3
  | unreadable _ | malformed | invalidArgument _ => 1

def isMissingKey : SettingError → Bool
  | missingKey _ => true
  | _ => false

end SettingError

/-- A result or an error, with the records made on the way. -/
abbrev Outcome (α : Type) := ExceptT SettingError Logged α

namespace Outcome

/-- The result or error, and the records. -/
def run {α : Type} (x : Outcome α) : Logged (Except SettingError α) := ExceptT.run x

def ofExcept {α : Type} (x : Except SettingError α) : Outcome α := ExceptT.mk (pure x)

/-- A computation that may report but does not fail. -/
def ofLogged {α : Type} (x : Logged α) : Outcome α := ExceptT.lift x

def record (level : Level) (text : String) : Outcome Unit :=
  ofLogged (Logged.record level text)

/-- Fails with a missing key, which is also reported. -/
def missing {α : Type} (key : String) : Outcome α := do
  record .error (SettingError.missingKey key).message
  throw (.missingKey key)

end Outcome

end PrintSettings
