import PrintSettings.Error
import PrintSettings.Text.Blank
import PrintSettings.Text.Quoted
import PrintSettings.Text.Split

/-! # Setting pairs

Settings are given one by one as `key=value`, or as `N:key=value` for the extruder with number `N`.
The key is what stands before the first `=` without the blanks around it; a value in double quotes
is unquoted. -/

namespace PrintSettings

open PrintSettings.Text

structure Pair where
  key : String
  value : String
deriving DecidableEq, Repr

namespace Pair

/-- The characters between double quotes, unescaped; any other value as it is. -/
def unquote (value : List Char) : List Char :=
  match value with
  | '"' :: inner => if inner.getLast? = some '"' then unescapeChars inner.dropLast else value
  | _ => value

/-- Reads `key=value`. -/
def parse (arg : String) : Except SettingError Pair :=
  match splitFirst? '=' arg.toList with
  | none => .error (.invalidArgument (.noEquals arg))
  | some (before, value) =>
    let key := strip isBlank before
    if key.isEmpty then .error (.invalidArgument (.noKey arg))
    else .ok ⟨.ofList key, .ofList (unquote value)⟩

/-- A pair in its quoted form. -/
def quoted (p : Pair) : String := p.key ++ "=\"" ++ escape p.value ++ "\""

end Pair

/-! ## Indices -/

/-- Reads on in an index from the value of the digits so far; an index has 64 bits. -/
def indexFrom (n : Nat) : List Char → Except IndexFault Nat
  | [] => .ok n
  | c :: rest =>
    let next := 10 * n + (c.toNat - '0'.toNat)
    if !c.isDigit then .error .invalidDigit
    else if 0x10000000000000000 ≤ next then .error .tooLarge
    else indexFrom next rest

/-- Reads an index: digits, with at most one plus sign before them. -/
def parseIndex (text : List Char) : Except IndexFault Nat :=
  match text with
  | [] => .error .empty
  | ['+'] => .error .invalidDigit
  | '+' :: digits => indexFrom 0 digits
  | digits => indexFrom 0 digits

/-! ## Pairs for an extruder -/

/-- A pair for one extruder. -/
structure ExtruderPair where
  index : Nat
  pair : Pair
deriving DecidableEq, Repr

/-- Reads `N:key=value`. -/
def ExtruderPair.parse (arg : String) : Except SettingError ExtruderPair :=
  match splitFirst? ':' arg.toList with
  | none => .error (.invalidArgument (.noColon arg))
  | some (number, rest) =>
    match parseIndex (strip isBlank number) with
    | .error fault => .error (.invalidArgument (.badIndex arg fault))
    | .ok index => (Pair.parse (.ofList rest)).map (ExtruderPair.mk index)

end PrintSettings
