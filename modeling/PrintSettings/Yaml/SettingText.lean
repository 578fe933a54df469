import PrintSettings.Numeric.Notation
import PrintSettings.Yaml.Value

/-! # Values as setting texts

A setting is a text, whatever the document says: strings stay as they are, null is empty, numbers
and booleans have their plain text, and collections become compact JSON (`Value.json?`). A
collection has no JSON text if one of its keys has none, and is then empty as a setting. -/

namespace PrintSettings.Yaml

open PrintSettings.Numeric

/-! ## JSON texts -/

/-- A character of a JSON string. -/
def jsonChar (c : Char) : List Char :=
  match c with
  | '"' => ['\\', '"']
  | '\\' => ['\\', '\\']
  | '\x08' => ['\\', 'b']
  | '\x0c' => ['\\', 'f']
  | '\n' => ['\\', 'n']
  | '\r' => ['\\', 'r']
  | '\t' => ['\\', 't']
  | c =>
    if c.toNat < 0x20 then
      ['\\', 'u', '0', '0', Nat.digitChar (c.toNat / 16), Nat.digitChar (c.toNat % 16)]
    else [c]

def jsonQuoted (s : String) : String := .ofList ('"' :: s.toList.flatMap jsonChar ++ ['"'])

def jsonBool (b : Bool) : String := if b then "true" else "false"

namespace Number

/-- The text of a number in JSON, where undefined and infinite ones are null. -/
def json : Number → String
  | integer n => toString n
  | float x => Notation.json.text x

/-- The text of a number as a setting. -/
def text : Number → String
  | integer n => toString n
  | float x => Notation.yaml.text x

end Number

namespace Value

/-- The text of a key in JSON; only strings, booleans, integers and finite numbers have one. -/
def jsonKey? : Value → Option String
  | string s => some (jsonQuoted s)
  | bool b => some (jsonQuoted (jsonBool b))
  | number (.float x) => if x.isFinite then some (jsonQuoted (Number.float x).json) else none
  | number n => some (jsonQuoted n.json)
  | _ => none

/-- Parts between commas and in brackets. -/
def jsonList (opening closing : String) (parts : List String) : String :=
  opening ++ String.intercalate "," parts ++ closing

def jsonObject (members : List String) : String := jsonList "\x7b" "\x7d" members

mutual

/-- The JSON text of a value. -/
def json? : Value → Option String
  | null => some "null"
  | bool b => some (jsonBool b)
  | number n => some n.json
  | string s => some (jsonQuoted s)
  | sequence items => (jsonItems? items).map (jsonList "[" "]")
  | mapping entries => (jsonEntries? entries).map jsonObject
  | tagged tag x => x.json?.map fun text => jsonObject [jsonQuoted ("!" ++ tag) ++ ":" ++ text]

def jsonItems? : List Value → Option (List String)
  | [] => some []
  | x :: rest => do return (← x.json?) :: (← jsonItems? rest)

def jsonEntries? : List (Value × Value) → Option (List String)
  | [] => some []
  | (k, x) :: rest => do return ((← k.jsonKey?) ++ ":" ++ (← x.json?)) :: (← jsonEntries? rest)

end

/-! ## Setting texts -/

/-- A value as the text of a setting. -/
def settingText : Value → String
  | null => ""
  | bool b => jsonBool b
  | number n => n.text
  | string s => s
  | tagged _ x => x.settingText
  | x => x.json?.getD ""

end Value

end PrintSettings.Yaml
