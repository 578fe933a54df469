import PrintSettings.Log
import PrintSettings.Numeric.Leading
import PrintSettings.Numeric.Notation

/-! # Matrices of three rows

The text of a matrix is `[[f,f,f],[f,f,f],[f,f,f]]` with blanks around every bracket, comma and
token. Both levels of brackets have one shape, so one scanner over its items reads them
(`scanTriple?`). A token runs to the next comma, closing bracket or space, and is zero if it does
not start with a number. -/

namespace PrintSettings.Value

open PrintSettings.Numeric PrintSettings.Text

structure Triple (α : Type) where
  first : α
  second : α
  third : α
deriving DecidableEq

def Triple.toList {α : Type} (t : Triple α) : List α := [t.first, t.second, t.third]

def Triple.map {α β : Type} (f : α → β) (t : Triple α) : Triple β :=
  ⟨f t.first, f t.second, f t.third⟩

/-- Three rows of three numbers. -/
structure Matrix where
  rows : Triple (Triple Binary64)
deriving DecidableEq

namespace Matrix

def identity : Matrix := ⟨⟨⟨1, 0, 0⟩, ⟨0, 1, 0⟩, ⟨0, 0, 1⟩⟩⟩

/-! ## Scanning -/

/-- The text after a mark that may have blanks before it. -/
def expect? (mark : Char) (text : List Char) : Option (List Char) :=
  match skipSpace text with
  | c :: rest => if c == mark then some rest else none
  | [] => none

def endsToken (c : Char) : Bool := c == ',' || c == ']' || c == ' '

/-- A token, possibly empty, that may have blanks before it. -/
def scanToken (text : List Char) : List Char × List Char :=
  let body := skipSpace text
  (body.takeWhile (!endsToken ·), body.dropWhile (!endsToken ·))

def scanNumber? (text : List Char) : Option (Binary64 × List Char) :=
  let (token, rest) := scanToken text
  some (floatOrZero token, rest)

/-- Three items in brackets with commas between them. -/
def scanTriple? {α : Type} (item? : List Char → Option (α × List Char)) (text : List Char) :
    Option (Triple α × List Char) := do
  let rest ← expect? '[' text
  let (first, rest) ← item? rest
  let rest ← expect? ',' rest
  let (second, rest) ← item? rest
  let rest ← expect? ',' rest
  let (third, rest) ← item? rest
  let rest ← expect? ']' rest
  return (⟨first, second, third⟩, rest)

/-- The rows of a text that is a matrix from end to end. -/
def rows? (text : List Char) : Option (Triple (Triple Binary64)) := do
  let (rows, rest) ← scanTriple? (scanTriple? scanNumber?) text
  if (skipSpace rest).isEmpty then some rows else none

/-! ## Reading -/

def rejected (text : String) : Record where
  level := .warn
  text := "Mesh transformation matrix could not be parsed! Format should be " ++
    "[[f,f,f], [f,f,f], [f,f,f]] allowing whitespace anywhere in between. " ++
    "While what was given was \"" ++ text ++ "\"."

/-- The matrix of a text. Empty text means the identity, and so does any other text that is not a
matrix, which is reported. -/
def ofText (text : String) : Logged Matrix :=
  if text.isEmpty then ⟨identity, []⟩
  else match rows? text.toList with
    | some rows => ⟨⟨rows⟩, []⟩
    | none => ⟨identity, [rejected text]⟩

/-! ## Use -/

def entries (m : Matrix) : List Binary64 := m.rows.toList.flatMap Triple.toList

/-- Whether all entries equal those of the identity as numbers. -/
def isIdentity (m : Matrix) : Bool :=
  (m.entries.zip identity.entries).all fun (x, y) => x.numericEq y

def dot (row point : Triple Binary64) : Binary64 :=
  row.first * point.first + row.second * point.second + row.third * point.third

/-- The product with a column. -/
def apply (m : Matrix) (point : Triple Binary64) : Triple Binary64 := m.rows.map (dot · point)

/-! ## Text -/

def rowText (row : Triple Binary64) : String :=
  "[" ++ ",".intercalate (row.toList.map Notation.json.text) ++ "]"

/-- The rows as compact JSON. -/
def text (m : Matrix) : String := "[" ++ ",".intercalate (m.rows.toList.map rowText) ++ "]"

end Matrix

end PrintSettings.Value
