import PrintSettings.Numeric.Leading
import PrintSettings.Yaml.Node
import PrintSettings.Yaml.Value

/-! # Values of scalars

A plain scalar without a tag is null, a boolean or a number if it is written like one, and a string
otherwise. A quoted scalar is a string. The tags of the core schema decide the type whatever the
style; a tag of the document's own is kept beside the value. -/

namespace PrintSettings.Yaml

open PrintSettings.Numeric

/-! ## Words -/

def isNullWord (text : String) : Bool := ["null", "Null", "NULL", "~"].contains text

def boolWord? (text : String) : Option Bool :=
  if ["true", "True", "TRUE"].contains text then some true
  else if ["false", "False", "FALSE"].contains text then some false
  else none

/-! ## Integers -/

/-- The number that digits of a base stand for. -/
def digitsValue? (base : Nat) (text : List Char) : Option Nat :=
  if text.isEmpty then none
  else text.foldlM (fun n c => do
    let digit ← hexDigit? c
    if digit < base then some (base * n + digit) else none) 0

/-- Whether a text is a zero followed by digits, which is no number. -/
def hasLeadingZero (text : List Char) : Bool :=
  match text with
  | '0' :: rest => !rest.isEmpty && rest.all Char.isDigit
  | _ => false

/-- A number without sign, in base ten or after the mark of a base. -/
def natural? (text : List Char) : Option Nat :=
  match text with
  | '0' :: 'x' :: rest => digitsValue? 16 rest
  | '0' :: 'o' :: rest => digitsValue? 8 rest
  | '0' :: 'b' :: rest => digitsValue? 2 rest
  | _ => if hasLeadingZero text then none else digitsValue? 10 text

/-- An integer with at most one sign. -/
def integer? (text : List Char) : Option Int :=
  let (negative, body) := takeSign text
  (natural? body).map fun n => if negative then -n else n

/-- Integers that a document can hold: those of 64 bits, with or without a sign. -/
def isWord (n : Int) : Bool := int64Min ≤ n && n < 0x10000000000000000

/-- Integers of twice that width are refused; only still larger ones are read as floats. -/
def isDoubleWord (n : Int) : Bool :=
  -0x80000000000000000000000000000000 ≤ n && n < 0x100000000000000000000000000000000

/-! ## Floats -/

/-- A decimal with at most one sign that is the whole text and does not overflow. -/
def finite? (text : List Char) : Option Binary64 :=
  let (negative, body) := takeSign text
  match scanDecimal? body with
  | some (d, []) =>
    let x := d.toBinary64 negative
    if x.isFinite then some x else none
  | _ => none

/-- A float, which may be one of the words for infinite and undefined ones. -/
def float? (text : List Char) : Option Binary64 :=
  let word := String.ofList text
  if [".inf", ".Inf", ".INF", "+.inf", "+.Inf", "+.INF"].contains word then some (.infinite false)
  else if ["-.inf", "-.Inf", "-.INF"].contains word then some (.infinite true)
  else if [".nan", ".NaN", ".NAN"].contains word then some .nan
  else finite? text

/-! ## Scalars -/

/-- The float or string that a plain scalar is if it is nothing else. -/
def floatOrString (text : String) : Value :=
  if hasLeadingZero (takeSign text.toList).2 then .string text
  else match float? text.toList with
    | some x => .number (.float x)
    | none => .string text

/-- The value of a plain scalar without a tag. -/
def plainValue? (text : String) : Option Value :=
  if text.isEmpty || isNullWord text then some .null
  else match boolWord? text with
    | some b => some (.bool b)
    | none =>
      match integer? text.toList with
      | some n =>
        if isWord n then some (.number (.integer n))
        else if isDoubleWord n then none
        else some (floatOrString text)
      | none => some (floatOrString text)

/-- The value of a scalar whatever its tag. -/
def Scalar.untaggedValue? (s : Scalar) : Option Value :=
  if s.style = .plain then plainValue? s.text else some (.string s.text)

/-- The integer of a scalar with the tag for integers. -/
def taggedInteger? (text : String) : Option Value := do
  let n ← integer? text.toList
  if isWord n then some (.number (.integer n)) else none

/-- A value with the document's own tag if there is one. -/
def withTag (tag : Option Tag) (x : Value) : Value :=
  match tag.bind Tag.name? with
  | some name => .tagged name x
  | none => x

/-- The value of a scalar. -/
def Scalar.value? (s : Scalar) : Option Value :=
  match s.tag with
  | some .null => if isNullWord s.text then some .null else none
  | some .bool => (boolWord? s.text).map .bool
  | some .int => taggedInteger? s.text
  | some .float => (float? s.text.toList).map (.number <| .float ·)
  | some (.own name) => s.untaggedValue?.map (.tagged name)
  | some .illegible | none => s.untaggedValue?
  | some .other => some (.string s.text)

end PrintSettings.Yaml
