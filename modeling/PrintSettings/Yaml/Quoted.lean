import PrintSettings.Numeric.Leading
import PrintSettings.Yaml.Plain

/-! # Quoted scalars

In single quotes a quote is written twice. In double quotes a backslash starts an escape, and before
a line break it joins the lines without a space. Gaps are folded as in plain scalars. -/

namespace PrintSettings.Yaml

open PrintSettings.Numeric

/-! ## Escapes -/

/-- The character meant by a single one after a backslash. -/
def simpleEscape? : Char → Option Char
  | '0' => some '\x00'
  | 'a' => some '\x07'
  | 'b' => some '\x08'
  | 't' => some '\t'
  | '\t' => some '\t'
  | 'n' => some '\n'
  | 'v' => some '\x0b'
  | 'f' => some '\x0c'
  | 'r' => some '\r'
  | 'e' => some '\x1b'
  | ' ' => some ' '
  | '"' => some '"'
  | '/' => some '/'
  | '\\' => some '\\'
  | 'N' => some '\u0085'
  | '_' => some '\u00a0'
  | 'L' => some '\u2028'
  | 'P' => some '\u2029'
  | _ => none

/-- How many hexadecimal digits follow the letter of a numeric escape. -/
def escapeDigits? : Char → Option Nat
  | 'x' => some 2
  | 'u' => some 4
  | 'U' => some 8
  | _ => none

/-- The character with a code point, which must not be a surrogate. -/
def charOfCode? (n : Nat) : Option Char :=
  if n.isValidChar then some (.ofNat n) else none

/-! ## Scanning -/

/-- Where a scanner of double quotes is. -/
inductive QuoteState where
  | within (gap : Gap)
  | afterBackslash
  /-- Inside a numeric escape: the digits still to come, and the value of those read. -/
  | inCode (left value : Nat)

/-- The text up to the closing double quote, and the cells after it. -/
def doubleQuotedFrom : QuoteState → List Cell → Option (List Char × List Cell)
  | _, [] => none
  | .afterBackslash, c :: rest =>
    match simpleEscape? c.char with
    | some d => (doubleQuotedFrom (.within .none) rest).map fun (t, r) => (d :: t, r)
    | none =>
      match escapeDigits? c.char with
      | some n => doubleQuotedFrom (.inCode n 0) rest
      | none => none
  | .inCode left value, c :: rest => do
    let value := 16 * value + (← hexDigit? c.char)
    if left ≤ 1 then
      let d ← charOfCode? value
      let (t, r) ← doubleQuotedFrom (.within .none) rest
      return (d :: t, r)
    else doubleQuotedFrom (.inCode (left - 1) value) rest
  | .within gap, c :: rest =>
    if isSpaceOrTab c.char then doubleQuotedFrom (.within (gap.pushBlank c.char)) rest
    else if isBreak c.char then doubleQuotedFrom (.within (gap.pushBreak c.char)) rest
    else if atDocumentMark (c :: rest) then none
    else if c.char == '"' then some (gap.text, rest)
    else if c.char == '\\' then
      match rest with
      | d :: rest' =>
        if isBreak d.char then
          (doubleQuotedFrom (.within .escaped) rest').map fun (t, r) => (gap.text ++ t, r)
        else (doubleQuotedFrom .afterBackslash (d :: rest')).map fun (t, r) => (gap.text ++ t, r)
      | [] => none
    else (doubleQuotedFrom (.within .none) rest).map fun (t, r) => (gap.text ++ c.char :: t, r)

/-- The text up to the closing single quote, and the cells after it. -/
def singleQuotedFrom (gap : Gap) : List Cell → Option (List Char × List Cell)
  | [] => none
  | c :: rest =>
    if isSpaceOrTab c.char then singleQuotedFrom (gap.pushBlank c.char) rest
    else if isBreak c.char then singleQuotedFrom (gap.pushBreak c.char) rest
    else if atDocumentMark (c :: rest) then none
    else if c.char == '\x27' then
      match rest with
      | d :: rest' =>
        if d.char == '\x27' then
          (singleQuotedFrom .none rest').map fun (t, r) => (gap.text ++ '\x27' :: t, r)
        else some (gap.text, d :: rest')
      | [] => some (gap.text, [])
    else (singleQuotedFrom .none rest).map fun (t, r) => (gap.text ++ c.char :: t, r)

end PrintSettings.Yaml
