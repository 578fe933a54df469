import PrintSettings.Numeric.Leading
import PrintSettings.Yaml.Cell

/-! # Tags and directives

A tag is written verbatim in angle brackets, or as a handle and a suffix; the handle stands for a
text that a directive may declare. Both are octets rather than characters, because an escape gives
an octet; they need not be UTF-8, and a zero octet ends them. A directive line gives the version of
YAML or declares a handle.
-/

namespace PrintSettings.Yaml

open PrintSettings.Numeric

/-! ## Characters of a tag -/

/-- Characters that may stand in any tag; the percent sign starts an escape. -/
def isTagChar (c : Char) : Bool := isWordChar c || oneOf ";/?:@&=+$.%!~*'()" c

/-- Characters that may stand in a verbatim tag and in a declared text. -/
def isVerbatimChar (c : Char) : Bool := isTagChar c || oneOf ",[]" c

/-- The value of two hexadecimal digits after a percent sign. -/
def octet? : List Char → Option (Nat × List Char)
  | '%' :: a :: b :: rest => do return (16 * (← hexDigit? a) + (← hexDigit? b), rest)
  | _ => none

/-- How many octets follow the given one in a character. -/
def moreOctets? (first : Nat) : Option Nat :=
  if first < 0x80 then some 0
  else if first / 0x20 = 0x06 then some 1
  else if first / 0x10 = 0x0e then some 2
  else if first / 0x08 = 0x1e then some 3
  else none

/-- The octets of a tag with its escapes replaced, where `due` more octets of a character must
follow; `fuel` bounds the number of characters. Octets are counted but nothing else is asked of
them. -/
def unescapeTag? : (fuel due : Nat) → List Char → Option (List UInt8)
  | _, due, [] => if due = 0 then some [] else none
  | 0, _, _ => none
  | fuel + 1, due, c :: text =>
    if c == '%' then do
      let (octet, rest) ← octet? (c :: text)
      let due ← if due = 0 then moreOctets? octet
        else if octet / 0x40 = 0x02 then some (due - 1) else none
      return .ofNat octet :: (← unescapeTag? fuel due rest)
    else if due = 0 then do return String.utf8EncodeChar c ++ (← unescapeTag? fuel 0 text)
    else none

/-- The octets before the first zero. -/
def beforeZero (octets : List UInt8) : List UInt8 := octets.takeWhile (· != 0)

/-- The octets of characters of a class, and the cells after them. -/
def scanTagText? (p : Char → Bool) (cells : List Cell) : Option (List UInt8 × List Cell) := do
  let (written, rest) := takeChars p cells
  return (beforeZero (← unescapeTag? written.length 0 written), rest)

/-! ## Tags -/

/-- The octets of a text. -/
def octets (text : String) : List UInt8 := text.toList.flatMap String.utf8EncodeChar

/-- A tag as it is written: the handle, empty for a verbatim tag, and the suffix. -/
structure WrittenTag where
  handle : String
  suffix : List UInt8
deriving DecidableEq, Repr

/-- A verbatim tag after `!<`. -/
def verbatimTag? (cells : List Cell) : Option (WrittenTag × List Cell) := do
  let (suffix, rest) ← scanTagText? isVerbatimChar cells
  if !nextIs isVerbatimChar cells || !nextIs (· == '>') rest then none
  else some (⟨"", suffix⟩, rest.drop 1)

/-- A tag after its exclamation mark. With a second one after a word the word is a handle; otherwise
the handle is a single exclamation mark, and the lone mark is a tag of its own. -/
def shortTag? (cells : List Cell) : Option (WrittenTag × List Cell) := do
  let (word, rest) := takeChars isWordChar cells
  if nextIs (· == '!') rest then
    let text := rest.drop 1
    let (suffix, rest) ← scanTagText? isTagChar text
    if nextIs isTagChar text then some (⟨.ofList ('!' :: word ++ ['!']), suffix⟩, rest) else none
  else
    let (suffix, rest) ← scanTagText? isTagChar cells
    if suffix.isEmpty then some (⟨"", octets "!"⟩, rest) else some (⟨"!", suffix⟩, rest)

/-- A tag after its exclamation mark; a gap must follow, or a comma inside brackets. -/
def scanTag? (inFlow : Bool) (cells : List Cell) : Option (WrittenTag × List Cell) := do
  let (tag, rest) ← if nextIs (· == '<') cells then verbatimTag? (cells.drop 1) else shortTag? cells
  if atGap rest || (inFlow && nextIs (· == ',') rest) then some (tag, rest) else none

/-! ## Meanings -/

/-- What a tag says about a node. -/
inductive Tag where
  /-- The types of the core schema. -/
  | null
  | bool
  | int
  | float
  /-- A name of the document's own, kept without one exclamation mark before others. -/
  | own (name : String)
  /-- A name of the document's own that is not UTF-8 and says nothing. -/
  | illegible
  /-- Any other tag makes a scalar a string. -/
  | other
deriving DecidableEq, Repr

namespace Tag

/-- Text without an exclamation mark before others. -/
def dropMark : List Char → List Char
  | '!' :: c :: rest => c :: rest
  | text => text

/-- The meaning of a tag that starts with an exclamation mark. -/
def ofOwn (tag : List UInt8) : Tag :=
  match String.fromUTF8? ⟨tag.toArray⟩ with
  | some text => own (.ofList (dropMark (dropMark text.toList)))
  | none => illegible

/-- The meaning of a tag whose handle is replaced. -/
def ofOctets (tag : List UInt8) : Tag :=
  if tag = octets "tag:yaml.org,2002:null" then null
  else if tag = octets "tag:yaml.org,2002:bool" then bool
  else if tag = octets "tag:yaml.org,2002:int" then int
  else if tag = octets "tag:yaml.org,2002:float" then float
  else if tag.head? = (octets "!").head? then ofOwn tag
  else other

/-- The name of a tag of the document's own. -/
def name? : Tag → Option String
  | own name => some name
  | _ => none

end Tag

/-! ## Directives -/

inductive Directive where
  | version (major minor : Nat)
  | tagHandle (handle : String) (meaning : List UInt8)
deriving DecidableEq, Repr

/-- A number of at most nine digits. -/
def scanVersionNumber? (cells : List Cell) : Option (Nat × List Cell) :=
  let (digits, rest) := takeChars Char.isDigit cells
  if digits.isEmpty || 9 < digits.length then none else some (Decimal.ofDigits digits, rest)

def scanVersion? (cells : List Cell) : Option (Directive × List Cell) := do
  let (major, rest) ← scanVersionNumber? (skipBlanks cells)
  if !nextIs (· == '.') rest then none
  else
    let (minor, rest) ← scanVersionNumber? (rest.drop 1)
    return (.version major minor, rest)

/-- A handle: one exclamation mark alone, or two around a possibly empty word. -/
def scanHandle? (cells : List Cell) : Option (String × List Cell) :=
  if !nextIs (· == '!') cells then none
  else
    let (word, rest) := takeChars isWordChar (cells.drop 1)
    if nextIs (· == '!') rest then some (.ofList ('!' :: word ++ ['!']), rest.drop 1)
    else if word.isEmpty then some ("!", rest)
    else none

def scanHandleDirective? (cells : List Cell) : Option (Directive × List Cell) := do
  let (handle, rest) ← scanHandle? (skipBlanks cells)
  if !nextIs isSpaceOrTab rest then none
  else
    let text := skipBlanks rest
    let (meaning, rest) ← scanTagText? isVerbatimChar text
    if !nextIs isVerbatimChar text || !atGap rest then none
    else some (.tagHandle handle meaning, rest)

/-- A directive after its percent sign, to the end of its line. -/
def scanDirective? (cells : List Cell) : Option (Directive × List Cell) := do
  let (name, rest) := takeChars isWordChar cells
  if !atGap rest then none
  else
    let (directive, rest) ←
      if name = "YAML".toList then scanVersion? rest
      else if name = "TAG".toList then scanHandleDirective? rest
      else none
    return (directive, ← skipToLineEnd? rest)

end PrintSettings.Yaml
