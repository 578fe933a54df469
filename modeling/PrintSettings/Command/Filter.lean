import PrintSettings.Environment
import PrintSettings.Pair
import PrintSettings.Pattern.Mode
import PrintSettings.Pattern.Reader
import PrintSettings.Text.Split

/-! # Log filters

A log filter is a list of directives between commas. A directive is a level, or a target with a span
and a level, both optional: `target[span{field=pattern}]=level`. Blanks around a directive do not
count for its form, but its parts are cut out by their offsets in octets as if no blanks were before
it. A cut may so take in other characters than the part has, and it may fall inside a character,
which the program does not survive (`FilterFault.fatal`).

What a filter comes to (`LogSetup.of`) is up to its reader, which is not part of the program but of a
library: `filterFault?` finds what that library finds wrong with a filter. -/

namespace PrintSettings.Command

open PrintSettings.Numeric PrintSettings.Text

/-- What can be wrong with a filter. -/
inductive FilterFault where
  | malformed
  /-- The reader of the filter ends the program instead of giving a result. -/
  | fatal
deriving DecidableEq, Repr

/-! ## Cuts -/

/-- The characters before an octet offset and those after it. -/
def splitAtOctet (offset : Nat) (text : List Char) : Except FilterFault (List Char × List Char) :=
  if offset = 0 then .ok ([], text)
  else match text with
    | [] => .error .fatal
    | c :: rest =>
      if c.utf8Size ≤ offset then do
        let (front, back) ← splitAtOctet (offset - c.utf8Size) rest
        return (c :: front, back)
      else .error .fatal

/-- The characters from an octet offset to a later one. -/
def cut (text : List Char) (first last : Nat) : Except FilterFault (List Char) := do
  let (front, _) ← splitAtOctet last text
  let (_, part) ← splitAtOctet first front
  return part

/-! ## Levels -/

def levelWords : List String := ["error", "warn", "info", "debug", "trace", "off"]

/-- Whether a text names a level: nothing, a word in any case, or a number up to five. -/
def isLevel (text : List Char) : Bool :=
  let word := String.ofList (text.map Char.toLower)
  let small := match parseIndex text with
    | .ok n => decide (n ≤ 5)
    | .error _ => false
  text.isEmpty || levelWords.contains word || small

/-! ## Fields -/

/-- Whether a text is a number, which may be infinite or undefined. -/
def isNumber (text : List Char) : Bool :=
  let (_, body) := takeSign text
  let isWord (word : String) : Bool := dropWord? word.toList body = some []
  ["inf", "infinity", "nan"].any isWord || (scanDecimal? body).any (·.2.isEmpty)

/-- Whether a field can be compared with a text: one that is no number is read as a pattern. -/
def isFieldValue (text : List Char) : Bool :=
  isNumber text || (Pattern.ofText? text).any (·.isUsable)

/-- Whether a field is well formed: a name alone, or with the text up to another equals sign. -/
def isField (text : List Char) : Bool :=
  match splitAll '=' text with
  | _ :: value :: _ => isFieldValue value
  | _ => true

/-! ## Directives -/

/-- Where the reader of a directive is, with the offset at which the present part started; a target
starts at zero. -/
inductive DirectivePlace where
  | start
  | target
  | span (first : Nat)
  | field (first : Nat)
  | afterFields
  | afterSpan
  | level (first : Nat)
deriving DecidableEq, Repr

namespace DirectivePlace

def startsTarget (c : Char) : Bool := isAlphanumeric c || c == '-' || c == ':' || c == '_'

/-- The place after a character, whose offset is given. A part that ends here is cut out. -/
def step (directive : List Char) (offset : Nat) (c : Char) :
    DirectivePlace → Except FilterFault DirectivePlace
  | start =>
    if c == '[' then .ok (span (offset + 1))
    else if startsTarget c then .ok target else .error .malformed
  | target => do
    if c == '=' || c == '[' then
      let _ ← cut directive 0 offset
      return if c == '=' then level (offset + 1) else span (offset + 1)
    else return target
  | span first => do
    if c == ']' || c == '\x7b' then
      let _ ← cut directive first offset
      return if c == ']' then afterSpan else field (offset + 1)
    else return span first
  | field first => do
    if c == '\x7d' then
      let text ← cut directive first offset
      if text.isEmpty || !isField text then throw .malformed
      return afterFields
    else return field first
  | afterFields => if c == ']' then .ok afterSpan else .error .malformed
  | afterSpan => if c == '=' then .ok (level (offset + 1)) else .error .malformed
  | level first => .ok (level first)

/-- The place after characters that start at an offset. -/
def steps (directive : List Char) : (offset : Nat) → List Char → DirectivePlace →
    Except FilterFault DirectivePlace
  | _, [], place => .ok place
  | offset, c :: rest, place => do
    steps directive (offset + c.utf8Size) rest (← place.step directive offset c)

/-- Whether a directive may end at a place. A level reaches to the end. -/
def finish (directive : List Char) : DirectivePlace → Except FilterFault Unit
  | target | afterSpan => .ok ()
  | level first => do
    let (_, text) ← splitAtOctet first directive
    if isLevel text then return () else throw .malformed
  | _ => .error .malformed

end DirectivePlace

/-- What is wrong with a directive, if anything is. -/
def checkDirective (directive : List Char) : Except FilterFault Unit := do
  let place ← DirectivePlace.steps directive 0 (strip isBlank directive) .start
  place.finish directive

/-! ## Filters -/

/-- What is first found wrong with a filter; nothing at all may stand between commas. -/
def filterFault? (text : String) : Option FilterFault :=
  let directives := (splitAll ',' text.toList).filter (!·.isEmpty)
  match directives.forM checkDirective with
  | .ok () => none
  | .error fault => some fault

/-- The name of the variable with the filter of those who give none. -/
def filterVariable : String := "RUST_LOG"

/-- The filter of the environment, if it is a text. -/
def environmentFilter? (environment : List Variable) : Option String := do
  let found ← environment.find? fun v => String.fromUTF8? v.name == some filterVariable
  String.fromUTF8? found.value

/-- The filter of a run: the one that is given, or else that of the environment. -/
def filterInUse? (given : Option String) (environment : List Variable) : Option String :=
  given.or (environmentFilter? environment)

/-- The notice of a malformed filter. -/
def filterNotice (text : String) : String :=
  "Invalid log level '" ++ text ++ "', falling back to 'warn'"

/-- What a filter comes to. One that is given is reported if it is malformed; one of the environment
counts only if none is given, and is then passed over without a word. -/
inductive LogSetup where
  | quiet
  | notice (text : String)
  /-- Reading the filter ends the program. -/
  | fatal
deriving DecidableEq, Repr

/-- What a filter comes to with a reader, which finds what is wrong with it. -/
def LogSetup.of (fault? : String → Option FilterFault) (given : Option String)
    (environment : List Variable) : LogSetup :=
  match given with
  | some text =>
    match fault? text with
    | none => quiet
    | some .malformed => notice (filterNotice text)
    | some .fatal => fatal
  | none =>
    match (environmentFilter? environment).bind fault? with
    | some .fatal => fatal
    | _ => quiet

end PrintSettings.Command
