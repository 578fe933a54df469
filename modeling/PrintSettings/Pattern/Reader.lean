import PrintSettings.Numeric.Leading
import PrintSettings.Pattern.Basic
import PrintSettings.Text.Alphanumeric
import PrintSettings.Text.Blank

/-! # Patterns of texts

The tree of a pattern is read from its text. In verbose mode blanks and comments are passed over;
the mode lasts to the end of the group in which it is switched on. -/

namespace PrintSettings.Pattern

open PrintSettings.Numeric PrintSettings.Text

/-! ## State of the reader -/

structure Reader where
  rest : List Char
  verbose : Bool
  /-- The names of the groups so far. -/
  names : List (List Char)

/-- A computation on the remaining text, which may fail. -/
abbrev Read := StateT Reader Option

/-- The text after blanks and comments, which end with their line. -/
def skipComments : (inComment : Bool) → List Char → List Char
  | _, [] => []
  | inComment, c :: rest =>
    if inComment then skipComments (c != '\n') rest
    else if isBlank c then skipComments false rest
    else if c == '#' then skipComments true rest
    else c :: rest

/-- The next character of a text that matters. After a hash sign the first one that is not blank is
taken, though it belongs to the comment. -/
def glance (verbose : Bool) (text : List Char) : Option Char :=
  let ahead := text.dropWhile isBlank
  let ahead := if ahead.head? = some '#' then (ahead.drop 1).dropWhile isBlank else ahead
  if verbose then ahead.head?.or text.head? else text.head?

namespace Read

def fail {α : Type} : Read α := fun _ => none

def rest : Read (List Char) := do return (← get).rest

def jump (text : List Char) : Read Unit := modify fun r => { r with rest := text }

/-- Takes the next character. -/
def next : Read Char := do
  match ← rest with
  | [] => fail
  | c :: text =>
    jump text
    return c

/-- Takes the next character if it is the given one. -/
def take (c : Char) : Read Bool := do
  if (← rest).head? = some c then
    let _ ← next
    return true
  else return false

/-- Passes over blanks and comments in verbose mode. -/
def gap : Read Unit :=
  modify fun r => if r.verbose then { r with rest := skipComments false r.rest } else r

/-! ## Escapes -/

/-- The number that hexadecimal digits stand for, after those of a given value. -/
def hexNumber (value : Nat) : (count : Nat) → Read Nat
  | 0 => return value
  | n + 1 => do
    gap
    match hexDigit? (← next) with
    | some digit => hexNumber (16 * value + digit) n
    | none => fail

/-- The character whose number is given by so many digits. -/
def hexLiteral (count : Nat) : Read Pattern := do
  let n ← hexNumber 0 count
  if n.isValidChar then return .literal ⟨.ofNat n, count = 2⟩ else fail

/-- The control character with a letter. -/
def control? : Char → Option Char
  | 'a' => some '\x07'
  | 'f' => some '\x0c'
  | 't' => some '\t'
  | 'n' => some '\n'
  | 'r' => some '\r'
  | 'v' => some '\x0b'
  | _ => none

/-- ASCII characters that stand for themselves after a backslash. -/
def isPunctuation (c : Char) : Bool :=
  c.toNat < 0x80 && !c.isAlphanum && c != '<' && c != '>'

/-- An escape after its backslash. There are no references to groups and no properties. -/
def escape : Read Pattern := do
  let c ← next
  if c == 'x' then hexLiteral 2
  else if c == 'u' then hexLiteral 4
  else if c == 'U' then hexLiteral 8
  else if ['d', 's', 'w'].contains c then return .shorthand false
  else if ['D', 'S', 'W'].contains c then return .shorthand true
  else if ['A', 'z'].contains c then return .edge
  else if ['b', 'B', '<', '>'].contains c then return .wordEdge
  else if isPunctuation c then return .literal ⟨c, false⟩
  else match control? c with
    | some d => return .literal ⟨d, false⟩
    | none => fail

/-! ## Classes -/

def classNames : List String :=
  ["alnum", "alpha", "ascii", "blank", "cntrl", "digit", "graph", "lower", "print", "punct",
    "space", "upper", "word", "xdigit"]

/-- Whether a class with a name is negated, and the text after it, both after its bracket. -/
def named? : List Char → Option (Bool × List Char)
  | ':' :: text =>
    let negated := text.head? = some '^'
    let text := if negated then text.drop 1 else text
    match text.dropWhile (· != ':') with
    | ':' :: ']' :: after =>
      if classNames.contains (.ofList (text.takeWhile (· != ':'))) then some (negated, after)
      else none
    | _ => none
  | _ => none

/-- A character of a class, or an escape. -/
def primitive : Read Pattern := do
  match ← next with
  | '\\' => escape
  | c => return .literal ⟨c, false⟩

/-- What a pattern means as a member of a class. -/
def member : Pattern → Read Members
  | .literal l => return .literal l
  | .shorthand negated => return .shorthand negated
  | _ => fail

/-- The range between two patterns. -/
def range : Pattern → Pattern → Read Members
  | .literal first, .literal last =>
    if first.char ≤ last.char then return .range first last else fail
  | _, _ => fail

/-- A member or a range. A dash before another one or before the end is no range. -/
def memberOrRange : Read Members := do
  let first ← primitive
  gap
  match ← rest with
  | '-' :: text =>
    let after := glance (← get).verbose text
    if after = some ']' || after = some '-' then member first
    else
      jump text
      gap
      range first (← primitive)
  | _ => member first

/-- The dashes that a class starts with. -/
def dashes : (fuel : Nat) → Read (List Members)
  | 0 => return []
  | fuel + 1 => do
    if ← take '-' then
      gap
      return .literal ⟨'-', false⟩ :: (← dashes fuel)
    else return []

/-- What a class starts with: dashes, or the bracket that would close an empty class. -/
def firstMembers (fuel : Nat) : Read (List Members) := do
  let items ← dashes fuel
  if !items.isEmpty then return items
  else if ← take ']' then
    gap
    return [.literal ⟨']', false⟩]
  else return []

/-- Adds what stands to the right of an operation, if there is one. -/
def combine (left : Option Members) (right : Members) : Members :=
  match left with
  | some x => .combined x right
  | none => right

mutual

/-- A class after its bracket: whether it is negated, and its members. -/
def bracketed : (fuel : Nat) → Read (Bool × Members)
  | 0 => fail
  | fuel + 1 => do
    gap
    let negated ← take '^'
    gap
    return (negated, ← members fuel none (← firstMembers fuel).reverse)

/-- The members of a class up to its end, given those on the left of an operation and, the last
first, those since then. -/
def members : (fuel : Nat) → (left : Option Members) → (items : List Members) → Read Members
  | 0, _, _ => fail
  | fuel + 1, left, items => do
    gap
    match ← rest with
    | [] => fail
    | ']' :: text =>
      jump text
      return combine left (.ofItems items.reverse)
    | '[' :: text =>
      match named? text with
      | some (negated, after) =>
        jump after
        members fuel left (.named negated :: items)
      | none =>
        jump text
        let (negated, inner) ← bracketed fuel
        members fuel left (.bracketed negated inner :: items)
    | '&' :: '&' :: text | '-' :: '-' :: text | '~' :: '~' :: text =>
      jump text
      members fuel (some (combine left (.ofItems items.reverse))) []
    | _ => members fuel left ((← memberOrRange) :: items)

end

/-! ## Groups -/

/-- Whether a text may be the name of a group. -/
def isGroupName : List Char → Bool
  | [] => false
  | c :: rest => (c == '_' || isAlphabetic c) &&
      rest.all fun c => ['_', '.', '[', ']'].contains c || isAlphanumeric c

/-- Takes the name of a group, which no other group has, and the mark after it. -/
def groupName : Read Unit := do
  let r ← get
  let name := r.rest.takeWhile (· != '>')
  match r.rest.dropWhile (· != '>') with
  | [] => fail
  | _ :: text =>
    if isGroupName name && !r.names.contains name then
      set { r with rest := text, names := name :: r.names }
    else fail

/-- Switches up to the mark after them, whether it is a colon, and the text after it. Each switch
stands once, and after a single dash they are off. -/
def switches? (on dangling : Bool) (settings : Settings) :
    List Char → Option (Settings × Bool × List Char)
  | [] => none
  | c :: text =>
    if c == ':' || c == ')' then if dangling then none else some (settings, c == ':', text)
    else if c == '-' then if on then switches? false true settings text else none
    else do
      let switch ← Switch.ofChar? c
      if settings.any (·.1 = switch) then none
      else switches? on false (settings ++ [(switch, on)]) text

/-- Verbose mode after switches. -/
def applySettings (settings : Settings) : Read Unit :=
  modify fun r => { r with verbose := (settings.lookup .verbose).getD r.verbose }

/-! ## Patterns -/

/-- Whether a pattern can be repeated. -/
def isRepeatable : Pattern → Bool
  | .empty | .switches _ => false
  | _ => true

/-- A part of a pattern that neither nests nor repeats. -/
def atom : Read Pattern := do
  match ← next with
  | '\\' => escape
  | '.' => return .dot
  | '^' | '$' => return .edge
  | c => return .literal ⟨c, false⟩

mutual

/-- Alternatives up to the end of a group or text, given those before, the last first. -/
def alternatives : (fuel : Nat) → (before : List Pattern) → Read Pattern
  | 0, _ => fail
  | fuel + 1, before => do
    let items := (← parts fuel []) :: before
    if ← take '|' then alternatives fuel items
    else match items with
      | [p] => return p
      | _ => return .alternation items.reverse

/-- Parts up to the end of an alternative, given those before, the last first. -/
def parts : (fuel : Nat) → (before : List Pattern) → Read Pattern
  | 0, _ => fail
  | fuel + 1, before => do
    gap
    match ← rest with
    | [] | ')' :: _ | '|' :: _ => return .ofItems before.reverse
    | '\x7b' :: _ => fail
    | '?' :: text | '*' :: text | '+' :: text =>
      match before with
      | p :: earlier =>
        if isRepeatable p then
          jump text
          let _ ← take '?'
          parts fuel (.repeated p :: earlier)
        else fail
      | [] => fail
    | '[' :: text =>
      jump text
      let (negated, inner) ← bracketed fuel
      parts fuel (.bracketed negated inner :: before)
    | '(' :: text =>
      jump text
      parts fuel ((← group fuel) :: before)
    | _ => parts fuel ((← atom) :: before)

/-- A group or switches after the parenthesis. There is no looking ahead or back. -/
def group : (fuel : Nat) → Read Pattern
  | 0 => fail
  | fuel + 1 => do
    gap
    match ← rest with
    | '?' :: '=' :: _ | '?' :: '!' :: _ | '?' :: '<' :: '=' :: _ | '?' :: '<' :: '!' :: _ => fail
    | '?' :: 'P' :: '<' :: text | '?' :: '<' :: text =>
      jump text
      groupName
      inner fuel []
    | '?' :: text =>
      match switches? true false [] text with
      | none => fail
      | some (settings, true, text) =>
        jump text
        inner fuel settings
      | some (settings, false, text) =>
        jump text
        applySettings settings
        if settings.isEmpty then fail else return .switches settings
    | _ => inner fuel []

/-- The inside of a group with switches of its own, and the parenthesis after it. -/
def inner : (fuel : Nat) → Settings → Read Pattern
  | 0, _ => fail
  | fuel + 1, settings => do
    let verbose := (← get).verbose
    applySettings settings
    let p ← alternatives fuel []
    if ← take ')' then
      modify fun r => { r with verbose := verbose }
      return .group settings p
    else fail

end

end Read

/-- The pattern of a text. -/
def ofText? (text : List Char) : Option Pattern :=
  match (Read.alternatives (4 * text.length + 8) []).run ⟨text, false, []⟩ with
  | some (p, r) => if r.rest.isEmpty then some p else none
  | none => none

end PrintSettings.Pattern
