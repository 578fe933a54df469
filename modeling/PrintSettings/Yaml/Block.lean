import PrintSettings.Yaml.Cell

/-! # Block scalars

A block scalar is literal or folded. Its header may say how many columns it is indented and what
becomes of the line breaks at its end; otherwise the first line that is not empty decides the
indentation, and one break stays at the end. -/

namespace PrintSettings.Yaml

/-! ## Header -/

/-- What becomes of the line breaks at the end. -/
inductive Chomping where
  | strip
  | clip
  | keep
deriving DecidableEq, Repr

def chomping? : Char → Option Chomping
  | '-' => some .strip
  | '+' => some .keep
  | _ => none

/-- An indentation in a header is a digit other than zero. -/
def indentDigit? (cells : List Cell) : Option (Option Nat × List Cell) :=
  match cells with
  | c :: rest =>
    if c.char == '0' then none
    else if c.char.isDigit then some (some (c.char.toNat - '0'.toNat), rest)
    else some (none, cells)
  | [] => some (none, [])

def takeChomping (cells : List Cell) : Option Chomping × List Cell :=
  match cells with
  | c :: rest =>
    match chomping? c.char with
    | some chomping => (some chomping, rest)
    | none => (none, cells)
  | [] => (none, [])

/-- The header after the mark: chomping and indentation in either order, then the end of the line.
-/
def blockHeader? (cells : List Cell) : Option (Chomping × Option Nat × List Cell) := do
  let (before, rest) := takeChomping cells
  let (indent, rest) ← indentDigit? rest
  let (after, rest) := if before.isNone && indent.isSome then takeChomping rest else (none, rest)
  return ((before.or after).getD .clip, indent, ← skipToLineEnd? rest)

/-! ## Indentation -/

/-- The leading line breaks and the deepest column reached before the first content; without a known
indentation every space belongs to it. A tab in place of indentation is an error. -/
def leadingBreaks? (indent : Option Nat) (deepest : Nat) :
    List Cell → Option (Nat × List Char × List Cell)
  | [] => some (deepest, [], [])
  | c :: rest =>
    let deepest := max deepest c.column
    let indenting := match indent with
      | some n => decide (c.column < n)
      | none => true
    if indenting && c.char == ' ' then leadingBreaks? indent deepest rest
    else if indenting && c.char == '\t' then none
    else if isBreak c.char then
      (leadingBreaks? indent deepest rest).map fun (n, breaks, r) => (n, c.char :: breaks, r)
    else some (deepest, [], c :: rest)

/-! ## Content -/

/-- Where a scanner of block content is: within a line, or after the break that ended one. -/
inductive BlockState where
  | inLine (startsBlank : Bool)
  | afterLine (first : Option Char) (others : List Char) (startsBlank : Bool)

/-- The line breaks between two lines. Folding makes a single break a space, unless one of the two
lines starts with a blank. -/
def joinLines (folded : Bool) (first : Option Char) (others : List Char) (blank : Bool) :
    List Char :=
  if folded && first == some '\n' && !blank then if others.isEmpty then [' '] else others
  else first.toList ++ others

/-- The line breaks kept at the end. -/
def chomp (chomping : Chomping) (first : Option Char) (others : List Char) : List Char :=
  match chomping with
  | .strip => []
  | .clip => first.toList
  | .keep => first.toList ++ others

/-- The text of the lines indented by `indent` columns, and the cells after them. -/
def blockFrom (folded : Bool) (chomping : Chomping) (indent : Nat) :
    BlockState → List Cell → Option (List Char × List Cell)
  | .inLine _, [] => some ([], [])
  | .inLine startsBlank, c :: rest =>
    if isBreak c.char then
      blockFrom folded chomping indent (.afterLine (some c.char) [] startsBlank) rest
    else
      (blockFrom folded chomping indent (.inLine startsBlank) rest).map fun (t, r) =>
        (c.char :: t, r)
  | .afterLine first others _, [] => some (chomp chomping first others, [])
  | .afterLine first others startsBlank, c :: rest =>
    if c.column < indent && c.char == ' ' then
      blockFrom folded chomping indent (.afterLine first others startsBlank) rest
    else if c.column < indent && c.char == '\t' then none
    else if isBreak c.char then
      blockFrom folded chomping indent (.afterLine first (others ++ [c.char]) startsBlank) rest
    else if c.column == indent then
      let blank := isSpaceOrTab c.char
      (blockFrom folded chomping indent (.inLine blank) rest).map fun (t, r) =>
        (joinLines folded first others (startsBlank || blank) ++ c.char :: t, r)
    else some (chomp chomping first others, c :: rest)

/-- The text of a block scalar after its mark, inside a block indented by `parent` columns; at the
top there is no such block. -/
def blockScalar? (folded : Bool) (parent : Option Nat) (cells : List Cell) :
    Option (List Char × List Cell) := do
  let (chomping, increment, rest) ← blockHeader? cells
  let known := increment.map (· + parent.getD 0)
  let (deepest, breaks, rest) ← leadingBreaks? known 0 rest
  let least := match parent with
    | some n => n + 1
    | none => 0
  let indent := known.getD (max deepest (max least 1))
  blockFrom folded chomping indent (.afterLine none breaks false) rest

end PrintSettings.Yaml
