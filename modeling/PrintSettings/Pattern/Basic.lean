/-! # Patterns

A pattern is a regular expression, with which a log filter compares the value of a field. This is
the tree of a pattern and how deep it nests; what needs a pair of braces has no place in it, for a
brace ends the field of a filter. -/

namespace PrintSettings

namespace Pattern

/-- What can be switched on and off inside a pattern. -/
inductive Switch where
  | caseless
  | multiLine
  | dotAll
  | swapGreed
  | unicode
  | lineEnds
  | verbose
deriving DecidableEq, Repr

/-- The switch with a letter. -/
def Switch.ofChar? : Char → Option Switch
  | 'i' => some caseless
  | 'm' => some multiLine
  | 's' => some dotAll
  | 'U' => some swapGreed
  | 'u' => some unicode
  | 'R' => some lineEnds
  | 'x' => some verbose
  | _ => none

/-- Switches and whether they are on. -/
abbrev Settings := List (Switch × Bool)

/-- A single character, and whether two hexadecimal digits stand for it. -/
structure Literal where
  char : Char
  isOctet : Bool
deriving DecidableEq, Repr

/-- What stands in the brackets of a class. -/
inductive Members where
  | empty
  | literal (l : Literal)
  | range (first last : Literal)
  /-- A class with a name, such as `[:alpha:]`. -/
  | named (negated : Bool)
  /-- Digits, blanks or word characters by a letter, such as `\d`. -/
  | shorthand (negated : Bool)
  | bracketed (negated : Bool) (members : Members)
  | union (items : List Members)
  /-- An intersection or difference. -/
  | combined (left right : Members)

end Pattern

open Pattern in
inductive Pattern where
  | empty
  | switches (settings : Settings)
  | literal (l : Literal)
  | dot
  /-- The start or end of a line or text. -/
  | edge
  /-- The start or end of a word, or a place that is neither. -/
  | wordEdge
  | shorthand (negated : Bool)
  | bracketed (negated : Bool) (members : Members)
  | repeated (p : Pattern)
  | group (settings : Settings) (p : Pattern)
  | alternation (items : List Pattern)
  | sequence (items : List Pattern)

namespace Pattern

/-! ## Nesting -/

namespace Members

/-- The members that are all of some. -/
def ofItems : List Members → Members
  | [] => empty
  | [x] => x
  | items => union items

mutual

/-- How deep members nest. -/
def depth : Members → Nat
  | bracketed _ x => x.depth + 1
  | union items => depthOfAll items + 1
  | combined x y => max x.depth y.depth + 1
  | _ => 0

def depthOfAll : List Members → Nat
  | [] => 0
  | x :: rest => max x.depth (depthOfAll rest)

end

end Members

/-- The pattern of some after one another. -/
def ofItems : List Pattern → Pattern
  | [] => empty
  | [p] => p
  | items => sequence items

mutual

/-- How deep a pattern nests. -/
def depth : Pattern → Nat
  | bracketed _ x => x.depth + 1
  | repeated p | group _ p => p.depth + 1
  | alternation items | sequence items => depthOfAll items + 1
  | _ => 0

def depthOfAll : List Pattern → Nat
  | [] => 0
  | p :: rest => max p.depth (depthOfAll rest)

end

end Pattern

end PrintSettings
