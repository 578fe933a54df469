import PrintSettings.Pattern.Basic

/-! # Modes of patterns

A pattern is matched by an automaton over octets that must not split a character, and without
tables of Unicode. What it may contain therefore depends on two switches: with Unicode on, which it
is at the start, there are no edges of words, no shorthands, and no letters in any case; with
Unicode off, nothing may stand for an octet outside ASCII. -/

namespace PrintSettings.Pattern

/-- The switches that matter at a place. -/
structure Mode where
  caseless : Bool
  unicode : Bool
deriving DecidableEq, Repr

def Mode.start : Mode := ⟨false, true⟩

/-- The mode after switches. -/
def Mode.apply (m : Mode) (settings : Settings) : Mode where
  caseless := (settings.lookup .caseless).getD m.caseless
  unicode := (settings.lookup .unicode).getD m.unicode

namespace Literal

def isASCII (l : Literal) : Bool := l.char.toNat < 0x80

/-- Whether a character may stand in a pattern: without Unicode it must not be an octet that is no
character. -/
def isAllowed (m : Mode) (l : Literal) : Bool :=
  if m.unicode then !m.caseless else !l.isOctet || l.isASCII

/-- Whether a character may stand in a class, which without Unicode is one of octets. -/
def isMember (m : Mode) (l : Literal) : Bool := if m.unicode then !m.caseless else l.isASCII

end Literal

namespace Members

mutual

/-- Whether members may stand in a class. -/
def isAllowed (m : Mode) : Members → Bool
  | empty => true
  | literal l => l.isMember m
  | range first last => first.isMember m && last.isMember m
  | named negated => if m.unicode then !m.caseless else !negated
  | shorthand negated => !m.unicode && !negated
  | bracketed negated x => x.isAllowed m && (m.unicode || !negated)
  | union items => areAllowed m items
  | combined x y => x.isAllowed m && y.isAllowed m

def areAllowed (m : Mode) : List Members → Bool
  | [] => true
  | x :: rest => x.isAllowed m && areAllowed m rest

end

end Members

/-- The mode after a part that does not change it, if the part is allowed. -/
def keepIf (allowed : Bool) (m : Mode) : Option Mode := if allowed then some m else none

mutual

/-- The mode after a pattern, if all of it is allowed. Switches last to the end of their group. -/
def modeAfter? (m : Mode) : Pattern → Option Mode
  | empty | edge => some m
  | switches settings => some (m.apply settings)
  | literal l => keepIf (l.isAllowed m) m
  | dot => keepIf m.unicode m
  | wordEdge => keepIf (!m.unicode) m
  | shorthand negated => keepIf (!m.unicode && !negated) m
  | bracketed negated x => keepIf (x.isAllowed m && (m.unicode || !negated)) m
  | repeated p => p.modeAfter? m
  | group settings p => (p.modeAfter? (m.apply settings)).map fun _ => m
  | alternation items | sequence items => modeAfterAll? m items

def modeAfterAll? (m : Mode) : List Pattern → Option Mode
  | [] => some m
  | p :: rest => (p.modeAfter? m).bind fun m => modeAfterAll? m rest

end

/-- How deep a pattern may nest. -/
def maxDepth : Nat := 250

/-- Whether a pattern can be matched. -/
def isUsable (p : Pattern) : Bool := p.depth ≤ maxDepth && (p.modeAfter? .start).isSome

end PrintSettings.Pattern
