import PrintSettings.Yaml.Block
import PrintSettings.Yaml.Quoted
import PrintSettings.Yaml.Tag

/-! # Tokens of a document

The structure of a document is in its indentation and its marks. The tokens make it explicit: where
a line is indented more, a block starts, and where it is indented less, blocks end. A scalar, a flow
collection, an alias or the properties of a node may turn out to be the key of a mapping when a
colon follows on the same line; the scanner remembers where it stood (`KeyPlace`) and puts the
tokens that start the key, and if need be the mapping, in front of it. -/

namespace PrintSettings.Yaml

inductive Style where
  | plain
  | singleQuoted
  | doubleQuoted
  | literal
  | folded
deriving DecidableEq, Repr

inductive Token where
  | directive (d : Directive)
  | documentStart
  | documentEnd
  | sequenceStart
  | mappingStart
  | blockEnd
  | flowSequenceStart
  | flowSequenceEnd
  | flowMappingStart
  | flowMappingEnd
  | entry
  | flowEntry
  | key
  | value
  | reference (name : String)
  | anchor (name : String)
  | tag (t : WrittenTag)
  | scalar (style : Style) (text : String)
deriving DecidableEq, Repr

/-! ## State of the scanner -/

/-- A place where a key may have started. -/
structure KeyPlace where
  /-- How many tokens stood before it. -/
  tokens : Nat
  /-- Whether nothing but a key can stand here. -/
  required : Bool
  line : Nat
  column : Nat
  /-- How many octets its line has before it. -/
  octets : Nat
deriving DecidableEq, Repr

structure Scanner where
  /-- Columns of the open blocks, the innermost first. -/
  blocks : List Nat
  /-- Places of possible keys: of the innermost flow collection first, of the block context last. -/
  flow : List (Option KeyPlace)
  /-- The possible key at the present level. -/
  place : Option KeyPlace
  /-- Whether a key may start here. -/
  keyAllowed : Bool
  /-- Number of tokens so far. -/
  count : Nat
  /-- The tokens so far, the last first. -/
  tokens : List Token

namespace Scanner

def start : Scanner := ⟨[], [], none, true, 0, []⟩

def inFlow (s : Scanner) : Bool := !s.flow.isEmpty

/-- Column of the innermost block. -/
def block (s : Scanner) : Option Nat := s.blocks.head?

def emit (s : Scanner) (t : Token) : Scanner :=
  { s with count := s.count + 1, tokens := t :: s.tokens }

/-- Puts a token in before the last ones, so that `before` tokens precede it. -/
def emitAt (s : Scanner) (before : Nat) (t : Token) : Scanner :=
  let after := s.count - before
  { s with
    count := s.count + 1
    tokens := s.tokens.take after ++ t :: s.tokens.drop after }

def allowKey (s : Scanner) (allowed : Bool) : Scanner := { s with keyAllowed := allowed }

/-! ## Keys -/

/-- Gives up the possible key at the present level, which must not be a required one. -/
def dropKey? (s : Scanner) : Option Scanner :=
  match s.place with
  | some p => if p.required then none else some { s with place := none }
  | none => some s

/-- Whether a place is too far back for a key: on another line, or more than 1024 octets away. -/
def isStale (c : Cell) (p : KeyPlace) : Bool := p.line < c.line || p.octets + 1024 < c.octets

def dropStale? (c : Cell) : Option KeyPlace → Option (Option KeyPlace)
  | some p => if isStale c p then if p.required then none else some none else some (some p)
  | none => some none

/-- Gives up all places that are too far back. -/
def dropStaleKeys? (s : Scanner) (c : Cell) : Option Scanner := do
  return { s with place := ← dropStale? c s.place, flow := ← s.flow.mapM (dropStale? c) }

/-- Remembers a place where a key may start. -/
def markKey? (s : Scanner) (c : Cell) : Option Scanner :=
  if s.keyAllowed then do
    let s ← s.dropKey?
    let required := !s.inFlow && s.block == some c.column
    return { s with place := some ⟨s.count, required, c.line, c.column, c.octets⟩ }
  else some s

/-! ## Blocks -/

/-- Opens a block at a column that lies deeper than the innermost one; its token goes where `emit`
puts it. -/
def openBlock (s : Scanner) (column : Nat) (put : Scanner → Scanner) : Scanner :=
  let deeper := match s.block with
    | some b => decide (b < column)
    | none => true
  if !s.inFlow && deeper then put { s with blocks := column :: s.blocks } else s

/-- Closes blocks until `keep` holds of the innermost one. -/
def closeBlocks (keep : Nat → Bool) (s : Scanner) : Scanner :=
  if s.inFlow then s
  else
    let closed := s.blocks.takeWhile (!keep ·)
    let s := closed.foldl (fun s _ => s.emit .blockEnd) s
    { s with blocks := s.blocks.dropWhile (!keep ·) }

/-! ## Steps -/

/-- A directive or a document mark closes all blocks. -/
def breakOff? (s : Scanner) (t : Token) : Option Scanner := do
  let s ← (s.closeBlocks fun _ => false).dropKey?
  return (s.allowKey false).emit t

def openFlow? (s : Scanner) (c : Cell) (t : Token) : Option Scanner := do
  let s ← s.markKey? c
  return ({ s with flow := s.place :: s.flow, place := none }.allowKey true).emit t

def closeFlow? (s : Scanner) (t : Token) : Option Scanner := do
  let s ← s.dropKey?
  let s := match s.flow with
    | place :: flow => { s with place := place, flow := flow }
    | [] => s
  return (s.allowKey false).emit t

def flowEntry? (s : Scanner) : Option Scanner := do
  return ((← s.dropKey?).allowKey true).emit .flowEntry

/-- A dash. Inside brackets it is passed on, to be refused later. -/
def blockEntry? (s : Scanner) (c : Cell) : Option Scanner := do
  if !s.inFlow && !s.keyAllowed then none
  else
    let s := s.openBlock c.column (·.emit .sequenceStart)
    return ((← s.dropKey?).allowKey true).emit .entry

/-- A question mark. -/
def explicitKey? (s : Scanner) (c : Cell) : Option Scanner := do
  if !s.inFlow && !s.keyAllowed then none
  else
    let s := s.openBlock c.column (·.emit .mappingStart)
    return ((← s.dropKey?).allowKey !s.inFlow).emit .key

/-- A colon: what stands at the remembered place becomes a key; without one the key is empty or was
given after a question mark. -/
def colon? (s : Scanner) (c : Cell) : Option Scanner :=
  match s.place with
  | some p =>
    let s := s.emitAt p.tokens .key
    let s := s.openBlock p.column (·.emitAt p.tokens .mappingStart)
    some (({ s with place := none }.allowKey false).emit .value)
  | none =>
    if !s.inFlow && !s.keyAllowed then none
    else
      let s := s.openBlock c.column (·.emit .mappingStart)
      some ((s.allowKey !s.inFlow).emit .value)

/-- A name after `&` or `*`. -/
def scanName? (cells : List Cell) : Option (String × List Cell) :=
  let (name, rest) := takeChars isWordChar cells
  if name.isEmpty || !(atGap rest || nextIs (oneOf "?:,]\x7d%@`") rest) then none
  else some (.ofList name, rest)

/-- Whether a plain scalar can start with a character. -/
def startsPlain (inFlow : Bool) (c : Char) (rest : List Cell) : Bool :=
  !(isGap c || oneOf "-?:,[]\x7b\x7d#&*!|>'\"%@`" c) ||
    (c == '-' && !nextIs isSpaceOrTab rest) ||
    (!inFlow && (c == '?' || c == ':') && !atGap rest)

/-- A token that may start a key. -/
def node? (s : Scanner) (c : Cell) (t : Token) : Option Scanner := do
  return ((← s.markKey? c).allowKey false).emit t

/-- The scalar, alias, anchor or tag that starts with a cell. -/
def content? (s : Scanner) (c : Cell) (rest : List Cell) : Option (Scanner × List Cell) :=
  if c.char == '*' then do
    let (name, after) ← scanName? rest
    return (← s.node? c (.reference name), after)
  else if c.char == '&' then do
    let (name, after) ← scanName? rest
    return (← s.node? c (.anchor name), after)
  else if c.char == '!' then do
    let (tag, after) ← scanTag? s.inFlow rest
    return (← s.node? c (.tag tag), after)
  else if (c.char == '|' || c.char == '>') && !s.inFlow then do
    let folded := c.char == '>'
    let (text, after) ← blockScalar? folded s.block rest
    let s ← s.dropKey?
    return ((s.allowKey true).emit (.scalar (if folded then .folded else .literal) (.ofList text)),
      after)
  else if c.char == '\x27' then do
    let (text, after) ← singleQuotedFrom .none rest
    return (← s.node? c (.scalar .singleQuoted (.ofList text)), after)
  else if c.char == '"' then do
    let (text, after) ← doubleQuotedFrom (.within .none) rest
    return (← s.node? c (.scalar .doubleQuoted (.ofList text)), after)
  else if startsPlain s.inFlow c.char rest then do
    let indent := match s.block with
      | some b => b + 1
      | none => 0
    let result ← plainFrom s.inFlow indent .none (c :: rest)
    let s ← s.node? c (.scalar .plain (.ofList result.text))
    return (s.allowKey result.broken, result.rest)
  else none

/-- The cells from the next token on, past gaps, comments and byte order marks that start a line, and
whether a key may start there. -/
def skipToToken (inFlow : Bool) : (keyAllowed inComment : Bool) → List Cell → Bool × List Cell
  | keyAllowed, _, [] => (keyAllowed, [])
  | keyAllowed, inComment, c :: rest =>
    if isBreak c.char then skipToToken inFlow (keyAllowed || !inFlow) false rest
    else if inComment then skipToToken inFlow keyAllowed true rest
    else if c.char == ' ' || (c.char == '\t' && (inFlow || !keyAllowed)) ||
        (c.char == byteOrderMark && c.column == 0) then
      skipToToken inFlow keyAllowed false rest
    else if c.char == '#' then skipToToken inFlow keyAllowed true rest
    else (keyAllowed, c :: rest)

/-- The token that starts with a cell, with the tokens that it entails. -/
def step? (s : Scanner) (c : Cell) (rest : List Cell) : Option (Scanner × List Cell) := do
  let s ← s.dropStaleKeys? c
  let s := s.closeBlocks (· ≤ c.column)
  if c.column == 0 && c.char == '%' then
    let (directive, after) ← scanDirective? rest
    return (← s.breakOff? (.directive directive), after)
  else if atMark '-' (c :: rest) then return (← s.breakOff? .documentStart, rest.drop 2)
  else if atMark '.' (c :: rest) then return (← s.breakOff? .documentEnd, rest.drop 2)
  else if c.char == '[' then return (← s.openFlow? c .flowSequenceStart, rest)
  else if c.char == '\x7b' then return (← s.openFlow? c .flowMappingStart, rest)
  else if c.char == ']' then return (← s.closeFlow? .flowSequenceEnd, rest)
  else if c.char == '\x7d' then return (← s.closeFlow? .flowMappingEnd, rest)
  else if c.char == ',' then return (← s.flowEntry?, rest)
  else if c.char == '-' && atGap rest then return (← s.blockEntry? c, rest)
  else if c.char == '?' && (s.inFlow || atGap rest) then return (← s.explicitKey? c, rest)
  else if c.char == ':' && (s.inFlow || atGap rest) then return (← s.colon? c, rest)
  else s.content? c rest

/-- The end of the text closes all blocks. -/
def finish? (s : Scanner) : Option (List Token) := do
  let s ← (s.closeBlocks fun _ => false).dropKey?
  return s.tokens.reverse

/-- The tokens of the remaining cells; every step takes at least one cell, so `fuel` need not exceed
their number. -/
def run? : (fuel : Nat) → Scanner → List Cell → Option (List Token)
  | 0, s, _ => s.finish?
  | fuel + 1, s, cells =>
    match skipToToken s.inFlow s.keyAllowed false cells with
    | (_, []) => s.finish?
    | (keyAllowed, c :: rest) => do
      let (s, after) ← (s.allowKey keyAllowed).step? c rest
      run? fuel s after

end Scanner

/-- The tokens of a document text. -/
def tokens? (text : List Char) : Option (List Token) := do
  let cells ← cells? text
  Scanner.start.run? cells.length cells

end PrintSettings.Yaml
