/-! # Characters of a document with their places

Before a document is read its line breaks are made alike (`plainBreaks`) and every character gets
its line and column (`cells?`). The scanners are then recursions over cells and need no state for
the place they are at. -/

namespace PrintSettings.Yaml

/-! ## Classes -/

/-- Characters that a document may contain. -/
def isAllowed (c : Char) : Bool :=
  let n := c.toNat
  n == 0x09 || n == 0x0a || n == 0x0d || (0x20 ≤ n && n ≤ 0x7e) || n == 0x85 ||
    (0xa0 ≤ n && n ≤ 0xd7ff) || (0xe000 ≤ n && n ≤ 0xfffd) || 0x10000 ≤ n

def byteOrderMark : Char := '\ufeff'

def isSpaceOrTab (c : Char) : Bool := c == ' ' || c == '\t'

/-- The line breaks that remain once they are made alike. -/
def isBreak (c : Char) : Bool := c == '\n' || c == '\u2028' || c == '\u2029'

def isGap (c : Char) : Bool := isSpaceOrTab c || isBreak c

/-- Letters, digits, `_` and `-`, of which names are made. -/
def isWordChar (c : Char) : Bool := c.isAlphanum || c == '_' || c == '-'

/-- Whether a character is one of those in a text. -/
def oneOf (marks : String) (c : Char) : Bool := marks.toList.contains c

/-! ## Places -/

/-- A character and its place, lines and columns counted from zero. -/
structure Cell where
  char : Char
  line : Nat
  column : Nat
  /-- How many octets of UTF-8 the line has before the character. -/
  octets : Nat
deriving DecidableEq, Repr

/-- Carriage returns, with or without a line feed, and next-line characters become line feeds. -/
def plainBreaks : List Char → List Char
  | [] => []
  | '\r' :: '\n' :: rest => '\n' :: plainBreaks rest
  | c :: rest => (if c == '\r' || c == '\u0085' then '\n' else c) :: plainBreaks rest

/-- The characters of a text from a place on. -/
def cellsFrom (line column octets : Nat) : List Char → List Cell
  | [] => []
  | c :: rest =>
    ⟨c, line, column, octets⟩ :: if isBreak c then cellsFrom (line + 1) 0 0 rest
      else cellsFrom line (column + 1) (octets + c.utf8Size) rest

/-- The cells of a document; there are none if it contains a character that is not allowed. A byte
order mark is a character like the others and takes a column. -/
def cells? (text : List Char) : Option (List Cell) :=
  if text.all isAllowed then some (cellsFrom 0 0 0 (plainBreaks text)) else none

/-! ## Looking ahead -/

/-- Whether the next character is of a class. -/
def nextIs (p : Char → Bool) : List Cell → Bool
  | c :: _ => p c.char
  | [] => false

/-- Whether a space, a tab, a line break or the end comes next. -/
def atGap : List Cell → Bool
  | c :: _ => isGap c.char
  | [] => true

/-- Whether a line break or the end comes next. -/
def atLineEnd : List Cell → Bool
  | c :: _ => isBreak c.char
  | [] => true

/-- Whether a line starts here with the given mark, three characters and then a gap. -/
def atMark (mark : Char) : List Cell → Bool
  | a :: b :: c :: rest =>
    a.column == 0 && a.char == mark && b.char == mark && c.char == mark && atGap rest
  | _ => false

/-- Whether a line starts here that begins or ends a document. -/
def atDocumentMark (cells : List Cell) : Bool := atMark '-' cells || atMark '.' cells

/-! ## Taking characters -/

/-- The characters at the start that are of a class, and the cells after them. -/
def takeChars (p : Char → Bool) (cells : List Cell) : List Char × List Cell :=
  ((cells.takeWhile (p ·.char)).map (·.char), cells.dropWhile (p ·.char))

/-- The cells after spaces and tabs. -/
def skipBlanks (cells : List Cell) : List Cell := cells.dropWhile (isSpaceOrTab ·.char)

/-- The cells of the next line, if blanks and a comment are all that is left of this one. -/
def skipToLineEnd? (cells : List Cell) : Option (List Cell) :=
  let rest := skipBlanks cells
  let rest := if nextIs (· == '#') rest then rest.dropWhile (!isBreak ·.char) else rest
  if atLineEnd rest then some (rest.drop 1) else none

end PrintSettings.Yaml
