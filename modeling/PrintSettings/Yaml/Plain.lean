import PrintSettings.Yaml.Cell

/-! # Scalars over several lines

Plain and quoted scalars may run over lines: the gap between two runs of characters is folded. A gap
within a line stays as it is; one line break becomes a space; further breaks stay and replace the
first (`Gap.text`). -/

namespace PrintSettings.Yaml

/-! ## Gaps -/

/-- What stands between two runs of characters. -/
structure Gap where
  /-- Spaces and tabs before any line break. -/
  blanks : List Char
  /-- Whether a line break was passed. -/
  broken : Bool
  /-- The first line break, unless it was escaped. -/
  first : Option Char
  /-- The other line breaks. -/
  others : List Char

namespace Gap

def none : Gap := ⟨[], false, Option.none, []⟩

/-- The gap that an escaped line break opens. -/
def escaped : Gap := ⟨[], true, Option.none, []⟩

def pushBlank (g : Gap) (c : Char) : Gap :=
  if g.broken then g else { g with blanks := g.blanks ++ [c] }

def pushBreak (g : Gap) (c : Char) : Gap :=
  if g.broken then { g with others := g.others ++ [c] } else ⟨[], true, some c, []⟩

/-- Whether nothing at all stands between the runs. -/
def isNone (g : Gap) : Bool := g.blanks.isEmpty && !g.broken

/-- What a gap means in the text of the scalar. -/
def text (g : Gap) : List Char :=
  if !g.broken then g.blanks
  else match g.first with
    | some '\n' => if g.others.isEmpty then [' '] else g.others
    | some c => c :: g.others
    | Option.none => g.others

end Gap

/-! ## Plain scalars -/

/-- Marks that end a plain scalar inside brackets. -/
def isFlowMark : Char → Bool := oneOf ",[]\x7b\x7d"

/-- What was read of a scalar: its text, whether it ends in a line break, the cells after it. -/
structure PlainResult where
  text : List Char
  broken : Bool
  rest : List Cell

/-- The rest of a plain scalar after a gap. It ends at a colon before a gap, inside brackets at a
flow mark, and after a gap at a comment, a document mark or a line that is indented less. Inside
brackets a colon before a flow mark is an error, as is a tab where indentation is due. -/
def plainFrom (inFlow : Bool) (indent : Nat) (gap : Gap) : List Cell → Option PlainResult
  | [] => some ⟨[], gap.broken, []⟩
  | c :: rest =>
    if isSpaceOrTab c.char then
      if gap.broken && c.column < indent && c.char == '\t' then none
      else plainFrom inFlow indent (gap.pushBlank c.char) rest
    else if isBreak c.char then plainFrom inFlow indent (gap.pushBreak c.char) rest
    else
      let resumes := !(!gap.isNone && (atDocumentMark (c :: rest) || c.char == '#' ||
        (!inFlow && c.column < indent)))
      let colonEnds := c.char == ':' && atGap rest
      let colonFails := inFlow && c.char == ':' && nextIs (oneOf ",?[]\x7b\x7d") rest
      if !resumes then some ⟨[], gap.broken, c :: rest⟩
      else if colonFails then none
      else if colonEnds || (inFlow && isFlowMark c.char) then some ⟨[], gap.broken, c :: rest⟩
      else do
        let tail ← plainFrom inFlow indent .none rest
        return { tail with text := gap.text ++ c.char :: tail.text }

end PrintSettings.Yaml
