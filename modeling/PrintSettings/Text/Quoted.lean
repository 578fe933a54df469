/-! # Quoted texts

Characters that would end or split a double-quoted argument are written with a backslash; reading
takes the backslashes away again (`unescapeChars_escapeChars`). Of an unknown escape the character itself is
kept, and a backslash at the very end stands for itself. -/

namespace PrintSettings.Text

/-! ## Escaping -/

/-- A character as it is written between quotes. -/
def escapeChar (c : Char) : List Char :=
  match c with
  | '\x07' => ['\\', 'a']
  | '\x08' => ['\\', 'b']
  | '\x0c' => ['\\', 'f']
  | '\n' => ['\\', 'n']
  | '\r' => ['\\', 'r']
  | '\t' => ['\\', 't']
  | '\x0b' => ['\\', 'v']
  | c => if c == '\\' || c == '\x27' || c == '"' || c == ' ' then ['\\', c] else [c]

def escapeChars (text : List Char) : List Char := text.flatMap escapeChar

/-- The text as it is written between quotes. -/
def escape (text : String) : String := .ofList (escapeChars text.toList)

/-! ## Reading back -/

/-- The character meant by one after a backslash. -/
def unescapeChar (c : Char) : Char :=
  match c with
  | 'a' => '\x07'
  | 'b' => '\x08'
  | 'f' => '\x0c'
  | 'n' => '\n'
  | 'r' => '\r'
  | 't' => '\t'
  | 'v' => '\x0b'
  | c => c

/-- The text that is written as the given characters between quotes. -/
def unescapeChars : List Char → List Char
  | [] => []
  | '\\' :: c :: rest => unescapeChar c :: unescapeChars rest
  | c :: rest => c :: unescapeChars rest

def unescape (text : String) : String := .ofList (unescapeChars text.toList)

theorem unescapeChars_cons {c : Char} (h : c ≠ '\\') (rest : List Char) :
    unescapeChars (c :: rest) = c :: unescapeChars rest := by
  cases rest <;> simp [unescapeChars, h]

theorem unescapeChars_escapeChar_append (c : Char) (rest : List Char) :
    unescapeChars (escapeChar c ++ rest) = c :: unescapeChars rest := by
  unfold escapeChar
  split <;> try rfl
  next =>
    by_cases h : c = '\\' ∨ c = '\x27' ∨ c = '"' ∨ c = ' '
    · rcases h with rfl | rfl | rfl | rfl <;> rfl
    · simp only [not_or] at h
      simp [h, unescapeChars_cons]

theorem unescapeChars_escapeChars (text : List Char) : unescapeChars (escapeChars text) = text := by
  induction text with
  | nil => rfl
  | cons c text ih =>
    rw [escapeChars, List.flatMap_cons, unescapeChars_escapeChar_append]
    exact congrArg (c :: ·) ih

end PrintSettings.Text
