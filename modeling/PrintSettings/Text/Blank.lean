/-! # Blank characters

Two sets of blanks: the six that separate numbers and matrix tokens (`isSpace`), and Unicode's
White_Space (`isBlank`), which surrounds setting names and has the six among others. -/

namespace PrintSettings.Text

/-- Space, tab, line feed, vertical tab, form feed, carriage return. -/
def isSpace (c : Char) : Bool :=
  c == ' ' || c == '\t' || c == '\n' || c == '\x0b' || c == '\x0c' || c == '\r'

/-- The characters with the property White_Space. -/
def isBlank (c : Char) : Bool :=
  let n := c.toNat
  (0x09 ≤ n && n ≤ 0x0d) || n == 0x20 || n == 0x85 || n == 0xa0 || n == 0x1680 ||
    (0x2000 ≤ n && n ≤ 0x200a) || n == 0x2028 || n == 0x2029 || n == 0x202f || n == 0x205f ||
    n == 0x3000

def skipSpace (text : List Char) : List Char := text.dropWhile isSpace

/-- The text without the characters of a class at either end. -/
def strip (p : Char → Bool) (text : List Char) : List Char :=
  ((text.dropWhile p).reverse.dropWhile p).reverse

theorem mem_of_mem_strip {p : Char → Bool} {text : List Char} {c : Char} (h : c ∈ strip p text) :
    c ∈ text := by
  rw [strip, List.mem_reverse] at h
  have h := (List.dropWhile_sublist _).subset h
  rw [List.mem_reverse] at h
  exact (List.dropWhile_sublist _).subset h

/-- The text without White_Space at either end. -/
def trim (text : String) : String := .ofList (strip isBlank text.toList)

end PrintSettings.Text
