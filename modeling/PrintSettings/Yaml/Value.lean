import PrintSettings.Numeric.Binary64

/-! # Values of documents

What a document says once tags and aliases are resolved. Two values are the same (`Value.same`) if
they cannot both be keys of one mapping: an undefined number is the same as itself, the two zeros
are the same, an integer is never the same as a float, and mappings are compared without regard to
the order of their entries. -/

namespace PrintSettings.Yaml

open PrintSettings.Numeric

/-- A number of a document; integers have 64 bits, with or without a sign. -/
inductive Number where
  | integer (n : Int)
  | float (x : Binary64)
deriving DecidableEq

namespace Number

def same : Number → Number → Bool
  | integer m, integer n => m == n
  | float x, float y => (x.isNan && y.isNan) || x.numericEq y
  | _, _ => false

end Number

inductive Value where
  | null
  | bool (b : Bool)
  | number (n : Number)
  | string (s : String)
  | sequence (items : List Value)
  | mapping (entries : List (Value × Value))
  /-- A value with a tag of its own, which is kept without its first exclamation mark. -/
  | tagged (tag : String) (value : Value)

namespace Value

instance : Inhabited Value := ⟨null⟩

/-! ## Sameness -/

mutual

def same : Value → Value → Bool
  | null, null => true
  | bool a, bool b => a == b
  | number m, number n => m.same n
  | string s, string t => s == t
  | sequence xs, sequence ys => sameItems xs ys
  | mapping xs, mapping ys => xs.length == ys.length && entriesIn xs ys
  | tagged s x, tagged t y => s == t && same x y
  | _, _ => false

def sameItems : List Value → List Value → Bool
  | [], [] => true
  | x :: xs, y :: ys => same x y && sameItems xs ys
  | _, _ => false

/-- Whether every entry of a mapping is in another one. -/
def entriesIn : List (Value × Value) → List (Value × Value) → Bool
  | [], _ => true
  | (k, x) :: rest, ys => ys.any (fun e => same k e.1 && same x e.2) && entriesIn rest ys

end

/-! ## Views -/

/-- The value without its tags. -/
def untagged : Value → Value
  | tagged _ x => untagged x
  | x => x

/-- The text of a string. -/
def text? (x : Value) : Option String :=
  match x.untagged with
  | string s => some s
  | _ => none

/-- The entries of a mapping, and none of anything else. -/
def entries (x : Value) : List (Value × Value) :=
  match x.untagged with
  | mapping l => l
  | _ => []

/-- The value that a mapping has under a string without a tag. -/
def get? (x : Value) (key : String) : Option Value :=
  (x.entries.find? fun e => e.1.same (string key)).map (·.2)

end Value

end PrintSettings.Yaml
