import PrintSettings.Error
import PrintSettings.KeyMap
import PrintSettings.Value.Kind

/-! # Nested containers

A container holds the settings of one scope and stands inside the containers of wider scopes. A name
is looked up from the innermost scope outwards. An entry may be limited to an extruder; only
`getLimited` follows the limit, once, into the scope of that extruder. -/

namespace PrintSettings

open PrintSettings.Value

/-- The text of a setting, and the extruder that its value is taken from if it is limited to one. -/
structure Setting where
  value : String
  limit : Option Nat
deriving DecidableEq, Repr

/-- The entries of a scope, and those of the scopes around it from the nearest to the widest. -/
structure Container where
  own : KeyMap Setting
  around : List (KeyMap Setting)
deriving DecidableEq

namespace Container

/-! ## Building -/

/-- A container with no entries and nothing around it. -/
def root : Container := ⟨∅, []⟩

/-- An empty container inside another one. -/
def inside (parent : Container) : Container := ⟨∅, parent.own :: parent.around⟩

/-- Puts an entry into the innermost scope, instead of one with the same name. -/
def addLimited (c : Container) (key value : String) (limit : Option Nat) : Container :=
  { c with own := c.own.insert key ⟨value, limit⟩ }

def add (c : Container) (key value : String) : Container := c.addLimited key value none

def hasParent (c : Container) : Bool := !c.around.isEmpty

/-! ## Lookup -/

/-- The nearest entry for a name. -/
def find? (c : Container) (key : String) : Option Setting :=
  (c.own :: c.around).findSome? (·.get? key)

/-- The text of the nearest entry. -/
def resolve (c : Container) (key : String) : Outcome String :=
  match c.find? key with
  | some setting => pure setting.value
  | none => Outcome.missing key

/-- The value of the nearest entry, whatever its limit. -/
def get (c : Container) (kind : Kind) (key : String) : Outcome kind.Carrier := do
  let text ← c.resolve key
  Outcome.ofLogged (kind.read key text)

/-- A natural number as a signed word of 64 bits. -/
def signedWord (n : Nat) : Int := Int.bmod n 0x10000000000000000

/-- The extruder with a number. -/
def extruder (extruders : List Container) (index : Nat) : Except SettingError Container :=
  match extruders[index]? with
  | some container => .ok container
  | none => .error (.extruderOutOfRange (signedWord index) extruders.length)

/-- The value of the nearest entry; a limited one is looked up again, plainly, in its extruder. -/
def getLimited (c : Container) (kind : Kind) (key : String) (extruders : List Container) :
    Outcome kind.Carrier :=
  match c.find? key with
  | none => Outcome.missing key
  | some ⟨value, none⟩ => Outcome.ofLogged (kind.read key value)
  | some ⟨_, some index⟩ => do
    let target ← Outcome.ofExcept (extruder extruders index)
    Outcome.record .debug
      ("Setting '" ++ key ++ "' resolved through extruder " ++ toString index)
    target.get kind key

/-- The number of the extruder that a setting names. -/
def getExtruder (c : Container) (key : String) (extruders : List Container) : Outcome Nat := do
  let index : Int ← c.get .int64 key
  if 0 ≤ index ∧ index < extruders.length then return index.toNat
  else throw (.extruderOutOfRange index extruders.length)

end Container

end PrintSettings
