import PrintSettings.Value.Angle
import PrintSettings.Value.Choice
import PrintSettings.Value.Curve
import PrintSettings.Value.Matrix
import PrintSettings.Value.Quantity

/-! # Kinds of setting values

A kind says how the text of a setting is read. Every kind has its type of values (`Kind.Carrier`), a
reading that never fails (`Kind.read`) and a text to show them with (`Kind.render`). -/

namespace PrintSettings.Value

open PrintSettings.Numeric

inductive Kind where
  | text
  | int32
  | int64
  | uint32
  /-- A position in a list; what is negative counts as zero. -/
  | index
  | float
  | flag
  | layer
  | length
  | degrees
  | angle
  | temperature
  | velocity
  | ratio
  | duration
  | draftShield
  | flavor
  | curve
  | matrix
deriving DecidableEq, Repr

namespace Kind

/-- The values of a kind. -/
abbrev Carrier : Kind → Type
  | text => String
  | int32 | int64 | uint32 | index => Int
  | float => Binary64
  | flag => Bool
  | layer => Layer
  | length => Length
  | degrees => Degrees
  | angle => Angle
  | temperature => Temperature
  | velocity => Velocity
  | ratio => Ratio
  | duration => Duration
  | draftShield => DraftShield
  | flavor => Flavor
  | curve => Curve
  | matrix => Matrix

/-! ## Integers and flags -/

def readInt32 (text : String) : Int := clamp (-0x80000000) 0x7fffffff (intOrZero text.toList)

def readUInt32 (text : String) : Int := clamp 0 0xffffffff (intOrZero text.toList)

def readIndex (text : String) : Int := max 0 (intOrZero text.toList)

/-- Four words are true; any other text is true when it starts with a nonzero integer. -/
def readFlag (text : String) : Bool :=
  ["on", "yes", "true", "True"].contains text || readInt32 text != 0

/-! ## Reading -/

/-- The value of a setting's text; the key is named in reports only. -/
def read : (kind : Kind) → (key text : String) → Logged kind.Carrier
  | text, _, s => pure s
  | int32, _, s => pure (readInt32 s)
  | int64, _, s => pure (intOrZero s.toList)
  | uint32, _, s => pure (readUInt32 s)
  | index, _, s => pure (readIndex s)
  | float, _, s => pure (floatOrZero s.toList)
  | flag, _, s => pure (readFlag s)
  | layer, _, s => pure ⟨readInt32 s⟩
  | length, _, s => pure (.ofMillimetres (floatOrZero s.toList))
  | degrees, _, s => pure ⟨floatOrZero s.toList⟩
  | angle, _, s => pure (.ofDegrees (floatOrZero s.toList))
  | temperature, _, s => pure ⟨floatOrZero s.toList⟩
  | velocity, _, s => pure (.ofSpeed (floatOrZero s.toList))
  | ratio, _, s => pure (.ofPercent (floatOrZero s.toList))
  | duration, _, s => pure ⟨floatOrZero s.toList⟩
  | draftShield, _, s => pure (.ofText s)
  | flavor, _, s => pure (.ofText s)
  | curve, key, s => Curve.ofText key s
  | matrix, _, s => Matrix.ofText s

/-! ## Showing -/

/-- The text of a value: numbers in plain notation, structured values as compact JSON. -/
def render : (kind : Kind) → kind.Carrier → String
  | text, s => s
  | int32, n | int64, n | uint32, n | index, n => toString n
  | float, x => Notation.plain.text x
  | flag, b => if b then "true" else "false"
  | layer, l => toString l.number
  | length, l => toString l.microns
  | degrees, d => Notation.plain.text d.value
  | angle, a => Notation.plain.text a.radians
  | temperature, t => Notation.plain.text t.value
  | velocity, v => Notation.plain.text v.value
  | ratio, r => Notation.plain.text r.value
  | duration, d => Notation.plain.text d.seconds
  | draftShield, d => d.text
  | flavor, f => f.text
  | curve, c => Curve.text c
  | matrix, m => Matrix.text m

end Kind

end PrintSettings.Value
