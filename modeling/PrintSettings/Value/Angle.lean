import PrintSettings.Numeric.Arithmetic

/-! # Angles

An angle in radians is kept on the circle: `wrap` brings a number into `[0, 2π)` by two exact
remainders around one rounded addition, and everything that is not finite becomes zero. Degrees are
kept as they were read. -/

namespace PrintSettings.Value

open PrintSettings.Numeric

/-- An angle in degrees, of any size. -/
structure Degrees where
  value : Binary64
deriving DecidableEq

/-- An angle in radians. -/
structure Angle where
  radians : Binary64
deriving DecidableEq

namespace Angle

/-- The double nearest to half a turn. -/
def pi : Binary64 := .ofBits 0x400921fb54442d18

/-- The double nearest to a full turn. -/
def tau : Binary64 := .ofBits 0x401921fb54442d18

/-- A number of radians brought onto the circle. -/
def wrap (radians : Binary64) : Binary64 :=
  if radians.isFinite then (radians % tau + tau) % tau else 0

def ofRadians (radians : Binary64) : Angle := ⟨wrap radians⟩

def ofDegrees (degrees : Binary64) : Angle := ⟨wrap (degrees * pi / 180)⟩

def toDegrees (a : Angle) : Binary64 := a.radians * 180 / pi

instance : Add Angle := ⟨fun a b => ⟨wrap (a.radians + b.radians)⟩⟩
instance : Sub Angle := ⟨fun a b => ⟨wrap (a.radians - b.radians)⟩⟩

end Angle

end PrintSettings.Value
