import PrintSettings.Numeric.Leading

/-! # Quantities

Setting values with a unit. Most carry a number as it was read; lengths are counted in whole
micrometres, ratios are percentages over a hundred, and speeds are never negative. -/

namespace PrintSettings.Value

open PrintSettings.Numeric

/-- A fraction, given in percent. -/
structure Ratio where
  value : Binary64
deriving DecidableEq

def Ratio.ofPercent (percent : Binary64) : Ratio := ⟨percent / 100⟩

/-- A speed in millimetres per second. -/
structure Velocity where
  value : Binary64
deriving DecidableEq

/-- What is not above zero counts as zero. -/
def Velocity.ofSpeed (speed : Binary64) : Velocity := ⟨if 0 < speed then speed else 0⟩

/-- A time in seconds. -/
structure Duration where
  seconds : Binary64
deriving DecidableEq

/-- A temperature in degrees Celsius. -/
structure Temperature where
  value : Binary64
deriving DecidableEq

/-- The number of a layer. -/
structure Layer where
  number : Int
deriving DecidableEq

/-- A length in micrometres. -/
structure Length where
  microns : Int
deriving DecidableEq

/-- Millimetres, truncated to whole micrometres within 64 bits. -/
def Length.ofMillimetres (millimetres : Binary64) : Length :=
  ⟨(millimetres * 1000).truncate int64Min int64Max⟩

end PrintSettings.Value
