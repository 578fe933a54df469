/-! # Choices

Settings that name one of a few alternatives. A text that names none of them means the default. -/

namespace PrintSettings.Value

/-! ## Draft shield -/

/-- How high the draft shield is built. -/
inductive DraftShield where
  /-- As high as the print. -/
  | full
  /-- Up to a configured height. -/
  | limited
deriving DecidableEq, Repr

namespace DraftShield

def ofText (text : String) : DraftShield := if text = "limited" then limited else full

def text : DraftShield → String
  | full => "full"
  | limited => "limited"

end DraftShield

/-! ## Command dialect -/

/-- The dialect of commands that a machine understands. -/
inductive Flavor where
  | marlin
  | ultiGCode
  | makerbot
  | bfb
  | mach3
  | marlinVolumetric
  | griffin
  | repetier
  | repRap
deriving DecidableEq, Repr

namespace Flavor

/-- Every flavor has the name it is shown with, and some have a name in machine definitions. -/
def names : List (String × Flavor) :=
  [("UltiGCode", ultiGCode), ("Makerbot", makerbot), ("BFB", bfb), ("MACH3", mach3),
    ("Mach3", mach3), ("RepRap (Volumetric)", marlinVolumetric),
    ("Marlin(Volumetric)", marlinVolumetric), ("Griffin", griffin), ("Repetier", repetier),
    ("RepRap (RepRap)", repRap), ("RepRap", repRap)]

def ofText (text : String) : Flavor := (names.lookup text).getD marlin

/-- The name that is shown. -/
def text : Flavor → String
  | marlin => "Marlin"
  | ultiGCode => "UltiGCode"
  | makerbot => "Makerbot"
  | bfb => "BFB"
  | mach3 => "Mach3"
  | marlinVolumetric => "Marlin(Volumetric)"
  | griffin => "Griffin"
  | repetier => "Repetier"
  | repRap => "RepRap"

/-- The name in exchanged data. -/
def identifier : Flavor → String
  | marlin => "Marlin"
  | ultiGCode => "UltiGCode"
  | makerbot => "Makerbot"
  | bfb => "Bfb"
  | mach3 => "Mach3"
  | marlinVolumetric => "MarlinVolumetric"
  | griffin => "Griffin"
  | repetier => "Repetier"
  | repRap => "RepRap"

theorem ofText_text (f : Flavor) : ofText f.text = f := by cases f <;> decide

end Flavor

end PrintSettings.Value
