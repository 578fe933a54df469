import PrintSettings.Scope.Container
import PrintSettings.Scope.Graph

/-! # Settings documents

A document holds the global settings, the extruders that some of them are limited to, and the
settings of each extruder. It is put to use by filling containers (`applyGlobal`, `applyExtruder`)
or by writing its global settings into a store (`applyTo`).

A pair for an extruder brings all extruders up to its number into being. Memory need not last for
that (`hasRoom`), and no memory lasts for more than `mostExtruders`. -/

namespace PrintSettings

structure Document where
  global : KeyMap String
  /-- The number of the extruder that a global setting belongs to. -/
  limits : KeyMap Nat
  extruders : List (KeyMap String)
deriving DecidableEq, Repr

namespace Document

def empty : Document := ⟨∅, ∅, []⟩

instance : EmptyCollection Document := ⟨empty⟩

def extruderCount (d : Document) : Nat := d.extruders.length

/-! ## Writing -/

/-- Writes a global setting. -/
def set (d : Document) (p : Pair) : Document :=
  { d with global := d.global.insert p.key p.value }

/-- Writes a setting of an extruder, for which there is room; extruders up to its number come into
being without settings. -/
def setExtruder (d : Document) (p : ExtruderPair) : Document :=
  let extruders := d.extruders.rightpad (p.index + 1) ∅
  { d with extruders := extruders.modify p.index (·.insert p.pair.key p.pair.value) }

/-- The most extruders there can be: a list takes up less than half of the addresses of 64 bits, and
the settings of an extruder take up 24 of them. -/
def mostExtruders : Nat := 0x7fffffffffffffff / 24

/-- Whether there is room for a pair: its extruder is there, or is one of those that memory lasts
for. -/
def hasRoom (room : Nat) (d : Document) (p : ExtruderPair) : Bool :=
  p.index < max d.extruderCount room

/-! ## Filling scopes -/

/-- Adds the global settings with their limits to a container. -/
def applyGlobal (d : Document) (c : Container) : Container :=
  d.global.entries.foldl (fun c e => c.addLimited e.1 e.2 (d.limits.get? e.1)) c

/-- Adds settings without limits to a container. -/
def fill (settings : KeyMap String) (c : Container) : Container :=
  settings.entries.foldl (fun c e => c.add e.1 e.2) c

/-- Adds the settings of an extruder to a container. -/
def applyExtruder (d : Document) (index : Nat) (c : Container) : Except SettingError Container :=
  match d.extruders[index]? with
  | some settings => .ok (fill settings c)
  | none => .error (.extruderOutOfRange (Container.signedWord index) d.extruderCount)

/-- The container of the global settings. -/
def globalContainer (d : Document) : Container := d.applyGlobal .root

/-- The containers of the extruders, each inside the global one. -/
def extruderContainers (d : Document) : List Container :=
  let inner := Container.inside d.globalContainer
  d.extruders.map (fill · inner)

theorem length_extruderContainers (d : Document) :
    d.extruderContainers.length = d.extruderCount := by
  simp [extruderContainers, extruderCount]

/-- Writes the global settings into a store. -/
def applyTo (d : Document) (registry : Registry) (scope : WritableScope) : Logged WritableScope :=
  d.global.entries.foldlM (fun scope e => scope.set registry ⟨e.1, e.2⟩) scope

end Document

end PrintSettings
