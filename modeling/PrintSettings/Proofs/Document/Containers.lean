import PrintSettings.Document

/-! # Containers of a document

Filling a container from a document copies its entries one by one. The result is known in advance:
the global container holds the global settings with their limits (`globalContainer_eq`), and that of
an extruder holds its settings without limits, inside the global one (`extruderContainers_eq`). A
lookup finds the setting of the extruder, else the global one (`nearest`). -/

namespace PrintSettings.Document

/-! ## Filling -/

theorem foldl_addLimited (limit : String → Option Nat) (l : List (String × String))
    (c : Container) : l.foldl (fun c e => c.addLimited e.1 e.2 (limit e.1)) c =
      { c with own := l.foldl (fun m e => m.insert e.1 ⟨e.2, limit e.1⟩) c.own } := by
  induction l generalizing c with
  | nil => rfl
  | cons e l ih => rw [List.foldl_cons, ih]; rfl

/-- The entries of the global container. -/
def globalEntries (d : Document) : KeyMap Setting := d.global.map fun k v => ⟨v, d.limits.get? k⟩

/-- The entries of an extruder's container. -/
def ownEntries (settings : KeyMap String) : KeyMap Setting := settings.map fun _ v => ⟨v, none⟩

theorem globalContainer_eq (d : Document) : d.globalContainer = ⟨d.globalEntries, []⟩ := by
  have h := KeyMap.foldl_insert_map (fun k v => Setting.mk v (d.limits.get? k)) d.global
  rw [globalContainer, applyGlobal, foldl_addLimited (fun k => d.limits.get? k)]
  exact congrArg (Container.mk · []) h

theorem fill_inside (settings : KeyMap String) (parent : Container) :
    fill settings (.inside parent) = ⟨ownEntries settings, parent.own :: parent.around⟩ := by
  have h := KeyMap.foldl_insert_map (fun _ v => Setting.mk v none) settings
  have hrun := foldl_addLimited (fun _ => none) settings.entries (.inside parent)
  exact hrun.trans (congrArg (Container.mk · (parent.own :: parent.around)) h)

theorem extruderContainers_eq (d : Document) : d.extruderContainers =
    d.extruders.map fun settings => ⟨ownEntries settings, [d.globalEntries]⟩ := by
  rw [extruderContainers, globalContainer_eq]
  simp only [fill_inside]

/-! ## Lookups -/

/-- What is found in a scope with this text of its own inside the global one. -/
def nearest (d : Document) (key : String) (own : Option String) : Option Setting :=
  (own.map fun text => ⟨text, none⟩).or
    ((d.global.get? key).map fun text => ⟨text, d.limits.get? key⟩)

theorem find?_global (d : Document) (key : String) :
    (Container.mk d.globalEntries []).find? key = d.nearest key none := by
  cases h : d.global.get? key <;> simp [Container.find?, globalEntries, nearest, h]

theorem find?_extruder (d : Document) (settings : KeyMap String) (key : String) :
    (Container.mk (ownEntries settings) [d.globalEntries]).find? key =
      d.nearest key (settings.get? key) := by
  cases h : d.global.get? key <;> cases h' : settings.get? key <;>
    simp [Container.find?, globalEntries, ownEntries, nearest, h, h']

end PrintSettings.Document
