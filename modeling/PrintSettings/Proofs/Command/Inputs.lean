import PrintSettings.Command.Run
import PrintSettings.Proofs.Document.Environment
import PrintSettings.Proofs.Document.Overlay
import PrintSettings.Proofs.Pair.Quoted
import PrintSettings.Proofs.Reading

/-! # Pairs of the command line

The pairs of a command line are read one after another and written into the document in their order.
Reading all of them first and then writing all of them comes to the same (`apply_eq`). Without a
settings file and variables that concern the loader the document starts empty, so that it holds
what the global pairs say (`loadDocument_eq_documentOf`). -/

namespace PrintSettings.Command

/-! ## Reading and writing -/

theorem Inputs.apply_eq (i : Inputs) (d : Document) : i.apply d = do
    let pairs ← i.pairs.mapM Pair.parse
    let extruderPairs ← i.extruderPairs.mapM ExtruderPair.parse
    return extruderPairs.foldl Document.setExtruder (pairs.foldl Document.set d) := by
  unfold Inputs.apply
  rw [foldlM_read, bind_assoc]
  simp only [pure_bind, foldlM_read]

/-! ## Global pairs alone -/

/-- The document that some global pairs make. -/
def documentOf (pairs : List Pair) : Document := pairs.foldl Document.set ∅

theorem isKey_of_mem_documentOf {pairs : List Pair} (h : ∀ p ∈ pairs, IsKey p.key)
    {e : String × String} (he : e ∈ (documentOf pairs).global.entries) : IsKey e.1 := by
  have hrun : ∀ (l : List Pair) (m : KeyMap String), (∀ p ∈ l, IsKey p.key) →
      (∀ e ∈ m.entries, IsKey e.1) →
        ∀ e ∈ (l.foldl (fun m p => m.insert p.key p.value) m).entries, IsKey e.1 := by
    intro l
    induction l with
    | nil => intro m _ hm; exact hm
    | cons p l ih =>
      intro m hl hm
      refine ih _ (fun q hq => hl q (List.mem_cons_of_mem _ hq)) fun e he => ?_
      rcases KeyMap.mem_insertEntry he with rfl | he
      · exact hl p List.mem_cons_self
      · exact hm e he
  rw [documentOf, Document.foldl_set] at he
  exact hrun pairs ∅ h (fun _ h => nomatch h) e he

theorem exists_mapM_parse {arguments : List String}
    (h : ∀ arg ∈ arguments, ∃ p, Pair.parse arg = .ok p) :
    ∃ pairs, arguments.mapM Pair.parse = .ok pairs ∧ ∀ p ∈ pairs, IsKey p.key := by
  obtain ⟨pairs, hpairs⟩ := exists_mapM_iff.2 h
  exact ⟨pairs, hpairs, forall_of_mapM_eq_ok hpairs fun _ _ => Pair.isKey_of_parse⟩

theorem mapM_parse_quoted {pairs : List Pair} (h : ∀ p ∈ pairs, IsKey p.key) :
    (pairs.map Pair.quoted).mapM Pair.parse = .ok pairs := by
  rw [mapM_eq_ok_iff, List.forall₂_map_left_iff, List.forall₂_same]
  exact fun p hp => Pair.parse_quoted (h p hp)

/-- **Global pairs that can be read are all that the document holds.** -/
theorem loadDocument_eq_documentOf (files : String → Contents) {environment : List Variable}
    (henv : ∀ v ∈ environment, Loader.standard.namedPart? v = none) {arguments : List String}
    {pairs : List Pair} (h : arguments.mapM Pair.parse = .ok pairs) :
    loadDocument files environment none ⟨arguments, []⟩ = pure (documentOf pairs) := by
  have hload : loadBase files environment none = pure ∅ := by
    show Stage.ofOutcome _ (pure ∅ >>= fun d => Loader.standard.overrideAll d environment) = _
    rw [pure_bind, Loader.overrideAll_eq_self henv]
    rfl
  rw [loadDocument, hload, pure_bind, Inputs.apply_eq]
  simp only [h]
  rfl

end PrintSettings.Command
