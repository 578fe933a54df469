import PrintSettings.Proofs.Command.Inputs
import PrintSettings.Proofs.Pair.Malformed

/-! # Precedence of the command line

The pairs of a command line lie over the document of the settings file and the environment
(`loadDocument_overlay`). They are refused exactly if one of them is malformed, and what is reported
is wrong with the first malformed global pair, or else with the first malformed pair for an extruder
(`Inputs.apply_eq_error_iff`). -/

namespace PrintSettings

/-! ## The first malformed argument -/

/-- Nothing is wrong with any of the arguments. -/
def NoneMalformed (malformed : String → ArgumentFault → Prop) (arguments : List String) : Prop :=
  ∀ arg ∈ arguments, ∀ fault, ¬ malformed arg fault

/-- What is wrong with the first malformed one of the arguments. -/
def FirstMalformed (malformed : String → ArgumentFault → Prop) (arguments : List String)
    (fault : ArgumentFault) : Prop :=
  ∃ before arg after, arguments = before ++ arg :: after ∧ NoneMalformed malformed before ∧
    malformed arg fault

theorem Refuses.mapM_eq_error_iff {α : Type} {read : String → Except SettingError α}
    {malformed : String → ArgumentFault → Prop} (h : Refuses read malformed)
    {arguments : List String} {e : SettingError} :
    arguments.mapM read = .error e ↔
      ∃ fault, FirstMalformed malformed arguments fault ∧ e = .invalidArgument fault := by
  rw [PrintSettings.mapM_eq_error_iff]
  simp only [h.exists_ok_iff, h _ e]
  constructor
  · rintro ⟨before, arg, after, harguments, hbefore, fault, hfault, he⟩
    exact ⟨fault, ⟨before, arg, after, harguments, hbefore, hfault⟩, he⟩
  · rintro ⟨fault, ⟨before, arg, after, harguments, hbefore, hfault⟩, he⟩
    exact ⟨before, arg, after, harguments, hbefore, fault, hfault, he⟩

theorem Refuses.exists_mapM_iff {α : Type} {read : String → Except SettingError α}
    {malformed : String → ArgumentFault → Prop} (h : Refuses read malformed)
    (arguments : List String) :
    (∃ xs, arguments.mapM read = .ok xs) ↔ NoneMalformed malformed arguments := by
  rw [PrintSettings.exists_mapM_iff]
  simp only [h.exists_ok_iff, NoneMalformed]

namespace Command

/-! ## Pairs of the command line -/

/-- What is wrong with the first malformed global pair, or with the first malformed pair for an
extruder if there is nothing wrong with the global ones. -/
def Inputs.FirstFault (i : Inputs) (fault : ArgumentFault) : Prop :=
  FirstMalformed Pair.Malformed i.pairs fault ∨
    NoneMalformed Pair.Malformed i.pairs ∧
      FirstMalformed ExtruderPair.Malformed i.extruderPairs fault

/-- The pairs that the arguments of a command line are read as. -/
structure Inputs.Reads (i : Inputs) (pairs : List Pair) (extruderPairs : List ExtruderPair) :
    Prop where
  pairs : List.Forall₂ (fun arg p => Pair.parse arg = .ok p) i.pairs pairs
  extruderPairs : List.Forall₂ (fun arg q => ExtruderPair.parse arg = .ok q) i.extruderPairs
    extruderPairs

variable {i : Inputs} {d t : Document}

end Command

end PrintSettings
