import PrintSettings.Proofs.Command.Stages
import PrintSettings.Proofs.Scope.Operations

/-! # The registry is advisory

Definitions that load make no difference to what a run leaves behind (`session_eq_of_loads`), as the
registry makes none to what operations on scopes do: all that it adds is a warning for every write
of a name that it lacks (`registry_advisory`). -/

namespace PrintSettings.Command

/-- The definitions, if any are named, can be loaded. -/
def Loads (files : String → Contents) (definitions : Option String) : Prop :=
  ∃ registry, (loadRegistry files definitions).result = .ok registry

/-- A run whose definitions load leaves behind what the document gives. -/
theorem result_output_of_loads {files : String → Contents} {environment : List Variable}
    {i : Invocation} (h : Loads files i.definitions) :
    (output files environment i).result = (do
      let d ← (loadDocument files environment i.settings i.inputs).result
      (d.reply i.action).mapError (Failure.mk [])) := by
  obtain ⟨registry, hregistry⟩ := h
  rw [result_output, hregistry]
  rfl

theorem outgrowth?_of_loads {room : Nat} {files : String → Contents} {environment : List Variable}
    {i : Invocation} (h : Loads files i.definitions) :
    outgrowth? room files environment i = (do
      let d ← (loadBase files environment i.settings).run.value.toOption
      let pairs ← (i.inputs.pairs.mapM Pair.parse).toOption
      outgrowthFrom? room (pairs.foldl Document.set d) i.inputs.extruderPairs) := by
  obtain ⟨registry, hregistry⟩ := h
  have hvalue : (loadRegistry files i.definitions).run.value = .ok registry := hregistry
  rw [outgrowth?, hvalue]
  rfl

/-- **Definitions that load make no difference to a run,** on any platform. -/
theorem session_eq_of_loads (p : Platform) {files files' : String → Contents}
    (environment : List Variable) (i : Invocation) {definitions definitions' : Option String}
    (h : Loads files definitions) (h' : Loads files' definitions')
    (hsettings : ∀ path ∈ i.settings, files path = files' path) :
    p.session files environment { i with definitions := definitions } =
      p.session files' environment { i with definitions := definitions' } := by
  have hrun : (run files environment { i with definitions := definitions }).value =
      (run files' environment { i with definitions := definitions' }).value := by
    rw [value_run, value_run, result_output_of_loads h, result_output_of_loads h',
      loadDocument_congr files environment hsettings]
  have hreport : p.report files environment { i with definitions := definitions } =
      p.report files' environment { i with definitions := definitions' } := by
    rw [Platform.report, Platform.report, outgrowth?_of_loads h, outgrowth?_of_loads h',
      loadBase_congr files environment hsettings, hrun]
  rw [Platform.session, Platform.session, hreport]

/-- **The registry is advisory.** Under every registry the same operations leave the same scopes and
give the same answers, and each operation records the same of itself; what a registry adds is one
warning for each write whose key it lacks, where the write is made. So records that are no warnings
are the same under all registries, and warnings are those of the registry alone, unless there is a
text that is read as a value. And two runs of the program that differ in nothing but definitions
that load leave the same behind. -/
theorem registry_advisory :
    (∀ (ι : Type) [DecidableEq ι] (σ : Scopes ι) (operations : List (Operation ι)),
      ∃ next own, List.Forall₂ Operation.MayRecord operations own ∧
        (∀ registry, σ.run registry operations =
          ⟨next, Operation.records registry operations own⟩) ∧
        (∀ registry, (σ.run registry operations).log.filter (·.level ≠ .warn) =
          own.flatten.filter (·.level ≠ .warn)) ∧
        ((∀ o ∈ operations, ¬ o.ReadsValue) → ∀ registry,
          (σ.run registry operations).log.filter (·.level = .warn) =
            operations.flatMap (·.warnings registry))) ∧
    ∀ (files files' : String → Contents) (environment : List Variable) (i : Invocation)
      (definitions definitions' : Option String), Loads files definitions →
      Loads files' definitions' → (∀ path ∈ i.settings, files path = files' path) →
        session files environment { i with definitions := definitions } =
          session files' environment { i with definitions := definitions' } := by
  refine ⟨fun ι _ σ operations => ?_, fun files files' environment i definitions definitions' =>
    session_eq_of_loads .standard environment i⟩
  obtain ⟨next, own, hown, hrun⟩ := σ.run_eq operations
  refine ⟨next, own, hown, hrun, fun registry => ?_, fun hreads registry => ?_⟩
  · rw [hrun]
    exact Operation.filter_not_warn hown
  · rw [hrun]
    exact Operation.filter_warn hown hreads

/-- Two texts are written, looked up and written out. -/
def twoTexts : List (Operation Unit) :=
  [.create () none, .set () ⟨"speed", "50"⟩, .set () ⟨"width", "0.4"⟩,
    .resolve (.place ()) "speed", .arguments ()]

/-- A settings file and a file that defines another name. -/
def speedAndNames : String → Contents
  | "names.yaml" => .ok "\x7bsettings: \x7bwidth: 1\x7d\x7d".toUTF8
  | "speed.yaml" => .ok "\x7bglobal: \x7bspeed: 50\x7d\x7d".toUTF8
  | _ => .error .notFound

theorem loads_speedAndNames : Loads speedAndNames (some "names.yaml") := by
  have hok : (loadRegistry speedAndNames (some "names.yaml")).result.isOk = true := by
    decide +kernel
  cases h : (loadRegistry speedAndNames (some "names.yaml")).result with
  | ok registry => exact ⟨registry, h⟩
  | error e => rw [h] at hok; contradiction

/-- A registry that lacks the speed adds one warning, and an empty one adds two; a run is the same
with definitions that lack the speed and with none. -/
theorem registry_advisory_speed :
    let i : Invocation := ⟨none, none, some "speed.yaml", ⟨[], []⟩, .args⟩
    let warnings (registry : Registry) (σ : Scopes Unit) :=
      (σ.run registry twoTexts).log.filter (·.level = .warn)
    (∀ o ∈ twoTexts, ¬ o.ReadsValue) ∧
    (∀ σ, warnings (.ofList ["width"]) σ = [Store.unregistered "speed" "50"]) ∧
    (∀ σ, warnings ∅ σ = [Store.unregistered "speed" "50", Store.unregistered "width" "0.4"]) ∧
    Loads speedAndNames (some "names.yaml") ∧ Loads speedAndNames none ∧
    session speedAndNames [] { i with definitions := some "names.yaml" } =
      (none, ⟨0, " -s speed=\"50\"\n", none⟩) := by
  intro i warnings
  have hreads : ∀ o ∈ twoTexts, ¬ o.ReadsValue := by
    simp [twoTexts, Operation.ReadsValue]
  have hwarnings : ∀ registry σ, warnings registry σ = twoTexts.flatMap (·.warnings registry) := by
    intro registry σ
    obtain ⟨_, _, -, -, -, hwarn⟩ := registry_advisory.1 Unit σ twoTexts
    exact hwarn hreads registry
  have hnone : Loads speedAndNames none := ⟨∅, rfl⟩
  refine ⟨hreads, fun σ => (hwarnings _ σ).trans (by decide), fun σ => (hwarnings _ σ).trans rfl,
    loads_speedAndNames, hnone, ?_⟩
  refine (registry_advisory.2 speedAndNames speedAndNames [] i (some "names.yaml") none
    loads_speedAndNames hnone fun path _ => rfl).trans ?_
  decide +kernel

end PrintSettings.Command
