import PrintSettings.Command.Filter
import PrintSettings.Command.Invocation
import PrintSettings.Definitions
import PrintSettings.Document.Loader

/-! # Runs

A run loads the definitions, then the settings with the pairs of the command line on top, and then
answers. The first stage that fails ends it (`Failure`). Its outcome is a `Report`: a text for
standard output and the status zero, or an error text and the status of the error.

A program is run on a platform (`Platform.session`). Before it runs, a library reads the log filter,
and while it runs, memory may not last for the extruders that its pairs name (`outgrowth?`). Both may
end it without an error (`Report.fatal`). -/

namespace PrintSettings.Command

open PrintSettings.Value

/-! ## Failures -/

/-- An error and what was being done when it arose, the widest task first. -/
structure Failure where
  tasks : List String
  error : SettingError
deriving DecidableEq, Repr

/-- The tasks, the error and its causes. -/
def Failure.text (f : Failure) : String :=
  "Error: " ++ String.intercalate ": " (f.tasks ++ f.error.message :: f.error.causes)

/-- A stage of a run: a result or a failure, with the records made on the way. -/
abbrev Stage (α : Type) := ExceptT Failure Logged α

namespace Stage

/-- An outcome as a stage; its error arises in the course of the given tasks. -/
def ofOutcome {α : Type} (tasks : List String) (x : Outcome α) : Stage α :=
  ExceptT.mk do return (← x.run).mapError (Failure.mk tasks)

def record (level : Level) (text : String) : Stage Unit := ExceptT.lift (Logged.record level text)

end Stage

/-! ## Loading -/

/-- The registry of the definitions file, if one is named. -/
def loadRegistry (files : String → Contents) (path : Option String) : Stage Registry :=
  match path with
  | some path =>
    Stage.ofOutcome ["Failed to load definitions from " ++ path] (Registry.ofFile (files path))
  | none => pure ∅

/-- Writes global pairs, then pairs of extruders; the first one that cannot be read is refused. -/
def Inputs.apply (i : Inputs) (d : Document) : Except SettingError Document := do
  let d ← i.pairs.foldlM (fun d arg => return d.set (← Pair.parse arg)) d
  i.extruderPairs.foldlM (fun d arg => return d.setExtruder (← ExtruderPair.parse arg)) d

/-- The document of the settings file, if one is named, and of the environment. -/
def loadBase (files : String → Contents) (environment : List Variable) (path : Option String) :
    Stage Document :=
  let source := match path with
    | some path => Source.file (files path)
    | none => .environment
  Stage.ofOutcome ["Failed to load settings document"] (Loader.standard.load source environment)

def loadDocument (files : String → Contents) (environment : List Variable) (path : Option String)
    (inputs : Inputs) : Stage Document := do
  let d ← loadBase files environment path
  Stage.ofOutcome [] (.ofExcept (inputs.apply d))

/-! ## Answers -/

/-- The text of a setting in a form. The number of an extruder is looked up plainly. -/
def renderForm (form : Form) (scope : Container) (key : String) (extruders : List Container)
    (limited : Bool) : Outcome String :=
  match form with
  | .value kind => do
    let x ← if limited then scope.getLimited kind key extruders else scope.get kind key
    return kind.render x
  | .extruder => do
    let _ ← scope.getExtruder key extruders
    let n ← scope.get .int64 key
    return Kind.int64.render n

/-- The answer to a question about a document. -/
def answer (d : Document) (q : Query) : Outcome String := do
  let extruders := d.extruderContainers
  Outcome.record .debug
    ("Built global scope and " ++ toString extruders.length ++ " extruder scope(s)")
  let scope ← match q.extruder with
    | some index => Outcome.ofExcept (Container.extruder extruders index)
    | none => pure d.globalContainer
  renderForm q.form scope q.key extruders q.limited

/-- The answer, after a report if the definitions lack the setting. -/
def get (d : Document) (registry : Registry) (q : Query) : Outcome String := do
  if !registry.isEmpty && !registry.contains q.key then
    Outcome.record .warn ("Querying setting '" ++ q.key ++ "' which is not in the definitions")
  answer d q

/-- The global settings as arguments. -/
def args (d : Document) (registry : Registry) : Logged String := do
  return (← d.applyTo registry (.direct .root)).store.arguments

def act (d : Document) (registry : Registry) : Action → Outcome String
  | .get query => get d registry query
  | .args => Outcome.ofLogged (args d registry)

/-- The text that an invocation asks for. -/
def output (files : String → Contents) (environment : List Variable) (i : Invocation) :
    Stage String := do
  let registry ← loadRegistry files i.definitions
  let d ← loadDocument files environment i.settings i.inputs
  Stage.ofOutcome [] (act d registry i.action)

/-! ## Memory -/

/-- Pairs for extruders are read and written into a document, up to the first one that there is no
room for: the number of its extruder. -/
def outgrowthFrom? (room : Nat) (d : Document) : List String → Option Nat
  | [] => none
  | arg :: rest =>
    match ExtruderPair.parse arg with
    | .error _ => none
    | .ok p => if d.hasRoom room p then outgrowthFrom? room (d.setExtruder p) rest else some p.index

/-- The number of the extruder that there is no room for, if a run comes to one: its definitions and
its document are loaded, and its global pairs are in order. -/
def outgrowth? (room : Nat) (files : String → Contents) (environment : List Variable)
    (i : Invocation) : Option Nat := do
  let _ ← (loadRegistry files i.definitions).run.value.toOption
  let d ← (loadBase files environment i.settings).run.value.toOption
  let pairs ← (i.inputs.pairs.mapM Pair.parse).toOption
  outgrowthFrom? room (pairs.foldl Document.set d) i.inputs.extruderPairs

/-! ## Reports -/

/-- What a run leaves behind. -/
structure Report where
  exitCode : Nat
  output : String
  failure : Option String
deriving DecidableEq, Repr

def Report.ofResult : Except Failure String → Report
  | .ok text => ⟨0, text ++ "\n", none⟩
  | .error f => ⟨f.error.exitCode, "", some f.text⟩

/-- What a program leaves behind that is ended from within. -/
def Report.fatal (status : Nat) : Report := ⟨status, "", none⟩

/-- The status of a program that panics. -/
def panicStatus : Nat := 101

/-- The status of a program that aborts, as a shell gives it. -/
def abortStatus : Nat := 134

def run (files : String → Contents) (environment : List Variable) (i : Invocation) :
    Logged Report :=
  return .ofResult (← (output files environment i).run)

/-! ## Platforms -/

/-- What a program finds where it is run. -/
structure Platform where
  /-- What the library that reads log filters finds wrong with one. -/
  filterFault? : String → Option FilterFault
  /-- How many extruders memory lasts for. -/
  room : Nat
  room_le : room ≤ Document.mostExtruders

namespace Platform

/-- The library as it is known, and as much memory as there can be. -/
def standard : Platform := ⟨Command.filterFault?, Document.mostExtruders, Nat.le_refl _⟩

variable (p : Platform) (files : String → Contents) (environment : List Variable) (i : Invocation)

/-- What a run leaves behind if memory lasts, or the end that it comes to: a list that cannot have
the extruders panics, and one that cannot get the memory for them aborts. -/
def report : Report :=
  match outgrowth? p.room files environment i with
  | none => (run files environment i).value
  | some index =>
    .fatal (if Document.mostExtruders ≤ index then panicStatus else abortStatus)

/-- The notice about the log filter, if there is one, and the report. -/
def session : Option String × Report :=
  match LogSetup.of p.filterFault? i.logFilter environment with
  | .quiet => (none, p.report files environment i)
  | .notice text => (some text, p.report files environment i)
  | .fatal => (none, .fatal panicStatus)

end Platform

/-- The notice and the report on the standard platform. -/
def session (files : String → Contents) (environment : List Variable) (i : Invocation) :
    Option String × Report :=
  Platform.standard.session files environment i

end PrintSettings.Command
