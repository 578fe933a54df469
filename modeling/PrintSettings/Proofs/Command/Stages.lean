import PrintSettings.Proofs.Arguments.RoundTrip
import PrintSettings.Proofs.Command.Forms
import PrintSettings.Proofs.Document.Overrides

/-! # Results of stages

What is left of a run when its records are forgotten. The registry has no part in it: what an action
gives can be read off the document (`result_act`), and the document comes of what was read of the
settings file and the environment (`result_loadBase`) and of the pairs (`result_loadDocument`). -/

namespace PrintSettings

namespace Command

/-! ## Stages -/

namespace Stage

variable {α β : Type}

/-- The result or failure of a stage, without the records. -/
def result (x : Stage α) : Except Failure α := x.run.value

@[simp] theorem result_pure (a : α) : result (pure a) = .ok a := rfl

@[simp] theorem result_bind (x : Stage α) (f : α → Stage β) :
    result (x >>= f) = x.result >>= fun a => (f a).result := by
  rcases x with ⟨value, log⟩
  cases value <;> rfl

@[simp] theorem result_ofOutcome (tasks : List String) (x : Outcome α) :
    result (ofOutcome tasks x) = x.result.mapError (Failure.mk tasks) := rfl

end Stage

theorem exists_of_bind_eq_ok {ε α β : Type} {x : Except ε α} {f : α → Except ε β} {b : β}
    (h : x >>= f = .ok b) : ∃ a, x = .ok a ∧ f a = .ok b := by
  cases x with
  | error e => contradiction
  | ok a => exact ⟨a, rfl, h⟩

theorem mapError_eq_ok_iff {ε ε' α : Type} {x : Except ε α} {g : ε → ε'} {a : α} :
    x.mapError g = .ok a ↔ x = .ok a := by
  cases x <;> simp [Except.mapError]

/-! ## Actions -/

/-- Whether the text of a question is looked up in the extruder that the setting is limited to. -/
def Query.followsLimit (q : Query) : Bool := q.limited && q.form ≠ .extruder

theorem Query.followsLimit_eq_false {q : Query} (h : q.form = .extruder) :
    q.followsLimit = false := by
  simp [followsLimit, h]

/-- The answer that a form makes of a text. -/
def Form.reply (count : Nat) (key text : String) (form : Form) : Except SettingError String :=
  if form = .extruder ∧ ¬ IsNumber count text then .error (.extruderOutOfRange (numberOf text) count)
  else .ok (form.shown key text)

theorem Form.reply_eq_error_iff {count : Nat} {key text : String} {form : Form}
    {e : SettingError} : form.reply count key text = .error e ↔
      form = .extruder ∧ ¬ IsNumber count text ∧
        e = .extruderOutOfRange (numberOf text) count := by
  unfold reply
  split
  next h => simp [h, eq_comm]
  next h =>
    refine iff_of_false (fun herror => nomatch herror) ?_
    rintro ⟨hform, hnumber, -⟩
    exact h ⟨hform, hnumber⟩

end Command

namespace Document

open PrintSettings.Command

/-- What an action gives for a document. -/
def reply (d : Document) : Action → Except SettingError String
  | .get q => do q.form.reply d.extruderCount q.key (← d.textOf q.key q.extruder q.followsLimit)
  | .args => .ok (Arguments.ofPairs (Arguments.settingPairs d))

end Document

namespace Command

theorem result_get (d : Document) (registry : Registry) (q : Query) :
    (get d registry q).result = d.reply (.get q) := by
  obtain ⟨key, form, extruder, limited⟩ := q
  cases form with
  | value kind =>
    have hlimit : Query.followsLimit ⟨key, .value kind, extruder, limited⟩ = limited := by
      simp [Query.followsLimit]
    rw [result_get_value, Document.reply, hlimit]
    rfl
  | extruder =>
    rw [result_get_extruder, Document.reply, Query.followsLimit_eq_false rfl]
    refine congrArg (d.textOf key extruder false >>= ·) (funext fun text => ?_)
    rw [result_showNumber, Form.reply]
    by_cases h : IsNumber d.extruderCount text <;> simp [h, Form.shown]

/-- **The registry has no part in what an action gives.** -/
theorem result_act (d : Document) (registry : Registry) (action : Action) :
    (act d registry action).result = d.reply action := by
  cases action with
  | get q => exact result_get d registry q
  | args => exact congrArg Except.ok (Arguments.value_args d registry)

/-! ## Loading -/

/-- Where the document of a settings file is loaded from, if one is named. -/
def sourceOf (files : String → Contents) : Option String → Source
  | some path => .file (files path)
  | none => .environment

section Loading

variable (files : String → Contents) (environment : List Variable)

theorem loadBase_eq (path : Option String) : loadBase files environment path =
    Stage.ofOutcome ["Failed to load settings document"]
      (Loader.standard.load (sourceOf files path) environment) := by
  cases path <;> rfl

theorem result_loadBase (path : Option String) :
    (loadBase files environment path).result = (do
      let base ← (Loader.base (sourceOf files path)).mapError
        (Failure.mk ["Failed to load settings document"])
      (Loader.standard.overrideAll base environment).result.mapError
        (Failure.mk ["Failed to load settings document"])) := by
  rw [loadBase_eq, Stage.result_ofOutcome, Loader.load, Outcome.result_bind,
    Outcome.result_ofExcept]
  cases Loader.base (sourceOf files path) <;> rfl

theorem result_loadDocument (path : Option String) (inputs : Inputs) :
    (loadDocument files environment path inputs).result = (do
      let d ← (loadBase files environment path).result
      (inputs.apply d).mapError (Failure.mk [])) := by
  rw [loadDocument, Stage.result_bind]
  rfl

theorem loadBase_congr {files' : String → Contents} {path : Option String}
    (h : ∀ p ∈ path, files p = files' p) :
    loadBase files environment path = loadBase files' environment path := by
  have hsource : sourceOf files path = sourceOf files' path := by
    cases path with
    | none => rfl
    | some p => exact congrArg Source.file (h p rfl)
  rw [loadBase_eq, loadBase_eq, hsource]

theorem loadDocument_congr {files' : String → Contents} {path : Option String}
    (h : ∀ p ∈ path, files p = files' p) (inputs : Inputs) :
    loadDocument files environment path inputs = loadDocument files' environment path inputs := by
  rw [loadDocument, loadDocument, loadBase_congr files environment h]

/-- **What a run comes to.** The definitions must load, and what they are does not matter. -/
theorem result_output (i : Invocation) : (output files environment i).result = (do
    let _ ← (loadRegistry files i.definitions).result
    let d ← (loadDocument files environment i.settings i.inputs).result
    (d.reply i.action).mapError (Failure.mk [])) := by
  simp only [output, Stage.result_bind, Stage.result_ofOutcome, result_act]

theorem value_run (i : Invocation) :
    (run files environment i).value = .ofResult (output files environment i).result := rfl

end Loading

end Command

end PrintSettings
