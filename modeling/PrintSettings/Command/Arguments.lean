import PrintSettings.Command.Invocation
import PrintSettings.Pair

/-! # Command-line arguments

Arguments are options with or without values, the name of an action, and what the action is about.
Three options may stand before the action as well as after it, where they count in preference.
An option's value follows it, or is attached to it with or without an equals sign. Arguments that do
not fit have no invocation; what is wrong with them is not recorded. -/

namespace PrintSettings.Command

open PrintSettings.Text

/-! ## Options -/

inductive Opt where
  | logFilter
  | definitions
  | settings
  | form
  | extruder
  | limited
  | pair
  | extruderPair
deriving DecidableEq, Repr

namespace Opt

def name : Opt → String
  | logFilter => "log-level"
  | definitions => "definitions"
  | settings => "settings"
  | form => "as"
  | extruder => "extruder"
  | limited => "limited"
  | pair => "setting"
  | extruderPair => "extruder-setting"

def letter? : Opt → Option Char
  | extruder => some 'e'
  | pair => some 's'
  | extruderPair => some 'x'
  | _ => none

def takesValue : Opt → Bool
  | limited => false
  | _ => true

/-- Options that may stand on either side of the action. -/
def shared : List Opt := [logFilter, definitions, settings]

end Opt

inductive ActionName where
  | get
  | args
deriving DecidableEq, Repr

namespace ActionName

def ofWord? : String → Option ActionName
  | "get" => some get
  | "args" => some args
  | _ => none

/-- Options that may stand after an action. -/
def options : ActionName → List Opt
  | get => Opt.shared ++ [.form, .extruder, .limited, .pair, .extruderPair]
  | args => Opt.shared ++ [.pair, .extruderPair]

end ActionName

/-- Whether an argument starts like an option; a dash alone does not. -/
def startsOption (arg : String) : Bool :=
  match arg.toList with
  | '-' :: _ :: _ => true
  | _ => false

/-- The option of an argument, and the value attached to it. -/
def option? (known : List Opt) (arg : String) : Option (Opt × Option String) :=
  match arg.toList with
  | '-' :: '-' :: body =>
    let (name, value) := match splitFirst? '=' body with
      | some (name, value) => (name, some (String.ofList value))
      | none => (body, none)
    (known.find? (·.name = .ofList name)).map (·, value)
  | '-' :: letter :: rest =>
    let value := match rest with
      | [] => none
      | '=' :: value => some (String.ofList value)
      | value => some (String.ofList value)
    (known.find? (·.letter? = some letter)).map (·, value)
  | _ => none

/-! ## Reading -/

/-- An option with its value, which is empty if it takes none. -/
structure Given where
  option : Opt
  value : String
deriving DecidableEq, Repr

/-- What was read of the arguments so far. -/
structure Progress where
  /-- Options before the action. -/
  before : List Given
  action : Option ActionName
  /-- Options after the action. -/
  after : List Given
  /-- Other arguments after the action. -/
  others : List String
  /-- An option whose value comes next. -/
  waiting : Option Opt
  /-- Whether options have been ended. -/
  ended : Bool
deriving DecidableEq, Repr

namespace Progress

def start : Progress := ⟨[], none, [], [], none, false⟩

def known (p : Progress) : List Opt :=
  match p.action with
  | some action => action.options
  | none => Opt.shared

def give (p : Progress) (g : Given) : Progress :=
  if p.action.isSome then { p with after := p.after ++ [g], waiting := none }
  else { p with before := p.before ++ [g], waiting := none }

/-- An argument that is no option and no value: the action if there was none, which must stand
before the end of the options. -/
def other? (p : Progress) (arg : String) : Option Progress :=
  match p.action with
  | some _ => some { p with others := p.others ++ [arg] }
  | none =>
    if p.ended then none
    else (ActionName.ofWord? arg).map fun action => { p with action := some action }

/-- Reads one more argument. -/
def step? (p : Progress) (arg : String) : Option Progress :=
  match p.waiting with
  | some o => if startsOption arg then none else some (p.give ⟨o, arg⟩)
  | none =>
    if p.ended || !startsOption arg then p.other? arg
    else if arg = "--" then some { p with ended := true }
    else do
      let (o, value) ← option? p.known arg
      match o.takesValue, value with
      | true, some value => return p.give ⟨o, value⟩
      | true, none => return { p with waiting := some o }
      | false, some _ => none
      | false, none => return p.give ⟨o, ""⟩

end Progress

/-! ## Invocations -/

/-- The values given to an option. -/
def valuesOf (o : Opt) (given : List Given) : List String :=
  (given.filter (·.option = o)).map (·.value)

/-- The value of an option that may be given once. -/
def atMostOnce? (o : Opt) (given : List Given) : Option (Option String) :=
  match valuesOf o given with
  | [] => some none
  | [value] => some (some value)
  | _ => none

/-- The value of an option that may be given once on either side; it must pass a test. -/
def eitherSide? (o : Opt) (allowed : String → Bool) (before after : List Given) :
    Option (Option String) := do
  let first ← atMostOnce? o before
  let last ← atMostOnce? o after
  if first.all allowed && last.all allowed then some (last.or first) else none

/-- The number of an extruder. -/
def extruderNumber? (text : String) : Option Nat := (parseIndex text.toList).toOption

/-- The question of an action's options and its only argument. -/
def Query.ofArguments? (given : List Given) (others : List String) : Option Query := do
  let [key] := others | none
  let form ← Form.ofWord? ((← atMostOnce? .form given).getD "string")
  let extruder ← (← atMostOnce? .extruder given).mapM extruderNumber?
  let limited ← atMostOnce? .limited given
  return ⟨key, form, extruder, limited.isSome⟩

def Action.ofArguments? (given : List Given) (others : List String) : ActionName → Option Action
  | .get => (Query.ofArguments? given others).map .get
  | .args => if others.isEmpty then some .args else none

/-- What the arguments ask for. -/
def Invocation.ofArguments? (arguments : List String) : Option Invocation := do
  let p ← arguments.foldlM Progress.step? .start
  if p.waiting.isSome then none
  else
    let action ← Action.ofArguments? p.after p.others (← p.action)
    return {
      logFilter := ← eitherSide? .logFilter (fun _ => true) p.before p.after
      definitions := ← eitherSide? .definitions (· ≠ "") p.before p.after
      settings := ← eitherSide? .settings (· ≠ "") p.before p.after
      inputs := ⟨valuesOf .pair p.after, valuesOf .extruderPair p.after⟩
      action := action }

end PrintSettings.Command
