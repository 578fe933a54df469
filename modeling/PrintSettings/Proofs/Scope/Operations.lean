import Mathlib.Logic.Function.Basic
import PrintSettings.Proofs.Scope.Writes

/-! # Runs of operations

Scopes are created, written to and looked up by operations, one after another, and a registry goes
along with every write. What the operations do does not depend on the registry: it adds a warning to
each write whose key it lacks, and nothing else (`run_eq`).

* `step_eq`: what one operation does under every registry.
* `Operation.warnings`: what the registry adds to an operation.
* `Operation.MayRecord`: what an operation may record of itself.
* `filter_warn`, `filter_not_warn`: the records of a run, taken apart by their level. -/

namespace PrintSettings

open PrintSettings.Value

/-! ## Operations -/

/-- A scope as others refer to it: the one at a place, or one that is not written to at all. -/
inductive Reference (ι : Type) where
  | place (i : ι)
  | fixed (s : Scope)

/-- What is done with the scopes at places. -/
inductive Operation (ι : Type) where
  /-- Puts a store without settings at a place. -/
  | create (i : ι) (parent : Option (Reference ι))
  /-- Puts a messenger in front of the scope at a place. -/
  | cover (i : ι)
  | set (i : ι) (p : Pair)
  | inherit (i : ι) (key : String) (target : Reference ι)
  | resolve (s : Reference ι) (key : String)
  | get (s : Reference ι) (kind : Kind) (key : String)
  | arguments (i : ι)

/-- What an operation gives back. -/
inductive Answer where
  | done
  | text (result : Except SettingError String)
  | value (kind : Kind) (result : Except SettingError kind.Carrier)
  | line (text : String)

/-- The scopes at places. -/
abbrev Scopes (ι : Type) := ι → WritableScope

namespace Scopes

variable {ι : Type}

def scope (σ : Scopes ι) : Reference ι → Scope
  | .place i => (σ i).toScope
  | .fixed s => s

variable [DecidableEq ι]

/-- The scopes after an operation, and its answer. -/
def step (registry : Registry) (σ : Scopes ι) : Operation ι → Logged (Scopes ι × Answer)
  | .create i parent =>
    pure (Function.update σ i (.direct ⟨∅, [], parent.map σ.scope⟩), .done)
  | .cover i => pure (Function.update σ i (.messenger (σ i)), .done)
  | .set i p => do return (Function.update σ i (← (σ i).set registry p), .done)
  | .inherit i key target =>
    pure (Function.update σ i ((σ i).inherit key (σ.scope target)), .done)
  | .resolve s key => do return (σ, .text (← ((σ.scope s).resolve key).run))
  | .get s kind key => do return (σ, .value kind (← ((σ.scope s).get kind key).run))
  | .arguments i => pure (σ, .line (σ i).store.arguments)

/-- The scopes after several operations, and their answers. -/
def run (registry : Registry) : Scopes ι → List (Operation ι) → Logged (Scopes ι × List Answer)
  | σ, [] => pure (σ, [])
  | σ, o :: operations => do
    let (τ, answer) ← step registry σ o
    let (υ, answers) ← run registry τ operations
    return (υ, answer :: answers)

end Scopes

/-! ## Records -/

/-- What is recorded when a pair is written. -/
def Store.warnings (registry : Registry) (p : Pair) : List Record :=
  if registry.contains p.key then [] else [unregistered p.key p.value]

namespace Operation

variable {ι : Type}

/-- What the registry adds to the records of an operation: a warning if it is a write of a key that
the registry lacks. -/
def warnings (registry : Registry) : Operation ι → List Record
  | set _ p => Store.warnings registry p
  | _ => []

/-- The operation reads a text as a value. -/
def ReadsValue : Operation ι → Prop
  | get .. => True
  | _ => False

/-- What an operation may record of itself: a lookup may report a missing key, and what is said of a
text that is read as a value is left open. -/
def MayRecord : Operation ι → List Record → Prop
  | resolve _ key, records =>
    records = [] ∨ records = [⟨.error, (SettingError.missingKey key).message⟩]
  | get .., _ => True
  | _, records => records = []

/-- The records of operations, each with what it records of itself. -/
def records (registry : Registry) (operations : List (Operation ι)) (own : List (List Record)) :
    List Record :=
  (operations.zipWith (fun o own => o.warnings registry ++ own) own).flatten

variable {registry : Registry} {o : Operation ι} {operations : List (Operation ι)}
  {own : List (List Record)}

theorem records_cons (records' : List Record) :
    records registry (o :: operations) (records' :: own) =
      o.warnings registry ++ records' ++ records registry operations own := rfl

theorem level_of_mem_warnings {record : Record} (h : record ∈ o.warnings registry) :
    record.level = .warn := by
  cases o with
  | set i p =>
    simp only [warnings, Store.warnings] at h
    split at h
    · simp at h
    · rw [List.mem_singleton] at h
      rw [h]
      rfl
  | _ => simp [warnings] at h

theorem level_of_mem_own {records' : List Record} (h : o.MayRecord records')
    (hreads : ¬ o.ReadsValue) {record : Record} (hrecord : record ∈ records') :
    record.level ≠ .warn := by
  cases o with
  | resolve s key =>
    rcases h with rfl | rfl
    · simp at hrecord
    · rw [List.mem_singleton] at hrecord
      rw [hrecord]
      exact Level.noConfusion
  | get s kind key => exact absurd trivial hreads
  | _ =>
    have hnil : records' = [] := h
    simp [hnil] at hrecord

section Levels

variable (h : List.Forall₂ MayRecord operations own)
include h

theorem filter_not_warn :
    (records registry operations own).filter (·.level ≠ .warn) =
      own.flatten.filter (·.level ≠ .warn) := by
  induction h with
  | nil => rfl
  | @cons o _ _ _ _ _ ih =>
    have hwarnings : (o.warnings registry).filter (·.level ≠ .warn) = [] :=
      List.filter_eq_nil_iff.2 fun record hrecord => by simp [level_of_mem_warnings hrecord]
    rw [records_cons, List.filter_append, List.filter_append, hwarnings, ih, List.nil_append,
      List.flatten_cons, List.filter_append]

theorem filter_warn (hreads : ∀ o ∈ operations, ¬ o.ReadsValue) :
    (records registry operations own).filter (·.level = .warn) =
      operations.flatMap (·.warnings registry) := by
  induction h with
  | nil => rfl
  | @cons o records' _ _ ho _ ih =>
    obtain ⟨hread, hreads⟩ := List.forall_mem_cons.1 hreads
    have hwarnings : (o.warnings registry).filter (·.level = .warn) = o.warnings registry :=
      List.filter_eq_self.2 fun record hrecord => by simp [level_of_mem_warnings hrecord]
    have hown : records'.filter (·.level = .warn) = [] :=
      List.filter_eq_nil_iff.2 fun record hrecord => by simpa using level_of_mem_own ho hread hrecord
    rw [records_cons, List.filter_append, List.filter_append, hwarnings, hown, ih hreads,
      List.append_nil, List.flatMap_cons]

end Levels

end Operation

/-! ## One operation -/

theorem Logged.map_eq {α β : Type} (f : α → β) (x : Logged α) : f <$> x = ⟨f x.value, x.log⟩ := by
  rw [map_eq_pure_bind, bind_eq]
  simp [pure_eq]

theorem Container.exists_resolve (c : Container) (key : String) :
    ∃ result, c.resolve key = Network.found key result := by
  unfold resolve
  cases c.find? key with
  | some setting => exact ⟨some setting.value, rfl⟩
  | none => exact ⟨none, rfl⟩

namespace Scope

-- By induction on the tree of scopes; overrides and parents are the subtrees of a store.
mutual

/-- A lookup finds a text and records nothing, or reports that there is none. -/
theorem exists_resolve (key : String) : ∀ s : Scope,
    ∃ result, s.resolve key = Network.found key result
  | container c => by
    rw [resolve]
    exact c.exists_resolve key
  | store ⟨values, overrides, parent⟩ => by
    rw [resolve]
    split
    next outcome h => exact exists_resolveOverride key overrides h
    next =>
      split
      next text _ => exact ⟨some text, rfl⟩
      next => exact exists_resolveParent key parent
  | messenger owner => by
    rw [resolve]
    exact exists_resolve key owner

theorem exists_resolveOverride (key : String) : ∀ (overrides : List (String × Scope))
    {outcome : Outcome String}, resolveOverride key overrides = some outcome →
      ∃ result, outcome = Network.found key result
  | [], _, h => nomatch h
  | (k, target) :: rest, outcome, h => by
    rw [resolveOverride] at h
    split at h
    next =>
      cases h
      exact exists_resolve key target
    next => exact exists_resolveOverride key rest h

theorem exists_resolveParent (key : String) : ∀ parent : Option Scope,
    ∃ result, resolveParent key parent = Network.found key result
  | some parent => by
    rw [resolveParent]
    exact exists_resolve key parent
  | none => ⟨none, by rw [resolveParent]; rfl⟩

end

end Scope

theorem WritableScope.exists_set (w : WritableScope) (p : Pair) :
    ∃ w' : WritableScope, ∀ registry, w.set registry p = ⟨w', Store.warnings registry p⟩ := by
  induction w with
  | direct s => exact ⟨.direct { s with values := s.values.insert p.key p.value }, fun registry =>
      Logged.map_eq ..⟩
  | messenger owner ih =>
    obtain ⟨w', hw'⟩ := ih
    refine ⟨.messenger w', fun registry => ?_⟩
    rw [WritableScope.set, hw' registry, Logged.map_eq]

namespace Scopes

variable {ι : Type} [DecidableEq ι]

/-- **One operation under every registry.** -/
theorem step_eq (σ : Scopes ι) (o : Operation ι) :
    ∃ next own, o.MayRecord own ∧
      ∀ registry, step registry σ o = ⟨next, o.warnings registry ++ own⟩ := by
  cases o with
  | set i p =>
    obtain ⟨w, hw⟩ := (σ i).exists_set p
    refine ⟨(Function.update σ i w, .done), [], rfl, fun registry => ?_⟩
    rw [step, hw]
    rfl
  | resolve s key =>
    obtain ⟨result, hresult⟩ := (σ.scope s).exists_resolve key
    refine ⟨(σ, .text (Network.found key result).run.value), (Network.found key result).run.log, ?_,
      fun registry => ?_⟩
    · cases result with
      | some text => exact .inl rfl
      | none => exact .inr rfl
    · rw [step, hresult]
      exact Logged.map_eq (fun result => (σ, Answer.text result)) _
  | get s kind key =>
    exact ⟨_, ((σ.scope s).get kind key).run.log, trivial, fun registry =>
      Logged.map_eq (fun result => (σ, Answer.value kind result)) _⟩
  | create | cover | inherit | arguments => exact ⟨_, [], rfl, fun registry => rfl⟩

/-! ## Runs -/

/-- **A run of operations under every registry.** What is done and answered, and what each operation
records of itself, is the same under all of them; each adds its warnings, in place. -/
theorem run_eq (σ : Scopes ι) (operations : List (Operation ι)) :
    ∃ next own, List.Forall₂ Operation.MayRecord operations own ∧ ∀ registry,
      run registry σ operations = ⟨next, Operation.records registry operations own⟩ := by
  induction operations generalizing σ with
  | nil => exact ⟨(σ, []), [], .nil, fun registry => rfl⟩
  | cons o operations ih =>
    obtain ⟨⟨τ, answer⟩, own, hown, hstep⟩ := step_eq σ o
    obtain ⟨⟨υ, answers⟩, rest, hrest, hrun⟩ := ih τ
    refine ⟨(υ, answer :: answers), own :: rest, .cons hown hrest, fun registry => ?_⟩
    rw [run, hstep, Logged.bind_eq]
    dsimp only
    rw [hrun, Logged.bind_eq, Operation.records_cons]
    simp [Logged.pure_eq]

end Scopes

end PrintSettings
