import PrintSettings.Scope.Container
import PrintSettings.Scope.Store

/-! # Graphs of scopes

A scope is a container, a store or a messenger that stands for another scope; stores refer to scopes
of any kind. A scope that is referred to does not change any more, so a graph of scopes is a finite
tree. A lookup in a store goes to the override of the name if there is one and never comes back from
it; otherwise to the store's own text, and last to its parent. -/

namespace PrintSettings

open PrintSettings.Value

inductive Scope where
  | container (c : Container)
  | store (s : Store Scope)
  | messenger (owner : Scope)

namespace Scope

mutual

/-- The text of a setting. -/
def resolve (key : String) : Scope → Outcome String
  | container c => c.resolve key
  | store ⟨values, overrides, parent⟩ =>
    match resolveOverride key overrides with
    | some outcome => outcome
    | none =>
      match values.get? key with
      | some value => pure value
      | none => resolveParent key parent
  | messenger owner => owner.resolve key

/-- The lookup in the override of the name, if there is one. -/
def resolveOverride (key : String) : List (String × Scope) → Option (Outcome String)
  | [] => none
  | (k, target) :: rest =>
    if k = key then some (target.resolve key) else resolveOverride key rest

def resolveParent (key : String) : Option Scope → Outcome String
  | some parent => parent.resolve key
  | none => Outcome.missing key

end

/-- The value of a setting. -/
def get (s : Scope) (kind : Kind) (key : String) : Outcome kind.Carrier := do
  let text ← s.resolve key
  Outcome.ofLogged (kind.read key text)

end Scope

/-! ## Scopes that are written to -/

/-- A store, or messengers in front of one. -/
inductive WritableScope where
  | direct (s : Store Scope)
  | messenger (owner : WritableScope)

namespace WritableScope

/-- The store behind all messengers. -/
def store : WritableScope → Store Scope
  | direct s => s
  | messenger owner => owner.store

/-- The scope to look settings up in. -/
def toScope : WritableScope → Scope
  | direct s => .store s
  | messenger owner => .messenger owner.toScope

/-- Writes a text through all messengers. -/
def set (registry : Registry) (p : Pair) : WritableScope → Logged WritableScope
  | direct s => direct <$> s.set registry p
  | messenger owner => messenger <$> owner.set registry p

/-- Sends the lookup of a name to another scope, through all messengers. -/
def inherit (key : String) (target : Scope) : WritableScope → WritableScope
  | direct s => direct (s.inherit key target)
  | messenger owner => messenger (owner.inherit key target)

end WritableScope

end PrintSettings
