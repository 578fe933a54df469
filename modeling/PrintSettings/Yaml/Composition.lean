import PrintSettings.Yaml.Resolution

/-! # Values of trees

A tree becomes a value by resolving its scalars and following its aliases. Following is limited
twice: collections nest at most 128 deep, and aliases are followed at most a hundred times for each
unit of the tree's weight, so that a small text cannot stand for a huge value. -/

namespace PrintSettings.Yaml

/-- How deep collections may nest. -/
def maxDepth : Nat := 128

/-- How many aliases may be followed in a tree. -/
def maxFollowed (tree : Node) : Nat := 100 * tree.weight

/-- A computation that follows aliases, with the number of those that may still be followed. -/
abbrev Compose := StateT Nat Option

namespace Compose

/-- Counts an alias. -/
def spend : Compose Unit := do
  match ← get with
  | 0 => failure
  | n + 1 => set n

/-- The node itself, or the one that an alias stands for. -/
def follow (nodes : List Node) (node : Node) : Compose Node :=
  match node with
  | .reference slot => do
    spend
    match Node.target? nodes slot with
    | some target => return target
    | none => failure
  | node => return node

end Compose

/-- Whether no two entries have the same key. -/
def distinctKeys : List (Value × Value) → Bool
  | [] => true
  | (k, _) :: rest => rest.all (!k.same ·.1) && distinctKeys rest

/-- The value of a node, in which `depth` collections may nest; `nodes` are those of the whole tree.
-/
def Node.value (nodes : List Node) : (depth : Nat) → Node → Compose Value
  | 0, node => do
    match ← Compose.follow nodes node with
    | .scalar _ s => s.value?
    | _ => failure
  | depth + 1, node => do
    match ← Compose.follow nodes node with
    | .scalar _ s => s.value?
    | .sequence _ tag items => return withTag tag (.sequence (← items.mapM (value nodes depth)))
    | .mapping _ tag entries =>
      let entries ← entries.mapM fun (k, x) => do
        return (← value nodes depth k, ← value nodes depth x)
      if distinctKeys entries then return withTag tag (.mapping entries) else failure
    | .reference _ => failure

/-- The value of a whole tree. -/
def Node.value? (tree : Node) : Option Value :=
  (tree.value tree.subtrees maxDepth).run' (maxFollowed tree)

/-- The value of a text; a text without a document is null. -/
def Value.ofText? (text : String) : Option Value := do
  match ← Node.ofText? text.toList with
  | some tree => tree.value?
  | none => return null

end PrintSettings.Yaml
