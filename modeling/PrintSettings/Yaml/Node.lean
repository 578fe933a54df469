import PrintSettings.Yaml.Token

/-! # Syntax trees of documents

The tokens of a text form at most one document, a tree of scalars, sequences, mappings and aliases.
Anchors and aliases carry a slot: the number of different names anchored before. A name that is
anchored again gets a new slot, and the node with a slot is the last one that was given it. -/

namespace PrintSettings.Yaml

structure Scalar where
  tag : Option Tag
  style : Style
  text : String
deriving DecidableEq, Repr

inductive Node where
  | scalar (anchor : Option Nat) (s : Scalar)
  | sequence (anchor : Option Nat) (tag : Option Tag) (items : List Node)
  | mapping (anchor : Option Nat) (tag : Option Tag) (entries : List (Node × Node))
  | reference (slot : Nat)

/-! ## State of the reader -/

structure Reader where
  tokens : List Token
  /-- What the declared tag handles mean. -/
  handles : List (String × List UInt8)
  /-- The anchored names and their slots, the last first. -/
  names : List (String × Nat)
  /-- How many different names have been anchored. -/
  slots : Nat

/-- A computation on the remaining tokens, which may fail. -/
abbrev Read := StateT Reader Option

namespace Read

def peek : Read (Option Token) := do return (← get).tokens.head?

def skip : Read Unit := modify fun r => { r with tokens := r.tokens.tail }

def fail {α : Type} : Read α := fun _ => none

/-- Takes the next token if it is the given one. -/
def take (t : Token) : Read Bool := do
  if (← peek) == some t then
    skip
    return true
  else return false

/-- Takes the mark between two items in brackets; none stands before the first one. -/
def separator (first : Bool) : Read Bool := if first then pure true else take .flowEntry

/-- Whether the next token is one of some. -/
def nextIn (tokens : List Token) : Read Bool := do
  match ← peek with
  | some t => return tokens.contains t
  | none => return false

/-- The slot of a name that is anchored here. -/
def newSlot (name : String) : Read Nat := do
  let r ← get
  let slots := if (r.names.lookup name).isSome then r.slots else r.slots + 1
  set { r with names := (name, r.slots) :: r.names, slots := slots }
  return r.slots

def slotOf (name : String) : Read Nat := do
  match (← get).names.lookup name with
  | some slot => return slot
  | none => fail

/-- The tag that is meant by a written one. -/
def meaning (t : WrittenTag) : Read Tag := do
  if t.handle.isEmpty then return .ofOctets t.suffix
  else match (← get).handles.lookup t.handle with
    | some start => return .ofOctets (start ++ t.suffix)
    | none => fail

/-! ## Properties of nodes -/

def takeAnchor : Read (Option String) := do
  match ← peek with
  | some (.anchor name) => do skip; return some name
  | _ => return none

def takeTag : Read (Option WrittenTag) := do
  match ← peek with
  | some (.tag t) => do skip; return some t
  | _ => return none

/-- An anchor and a tag, in either order. -/
def properties : Read (Option String × Option WrittenTag) := do
  let anchor ← takeAnchor
  let tag ← takeTag
  let anchor ← if anchor.isNone then takeAnchor else pure anchor
  return (anchor, tag)

def emptyNode : Node := .scalar none ⟨none, .plain, ""⟩

/-! ## Nodes -/

mutual

/-- A node. A block collection may stand in block context only, and a sequence that is not indented
only as the value or key of a block mapping. -/
def node : (fuel : Nat) → (block indentless : Bool) → Read Node
  | 0, _, _ => fail
  | fuel + 1, block, indentless => do
    match ← peek with
    | some (.reference name) =>
      skip
      return .reference (← slotOf name)
    | _ =>
      let (name, written) ← properties
      let tag ← written.mapM meaning
      let anchor ← name.mapM newSlot
      match ← peek with
      | some (.scalar style text) =>
        skip
        return .scalar anchor ⟨tag, style, text⟩
      | some .flowSequenceStart =>
        skip
        return .sequence anchor tag (← flowItems fuel true)
      | some .flowMappingStart =>
        skip
        return .mapping anchor tag (← flowEntries fuel true)
      | some .entry =>
        if indentless then return .sequence anchor tag (← indentlessItems fuel)
        else return ← bare anchor tag
      | some .sequenceStart =>
        if block then
          skip
          return .sequence anchor tag (← blockItems fuel)
        else return ← bare anchor tag
      | some .mappingStart =>
        if block then
          skip
          return .mapping anchor tag (← blockEntries fuel)
        else return ← bare anchor tag
      | _ => bare anchor tag

/-- A node of properties alone is an empty scalar. -/
def bare (anchor : Option Nat) (tag : Option Tag) : Read Node := do
  if anchor.isSome || tag.isSome then return .scalar anchor ⟨tag, .plain, ""⟩ else fail

/-- A node, or an empty one if one of the given tokens comes next. -/
def nodeUnless : (fuel : Nat) → (block indentless : Bool) → List Token → Read Node
  | 0, _, _, _ => fail
  | fuel + 1, block, indentless, ends => do
    if ← nextIn ends then return emptyNode else node fuel block indentless

/-- The items of a block sequence, each after its dash. -/
def blockItems : (fuel : Nat) → Read (List Node)
  | 0 => fail
  | fuel + 1 => do
    if ← take .entry then
      let item ← nodeUnless fuel true false [.entry, .blockEnd]
      return item :: (← blockItems fuel)
    else if ← take .blockEnd then return []
    else fail

/-- The items of a sequence that is not indented; it ends where no dash follows. -/
def indentlessItems : (fuel : Nat) → Read (List Node)
  | 0 => fail
  | fuel + 1 => do
    if ← take .entry then
      let item ← nodeUnless fuel true false [.entry, .key, .value, .blockEnd]
      return item :: (← indentlessItems fuel)
    else return []

/-- The entries of a block mapping; keys and values may be left out. -/
def blockEntries : (fuel : Nat) → Read (List (Node × Node))
  | 0 => fail
  | fuel + 1 => do
    if ← take .key then
      let key ← nodeUnless fuel true true [.key, .value, .blockEnd]
      let value ← if ← take .value then nodeUnless fuel true true [.key, .value, .blockEnd]
        else pure emptyNode
      return (key, value) :: (← blockEntries fuel)
    else if ← take .blockEnd then return []
    else fail

/-- The items of a sequence in brackets. -/
def flowItems : (fuel : Nat) → (first : Bool) → Read (List Node)
  | 0, _ => fail
  | fuel + 1, first => do
    if ← take .flowSequenceEnd then return []
    else if ← separator first then
      if ← take .flowSequenceEnd then return []
      else
        let item ← if ← take .key then flowPair fuel else node fuel false false
        return item :: (← flowItems fuel false)
    else fail

/-- A single pair in a sequence in brackets, which is a mapping of its own. Where its key is left
out the token that follows is passed over. -/
def flowPair : (fuel : Nat) → Read Node
  | 0 => fail
  | fuel + 1 => do
    let ends := [.value, .flowEntry, .flowSequenceEnd]
    let key ← if ← nextIn ends then do skip; pure emptyNode else node fuel false false
    let value ← if ← take .value then nodeUnless fuel false false [.flowEntry, .flowSequenceEnd]
      else pure emptyNode
    return .mapping none none [(key, value)]

/-- The entries of a mapping in braces. -/
def flowEntries : (fuel : Nat) → (first : Bool) → Read (List (Node × Node))
  | 0, _ => fail
  | fuel + 1, first => do
    if ← take .flowMappingEnd then return []
    else if ← separator first then
      if ← take .flowMappingEnd then return []
      else
        let entry ← if ← take .key then flowEntry fuel
          else do pure (← node fuel false false, emptyNode)
        return entry :: (← flowEntries fuel false)
    else fail

/-- An entry in braces after the mark of its key; key and value may be left out. -/
def flowEntry : (fuel : Nat) → Read (Node × Node)
  | 0 => fail
  | fuel + 1 => do
    let key ← nodeUnless fuel false false [.value, .flowEntry, .flowMappingEnd]
    let value ← if ← take .value then nodeUnless fuel false false [.flowEntry, .flowMappingEnd]
      else pure emptyNode
    return (key, value)

end

/-! ## Documents -/

def defaultHandles : List (String × List UInt8) :=
  [("!", octets "!"), ("!!", octets "tag:yaml.org,2002:")]

/-- Directives before a document: at most one version, which is 1.1 or 1.2, and each handle declared
once. -/
def directives : (fuel : Nat) → (version : Bool) → Read Unit
  | 0, _ => fail
  | fuel + 1, version => do
    match ← peek with
    | some (.directive (.version major minor)) =>
      if version || major != 1 || (minor != 1 && minor != 2) then fail
      else
        skip
        directives fuel true
    | some (.directive (.tagHandle handle start)) =>
      if ((← get).handles.lookup handle).isSome then fail
      else
        skip
        modify fun r => { r with handles := (handle, start) :: r.handles }
        directives fuel version
    | _ => modify fun r => { r with handles := r.handles ++ defaultHandles }

def isDirective : Token → Bool
  | .directive _ => true
  | _ => false

/-- The root of a document that may start with directives and a mark. -/
def root (fuel : Nat) : Read Node := do
  let explicit := match ← peek with
    | some t => isDirective t || t == Token.documentStart
    | none => false
  directives fuel false
  if explicit then
    if ← take .documentStart then
      match ← peek with
      | none => return emptyNode
      | some t =>
        if isDirective t || t == Token.documentStart || t == Token.documentEnd then return emptyNode
        else node fuel true false
    else fail
  else node fuel true false

/-- The single document of a text, or nothing if the text has no tokens; marks of its end may
follow. -/
def single (fuel : Nat) : Read (Option Node) := do
  if (← get).tokens.isEmpty then return none
  else
    let tree ← root fuel
    modify fun r => { r with tokens := r.tokens.dropWhile (· == .documentEnd) }
    if (← get).tokens.isEmpty then return some tree else fail

end Read

namespace Node

/-- The tree of a text; inside, nothing if the text is empty. -/
def ofText? (text : List Char) : Option (Option Node) := do
  let tokens ← tokens? text
  let result ← (Read.single (4 * tokens.length + 8)).run ⟨tokens, [], [], 0⟩
  return result.1

/-! ## Views of a tree -/

def anchor : Node → Option Nat
  | scalar a _ | sequence a _ _ | mapping a _ _ => a
  | reference _ => none

mutual

/-- The nodes of a tree, each before those below it. -/
def subtrees : Node → List Node
  | scalar a s => [scalar a s]
  | reference slot => [reference slot]
  | sequence a tag items => sequence a tag items :: subtreesList items
  | mapping a tag entries => mapping a tag entries :: subtreesEntries entries

def subtreesList : List Node → List Node
  | [] => []
  | n :: rest => n.subtrees ++ subtreesList rest

def subtreesEntries : List (Node × Node) → List Node
  | [] => []
  | (key, value) :: rest => key.subtrees ++ value.subtrees ++ subtreesEntries rest

end

/-- The node that an alias to a slot stands for: the last one that was given the slot. -/
def target? (nodes : List Node) (slot : Nat) : Option Node :=
  nodes.reverse.find? (·.anchor == some slot)

/-- Leaves count once, collections twice. -/
def unitWeight : Node → Nat
  | scalar .. | reference _ => 1
  | sequence .. | mapping .. => 2

/-- The size of a tree. -/
def weight (tree : Node) : Nat :=
  tree.subtrees.foldl (fun total node => total + node.unitWeight) 0

end Node

end PrintSettings.Yaml
