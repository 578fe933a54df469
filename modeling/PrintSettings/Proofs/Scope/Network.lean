import Mathlib.Data.Fintype.EquivFin
import Mathlib.Logic.Relation
import PrintSettings.Scope.Graph

/-! # Networks of scopes

In a network every scope has a place, and scopes refer to each other by their places; several scopes
may refer to the same one, but no way along references comes back to where it started. So the scopes
that can be reached from a place form a tree, and a place stands for a `Scope` (`Network.scope`).

* `Step`: where the lookup of a key goes on when it does not end at a place.
* `Stop`: what the lookup finds at a place where it ends.
* `Path`: the places from the first one to the one where the lookup ends. -/

namespace PrintSettings

/-! ## Networks -/

/-- A scope that refers to others by their places. -/
inductive Network.Node (ι : Type) where
  | container (own : KeyMap Setting) (parent : Option ι)
  | store (s : Store ι)
  | messenger (owner : ι)

/-- The places that a scope refers to. -/
def Network.Node.targets {ι : Type} : Network.Node ι → List ι
  | container _ parent => parent.toList
  | store s => s.overrides.map (·.2) ++ s.parent.toList
  | messenger owner => [owner]

/-- Scopes at places. The parent of a container is a container, and references make no cycle. -/
structure Network (ι : Type) where
  node : ι → Network.Node ι
  nested : ∀ {i own p}, node i = .container own (some p) →
    ∃ own' parent, node p = .container own' parent
  acyclic : ∀ i, ¬ Relation.TransGen (fun i j => j ∈ (node i).targets) i i

namespace Network

variable {ι : Type}

/-- The scope at one place refers to another place. -/
def Refers (N : Network ι) (j i : ι) : Prop := j ∈ (N.node i).targets

theorem wellFounded_refers [Finite ι] (N : Network ι) : WellFounded N.Refers := by
  have : IsTrans ι (Relation.TransGen N.Refers) := ⟨fun _ _ _ => Relation.TransGen.trans⟩
  have : Std.Irrefl (Relation.TransGen N.Refers) :=
    ⟨fun i h => N.acyclic i (Relation.transGen_swap.1 h)⟩
  exact Subrelation.wf (fun h => Relation.TransGen.single h)
    (Finite.wellFounded_of_trans_of_irrefl (Relation.TransGen N.Refers))

/-! ## The scope of a place -/

/-- The entries of a container and of the containers around it, from the nearest to the widest. -/
def chain [Finite ι] (N : Network ι) (i : ι) : List (KeyMap Setting) :=
  match _h : N.node i with
  | .container own parent => own :: (parent.attach.map fun p => N.chain p.1).getD []
  | .store _ | .messenger _ => []
termination_by N.wellFounded_refers.wrap i
decreasing_by
  show _ ∈ (N.node i).targets
  simp [_h, Node.targets, p.2]

/-- The scope that a place stands for. -/
def scope [Finite ι] (N : Network ι) (i : ι) : Scope :=
  match _h : N.node i with
  | .container own parent => .container ⟨own, (parent.map N.chain).getD []⟩
  | .store s => .store {
      values := s.values
      overrides := s.overrides.attach.map fun e => (e.1.1, N.scope e.1.2)
      parent := s.parent.attach.map fun p => N.scope p.1 }
  | .messenger owner => .messenger (N.scope owner)
termination_by N.wellFounded_refers.wrap i
decreasing_by
  · show _ ∈ (N.node i).targets
    rw [_h]
    exact List.mem_append_left _ (List.mem_map_of_mem e.2)
  · show _ ∈ (N.node i).targets
    rw [_h]
    exact List.mem_append_right _ (by simp [p.2])
  · show _ ∈ (N.node i).targets
    simp [_h, Node.targets]

section Scopes

variable [Finite ι] {N : Network ι} {i : ι}

theorem chain_container {own : KeyMap Setting} {parent : Option ι}
    (h : N.node i = .container own parent) : N.chain i = own :: (parent.map N.chain).getD [] := by
  rw [chain]
  split
  next h' =>
    rw [h] at h'
    cases h'
    rw [Option.attach_map_val]
  all_goals next h' => rw [h] at h'; contradiction

theorem scope_container {own : KeyMap Setting} {parent : Option ι}
    (h : N.node i = .container own parent) :
    N.scope i = .container ⟨own, (parent.map N.chain).getD []⟩ := by
  rw [scope]
  split
  next h' => rw [h] at h'; cases h'; rfl
  all_goals next h' => rw [h] at h'; contradiction

theorem scope_store {s : Store ι} (h : N.node i = .store s) :
    N.scope i = .store ⟨s.values, s.overrides.map fun e => (e.1, N.scope e.2),
      s.parent.map N.scope⟩ := by
  rw [scope]
  split
  next h' => rw [h] at h'; contradiction
  next s' h' =>
    rw [h] at h'
    cases h'
    rw [Option.attach_map_val, List.attach_map_val (f := fun e : String × ι => (e.1, N.scope e.2))]
  next h' => rw [h] at h'; contradiction

theorem scope_messenger {owner : ι} (h : N.node i = .messenger owner) :
    N.scope i = .messenger (N.scope owner) := by
  rw [scope]
  split
  next h' => rw [h] at h'; contradiction
  next h' => rw [h] at h'; contradiction
  next h' => rw [h] at h'; cases h'; rfl

theorem scope_parent {own : KeyMap Setting} {p : ι} (h : N.node i = .container own (some p)) :
    ∃ own' around, N.chain p = own' :: around ∧ N.scope p = .container ⟨own', around⟩ := by
  obtain ⟨own', parent, hp⟩ := N.nested h
  exact ⟨own', (parent.map N.chain).getD [], chain_container hp, scope_container hp⟩

end Scopes

/-! ## Lookups -/

/-- The lookup of a key goes on from one place at another. -/
inductive Step (N : Network ι) (key : String) : ι → ι → Prop where
  | messenger {i owner} : N.node i = .messenger owner → Step N key i owner
  /-- An override wins, whether or not the store has a text of its own. -/
  | override {i s target} : N.node i = .store s →
    KeyMap.find? key s.overrides = some target → Step N key i target
  | storeParent {i s p} : N.node i = .store s → KeyMap.find? key s.overrides = none →
    s.values.get? key = none → s.parent = some p → Step N key i p
  | containerParent {i own p} : N.node i = .container own (some p) → own.get? key = none →
    Step N key i p

/-- The lookup of a key ends at a place, with the text that is there or with nothing. -/
inductive Stop (N : Network ι) (key : String) : ι → Option String → Prop where
  | storeText {i s text} : N.node i = .store s → KeyMap.find? key s.overrides = none →
    s.values.get? key = some text → Stop N key i (some text)
  | containerText {i own parent setting} : N.node i = .container own parent →
    own.get? key = some setting → Stop N key i (some setting.value)
  | storeEnd {i s} : N.node i = .store s → KeyMap.find? key s.overrides = none →
    s.values.get? key = none → s.parent = none → Stop N key i none
  | containerEnd {i own} : N.node i = .container own none → own.get? key = none →
    Stop N key i none

/-- The places that the lookup of a key passes, and what it finds at the last one. -/
inductive Path (N : Network ι) (key : String) : ι → List ι → Option String → Prop where
  | stop {i result} : Stop N key i result → Path N key i [i] result
  | step {i j places result} : Step N key i j → Path N key j places result →
    Path N key i (i :: places) result

end Network

end PrintSettings
