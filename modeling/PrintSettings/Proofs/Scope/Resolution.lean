import PrintSettings.Proofs.Scope.Network

/-! # Resolution along a path

In a network every lookup takes one path, and the outcome is what stands at the end of the path
(`resolve_path`): its text and no record, or a missing key and one record.

* `exists_path`: the lookup of a key comes to an end from every place.
* `path_unique`: it passes the same places and finds the same whenever it starts at the same place.
* `resolve_step`, `resolve_stop`: one step does not change the outcome, and the last place gives it. -/

namespace PrintSettings

/-! ## One scope -/

namespace Container

variable {own : KeyMap Setting} {key : String}

theorem resolve_own {setting : Setting} (h : own.get? key = some setting)
    (around : List (KeyMap Setting)) :
    Container.resolve ⟨own, around⟩ key = pure setting.value := by
  simp [Container.resolve, Container.find?, h]

theorem resolve_outward (h : own.get? key = none) (next : KeyMap Setting)
    (around : List (KeyMap Setting)) :
    Container.resolve ⟨own, next :: around⟩ key = Container.resolve ⟨next, around⟩ key := by
  simp [Container.resolve, Container.find?, h]

theorem resolve_widest (h : own.get? key = none) :
    Container.resolve ⟨own, []⟩ key = Outcome.missing key := by
  simp [Container.resolve, Container.find?, h]

end Container

namespace Scope

theorem resolveOverride_eq (key : String) (overrides : List (String × Scope)) :
    resolveOverride key overrides = (KeyMap.find? key overrides).map (·.resolve key) := by
  induction overrides with
  | nil => simp [resolveOverride, KeyMap.find?]
  | cons e rest ih =>
    by_cases h : e.1 = key
    · simp [resolveOverride, KeyMap.find?, h]
    · simp [resolveOverride, KeyMap.find?, h, ih]

variable {s : Store Scope} {key : String}

theorem resolve_override {target : Scope} (h : KeyMap.find? key s.overrides = some target) :
    (Scope.store s).resolve key = target.resolve key := by
  rw [Scope.resolve, resolveOverride_eq, h]
  rfl

theorem resolve_text {text : String} (h : KeyMap.find? key s.overrides = none)
    (ht : s.values.get? key = some text) : (Scope.store s).resolve key = pure text := by
  rw [Scope.resolve, resolveOverride_eq, h]
  simp [ht]

theorem resolve_parent {p : Scope} (h : KeyMap.find? key s.overrides = none)
    (ht : s.values.get? key = none) (hp : s.parent = some p) :
    (Scope.store s).resolve key = p.resolve key := by
  rw [Scope.resolve, resolveOverride_eq, h]
  simp [ht, hp, Scope.resolveParent]

theorem resolve_widest (h : KeyMap.find? key s.overrides = none)
    (ht : s.values.get? key = none) (hp : s.parent = none) :
    (Scope.store s).resolve key = Outcome.missing key := by
  rw [Scope.resolve, resolveOverride_eq, h]
  simp [ht, hp, Scope.resolveParent]

end Scope

namespace Network

variable {ι : Type} {N : Network ι} {key : String} {i j : ι}

/-! ## Paths -/

theorem refers_of_step (h : N.Step key i j) : N.Refers j i := by
  cases h with
  | messenger h => simp [Refers, h, Node.targets]
  | override h ht =>
    have hmem := List.mem_map_of_mem (f := Prod.snd) (KeyMap.mem_of_find?_eq_some ht)
    rw [Refers, h]
    exact List.mem_append_left _ hmem
  | storeParent h _ _ hp => simp [Refers, h, Node.targets, hp]
  | containerParent h _ => simp [Refers, h, Node.targets]

theorem step_or_stop (N : Network ι) (key : String) (i : ι) :
    (∃ j, N.Step key i j) ∨ ∃ result, N.Stop key i result := by
  cases h : N.node i with
  | messenger owner => exact Or.inl ⟨owner, .messenger h⟩
  | store s =>
    cases ht : KeyMap.find? key s.overrides with
    | some target => exact Or.inl ⟨target, .override h ht⟩
    | none =>
      cases hv : s.values.get? key with
      | some text => exact Or.inr ⟨some text, .storeText h ht hv⟩
      | none =>
        cases hp : s.parent with
        | some p => exact Or.inl ⟨p, .storeParent h ht hv hp⟩
        | none => exact Or.inr ⟨none, .storeEnd h ht hv hp⟩
  | container own parent =>
    cases hv : own.get? key with
    | some setting => exact Or.inr ⟨some setting.value, .containerText h hv⟩
    | none =>
      cases parent with
      | some p => exact Or.inl ⟨p, .containerParent h hv⟩
      | none => exact Or.inr ⟨none, .containerEnd h hv⟩

theorem step_unique {j' : ι} (h : N.Step key i j) (h' : N.Step key i j') : j = j' := by
  cases h <;> cases h' <;> simp_all

theorem stop_unique {result result' : Option String} (h : N.Stop key i result)
    (h' : N.Stop key i result') : result = result' := by
  cases h <;> cases h' <;> simp_all

theorem not_step_of_stop {result : Option String} (h : N.Stop key i result) : ¬ N.Step key i j := by
  intro h'
  cases h <;> cases h' <;> simp_all

theorem exists_path [Finite ι] (N : Network ι) (key : String) (i : ι) :
    ∃ places result, N.Path key i places result := by
  induction i using N.wellFounded_refers.induction with
  | _ i ih =>
    rcases N.step_or_stop key i with ⟨j, hstep⟩ | ⟨result, hstop⟩
    · obtain ⟨places, result, hpath⟩ := ih j (refers_of_step hstep)
      exact ⟨i :: places, result, .step hstep hpath⟩
    · exact ⟨[i], result, .stop hstop⟩

theorem path_unique {places places' : List ι} {result result' : Option String}
    (h : N.Path key i places result) (h' : N.Path key i places' result') :
    places' = places ∧ result' = result := by
  induction h generalizing places' with
  | stop hstop =>
    cases h' with
    | stop hstop' => exact ⟨rfl, stop_unique hstop' hstop⟩
    | step hstep' _ => exact absurd hstep' (not_step_of_stop hstop)
  | step hstep _ ih =>
    cases h' with
    | stop hstop' => exact absurd hstep (not_step_of_stop hstop')
    | step hstep' hpath' =>
      obtain rfl := step_unique hstep hstep'
      obtain ⟨rfl, rfl⟩ := ih hpath'
      exact ⟨rfl, rfl⟩

/-! ## Outcomes -/

variable [Finite ι]

theorem find?_overrides_scope (N : Network ι) (key : String) (overrides : List (String × ι)) :
    KeyMap.find? key (overrides.map fun e => (e.1, N.scope e.2)) =
      (KeyMap.find? key overrides).map N.scope :=
  KeyMap.find?_map (f := fun _ => N.scope)

theorem resolve_step (h : N.Step key i j) : (N.scope i).resolve key = (N.scope j).resolve key := by
  cases h with
  | messenger h => rw [scope_messenger h, Scope.resolve]
  | override h ht =>
    rw [scope_store h]
    exact Scope.resolve_override (by rw [find?_overrides_scope, ht]; rfl)
  | storeParent h ht hv hp =>
    rw [scope_store h]
    exact Scope.resolve_parent (by rw [find?_overrides_scope, ht]; rfl) hv (by rw [hp]; rfl)
  | containerParent h hv =>
    obtain ⟨own', around, hchain, hscope⟩ := scope_parent h
    rw [scope_container h, hscope, Scope.resolve, Scope.resolve, Option.map_some, Option.getD_some,
      hchain]
    exact Container.resolve_outward hv own' around

/-- What a lookup with this result comes to. -/
def found (key : String) : Option String → Outcome String
  | some text => pure text
  | none => Outcome.missing key

theorem resolve_stop {result : Option String} (h : N.Stop key i result) :
    (N.scope i).resolve key = found key result := by
  cases h with
  | storeText h ht hv =>
    rw [scope_store h]
    exact Scope.resolve_text (by rw [find?_overrides_scope, ht]; rfl) hv
  | containerText h hv =>
    rw [scope_container h, Scope.resolve]
    exact Container.resolve_own hv _
  | storeEnd h ht hv hp =>
    rw [scope_store h]
    exact Scope.resolve_widest (by rw [find?_overrides_scope, ht]; rfl) hv (by rw [hp]; rfl)
  | containerEnd h hv =>
    rw [scope_container h, Scope.resolve]
    exact Container.resolve_widest hv

theorem resolve_of_path {places : List ι} {result : Option String}
    (h : N.Path key i places result) : (N.scope i).resolve key = found key result := by
  induction h with
  | stop hstop => exact resolve_stop hstop
  | step hstep _ ih => rw [resolve_step hstep, ih]

/-- **Every lookup takes one path, whose end gives the outcome.** A text comes without records; a
missing key names the key asked for and leaves one record, however long the path. A store with an
override for the key gives whatever the target gives. -/
theorem resolve_path (N : Network ι) (key : String) (i : ι) :
    ∃ places result, N.Path key i places result ∧
      (∀ places' result', N.Path key i places' result' → places' = places ∧ result' = result) ∧
      ((N.scope i).resolve key).run = (match result with
        | some text => ⟨.ok text, []⟩
        | none => ⟨.error (.missingKey key), [⟨.error, (SettingError.missingKey key).message⟩]⟩) ∧
      ∀ s target, N.node i = .store s → KeyMap.find? key s.overrides = some target →
        (N.scope i).resolve key = (N.scope target).resolve key := by
  obtain ⟨places, result, hpath⟩ := N.exists_path key i
  refine ⟨places, result, hpath, fun _ _ hpath' => path_unique hpath hpath', ?_, ?_⟩
  · rw [resolve_of_path hpath]
    cases result <;> rfl
  · intro s target hs ht
    exact resolve_step (.override hs ht)

/-! ## A lookup that goes sideways -/

theorem acyclic_of_lt {n : Nat} {node : Fin n → Node (Fin n)}
    (h : ∀ i, ∀ j ∈ (node i).targets, j < i) (i : Fin n) :
    ¬ Relation.TransGen (fun i j => j ∈ (node i).targets) i i := by
  have hlt : ∀ j, Relation.TransGen (fun i j => j ∈ (node i).targets) i j → j < i := by
    intro j hj
    induction hj with
    | single hj => exact h _ _ hj
    | tail _ hj ih => exact lt_trans (h _ _ hj) ih
  exact fun hi => lt_irrefl i (hlt i hi)

/-- The scopes of `sideways`. -/
def sidewaysNode : Fin 5 → Node (Fin 5)
  | 0 => .container (KeyMap.ofList [("speed", ⟨"25", none⟩)]) none
  | 1 => .store ⟨∅, [], some 0⟩
  | 2 => .store ⟨KeyMap.ofList [("speed", "60")], [], none⟩
  | 3 => .store ⟨KeyMap.ofList [("speed", "90")], [("speed", 1)], some 2⟩
  | 4 => .messenger 3

/-- A messenger in front of a store that has a text of its own and a parent with another one, but
looks the speed up in a store inside a container. -/
def sideways : Network (Fin 5) where
  node := sidewaysNode
  nested {i own p} h := by
    match i with
    | 0 | 1 | 2 | 3 | 4 => simp [sidewaysNode] at h
  acyclic := acyclic_of_lt (by decide)

/-- The speed is the one at the end of the path through the target. -/
theorem resolve_path_sideways : Finite (Fin 5) ∧
    sideways.Path "speed" 4 [4, 3, 1, 0] (some "25") ∧
    ((sideways.scope 4).resolve "speed").run = ⟨.ok "25", []⟩ := by
  have hspeed : (KeyMap.ofList [("speed", Setting.mk "25" none)]).get? "speed" =
      some ⟨"25", none⟩ := by decide
  have hpath : sideways.Path "speed" 4 [4, 3, 1, 0] (some "25") := by
    refine .step (.messenger rfl) (.step (.override rfl (by decide)) (.step ?_ (.stop ?_)))
    · exact .storeParent rfl rfl rfl rfl
    · exact .containerText rfl hspeed
  obtain ⟨places, result, -, hunique, hrun, -⟩ := resolve_path sideways "speed" 4
  obtain ⟨-, rfl⟩ := hunique _ _ hpath
  exact ⟨inferInstance, hpath, hrun⟩

end Network

end PrintSettings
