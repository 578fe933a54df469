import PrintSettings.Proofs.Command.Precedence
import PrintSettings.Proofs.Command.Stages
import PrintSettings.Proofs.File

/-! # Phases of a run

A run goes through phases in a fixed order. What can be wrong in each of them is said for every phase
by itself (`Fault`), so that several may be at fault at once. A run fails for the first one of them,
and it does not fail if there is none (`verdict_output`).

* `Verdict`: a computation fails for the first fault of some phases.
* `Verdict.bind`: phases follow each other as computations do.
* `verdict_loadRegistry`, `verdict_loadDocument`, `verdict_reply`: the phases in their order.
* `isSome_outgrowth?_iff`: between two phases, a run may come to a pair that memory does not last
  for. -/

namespace PrintSettings

/-! ## Texts of a scope -/

namespace Document

variable {d : Document} {key : String} {extruder : Option Nat} {own : Option String}

/-- The text that the scope asked has of its own. The extruder must be there. -/
def ownText (d : Document) (key : String) (extruder : Option Nat) :
    Except SettingError (Option String) :=
  match extruder with
  | none => .ok none
  | some index =>
    match d.extruders[index]? with
    | none => .error (d.outOfRange index)
    | some settings => .ok (settings.get? key)

/-- The extruder asked, if there is one, has no text of its own. -/
def NoneOwn (d : Document) (key : String) (extruder : Option Nat) : Prop :=
  ∀ index ∈ extruder, ∃ settings, d.extruders[index]? = some settings ∧ settings.get? key = none

theorem textOf_eq_bind (limited : Bool) : d.textOf key extruder limited =
    d.ownText key extruder >>= fun own => d.scopeText key own limited := by
  unfold textOf ownText
  cases extruder with
  | none => rfl
  | some index =>
    dsimp only
    cases d.extruders[index]? <;> rfl

theorem ownText_eq_error_iff {e : SettingError} : d.ownText key extruder = .error e ↔
    ∃ index, extruder = some index ∧ d.extruderCount ≤ index ∧ e = d.outOfRange index := by
  unfold ownText extruderCount
  cases extruder with
  | none => simp
  | some index =>
    cases h : d.extruders[index]? with
    | none => simp [List.getElem?_eq_none_iff.1 h, eq_comm]
    | some settings =>
      have hlt : index < d.extruders.length := (List.getElem?_eq_some_iff.1 h).1
      simp [h, Nat.not_le.2 hlt]

theorem ownText_eq_none_iff : d.ownText key extruder = .ok none ↔ d.NoneOwn key extruder := by
  unfold ownText NoneOwn
  cases extruder with
  | none => simp
  | some index => cases h : d.extruders[index]? <;> simp [h]

theorem scopeText_eq_error_iff {limited : Bool} {e : SettingError} :
    d.scopeText key own limited = .error e ↔ own = none ∧
      (d.global.get? key = none ∧ e = .missingKey key ∨
        limited = true ∧ ∃ text index, d.global.get? key = some text ∧
          d.limits.get? key = some index ∧ d.extruderCount ≤ index ∧ e = d.outOfRange index) := by
  cases own with
  | some text => cases limited <;> simp [scopeText, plainText, limitedText]
  | none =>
    cases hg : d.global.get? key with
    | none => cases limited <;> simp [scopeText, plainText, limitedText, hg, eq_comm]
    | some text =>
      cases limited with
      | false => simp [scopeText, plainText, hg]
      | true =>
        cases hl : d.limits.get? key with
        | none => simp [scopeText, limitedText, hg, hl]
        | some index =>
          rw [scopeText, limitedText_of_limit hg hl]
          cases hs : d.extruders[index]? with
          | none => simp [extruderCount, List.getElem?_eq_none_iff.1 hs, eq_comm]
          | some settings =>
            have hlt : index < d.extruders.length := (List.getElem?_eq_some_iff.1 hs).1
            simp [extruderCount, Nat.not_le.2 hlt]

end Document

namespace Command

/-! ## Faults -/

/-- What a run goes through before it prints. -/
inductive Phase where
  | definitions
  | settings
  | environment
  | pairs
  | extruderPairs
  | extruder
  | lookup
deriving DecidableEq, Repr

/-- The phases in their order. -/
def Phase.inOrder : List Phase :=
  [definitions, settings, environment, pairs, extruderPairs, extruder, lookup]

section Faults

variable (files : String → Contents) (environment : List Variable) (i : Invocation)

/-- The document of an invocation: the settings file, the environment and the pairs are in order. -/
def Holds (d : Document) : Prop :=
  (loadDocument files environment i.settings i.inputs).result = .ok d

/-- What can be wrong in a phase, and the exit status that it asks for. The last two phases ask the
document, and are about questions only. -/
inductive Fault : Phase → SettingError → (status : Nat) → Prop where
  | definitions {path : String} {e : SettingError} : i.definitions = some path →
    FileFault Definitions.Malformed (files path) e → Fault .definitions e 1
  | settings {path : String} {e : SettingError} : i.settings = some path →
    FileFault Document.Malformed (files path) e → Fault .settings e 1
  /-- The first variable with a mark whose value is no text. -/
  | environment {before : List Variable} {v : Variable} {after : List Variable} {rest : String} :
    environment = before ++ v :: after → ¬ Loader.standard.Unreadable before →
    Loader.standard.Names v rest → ¬ v.value.IsValidUTF8 →
    Fault .environment (.invalidArgument (.notUtf8 (Loader.standard.mark ++ rest))) 1
  | pair {fault : ArgumentFault} : FirstMalformed Pair.Malformed i.inputs.pairs fault →
    Fault .pairs (.invalidArgument fault) 1
  | extruderPair {fault : ArgumentFault} :
    FirstMalformed ExtruderPair.Malformed i.inputs.extruderPairs fault →
    Fault .extruderPairs (.invalidArgument fault) 1
  /-- The extruder asked is not there. -/
  | extruder {d : Document} {q : Query} {index : Nat} : Holds files environment i d →
    i.action = .get q → q.extruder = some index → d.extruderCount ≤ index →
    Fault .extruder (d.outOfRange index) 3
  /-- No scope has a text. -/
  | missing {d : Document} {q : Query} : Holds files environment i d → i.action = .get q →
    d.NoneOwn q.key q.extruder → d.global.get? q.key = none →
    Fault .lookup (.missingKey q.key) 2
  /-- The extruder that the global text is limited to is not there. -/
  | limit {d : Document} {q : Query} {text : String} {index : Nat} :
    Holds files environment i d → i.action = .get q → q.followsLimit = true →
    d.Redirects q.key q.extruder text index → d.extruderCount ≤ index →
    Fault .lookup (d.outOfRange index) 3
  /-- The text is asked for as the number of an extruder and is none. -/
  | number {d : Document} {q : Query} {text : String} : Holds files environment i d →
    i.action = .get q → q.form = .extruder → d.textOf q.key q.extruder false = .ok text →
    ¬ IsNumber d.extruderCount text →
    Fault .lookup (.extruderOutOfRange (numberOf text) d.extruderCount) 3

/-- Nothing is wrong in a phase. -/
def Passed (p : Phase) : Prop := ∀ e status, ¬ Fault files environment i p e status

/-- What is wrong in the first of some phases in which anything is. -/
def FirstFault (phases : List Phase) (e : SettingError) (status : Nat) : Prop :=
  ∃ before p after, phases = before ++ p :: after ∧ (∀ q ∈ before, Passed files environment i q) ∧
    Fault files environment i p e status

end Faults

variable {files : String → Contents} {environment : List Variable} {i : Invocation}
  {phases phases' : List Phase} {p : Phase} {e : SettingError} {status : Nat}

/-- **The status that a fault asks for is the exit code of its error.** -/
theorem Fault.status_eq (h : Fault files environment i p e status) : status = e.exitCode := by
  cases h with
  | definitions _ h => cases h <;> rfl
  | settings _ h => cases h <;> rfl
  | _ => rfl

theorem FirstFault.append_right (h : FirstFault files environment i phases e status) :
    FirstFault files environment i (phases ++ phases') e status := by
  obtain ⟨before, p, after, rfl, hbefore, hfault⟩ := h
  exact ⟨before, p, after ++ phases', by simp, hbefore, hfault⟩

theorem FirstFault.append_left (hpassed : ∀ q ∈ phases, Passed files environment i q)
    (h : FirstFault files environment i phases' e status) :
    FirstFault files environment i (phases ++ phases') e status := by
  obtain ⟨before, p, after, rfl, hbefore, hfault⟩ := h
  refine ⟨phases ++ before, p, after, by simp, fun q hq => ?_, hfault⟩
  exact (List.mem_append.1 hq).elim (hpassed q) (hbefore q)

/-! ## Verdicts -/

/-- A computation fails for the first fault of some phases, and if there is none it does not. -/
def Verdict {α : Type} (files : String → Contents) (environment : List Variable) (i : Invocation)
    (phases : List Phase) : Except Failure α → Prop
  | .ok _ => ∀ p ∈ phases, Passed files environment i p
  | .error f => ∃ status, FirstFault files environment i phases f.error status

section Verdicts

variable {α β : Type}

theorem Verdict.bind {x : Except Failure α} {f : α → Except Failure β}
    (hx : Verdict files environment i phases x)
    (hf : ∀ a, x = .ok a → Verdict files environment i phases' (f a)) :
    Verdict files environment i (phases ++ phases') (x >>= f) := by
  cases x with
  | error failure =>
    obtain ⟨status, hfirst⟩ := hx
    exact ⟨status, hfirst.append_right⟩
  | ok a =>
    have hfa := hf a rfl
    show Verdict files environment i (phases ++ phases') (f a)
    cases hresult : f a with
    | error failure =>
      rw [hresult] at hfa
      obtain ⟨status, hfirst⟩ := hfa
      exact ⟨status, hfirst.append_left hx⟩
    | ok b =>
      rw [hresult] at hfa
      exact fun q hq => (List.mem_append.1 hq).elim (hx q) (hfa q)

theorem Verdict.cons {x : Except Failure α} {f : α → Except Failure β}
    (hx : Verdict files environment i [p] x)
    (hf : ∀ a, x = .ok a → Verdict files environment i phases (f a)) :
    Verdict files environment i (p :: phases) (x >>= f) := hx.bind hf

theorem verdict_ok (a : α) : Verdict files environment i [] (.ok a) := fun _ hq => nomatch hq

theorem Verdict.exists_ok_iff {x : Except Failure α}
    (h : Verdict files environment i phases x) :
    (∃ a, x = .ok a) ↔ ∀ p ∈ phases, Passed files environment i p := by
  cases x with
  | ok a => exact iff_of_true ⟨a, rfl⟩ h
  | error f =>
    refine iff_of_false (fun ⟨_, herror⟩ => nomatch herror) fun hpassed => ?_
    obtain ⟨status, before, p, after, rfl, -, hfault⟩ := h
    exact hpassed p (by simp) _ _ hfault

/-- A computation that fails exactly for the faults of one phase. -/
theorem verdict_of_iff {x : Except SettingError α}
    (h : ∀ e, x = .error e ↔ ∃ status, Fault files environment i p e status)
    (tasks : List String) :
    Verdict files environment i [p] (x.mapError (Failure.mk tasks)) := by
  cases hx : x with
  | error e =>
    obtain ⟨status, hfault⟩ := (h e).1 hx
    exact ⟨status, [], p, [], rfl, by simp, hfault⟩
  | ok a =>
    intro q hq e status hfault
    rw [List.mem_singleton] at hq
    subst hq
    have herror := (h e).2 ⟨status, hfault⟩
    rw [hx] at herror
    contradiction

end Verdicts

/-! ## Phases -/

theorem verdict_loadRegistry :
    Verdict files environment i [.definitions] (loadRegistry files i.definitions).result := by
  cases hpath : i.definitions with
  | none =>
    intro q hq e status hfault
    rw [List.mem_singleton] at hq
    subst hq
    cases hfault with
    | definitions hpath' _ => rw [hpath] at hpath'; contradiction
  | some path =>
    show Verdict files environment i [.definitions]
      ((Registry.ofFile (files path)).result.mapError (Failure.mk _))
    refine verdict_of_iff (fun e => ?_) _
    rw [Registry.result_ofFile_eq_error_iff]
    constructor
    · exact fun h => ⟨1, .definitions hpath h⟩
    · rintro ⟨_, hfault⟩
      cases hfault with
      | definitions hpath' h =>
        rw [hpath] at hpath'
        cases hpath'
        exact h

theorem base_eq_error_iff : Loader.base (sourceOf files i.settings) = .error e ↔
    ∃ status, Fault files environment i .settings e status := by
  cases hpath : i.settings with
  | none =>
    refine iff_of_false (fun h => nomatch h) ?_
    rintro ⟨_, hfault⟩
    cases hfault with
    | settings hpath' _ => rw [hpath] at hpath'; contradiction
  | some path =>
    refine Loader.base_file_eq_error_iff.trans ⟨fun h => ⟨1, .settings hpath h⟩, ?_⟩
    rintro ⟨_, hfault⟩
    cases hfault with
    | settings hpath' h =>
      rw [hpath] at hpath'
      cases hpath'
      exact h

theorem overrideAll_eq_error_iff (d : Document) :
    (Loader.standard.overrideAll d environment).result = .error e ↔
      ∃ status, Fault files environment i .environment e status := by
  rw [Loader.overrideAll_eq_error_iff]
  constructor
  · rintro ⟨before, v, after, rest, henv, hbefore, hnames, hvalue, rfl⟩
    exact ⟨1, .environment henv hbefore hnames hvalue⟩
  · rintro ⟨_, hfault⟩
    cases hfault with
    | environment henv hbefore hnames hvalue =>
      exact ⟨_, _, _, _, henv, hbefore, hnames, hvalue, rfl⟩

theorem mapM_pairs_eq_error_iff : i.inputs.pairs.mapM Pair.parse = .error e ↔
    ∃ status, Fault files environment i .pairs e status := by
  rw [Pair.refuses_parse.mapM_eq_error_iff]
  constructor
  · rintro ⟨fault, hfirst, rfl⟩
    exact ⟨1, .pair hfirst⟩
  · rintro ⟨_, hfault⟩
    cases hfault with
    | pair hfirst => exact ⟨_, hfirst, rfl⟩

theorem mapM_extruderPairs_eq_error_iff :
    i.inputs.extruderPairs.mapM ExtruderPair.parse = .error e ↔
      ∃ status, Fault files environment i .extruderPairs e status := by
  rw [ExtruderPair.refuses_parse.mapM_eq_error_iff]
  constructor
  · rintro ⟨fault, hfirst, rfl⟩
    exact ⟨1, .extruderPair hfirst⟩
  · rintro ⟨_, hfault⟩
    cases hfault with
    | extruderPair hfirst => exact ⟨_, hfirst, rfl⟩

theorem mapError_apply (inputs : Inputs) (d : Document) (tasks : List String) :
    (inputs.apply d).mapError (Failure.mk tasks) = (do
      let pairs ← (inputs.pairs.mapM Pair.parse).mapError (Failure.mk tasks)
      let extruderPairs ← (inputs.extruderPairs.mapM ExtruderPair.parse).mapError
        (Failure.mk tasks)
      return extruderPairs.foldl Document.setExtruder (pairs.foldl Document.set d)) := by
  rw [Inputs.apply_eq]
  cases inputs.pairs.mapM Pair.parse <;>
    cases inputs.extruderPairs.mapM ExtruderPair.parse <;> rfl

theorem verdict_loadBase : Verdict files environment i [.settings, .environment]
    (loadBase files environment i.settings).result := by
  rw [result_loadBase]
  refine .cons (verdict_of_iff (fun _ => base_eq_error_iff) _) fun base _ => ?_
  exact verdict_of_iff (fun _ => overrideAll_eq_error_iff base) _

theorem verdict_loadDocument :
    Verdict files environment i [.settings, .environment, .pairs, .extruderPairs]
      (loadDocument files environment i.settings i.inputs).result := by
  rw [result_loadDocument]
  refine verdict_loadBase.bind fun d _ => ?_
  rw [mapError_apply]
  refine .cons (verdict_of_iff (fun _ => mapM_pairs_eq_error_iff) _) fun pairs _ => ?_
  exact .cons (verdict_of_iff (fun _ => mapM_extruderPairs_eq_error_iff) _) fun _ _ => verdict_ok _

/-! ## Memory -/

section Memory

variable {room : Nat}

theorem hasRoom_setExtruder {d : Document} {p : ExtruderPair} (h : d.hasRoom room p)
    (q : ExtruderPair) : (d.setExtruder p).hasRoom room q = d.hasRoom room q := by
  have hindex : p.index < max d.extruderCount room := of_decide_eq_true h
  have hmax : max (max d.extruderCount (p.index + 1)) room = max d.extruderCount room := by omega
  rw [Document.hasRoom, d.extruderCount_setExtruder, hmax, Document.hasRoom]

/-- Pairs are read up to one that there is no room for, and those before it do not make room. -/
theorem isSome_outgrowthFrom?_iff {d : Document} {arguments : List String} :
    (outgrowthFrom? room d arguments).isSome ↔ ∃ before arg after,
      arguments = before ++ arg :: after ∧ (∀ a ∈ before, ∃ q, ExtruderPair.parse a = .ok q) ∧
      ∃ p, ExtruderPair.parse arg = .ok p ∧ d.hasRoom room p = false := by
  induction arguments generalizing d with
  | nil => simp [outgrowthFrom?]
  | cons arg rest ih =>
    rw [outgrowthFrom?, exists_first_cons_iff]
    cases ExtruderPair.parse arg with
    | error e => simp
    | ok p =>
      cases hroom : d.hasRoom room p with
      | false => simp [hroom]
      | true => simp [hroom, ih, hasRoom_setExtruder hroom]

variable (files environment i room) in
/-- A run comes to a pair that there is no room for: its extruder is not there, and memory does not
last for the extruders up to it. Nothing is wrong before. -/
def Outgrows : Prop :=
  (∀ p ∈ [Phase.definitions, .settings, .environment, .pairs], Passed files environment i p) ∧
  ∃ d, (loadBase files environment i.settings).result = .ok d ∧
    ∃ before arg after p, i.inputs.extruderPairs = before ++ arg :: after ∧
      NoneMalformed ExtruderPair.Malformed before ∧ ExtruderPair.parse arg = .ok p ∧
      d.extruderCount ≤ p.index ∧ room ≤ p.index

theorem isSome_toOption_bind {ε α β : Type} {x : Except ε α} {f : α → Option β} :
    (x.toOption >>= f).isSome ↔ ∃ a, x = .ok a ∧ (f a).isSome := by
  cases x <;> simp [Except.toOption]

theorem hasRoom_foldl_set_eq_false_iff {d : Document} {pairs : List Pair} {p : ExtruderPair} :
    (pairs.foldl Document.set d).hasRoom room p = false ↔
      d.extruderCount ≤ p.index ∧ room ≤ p.index := by
  have hcount : (pairs.foldl Document.set d).extruderCount = d.extruderCount := by
    rw [Document.foldl_set]
    rfl
  rw [Document.hasRoom, hcount, decide_eq_false_iff_not, Nat.not_lt, Nat.max_le]

theorem exists_mapM_pairs_iff : (∃ pairs, i.inputs.pairs.mapM Pair.parse = .ok pairs) ↔
    Passed files environment i .pairs := by
  have hverdict : Verdict files environment i [.pairs]
      ((i.inputs.pairs.mapM Pair.parse).mapError (Failure.mk [])) :=
    verdict_of_iff (fun _ => mapM_pairs_eq_error_iff) []
  simpa [mapError_eq_ok_iff] using hverdict.exists_ok_iff

/-- **Where memory does not last.** -/
theorem isSome_outgrowth?_iff :
    (outgrowth? room files environment i).isSome ↔ Outgrows files environment i room := by
  have hbefore (before : List String) : (∀ a ∈ before, ∃ q, ExtruderPair.parse a = .ok q) ↔
      NoneMalformed ExtruderPair.Malformed before := by
    simp only [ExtruderPair.refuses_parse.exists_ok_iff, NoneMalformed]
  unfold outgrowth? Outgrows
  simp only [isSome_toOption_bind, isSome_outgrowthFrom?_iff, hbefore,
    hasRoom_foldl_set_eq_false_iff, exists_and_left]
  constructor
  · rintro ⟨registry, hregistry, d, hd, pairs, hpairs, hpair⟩
    have hdefinitions : ∀ p ∈ [Phase.definitions], Passed files environment i p :=
      verdict_loadRegistry.exists_ok_iff.1 ⟨registry, hregistry⟩
    have hbase : ∀ p ∈ [Phase.settings, .environment], Passed files environment i p :=
      verdict_loadBase.exists_ok_iff.1 ⟨d, hd⟩
    have hpassed : Passed files environment i .pairs := exists_mapM_pairs_iff.1 ⟨pairs, hpairs⟩
    simp only [List.forall_mem_cons] at hdefinitions hbase ⊢
    exact ⟨⟨hdefinitions.1, hbase.1, hbase.2.1, hpassed, hbase.2.2⟩, d, hd, hpair⟩
  · rintro ⟨hpassed, d, hd, hpair⟩
    simp only [List.forall_mem_cons] at hpassed
    obtain ⟨hdefinitions, -, -, hpairs, -⟩ := hpassed
    obtain ⟨registry, hregistry⟩ :=
      verdict_loadRegistry.exists_ok_iff.2 (List.forall_mem_singleton.2 hdefinitions)
    obtain ⟨pairs, hpairs⟩ := exists_mapM_pairs_iff.2 hpairs
    exact ⟨registry, hregistry, d, hd, pairs, hpairs, hpair⟩

end Memory

/-! ## Questions -/

section Questions

variable {d : Document} {q : Query} (hd : Holds files environment i d) (hq : i.action = .get q)
include hd hq

theorem ownText_eq_error_iff : d.ownText q.key q.extruder = .error e ↔
    ∃ status, Fault files environment i .extruder e status := by
  rw [Document.ownText_eq_error_iff]
  constructor
  · rintro ⟨index, hindex, hcount, rfl⟩
    exact ⟨3, .extruder hd hq hindex hcount⟩
  · rintro ⟨_, hfault⟩
    cases hfault with
    | extruder hd' hq' hindex hcount =>
      cases Except.ok.inj (hd.symm.trans hd')
      cases Action.get.inj (hq.symm.trans hq')
      exact ⟨_, hindex, hcount, rfl⟩

theorem lookup_eq_error_iff {own : Option String}
    (hown : d.ownText q.key q.extruder = .ok own) :
    (d.scopeText q.key own q.followsLimit >>= q.form.reply d.extruderCount q.key) = .error e ↔
      ∃ status, Fault files environment i .lookup e status := by
  have hnone : own = none ↔ d.NoneOwn q.key q.extruder := by
    rw [← Document.ownText_eq_none_iff, hown, Except.ok.injEq]
  have htextOf (limited : Bool) : d.textOf q.key q.extruder limited =
      d.scopeText q.key own limited := by
    rw [Document.textOf_eq_bind, hown]
    rfl
  constructor
  · intro h
    cases htext : d.scopeText q.key own q.followsLimit with
    | error e' =>
      rw [htext] at h
      cases h
      obtain ⟨hn, ⟨hg, rfl⟩ | ⟨hlimit, text, index, hg, hl, hcount, rfl⟩⟩ :=
        Document.scopeText_eq_error_iff.1 htext
      · exact ⟨2, .missing hd hq (hnone.1 hn) hg⟩
      · exact ⟨3, .limit hd hq hlimit ⟨hnone.1 hn, hg, hl⟩ hcount⟩
    | ok text =>
      rw [htext] at h
      obtain ⟨hform, hnumber, rfl⟩ := Form.reply_eq_error_iff.1 h
      rw [q.followsLimit_eq_false hform, ← htextOf] at htext
      exact ⟨3, .number hd hq hform htext hnumber⟩
  · rintro ⟨_, hfault⟩
    cases hfault with
    | missing hd' hq' hlacks hg =>
      cases Except.ok.inj (hd.symm.trans hd')
      cases Action.get.inj (hq.symm.trans hq')
      rw [Document.scopeText_eq_error_iff.2 ⟨hnone.2 hlacks, .inl ⟨hg, rfl⟩⟩]
      rfl
    | limit hd' hq' hlimit hredirects hcount =>
      cases Except.ok.inj (hd.symm.trans hd')
      cases Action.get.inj (hq.symm.trans hq')
      obtain ⟨hlacks, hg, hl⟩ := hredirects
      rw [Document.scopeText_eq_error_iff.2
        ⟨hnone.2 hlacks, .inr ⟨hlimit, _, _, hg, hl, hcount, rfl⟩⟩]
      rfl
    | number hd' hq' hform htext hnumber =>
      cases Except.ok.inj (hd.symm.trans hd')
      cases Action.get.inj (hq.symm.trans hq')
      rw [q.followsLimit_eq_false hform, ← htextOf, htext]
      exact Form.reply_eq_error_iff.2 ⟨hform, hnumber, rfl⟩

end Questions

theorem verdict_reply {d : Document} (hd : Holds files environment i d) :
    Verdict files environment i [.extruder, .lookup]
      ((d.reply i.action).mapError (Failure.mk [])) := by
  cases hq : i.action with
  | args =>
    -- both phases are about questions
    intro p hp e status hfault
    simp only [List.mem_cons, List.not_mem_nil, or_false] at hp
    rcases hp with rfl | rfl
    · cases hfault with
      | extruder _ hq' => rw [hq] at hq'; contradiction
    · cases hfault with
      | missing _ hq' | limit _ hq' | number _ hq' => rw [hq] at hq'; contradiction
  | get q =>
    have hreply : (d.reply (.get q)).mapError (Failure.mk []) = (do
        let own ← (d.ownText q.key q.extruder).mapError (Failure.mk [])
        (d.scopeText q.key own q.followsLimit >>=
          q.form.reply d.extruderCount q.key).mapError (Failure.mk [])) := by
      rw [Document.reply, Document.textOf_eq_bind, bind_assoc]
      cases d.ownText q.key q.extruder <;> rfl
    rw [hreply]
    refine .cons (verdict_of_iff (fun _ => ownText_eq_error_iff hd hq) _) fun own hown => ?_
    exact verdict_of_iff (fun _ => lookup_eq_error_iff hd hq (mapError_eq_ok_iff.1 hown)) _

/-- **A run fails for its first fault,** and does not fail if there is none. -/
theorem verdict_output :
    Verdict files environment i Phase.inOrder (output files environment i).result := by
  rw [result_output]
  refine .cons verdict_loadRegistry fun registry _ => ?_
  exact verdict_loadDocument.bind fun d hd => verdict_reply hd

end Command

end PrintSettings
