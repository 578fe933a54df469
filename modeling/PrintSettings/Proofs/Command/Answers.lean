import PrintSettings.Command.Run
import PrintSettings.Proofs.Document.Containers
import PrintSettings.Proofs.Outcome

/-! # Answers in closed form

The answer to a question for the text of a setting can be read off the document (`textOf`), without
containers: from the texts of the extruder that was chosen, the global ones and the limits
(`result_get_text`). -/

namespace PrintSettings

namespace Document

/-! ## Texts -/

/-- The error for a number that addresses no extruder. -/
def outOfRange (d : Document) (index : Nat) : SettingError :=
  .extruderOutOfRange (Container.signedWord index) d.extruderCount

/-- The scope's own text, else the global one. -/
def plainText (d : Document) (key : String) (own : Option String) : Except SettingError String :=
  match own, d.global.get? key with
  | some text, _ => .ok text
  | none, some text => .ok text
  | none, none => .error (.missingKey key)

/-- The scope's own text; else the global one, unless the key is limited to an extruder: then the
text of that extruder, if it has one. -/
def limitedText (d : Document) (key : String) (own : Option String) : Except SettingError String :=
  match own, d.global.get? key, d.limits.get? key with
  | some text, _, _ => .ok text
  | none, none, _ => .error (.missingKey key)
  | none, some text, none => .ok text
  | none, some text, some index =>
    match d.extruders[index]? with
    | none => .error (d.outOfRange index)
    | some settings => .ok ((settings.get? key).getD text)

/-- The text of a key in a scope with this text of its own. -/
def scopeText (d : Document) (key : String) (own : Option String) :
    Bool → Except SettingError String
  | false => d.plainText key own
  | true => d.limitedText key own

/-- **The text of a key** in the global scope or in that of an extruder. -/
def textOf (d : Document) (key : String) (extruder : Option Nat) (limited : Bool) :
    Except SettingError String :=
  match extruder with
  | none => d.scopeText key none limited
  | some index =>
    match d.extruders[index]? with
    | none => .error (d.outOfRange index)
    | some settings => d.scopeText key (settings.get? key) limited

theorem limitedText_of_limit {d : Document} {key text : String} {index : Nat}
    (hg : d.global.get? key = some text) (hl : d.limits.get? key = some index) :
    d.limitedText key none = match d.extruders[index]? with
      | none => .error (d.outOfRange index)
      | some settings => .ok ((settings.get? key).getD text) := by
  unfold limitedText
  rw [hg, hl]

/-- With every limit in range, the limited text is there wherever the plain one is. -/
theorem exists_limitedText {d : Document} {key text : String} {own : Option String}
    (hlimits : ∀ k index, d.limits.get? k = some index → index < d.extruderCount)
    (h : d.plainText key own = .ok text) : ∃ text', d.limitedText key own = .ok text' := by
  cases own with
  | some text => exact ⟨text, rfl⟩
  | none =>
    unfold plainText at h
    cases hg : d.global.get? key with
    | none => rw [hg] at h; contradiction
    | some text =>
      cases hl : d.limits.get? key with
      | none => exact ⟨text, by unfold limitedText; rw [hg, hl]⟩
      | some index =>
        rw [limitedText_of_limit hg hl, List.getElem?_eq_getElem (hlimits key index hl)]
        exact ⟨_, rfl⟩

theorem exists_limited_textOf {d : Document} {key text : String} {extruder : Option Nat}
    (hlimits : ∀ k index, d.limits.get? k = some index → index < d.extruderCount)
    (h : d.textOf key extruder false = .ok text) :
    ∃ text', d.textOf key extruder true = .ok text' := by
  unfold textOf at h ⊢
  cases extruder with
  | none => exact exists_limitedText hlimits h
  | some index =>
    cases hs : d.extruders[index]? with
    | none => simp only [hs] at h; contradiction
    | some settings =>
      simp only [hs] at h ⊢
      exact exists_limitedText hlimits h

/-! ## Containers -/

variable {d : Document} {c : Container} {key : String} {own : Option String}

theorem result_get_plain (h : c.find? key = d.nearest key own) :
    (c.get .text key).result = d.plainText key own := by
  unfold Container.get Container.resolve plainText
  rw [h, nearest]
  cases own <;> cases d.global.get? key <;> rfl

theorem extruder_extruderContainers (d : Document) (index : Nat) :
    Container.extruder d.extruderContainers index = match d.extruders[index]? with
      | none => .error (d.outOfRange index)
      | some settings => .ok ⟨ownEntries settings, [d.globalEntries]⟩ := by
  rw [Container.extruder, length_extruderContainers, extruderContainers_eq, List.getElem?_map]
  cases d.extruders[index]? <;> rfl

theorem result_getLimited (h : c.find? key = d.nearest key own) :
    (c.getLimited .text key d.extruderContainers).result = d.limitedText key own := by
  unfold Container.getLimited
  rw [h, nearest]
  cases own with
  | some text => rfl
  | none =>
    cases hg : d.global.get? key with
    | none => unfold limitedText; rw [hg]; rfl
    | some text =>
      cases hl : d.limits.get? key with
      | none => unfold limitedText; rw [hg, hl]; rfl
      | some index =>
        rw [limitedText_of_limit hg hl]
        simp only [Option.map_none, Option.map_some, Option.none_or, Outcome.result_bind,
          Outcome.result_ofExcept, extruder_extruderContainers]
        cases d.extruders[index]? with
        | none => rfl
        | some settings =>
          -- the entry of the extruder, or the global one again: its limit is not followed twice
          show (Container.get ⟨ownEntries settings, [d.globalEntries]⟩ .text key).result =
            .ok ((settings.get? key).getD text)
          rw [result_get_plain (d.find?_extruder settings key)]
          unfold plainText
          rw [hg]
          cases settings.get? key <;> rfl

end Document

namespace Command

open PrintSettings.Value

/-! ## Answers -/

/-- The reports of a question and the scope that it is about. -/
def enter (d : Document) (registry : Registry) (key : String) (extruder : Option Nat) :
    Outcome Container := do
  if !registry.isEmpty && !registry.contains key then
    Outcome.record .warn ("Querying setting '" ++ key ++ "' which is not in the definitions")
  Outcome.record .debug ("Built global scope and " ++ toString d.extruderContainers.length ++
    " extruder scope(s)")
  match extruder with
  | some index => Outcome.ofExcept (Container.extruder d.extruderContainers index)
  | none => pure d.globalContainer

theorem get_eq_enter (d : Document) (registry : Registry) (q : Query) :
    get d registry q = (do
      let scope ← enter d registry q.key q.extruder
      renderForm q.form scope q.key d.extruderContainers q.limited) := by
  unfold get answer enter
  by_cases h : (!registry.isEmpty && !registry.contains q.key) = true
  · simp only [if_pos h, bind_assoc]
    cases q.extruder <;> simp only [pure_bind]
  · simp only [if_neg h, pure_bind, bind_assoc]
    cases q.extruder <;> simp only [pure_bind]

theorem result_enter (d : Document) (registry : Registry) (key : String) (extruder : Option Nat) :
    (enter d registry key extruder).result = match extruder with
      | none => .ok ⟨d.globalEntries, []⟩
      | some index => match d.extruders[index]? with
        | none => .error (d.outOfRange index)
        | some settings => .ok ⟨Document.ownEntries settings, [d.globalEntries]⟩ := by
  have hrun : (enter d registry key extruder).result = (match extruder with
      | some index => Outcome.ofExcept (Container.extruder d.extruderContainers index)
      | none => pure d.globalContainer).result := by
    unfold enter
    by_cases h : (!registry.isEmpty && !registry.contains key) = true
    · simp only [if_pos h]; rfl
    · simp only [if_neg h]; rfl
  rw [hrun]
  cases extruder with
  | none => rw [Outcome.result_pure, Document.globalContainer_eq]
  | some index => rw [Outcome.result_ofExcept, Document.extruder_extruderContainers]

/-- The text of a setting, as a scope is asked for it. -/
def fetchText (c : Container) (key : String) (extruders : List Container) : Bool → Outcome String
  | false => c.get .text key
  | true => c.getLimited .text key extruders

theorem renderForm_text (c : Container) (key : String) (extruders : List Container)
    (limited : Bool) :
    renderForm (.value .text) c key extruders limited = fetchText c key extruders limited := by
  cases limited <;> exact bind_pure _

theorem result_fetchText {d : Document} {c : Container} {key : String} {own : Option String}
    (h : c.find? key = d.nearest key own) (limited : Bool) :
    (fetchText c key d.extruderContainers limited).result = d.scopeText key own limited := by
  cases limited with
  | false => exact Document.result_get_plain h
  | true => exact Document.result_getLimited h

theorem result_get_text (d : Document) (registry : Registry) (key : String)
    (extruder : Option Nat) (limited : Bool) :
    (get d registry ⟨key, .value .text, extruder, limited⟩).result =
      d.textOf key extruder limited := by
  rw [get_eq_enter, Outcome.result_bind, result_enter]
  unfold Document.textOf
  simp only [renderForm_text]
  cases extruder with
  | none => exact result_fetchText (d.find?_global key) limited
  | some index =>
    dsimp only
    cases d.extruders[index]? with
    | none => rfl
    | some settings => exact result_fetchText (d.find?_extruder settings key) limited

/-- **Texts in closed form.** The answer to a question for a text is what the document says, and with
every limit in range following limits loses no text. -/
theorem text_answer (d : Document) (registry : Registry) (key : String) (extruder : Option Nat) :
    (∀ limited, (get d registry ⟨key, .value .text, extruder, limited⟩).result =
      d.textOf key extruder limited) ∧
    ((∀ k index, d.limits.get? k = some index → index < d.extruderCount) →
      ∀ text, (get d registry ⟨key, .value .text, extruder, false⟩).result = .ok text →
        ∃ text', (get d registry ⟨key, .value .text, extruder, true⟩).result = .ok text') := by
  refine ⟨result_get_text d registry key extruder, fun hlimits text h => ?_⟩
  rw [result_get_text] at h ⊢
  exact Document.exists_limited_textOf hlimits h

/-- Two extruders, one of which has a text of its own for a key that is limited to it. -/
def twoExtruders : Document where
  global := KeyMap.ofList [("width", "0.4")]
  limits := KeyMap.ofList [("width", 1)]
  extruders := [∅, KeyMap.ofList [("width", "0.6")]]

theorem text_answer_twoExtruders :
    (∀ k index, twoExtruders.limits.get? k = some index → index < twoExtruders.extruderCount) ∧
    (get twoExtruders ∅ ⟨"width", .value .text, none, false⟩).result = .ok "0.4" ∧
    (get twoExtruders ∅ ⟨"width", .value .text, none, true⟩).result = .ok "0.6" ∧
    ∃ text, (get twoExtruders ∅ ⟨"width", .value .text, some 0, true⟩).result = .ok text := by
  have hlimits : ∀ k index, twoExtruders.limits.get? k = some index →
      index < twoExtruders.extruderCount := by
    intro k index h
    have hmem : (k, index) ∈ [("width", 1)] := KeyMap.mem_of_find?_eq_some h
    rw [List.mem_singleton, Prod.mk.injEq] at hmem
    rw [hmem.2]
    decide
  obtain ⟨hanswer, -⟩ := text_answer twoExtruders ∅ "width" none
  obtain ⟨hanswer', htext⟩ := text_answer twoExtruders ∅ "width" (some 0)
  exact ⟨hlimits, (hanswer false).trans rfl, (hanswer true).trans rfl,
    htext hlimits "0.4" ((hanswer' false).trans rfl)⟩

end Command

end PrintSettings
