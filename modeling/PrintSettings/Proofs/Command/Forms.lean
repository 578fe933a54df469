import PrintSettings.Proofs.Command.Answers
import Std.Data.String.ToInt

/-! # Forms of answers

Whatever a setting is shown as, its text is looked up the same way and then read (`get_value`). The
number of an extruder is the exception: its text is looked up plainly, even if the question is a
limited one (`get_extruder`), so that a limit of the setting can be passed over. That is seen in the
answer if the limited extruder is not there or has another number (`OverlooksLimit`), and in no other
case (`readsText_iff_not_overlooksLimit`). -/

namespace PrintSettings

open PrintSettings.Value PrintSettings.Numeric

/-! ## Values -/

namespace Container

theorem get_eq_bind (c : Container) (kind : Kind) (key : String) :
    c.get kind key = c.get .text key >>= fun text => Outcome.ofLogged (kind.read key text) := by
  have htext : c.get .text key = c.resolve key := bind_pure _
  rw [htext]
  rfl

theorem getLimited_eq_bind (c : Container) (kind : Kind) (key : String)
    (extruders : List Container) : c.getLimited kind key extruders =
      c.getLimited .text key extruders >>= fun text => Outcome.ofLogged (kind.read key text) := by
  unfold getLimited
  split
  · rfl
  · rfl
  · simp only [bind_assoc, get_eq_bind _ kind]

end Container

namespace Command

theorem renderForm_value (kind : Kind) (c : Container) (key : String) (extruders : List Container)
    (limited : Bool) : renderForm (.value kind) c key extruders limited = (do
      let text ← fetchText c key extruders limited
      return kind.render (← Outcome.ofLogged (kind.read key text))) := by
  cases limited with
  | false =>
    show (c.get kind key >>= fun x => pure (kind.render x)) = _
    rw [Container.get_eq_bind, bind_assoc]
    rfl
  | true =>
    show (c.getLimited kind key extruders >>= fun x => pure (kind.render x)) = _
    rw [Container.getLimited_eq_bind, bind_assoc]
    rfl

/-- **A value is read from the text that is looked up.** -/
theorem get_value (d : Document) (registry : Registry) (key : String) (kind : Kind)
    (extruder : Option Nat) (limited : Bool) :
    get d registry ⟨key, .value kind, extruder, limited⟩ = (do
      let text ← get d registry ⟨key, .value .text, extruder, limited⟩
      return kind.render (← Outcome.ofLogged (kind.read key text))) := by
  rw [get_eq_enter, get_eq_enter, bind_assoc]
  simp only [renderForm_value kind, renderForm_text]

/-! ## Numbers of extruders -/

/-- The number that a text is read as. -/
def numberOf (text : String) : Int := intOrZero text.toList

/-- Whether a text is read as the number of an extruder. -/
def IsNumber (count : Nat) (text : String) : Prop := 0 ≤ numberOf text ∧ numberOf text < count

instance (count : Nat) (text : String) : Decidable (IsNumber count text) :=
  inferInstanceAs (Decidable (0 ≤ numberOf text ∧ numberOf text < count))

/-- The number of an extruder, if there is one with the number of the text. -/
def showNumber (count : Nat) (text : String) : Outcome String :=
  if IsNumber count text then pure (toString (numberOf text))
  else throw (.extruderOutOfRange (numberOf text) count)

theorem renderForm_extruder (c : Container) (key : String) (extruders : List Container)
    (limited : Bool) : renderForm .extruder c key extruders limited =
      fetchText c key extruders false >>= showNumber extruders.length := by
  show (c.getExtruder key extruders >>= fun _ => c.get .int64 key >>= fun n =>
    pure (Kind.int64.render n)) = (c.get .text key >>= showNumber extruders.length)
  unfold Container.getExtruder
  cases h : c.find? key with
  | none =>
    have hget (kind : Kind) : c.get kind key = Outcome.missing key := by
      unfold Container.get Container.resolve
      rw [h]
      rfl
    rw [hget, hget]
    rfl
  | some setting =>
    have hget (kind : Kind) : c.get kind key = Outcome.ofLogged (kind.read key setting.value) := by
      unfold Container.get Container.resolve
      rw [h]
      rfl
    rw [hget, hget]
    show (if IsNumber extruders.length setting.value then _ else _) >>= _ =
      showNumber extruders.length setting.value
    unfold showNumber
    split <;> rfl

/-- **The number of an extruder is read from the text that is looked up plainly.** -/
theorem get_extruder (d : Document) (registry : Registry) (key : String) (extruder : Option Nat)
    (limited : Bool) : get d registry ⟨key, .extruder, extruder, limited⟩ =
      get d registry ⟨key, .value .text, extruder, false⟩ >>= showNumber d.extruderCount := by
  rw [get_eq_enter, get_eq_enter, bind_assoc]
  simp only [renderForm_extruder, renderForm_text, Document.length_extruderContainers]

theorem result_showNumber (count : Nat) (text : String) :
    (showNumber count text).result = if IsNumber count text then .ok (toString (numberOf text))
      else .error (.extruderOutOfRange (numberOf text) count) := by
  unfold showNumber
  split <;> rfl

theorem result_get_value (d : Document) (registry : Registry) (key : String) (kind : Kind)
    (extruder : Option Nat) (limited : Bool) :
    (get d registry ⟨key, .value kind, extruder, limited⟩).result =
      d.textOf key extruder limited >>= fun text =>
        .ok (kind.render (kind.read key text).value) := by
  rw [get_value, Outcome.result_bind, result_get_text]
  rfl

theorem result_get_extruder (d : Document) (registry : Registry) (key : String)
    (extruder : Option Nat) (limited : Bool) :
    (get d registry ⟨key, .extruder, extruder, limited⟩).result =
      d.textOf key extruder false >>= fun text => (showNumber d.extruderCount text).result := by
  rw [get_extruder, Outcome.result_bind, result_get_text]

end Command

/-! ## Redirected texts -/

namespace Document

/-- The scope takes the global text of a key, which is limited to an extruder. -/
def Redirects (d : Document) (key : String) (extruder : Option Nat) (text : String)
    (index : Nat) : Prop :=
  (∀ i ∈ extruder, ∃ settings, d.extruders[i]? = some settings ∧ settings.get? key = none) ∧
    d.global.get? key = some text ∧ d.limits.get? key = some index

variable {d : Document} {key text : String} {extruder : Option Nat} {index : Nat}

theorem Redirects.textOf_eq (h : d.Redirects key extruder text index) (limited : Bool) :
    d.textOf key extruder limited = d.scopeText key none limited := by
  obtain ⟨hown, -, -⟩ := h
  cases extruder with
  | none => rfl
  | some i =>
    obtain ⟨settings, hi, hnone⟩ := hown i rfl
    unfold textOf
    simp only [hi, hnone]

theorem Redirects.plain (h : d.Redirects key extruder text index) :
    d.textOf key extruder false = .ok text := by
  rw [h.textOf_eq]
  obtain ⟨-, hg, -⟩ := h
  unfold scopeText plainText
  rw [hg]

theorem Redirects.limited (h : d.Redirects key extruder text index) :
    d.textOf key extruder true = match d.extruders[index]? with
      | none => .error (d.outOfRange index)
      | some settings => .ok ((settings.get? key).getD text) := by
  rw [h.textOf_eq]
  exact limitedText_of_limit h.2.1 h.2.2

theorem limitedText_eq_plainText {own : Option String}
    (h : own = none → ∀ text index, d.global.get? key = some text →
      d.limits.get? key ≠ some index) :
    d.limitedText key own = d.plainText key own := by
  unfold limitedText plainText
  cases own with
  | some text => rfl
  | none =>
    cases hg : d.global.get? key with
    | none => rfl
    | some text =>
      cases hl : d.limits.get? key with
      | none => rfl
      | some index => exact absurd hl (h rfl text index hg)

theorem textOf_eq_of_not_redirects
    (h : ¬ ∃ text index, d.Redirects key extruder text index) :
    d.textOf key extruder true = d.textOf key extruder false := by
  unfold textOf
  cases extruder with
  | none =>
    refine limitedText_eq_plainText fun _ text index hg hl => h ⟨text, index, ?_, hg, hl⟩
    intro i hi
    contradiction
  | some i =>
    dsimp only
    cases hi : d.extruders[i]? with
    | none => rfl
    | some settings =>
      refine limitedText_eq_plainText fun hnone text index hg hl =>
        h ⟨text, index, fun j hj => ⟨settings, ?_, hnone⟩, hg, hl⟩
      rw [← Option.mem_some.mp hj, hi]

theorem exists_plain_textOf {limited : Bool} (h : d.textOf key extruder limited = .ok text) :
    ∃ text', d.textOf key extruder false = .ok text' := by
  cases limited with
  | false => exact ⟨text, h⟩
  | true =>
    by_cases hr : ∃ text' index, d.Redirects key extruder text' index
    · obtain ⟨text', _, hr⟩ := hr
      exact ⟨text', hr.plain⟩
    · exact ⟨text, (textOf_eq_of_not_redirects hr).symm.trans h⟩

end Document

namespace Command

/-! ## Forms -/

/-- What a form makes of a text. -/
def Form.shown (key text : String) : Form → String
  | .value kind => kind.render (kind.read key text).value
  | .extruder => toString (numberOf text)

/-- The question for the text of the same setting. -/
def Query.text (q : Query) : Query := { q with form := .value .text }

/-- The answer is read from the text that the same question for a text gives; only the number of an
extruder may be refused. -/
structure ReadsText (d : Document) (registry : Registry) (q : Query) : Prop where
  shown : ∀ answer, (get d registry q).result = .ok answer →
    ∃ text, (get d registry q.text).result = .ok text ∧ answer = q.form.shown q.key text
  refused : ∀ e text, (get d registry q).result = .error e →
    (get d registry q.text).result = .ok text →
      q.form = .extruder ∧ ¬ IsNumber d.extruderCount text ∧
        e = .extruderOutOfRange (numberOf text) d.extruderCount

/-- The text is redirected to an extruder that is not there, although the global text is the number
of one, or to an extruder with another number. -/
def RedirectsNumber (d : Document) (key : String) (extruder : Option Nat) : Prop :=
  ∃ text index, d.Redirects key extruder text index ∧
    ((d.extruderCount ≤ index ∧ IsNumber d.extruderCount text) ∨
      ∃ settings own, d.extruders[index]? = some settings ∧ settings.get? key = some own ∧
        numberOf own ≠ numberOf text)

/-- The question is for the number of an extruder and asks to follow limits, and there is one that
makes a difference. -/
def OverlooksLimit (d : Document) (q : Query) : Prop :=
  q.form = .extruder ∧ q.limited = true ∧ RedirectsNumber d q.key q.extruder

theorem readsText_value (d : Document) (registry : Registry) (key : String) (kind : Kind)
    (extruder : Option Nat) (limited : Bool) :
    ReadsText d registry ⟨key, .value kind, extruder, limited⟩ := by
  refine ⟨fun answer h => ?_, fun e text h ht => ?_⟩
  · rw [result_get_value] at h
    cases ht : d.textOf key extruder limited with
    | error e => rw [ht] at h; contradiction
    | ok text =>
      rw [ht] at h
      exact ⟨text, (result_get_text ..).trans ht, (Except.ok.inj h).symm⟩
  · -- where there is a text, there is a value
    have htext : d.textOf key extruder limited = .ok text := (result_get_text ..).symm.trans ht
    rw [result_get_value, htext] at h
    contradiction

variable {d : Document} {key : String} {extruder : Option Nat} {limited : Bool}

theorem result_get_number {text : String} (h : d.textOf key extruder false = .ok text)
    (registry : Registry) (limited : Bool) :
    (get d registry ⟨key, .extruder, extruder, limited⟩).result =
      if IsNumber d.extruderCount text then .ok (toString (numberOf text))
      else .error (.extruderOutOfRange (numberOf text) d.extruderCount) := by
  rw [result_get_extruder, h]
  exact result_showNumber d.extruderCount text

/-- The text asked for has the number of the plain one, and is there whenever the plain one is the
number of an extruder. -/
structure SameNumber (d : Document) (key : String) (extruder : Option Nat) (limited : Bool) :
    Prop where
  there : ∀ text, d.textOf key extruder false = .ok text → IsNumber d.extruderCount text →
    ∃ text', d.textOf key extruder limited = .ok text'
  equal : ∀ text text', d.textOf key extruder false = .ok text →
    d.textOf key extruder limited = .ok text' → numberOf text' = numberOf text

theorem ReadsText.sameNumber {registry : Registry}
    (h : ReadsText d registry ⟨key, .extruder, extruder, limited⟩) :
    SameNumber d key extruder limited := by
  have htext : (get d registry ⟨key, .value .text, extruder, limited⟩).result =
      d.textOf key extruder limited := result_get_text ..
  -- a number that is shown is the number of the text asked for
  have hshown : ∀ text, d.textOf key extruder false = .ok text → IsNumber d.extruderCount text →
      ∃ text', d.textOf key extruder limited = .ok text' ∧ numberOf text' = numberOf text := by
    intro text hplain hnumber
    have hrun := result_get_number hplain registry limited
    rw [if_pos hnumber] at hrun
    obtain ⟨text', h', heq⟩ := h.shown _ hrun
    exact ⟨text', htext.symm.trans h', (Int.repr_injective heq).symm⟩
  refine ⟨fun text hplain hnumber => ?_, fun text text' hplain h' => ?_⟩
  · obtain ⟨text', h', -⟩ := hshown text hplain hnumber
    exact ⟨text', h'⟩
  · by_cases hnumber : IsNumber d.extruderCount text
    · obtain ⟨shownText, hs, heq⟩ := hshown text hplain hnumber
      rw [Except.ok.inj (h'.symm.trans hs), heq]
    · have hrun := result_get_number hplain registry limited
      rw [if_neg hnumber] at hrun
      obtain ⟨-, -, heq⟩ := h.refused _ text' hrun (htext.trans h')
      exact (SettingError.extruderOutOfRange.inj heq).1.symm

theorem SameNumber.readsText (h : SameNumber d key extruder limited) (registry : Registry) :
    ReadsText d registry ⟨key, .extruder, extruder, limited⟩ := by
  have htext : (get d registry ⟨key, .value .text, extruder, limited⟩).result =
      d.textOf key extruder limited := result_get_text ..
  refine ⟨fun answer hrun => ?_, fun e text' hrun h' => ?_⟩
  · cases hplain : d.textOf key extruder false with
    | error e => rw [result_get_extruder, hplain] at hrun; contradiction
    | ok text =>
      rw [result_get_number hplain] at hrun
      split at hrun
      next hnumber =>
        obtain ⟨text', h'⟩ := h.there text hplain hnumber
        refine ⟨text', htext.trans h', ?_⟩
        show answer = toString (numberOf text')
        rw [h.equal text text' hplain h', Except.ok.inj hrun]
      next => contradiction
  · have hlimited : d.textOf key extruder limited = .ok text' := htext.symm.trans h'
    obtain ⟨text, hplain⟩ := Document.exists_plain_textOf hlimited
    have heq : numberOf text' = numberOf text := h.equal text text' hplain hlimited
    rw [result_get_number hplain] at hrun
    split at hrun
    next => contradiction
    next hnumber =>
      refine ⟨rfl, ?_, ?_⟩
      · unfold IsNumber at hnumber ⊢
        rwa [heq]
      · rw [heq, Except.error.inj hrun]

theorem sameNumber_plain (d : Document) (key : String) (extruder : Option Nat) :
    SameNumber d key extruder false := by
  refine ⟨fun text h _ => ⟨text, h⟩, fun text text' h h' => ?_⟩
  rw [Except.ok.inj (h'.symm.trans h)]

theorem SameNumber.not_redirectsNumber (h : SameNumber d key extruder true) :
    ¬ RedirectsNumber d key extruder := by
  rintro ⟨text, index, hr, ⟨hout, hnumber⟩ | ⟨settings, own, hs, hown, hne⟩⟩
  · obtain ⟨text', h'⟩ := h.there text hr.plain hnumber
    rw [hr.limited, List.getElem?_eq_none hout] at h'
    contradiction
  · refine hne (h.equal text own hr.plain ?_)
    rw [hr.limited, hs]
    simp only [hown, Option.getD_some]

/-- A text that is not redirected is the plain one, so only the extruder that it is redirected to
can make a difference. -/
theorem sameNumber_of_not_redirectsNumber (h : ¬ RedirectsNumber d key extruder) :
    SameNumber d key extruder true := by
  by_cases hr : ∃ text index, d.Redirects key extruder text index
  · obtain ⟨text, index, hr⟩ := hr
    have hplain : ∀ t, d.textOf key extruder false = .ok t → t = text :=
      fun t ht => Except.ok.inj (ht.symm.trans hr.plain)
    cases hs : d.extruders[index]? with
    | none =>
      have hlimited : d.textOf key extruder true = .error (d.outOfRange index) := by
        rw [hr.limited, hs]
      refine ⟨fun t ht hnumber => ?_, fun t text' _ h' => ?_⟩
      · rw [hplain t ht] at hnumber
        exact absurd ⟨text, index, hr, Or.inl ⟨List.getElem?_eq_none_iff.mp hs, hnumber⟩⟩ h
      · rw [hlimited] at h'
        contradiction
    | some settings =>
      have hlimited : d.textOf key extruder true = .ok ((settings.get? key).getD text) := by
        rw [hr.limited, hs]
      refine ⟨fun _ _ _ => ⟨_, hlimited⟩, fun t text' ht h' => ?_⟩
      obtain rfl := Except.ok.inj (hlimited.symm.trans h')
      rw [hplain t ht]
      cases hown : settings.get? key with
      | none => rfl
      | some own =>
        refine Decidable.byContradiction fun hne => ?_
        exact h ⟨text, index, hr, Or.inr ⟨settings, own, hs, hown, hne⟩⟩
  · have heq := Document.textOf_eq_of_not_redirects hr
    obtain ⟨hthere, hequal⟩ := sameNumber_plain d key extruder
    constructor
    · rwa [heq]
    · rwa [heq]

/-- **Forms read the text, except for overlooked limits.** -/
theorem readsText_iff_not_overlooksLimit (d : Document) (registry : Registry) (q : Query) :
    ReadsText d registry q ↔ ¬ OverlooksLimit d q := by
  rcases q with ⟨key, form, extruder, limited⟩
  constructor
  · rintro hreads ⟨rfl, rfl, hr⟩
    exact hreads.sameNumber.not_redirectsNumber hr
  · intro hno
    cases form with
    | value kind => exact readsText_value d registry key kind extruder limited
    | extruder =>
      cases limited with
      | false => exact (sameNumber_plain d key extruder).readsText registry
      | true =>
        have hr : ¬ RedirectsNumber d key extruder := fun hr => hno ⟨rfl, rfl, hr⟩
        exact (sameNumber_of_not_redirectsNumber hr).readsText registry

/-- The first extruder is named by a key that is limited to the second one, which names itself. -/
def twoNumbers : Document where
  global := KeyMap.ofList [("support_extruder_nr", "0")]
  limits := KeyMap.ofList [("support_extruder_nr", 1)]
  extruders := [∅, KeyMap.ofList [("support_extruder_nr", "1")]]

theorem not_readsText_twoNumbers :
    (get twoNumbers ∅ ⟨"support_extruder_nr", .value .text, none, true⟩).result = .ok "1" ∧
    (get twoNumbers ∅ ⟨"support_extruder_nr", .extruder, none, true⟩).result = .ok "0" ∧
    ¬ ReadsText twoNumbers ∅ ⟨"support_extruder_nr", .extruder, none, true⟩ := by
  have htext : (get twoNumbers ∅ ⟨"support_extruder_nr", .value .text, none, true⟩).result =
      .ok "1" := (result_get_text ..).trans rfl
  have hnumber : (get twoNumbers ∅ ⟨"support_extruder_nr", .extruder, none, true⟩).result =
      .ok "0" := (result_get_extruder ..).trans rfl
  refine ⟨htext, hnumber, fun h => ?_⟩
  obtain ⟨text, ht, hshown⟩ := h.shown "0" hnumber
  have heq : "1" = text := Except.ok.inj (htext.symm.trans ht)
  subst heq
  exact absurd hshown (by decide)

end Command

end PrintSettings
