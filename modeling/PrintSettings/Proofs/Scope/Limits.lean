import PrintSettings.Proofs.Scope.Chain

/-! # Limits of entries

An entry that is limited to an extruder sends `getLimited` to the scope of that extruder. There the
name is looked up plainly: no limit is followed after the first one, so extruders whose entries are
limited to each other, or to themselves, are no trouble (`limit_followed_once`).

* `Nearest`, `Lacks`: what a lookup comes to, as a place in the chain of scopes.
* `unlimited`: a container without its limits, which plain lookups do not notice (`get_unlimited`).
* `getLimited_of_limited` and its siblings: what the limit of the nearest entry makes of a lookup.
* `Outcome.Reports`: the records of a lookup, up to warnings about the text that is read. -/

namespace PrintSettings

open PrintSettings.Value

/-! ## Records -/

/-- Reading a value makes no other records than warnings. -/
theorem Value.Kind.level_of_mem_read {kind : Kind} {key text : String} {record : Record}
    (h : record ∈ (kind.read key text).log) : record.level = .warn := by
  cases kind with
  | curve =>
    obtain ⟨pair, -, rfl⟩ := List.mem_map.1 h
    rfl
  | matrix =>
    have hmatrix : record ∈ (Matrix.ofText text).log := h
    unfold Matrix.ofText at hmatrix
    split at hmatrix
    · exact absurd hmatrix List.not_mem_nil
    · split at hmatrix
      · exact absurd hmatrix List.not_mem_nil
      · rw [List.mem_singleton.1 hmatrix]
        rfl
  | _ => exact absurd h List.not_mem_nil

namespace Outcome

variable {α : Type}

/-- The report of a missing key, if that is the result. -/
def missingReport : Except SettingError α → List Record
  | .error (.missingKey key) => [⟨.error, (SettingError.missingKey key).message⟩]
  | _ => []

/-- The records are the given ones, then the report of a missing key if that is the result, and
after that only warnings. -/
def Reports (x : Outcome α) (records : List Record) : Prop :=
  ∃ warnings : List Record, (∀ warning ∈ warnings, warning.level = .warn) ∧
    x.run.log = records ++ missingReport x.result ++ warnings

theorem reports_missing (key : String) : Reports (missing key : Outcome α) [] :=
  ⟨[], List.forall_mem_nil _, rfl⟩

theorem reports_outOfRange (index : Int) (count : Nat) :
    Reports (throw (.extruderOutOfRange index count) : Outcome α) [] :=
  ⟨[], List.forall_mem_nil _, rfl⟩

theorem reports_ofLogged {x : Logged α} (h : ∀ record ∈ x.log, record.level = .warn) :
    Reports (ofLogged x) [] :=
  ⟨x.log, h, List.append_nil x.log⟩

theorem Reports.record {x : Outcome α} {records : List Record} (h : x.Reports records)
    (level : Level) (text : String) :
    Reports (do Outcome.record level text; x) (⟨level, text⟩ :: records) := by
  obtain ⟨warnings, hlevel, hlog⟩ := h
  refine ⟨warnings, hlevel, ?_⟩
  show ⟨level, text⟩ :: x.run.log = ⟨level, text⟩ :: records ++ missingReport x.result ++ warnings
  rw [hlog]
  rfl

end Outcome

def Setting.unlimited (setting : Setting) : Setting := { setting with limit := none }

namespace Container

variable {c target : Container} {key value : String} {setting : Setting} {i : Nat}
  {extruders : List Container}

/-! ## Nearest entries -/

/-- The entry of a name in the innermost scope that has one. -/
def Nearest (c : Container) (key : String) (setting : Setting) : Prop :=
  ∃ inner m outer, c.scopes = inner ++ m :: outer ∧ m.get? key = some setting ∧
    ∀ n ∈ inner, n.get? key = none

/-- No scope has an entry for the name. -/
def Lacks (c : Container) (key : String) : Prop := ∀ m ∈ c.scopes, m.get? key = none

theorem nearest_iff : c.Nearest key setting ↔ c.find? key = some setting :=
  List.findSome?_eq_some_iff.symm

theorem lacks_iff : c.Lacks key ↔ c.find? key = none :=
  List.findSome?_eq_none_iff.symm

/-! ## Plain lookups -/

theorem get_of_lacks (h : c.Lacks key) (kind : Kind) : c.get kind key = Outcome.missing key := by
  rw [get, resolve, lacks_iff.1 h]
  rfl

theorem get_of_nearest (h : c.Nearest key setting) (kind : Kind) :
    c.get kind key = Outcome.ofLogged (kind.read key setting.value) := by
  rw [get, resolve, nearest_iff.1 h]
  rfl

theorem reports_get (c : Container) (kind : Kind) (key : String) :
    (c.get kind key).Reports [] := by
  cases h : c.find? key with
  | none =>
    rw [get_of_lacks (lacks_iff.2 h)]
    exact Outcome.reports_missing key
  | some setting =>
    rw [get_of_nearest (nearest_iff.2 h)]
    exact Outcome.reports_ofLogged fun record hrecord => Kind.level_of_mem_read hrecord

/-! ## Without limits -/

/-- The container with the same texts in the same scopes and without limits. -/
def unlimited (c : Container) : Container where
  own := c.own.map fun _ => Setting.unlimited
  around := c.around.map (·.map fun _ => Setting.unlimited)

theorem find?_unlimited (c : Container) (key : String) :
    c.unlimited.find? key = (c.find? key).map Setting.unlimited := by
  have hscopes : c.unlimited.scopes = c.scopes.map (·.map fun _ => Setting.unlimited) := rfl
  show c.unlimited.scopes.findSome? (·.get? key) = (c.scopes.findSome? (·.get? key)).map _
  rw [hscopes, List.findSome?_map, List.map_findSome?]
  congr 1
  funext m
  exact KeyMap.get?_map _ m key

theorem get_unlimited (c : Container) (kind : Kind) (key : String) :
    c.unlimited.get kind key = c.get kind key := by
  rw [get, get, resolve, resolve, find?_unlimited]
  cases c.find? key <;> rfl

/-! ## Limited lookups -/

/-- The record of a lookup that is sent to an extruder. -/
def redirection (key : String) (i : Nat) : Record where
  level := .debug
  text := "Setting '" ++ key ++ "' resolved through extruder " ++ toString i

theorem getLimited_of_lacks (h : c.Lacks key) (kind : Kind) (extruders : List Container) :
    c.getLimited kind key extruders = Outcome.missing key := by
  rw [getLimited, lacks_iff.1 h]

theorem getLimited_of_unlimited (h : c.Nearest key ⟨value, none⟩) (kind : Kind)
    (extruders : List Container) : c.getLimited kind key extruders = c.get kind key := by
  rw [get_of_nearest h, getLimited, nearest_iff.1 h]

theorem getLimited_of_limited (h : c.Nearest key ⟨value, some i⟩)
    (htarget : extruders[i]? = some target) (kind : Kind) :
    c.getLimited kind key extruders = (do
      Outcome.record .debug (redirection key i).text
      target.get kind key) := by
  rw [getLimited, nearest_iff.1 h]
  dsimp only
  rw [extruder, htarget]
  rfl

theorem getLimited_of_outOfRange (h : c.Nearest key ⟨value, some i⟩)
    (hi : extruders.length ≤ i) (kind : Kind) : c.getLimited kind key extruders =
      throw (.extruderOutOfRange (signedWord i) extruders.length) := by
  rw [getLimited, nearest_iff.1 h]
  dsimp only
  rw [extruder, List.getElem?_eq_none hi]
  rfl

/-- Only the limit of the nearest entry counts: those of the extruders are not noticed. -/
theorem getLimited_unlimited (c : Container) (kind : Kind) (key : String)
    (extruders : List Container) :
    c.getLimited kind key (extruders.map unlimited) = c.getLimited kind key extruders := by
  cases hfind : c.find? key with
  | none =>
    have hlacks := lacks_iff.2 hfind
    rw [getLimited_of_lacks hlacks, getLimited_of_lacks hlacks]
  | some setting =>
    obtain ⟨value, limit⟩ := setting
    have hnearest := nearest_iff.2 hfind
    cases limit with
    | none => rw [getLimited_of_unlimited hnearest, getLimited_of_unlimited hnearest]
    | some i =>
      cases htarget : extruders[i]? with
      | none =>
        have hi : extruders.length ≤ i := List.getElem?_eq_none_iff.1 htarget
        have hi' : (extruders.map unlimited).length ≤ i := by rwa [List.length_map]
        rw [getLimited_of_outOfRange hnearest hi, getLimited_of_outOfRange hnearest hi',
          List.length_map]
      | some target =>
        have htarget' : (extruders.map unlimited)[i]? = some target.unlimited := by
          rw [List.getElem?_map, htarget, Option.map_some]
        rw [getLimited_of_limited hnearest htarget, getLimited_of_limited hnearest htarget',
          get_unlimited]

/-- The extruder that a limited lookup is sent to: the nearest entry is limited to it, and it is
there. -/
def SentTo (c : Container) (key : String) (extruders : List Container) (i : Nat) : Prop :=
  ∃ value, c.Nearest key ⟨value, some i⟩ ∧ i < extruders.length

theorem SentTo.reports (h : c.SentTo key extruders i) (kind : Kind) :
    (c.getLimited kind key extruders).Reports [redirection key i] := by
  obtain ⟨value, hnearest, hi⟩ := h
  rw [getLimited_of_limited hnearest (List.getElem?_eq_getElem hi)]
  exact (reports_get extruders[i] kind key).record .debug (redirection key i).text

theorem reports_of_not_sentTo (h : ∀ i, ¬ c.SentTo key extruders i) (kind : Kind) :
    (c.getLimited kind key extruders).Reports [] := by
  cases hfind : c.find? key with
  | none =>
    rw [getLimited_of_lacks (lacks_iff.2 hfind)]
    exact Outcome.reports_missing key
  | some setting =>
    obtain ⟨value, limit⟩ := setting
    have hnearest := nearest_iff.2 hfind
    cases limit with
    | none =>
      rw [getLimited_of_unlimited hnearest]
      exact reports_get c kind key
    | some i =>
      have hi : extruders.length ≤ i := Nat.not_lt.1 fun hi => h i ⟨value, hnearest, hi⟩
      rw [getLimited_of_outOfRange hnearest hi]
      exact Outcome.reports_outOfRange _ _

/-- **A limit is followed once.** With an unlimited nearest entry a limited lookup is a plain one.
With one that is limited to an extruder, it is the plain lookup in the scope of the extruder, and in
vain if the name is lacking there; with one limited to an extruder that is not there, it fails,
whatever the extruders hold. The limits of the extruders do not matter. A record tells that the
lookup is sent to an extruder, and another one that a key is missing, in this order. -/
theorem limit_followed_once (c : Container) (kind : Kind) (key : String)
    (extruders : List Container) :
    (∀ value, c.Nearest key ⟨value, none⟩ →
      c.getLimited kind key extruders = c.get kind key) ∧
    (∀ value i target, c.Nearest key ⟨value, some i⟩ → extruders[i]? = some target →
      (c.getLimited kind key extruders).result = (target.get kind key).result ∧
      (∀ setting, target.Nearest key setting →
        (c.getLimited kind key extruders).result = .ok (kind.read key setting.value).value) ∧
      (target.Lacks key →
        (c.getLimited kind key extruders).result = .error (.missingKey key))) ∧
    (∀ value i, c.Nearest key ⟨value, some i⟩ → extruders.length ≤ i →
      ∃ index, ∀ others : List Container, others.length = extruders.length →
        c.getLimited kind key others = throw (.extruderOutOfRange index extruders.length)) ∧
    (c.Lacks key → (c.getLimited kind key extruders).result = .error (.missingKey key)) ∧
    c.getLimited kind key (extruders.map unlimited) = c.getLimited kind key extruders ∧
    (∀ i, c.SentTo key extruders i →
      (c.getLimited kind key extruders).Reports [redirection key i]) ∧
    ((∀ i, ¬ c.SentTo key extruders i) → (c.getLimited kind key extruders).Reports []) := by
  refine ⟨fun value h => getLimited_of_unlimited h kind extruders,
    fun value i target h htarget => ?limited, fun value i h hi => ?outOfRange, fun h => ?lacking,
    getLimited_unlimited c kind key extruders, fun i h => h.reports kind,
    fun h => reports_of_not_sentTo h kind⟩
  case limited =>
    have hresult : (c.getLimited kind key extruders).result = (target.get kind key).result := by
      rw [getLimited_of_limited h htarget]
      rfl
    refine ⟨hresult, fun setting hsetting => ?_, fun hlacks => ?_⟩
    · rw [hresult, get_of_nearest hsetting]
      rfl
    · rw [hresult, get_of_lacks hlacks]
      rfl
  case outOfRange =>
    refine ⟨signedWord i, fun others hlength => ?_⟩
    rw [← hlength] at hi ⊢
    exact getLimited_of_outOfRange h hi kind
  case lacking =>
    rw [getLimited_of_lacks h]
    rfl

/-- A global width that is limited to the second extruder, a speed to the first and a brim to a
third one, and a plain height. -/
def limitedGlobal : Container :=
  chain [[.limited "width" "0.4" (some 1), .limited "speed" "50" (some 0),
    .limited "brim" "8" (some 2), .plain "height" "0.2"]]

/-- Two extruders whose widths are limited to each other, the second one inside a scope with a speed
that is limited to the same extruder. -/
def limitedExtruders : List Container :=
  [chain [[.limited "width" "0.5" (some 1)]],
    chain [[.limited "speed" "70" (some 1)], [.limited "width" "0.6" (some 0)]]]

/-- The width is that of the second extruder; the speed is lacking in the first one, although there
is a global one; there is no third extruder; the height is the global one, and nothing has a
name that is never given. -/
theorem limit_followed_once_circle :
    limitedGlobal.Nearest "height" ⟨"0.2", none⟩ ∧
    limitedGlobal.getLimited .text "height" limitedExtruders =
      limitedGlobal.get .text "height" ∧
    (∀ i, ¬ limitedGlobal.SentTo "height" limitedExtruders i) ∧
    (limitedGlobal.getLimited .text "height" limitedExtruders).Reports [] ∧
    limitedGlobal.Nearest "width" ⟨"0.4", some 1⟩ ∧
    (∃ target, limitedExtruders[1]? = some target ∧ target.Nearest "width" ⟨"0.6", some 0⟩) ∧
    (limitedGlobal.getLimited .text "width" limitedExtruders).result = .ok "0.6" ∧
    limitedGlobal.SentTo "width" limitedExtruders 1 ∧
    (limitedGlobal.getLimited .text "width" limitedExtruders).Reports [redirection "width" 1] ∧
    limitedGlobal.Nearest "speed" ⟨"50", some 0⟩ ∧
    (∃ target, limitedExtruders[0]? = some target ∧ target.Lacks "speed") ∧
    (limitedGlobal.getLimited .text "speed" limitedExtruders).result =
      .error (.missingKey "speed") ∧
    limitedGlobal.SentTo "speed" limitedExtruders 0 ∧
    (limitedGlobal.getLimited .text "speed" limitedExtruders).Reports [redirection "speed" 0] ∧
    limitedGlobal.Nearest "brim" ⟨"8", some 2⟩ ∧ limitedExtruders.length ≤ 2 ∧
    (∃ index, (limitedGlobal.getLimited .text "brim" limitedExtruders) =
      throw (.extruderOutOfRange index 2)) ∧
    limitedGlobal.Lacks "name" ∧
    (limitedGlobal.getLimited .text "name" limitedExtruders).result =
      .error (.missingKey "name") := by
  have hheight : limitedGlobal.Nearest "height" ⟨"0.2", none⟩ := nearest_iff.2 (by decide)
  have hwidth : limitedGlobal.Nearest "width" ⟨"0.4", some 1⟩ := nearest_iff.2 (by decide)
  have hspeed : limitedGlobal.Nearest "speed" ⟨"50", some 0⟩ := nearest_iff.2 (by decide)
  have hbrim : limitedGlobal.Nearest "brim" ⟨"8", some 2⟩ := nearest_iff.2 (by decide)
  have hname : limitedGlobal.Lacks "name" := lacks_iff.2 (by decide)
  have hstay : ∀ i, ¬ limitedGlobal.SentTo "height" limitedExtruders i := by
    rintro i ⟨value, hnearest, -⟩
    have hsame := (nearest_iff.1 hnearest).symm.trans (nearest_iff.1 hheight)
    simp at hsame
  have hsentWidth : limitedGlobal.SentTo "width" limitedExtruders 1 := ⟨"0.4", hwidth, by decide⟩
  have hsentSpeed : limitedGlobal.SentTo "speed" limitedExtruders 0 := ⟨"50", hspeed, by decide⟩
  have hsecond : (chain [[.limited "speed" "70" (some 1)],
      [.limited "width" "0.6" (some 0)]]).Nearest "width" ⟨"0.6", some 0⟩ :=
    nearest_iff.2 (by decide)
  have hfirst : (chain [[.limited "width" "0.5" (some 1)]]).Lacks "speed" :=
    lacks_iff.2 (by decide)
  obtain ⟨hplain, -, -, -, -, -, hquiet⟩ :=
    limit_followed_once limitedGlobal .text "height" limitedExtruders
  obtain ⟨-, hlimited, -, -, -, hreportsWidth, -⟩ :=
    limit_followed_once limitedGlobal .text "width" limitedExtruders
  obtain ⟨-, hlacking, -, -, -, hreportsSpeed, -⟩ :=
    limit_followed_once limitedGlobal .text "speed" limitedExtruders
  obtain ⟨-, -, houtside, -⟩ := limit_followed_once limitedGlobal .text "brim" limitedExtruders
  obtain ⟨-, -, -, hnowhere, -⟩ := limit_followed_once limitedGlobal .text "name" limitedExtruders
  obtain ⟨index, hindex⟩ := houtside "8" 2 hbrim le_rfl
  exact ⟨hheight, hplain "0.2" hheight, hstay, hquiet hstay, hwidth, ⟨_, rfl, hsecond⟩,
    (hlimited "0.4" 1 _ hwidth rfl).2.1 _ hsecond, hsentWidth,
    hreportsWidth 1 hsentWidth, hspeed, ⟨_, rfl, hfirst⟩,
    (hlacking "50" 0 _ hspeed rfl).2.2 hfirst, hsentSpeed, hreportsSpeed 0 hsentSpeed, hbrim,
    le_rfl, ⟨index, hindex _ rfl⟩, hname, hnowhere hname⟩

end Container

end PrintSettings
