import PrintSettings.Proofs.Command.Forms
import PrintSettings.Proofs.Scope.Limits
import PrintSettings.Proofs.Value.Integer

/-! # Extruders by number

A setting may name an extruder by a number (`Numbers`): the integer at the start of its nearest
text, held to 64 bits. The extruder is found if the number is its place in the list of extruders;
else the lookup fails and tells the number. What is shown for such a setting is the number of an
extruder that is there (`extruder_found_by_number`).

* `exists_unique_numbers`: a key is lacking, or has one number.
* `getExtruder_of_numbers`, `result_getExtruder_of_lacks`: what the lookup comes to.
* `result_renderForm_extruder`: what is shown is what the lookup gives, in decimal. -/

namespace PrintSettings

open PrintSettings.Value PrintSettings.Numeric

namespace Container

variable {c : Container} {key : String} {setting : Setting} {n : Int} {i : Nat}
  {extruders : List Container}

/-! ## Numbers of keys -/

/-- The nearest text of the key begins with an integer, or with none and counts as zero; held to 64
bits it is this number. -/
def Numbers (c : Container) (key : String) (n : Int) : Prop :=
  ∃ setting digits m, c.Nearest key setting ∧ Begins setting.value.toList digits m ∧ n = clamp64 m

theorem Numbers.unique {n' : Int} (h : c.Numbers key n) (h' : c.Numbers key n') : n' = n := by
  obtain ⟨setting, digits, m, hnearest, hbegins, rfl⟩ := h
  obtain ⟨setting', digits', m', hnearest', hbegins', rfl⟩ := h'
  have hsetting : some setting' = some setting :=
    (nearest_iff.1 hnearest').symm.trans (nearest_iff.1 hnearest)
  cases hsetting
  rw [(hbegins.unique hbegins').2]

theorem numbers_of_nearest (h : c.Nearest key setting)
    (hn : intOrZero setting.value.toList = n) : c.Numbers key n := by
  obtain ⟨digits, m, hbegins⟩ := exists_begins setting.value.toList
  exact ⟨setting, digits, m, h, hbegins, hn.symm.trans hbegins.intOrZero_eq⟩

theorem exists_unique_numbers (h : ¬ c.Lacks key) : ∃! n, c.Numbers key n := by
  rw [lacks_iff, ← ne_eq, Option.ne_none_iff_exists'] at h
  obtain ⟨setting, hfind⟩ := h
  have hnumbers := numbers_of_nearest (nearest_iff.2 hfind) rfl
  exact ⟨_, hnumbers, fun n' h' => hnumbers.unique h'⟩

theorem Numbers.not_lacks (h : c.Numbers key n) : ¬ c.Lacks key := by
  obtain ⟨setting, digits, m, hnearest, -, -⟩ := h
  rw [lacks_iff, nearest_iff.1 hnearest]
  exact Option.some_ne_none setting

/-! ## The lookup -/

theorem get_of_numbers (h : c.Numbers key n) : c.get .int64 key = pure n := by
  obtain ⟨setting, digits, m, hnearest, hbegins, rfl⟩ := h
  rw [get_of_nearest hnearest, ← hbegins.intOrZero_eq]
  rfl

theorem result_getExtruder_of_lacks (h : c.Lacks key) (extruders : List Container) :
    (c.getExtruder key extruders).result = .error (.missingKey key) := by
  rw [getExtruder, Outcome.result_bind, get_of_lacks h]
  rfl

theorem getExtruder_of_numbers (h : c.Numbers key n) (extruders : List Container) :
    c.getExtruder key extruders =
      if 0 ≤ n ∧ n < extruders.length then pure n.toNat
      else throw (.extruderOutOfRange n extruders.length) := by
  rw [getExtruder, get_of_numbers h, pure_bind]

theorem result_getExtruder_of_numbers (h : c.Numbers key n) (extruders : List Container) :
    (c.getExtruder key extruders).result =
      if 0 ≤ n ∧ n < extruders.length then .ok n.toNat
      else .error (.extruderOutOfRange n extruders.length) := by
  rw [getExtruder_of_numbers h]
  split <;> rfl

theorem result_getExtruder_eq_ok_iff : (c.getExtruder key extruders).result = .ok i ↔
    c.Numbers key i ∧ ∃ scope, extruders[i]? = some scope := by
  have hscope : (∃ scope, extruders[i]? = some scope) ↔ i < extruders.length :=
    ⟨fun ⟨_, h⟩ => (List.getElem?_eq_some_iff.1 h).1, fun h => ⟨_, List.getElem?_eq_getElem h⟩⟩
  rw [hscope]
  by_cases hlacks : c.Lacks key
  · rw [result_getExtruder_of_lacks hlacks]
    exact iff_of_false nofun fun h => h.1.not_lacks hlacks
  · obtain ⟨n, hn, -⟩ := exists_unique_numbers hlacks
    rw [result_getExtruder_of_numbers hn]
    constructor
    · intro h
      split at h
      next hrange =>
        obtain rfl : n.toNat = i := Except.ok.inj h
        rw [Int.toNat_of_nonneg hrange.1]
        exact ⟨hn, by omega⟩
      next => contradiction
    · rintro ⟨hi, hlt⟩
      obtain rfl : n = i := hi.unique hn
      rw [if_pos (by omega), Int.toNat_natCast]

theorem result_getExtruder_eq_missingKey_iff :
    (c.getExtruder key extruders).result = .error (.missingKey key) ↔ c.Lacks key := by
  refine ⟨fun h => ?_, fun h => result_getExtruder_of_lacks h extruders⟩
  by_contra hlacks
  obtain ⟨n, hn, -⟩ := exists_unique_numbers hlacks
  rw [result_getExtruder_of_numbers hn] at h
  split at h
  next => contradiction
  next => exact absurd (Except.error.inj h) nofun

theorem result_getExtruder_eq_outOfRange_iff {count : Nat} :
    (c.getExtruder key extruders).result = .error (.extruderOutOfRange n count) ↔
      c.Numbers key n ∧ count = extruders.length ∧ ¬ (0 ≤ n ∧ n < extruders.length) := by
  by_cases hlacks : c.Lacks key
  · rw [result_getExtruder_of_lacks hlacks]
    exact iff_of_false nofun fun h => h.1.not_lacks hlacks
  · obtain ⟨m, hm, -⟩ := exists_unique_numbers hlacks
    rw [result_getExtruder_of_numbers hm]
    constructor
    · intro h
      split at h
      next => contradiction
      next hrange =>
        obtain ⟨rfl, rfl⟩ := SettingError.extruderOutOfRange.inj (Except.error.inj h)
        exact ⟨hm, rfl, hrange⟩
    · rintro ⟨hn, rfl, hrange⟩
      obtain rfl : m = n := hn.unique hm
      rw [if_neg hrange]

end Container

/-! ## What is shown -/

/-- The scope that a question is about, if its extruder is there. -/
def Document.scope? (d : Document) : Option Nat → Option Container
  | none => some d.globalContainer
  | some index => d.extruderContainers[index]?

namespace Command

open Container

variable {c : Container} {key : String}

theorem result_renderForm_extruder (c : Container) (key : String) (extruders : List Container)
    (limited : Bool) : (renderForm .extruder c key extruders limited).result =
      (c.getExtruder key extruders).result.map toString := by
  have hrender : (renderForm .extruder c key extruders limited).result = (do
      let _ ← (c.getExtruder key extruders).result
      let n ← (c.get .int64 key).result
      return toString n) := by
    simp only [renderForm, Outcome.result_bind]
    rfl
  rw [hrender]
  by_cases hlacks : c.Lacks key
  · rw [result_getExtruder_of_lacks hlacks]
    rfl
  · obtain ⟨n, hn, -⟩ := exists_unique_numbers hlacks
    rw [result_getExtruder_of_numbers hn, get_of_numbers hn]
    split
    next hrange =>
      obtain ⟨i, rfl⟩ := Int.eq_ofNat_of_zero_le hrange.1
      rfl
    next => rfl

theorem result_enter_of_scope? {d : Document} {extruder : Option Nat}
    (h : d.scope? extruder = some c) (registry : Registry) (key : String) :
    (enter d registry key extruder).result = .ok c := by
  rw [result_enter]
  cases extruder with
  | none =>
    rw [Document.scope?, Document.globalContainer_eq] at h
    rw [Option.some.inj h]
  | some index =>
    rw [Document.scope?, Document.extruderContainers_eq, List.getElem?_map] at h
    obtain ⟨settings, hsettings, rfl⟩ := Option.map_eq_some_iff.1 h
    simp only [hsettings]

/-- **Extruders are found by number.** The lookup gives a place in the list of extruders if the key
has that number, and fails if the key is lacking, or with the number and the count of extruders if
no extruder has it. What a question for it shows is the number of an extruder that is there. -/
theorem extruder_found_by_number (c : Container) (key : String) (extruders : List Container) :
    (∀ i, (c.getExtruder key extruders).result = .ok i ↔
      c.Numbers key i ∧ ∃ scope, extruders[i]? = some scope) ∧
    ((c.getExtruder key extruders).result = .error (.missingKey key) ↔ c.Lacks key) ∧
    (∀ n count, (c.getExtruder key extruders).result = .error (.extruderOutOfRange n count) ↔
      c.Numbers key n ∧ count = extruders.length ∧ ¬ (0 ≤ n ∧ n < extruders.length)) ∧
    (¬ c.Lacks key → ∃! n, c.Numbers key n) ∧
    ∀ (d : Document) registry extruder limited, d.extruderContainers = extruders →
      d.scope? extruder = some c →
      (get d registry ⟨key, .extruder, extruder, limited⟩).result =
        (c.getExtruder key extruders).result.map toString := by
  refine ⟨fun i => result_getExtruder_eq_ok_iff, result_getExtruder_eq_missingKey_iff,
    fun n count => result_getExtruder_eq_outOfRange_iff, exists_unique_numbers, ?shown⟩
  case shown =>
    rintro d registry extruder limited rfl hscope
    rw [get_eq_enter, Outcome.result_bind, result_enter_of_scope? hscope]
    exact result_renderForm_extruder c key d.extruderContainers limited

/-- A number with a sign, a zero and a word around it, one beyond the extruders, one below them and
below 64 bits, and a text without a number. -/
def numberedGlobal : Document where
  global := KeyMap.ofList [("brim", "\t+01st"), ("raft", "2"),
    ("skirt", "-99999999999999999999"), ("support", "first")]
  limits := KeyMap.ofList [("brim", 0)]
  extruders := [KeyMap.ofList [("raft", "1")], ∅]

/-- The second extruder, which is also shown; none beyond the last or below the first, and none for
a key that is lacking; and the first one. -/
theorem extruder_found_by_number_brim :
    let c := numberedGlobal.globalContainer
    let extruders := numberedGlobal.extruderContainers
    numberedGlobal.scope? none = some c ∧ ¬ c.Lacks "brim" ∧ (∃! n, c.Numbers "brim" n) ∧
    (c.getExtruder "brim" extruders).result = .ok 1 ∧
    (get numberedGlobal ∅ ⟨"brim", .extruder, none, true⟩).result = .ok "1" ∧
    (c.getExtruder "raft" extruders).result = .error (.extruderOutOfRange 2 2) ∧
    (c.getExtruder "skirt" extruders).result = .error (.extruderOutOfRange int64Min 2) ∧
    (c.getExtruder "wall" extruders).result = .error (.missingKey "wall") ∧
    (c.getExtruder "support" extruders).result = .ok 0 := by
  intro c extruders
  have hbrim : c.Nearest "brim" ⟨"\t+01st", some 0⟩ := nearest_iff.2 (by decide)
  have hraft : c.Nearest "raft" ⟨"2", none⟩ := nearest_iff.2 (by decide)
  have hskirt : c.Nearest "skirt" ⟨"-99999999999999999999", none⟩ := nearest_iff.2 (by decide)
  have hsupport : c.Nearest "support" ⟨"first", none⟩ := nearest_iff.2 (by decide)
  have hwall : c.Lacks "wall" := lacks_iff.2 (by decide)
  obtain ⟨hfound, -, -, hone, hshown⟩ := extruder_found_by_number c "brim" extruders
  obtain ⟨-, -, hbeyond, -⟩ := extruder_found_by_number c "raft" extruders
  obtain ⟨-, -, hbelow, -⟩ := extruder_found_by_number c "skirt" extruders
  obtain ⟨-, hlacking, -⟩ := extruder_found_by_number c "wall" extruders
  obtain ⟨hfirst, -⟩ := extruder_found_by_number c "support" extruders
  have hnumbers : c.Numbers "brim" 1 := numbers_of_nearest hbrim (by decide)
  have hlacks : ¬ c.Lacks "brim" := hnumbers.not_lacks
  have hsecond : (c.getExtruder "brim" extruders).result = .ok 1 :=
    (hfound 1).2 ⟨hnumbers, _, rfl⟩
  refine ⟨rfl, hlacks, hone hlacks, hsecond, ?_,
    (hbeyond 2 2).2 ⟨numbers_of_nearest hraft (by decide), rfl, by decide⟩,
    (hbelow int64Min 2).2 ⟨numbers_of_nearest hskirt (by decide +kernel), rfl, by decide⟩,
    hlacking.2 hwall, (hfirst 0).2 ⟨numbers_of_nearest hsupport (by decide), _, rfl⟩⟩
  rw [hshown numberedGlobal ∅ none true rfl rfl, hsecond]
  rfl

end Command

end PrintSettings
