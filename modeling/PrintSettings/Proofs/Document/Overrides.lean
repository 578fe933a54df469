import Mathlib.Data.List.Nodup
import Mathlib.Data.List.ReduceOption
import PrintSettings.Proofs.Document.Environment
import PrintSettings.Proofs.Document.Overlay
import PrintSettings.Proofs.Outcome
import PrintSettings.Proofs.Reading

/-! # Overrides of the environment

The variables of an environment are listed in no particular order. Whether they override a document,
and with what, is said here of the variables alone: loading fails exactly if one that concerns the
loader has a value that is no text, and otherwise what comes of it is settled by which variables
there are (`Overridden`), as long as no two of them mean the same setting. So two listings of one
environment give the same document (`overrideAll_perm`).

* `namedPart?_eq_some_iff`: which variables concern the loader.
* `result_overrideAll`: the variables can be read first and written afterwards.
* `overridden_of_result`: what a load that does not fail leaves behind. -/

namespace PrintSettings

open PrintSettings.Text

/-! ## Bytes of texts -/

theorem fromUTF8?_eq_some_iff {bytes : ByteArray} {text : String} :
    String.fromUTF8? bytes = some text ↔ bytes = text.toUTF8 := by
  unfold String.fromUTF8?
  constructor
  · intro h
    split at h
    next hvalid =>
      cases h
      rfl
    next => contradiction
  · rintro rfl
    rw [String.toUTF8_eq_toByteArray, dif_pos text.isValidUTF8]
    rfl

theorem fromUTF8?_eq_none_iff {bytes : ByteArray} :
    String.fromUTF8? bytes = none ↔ ¬ bytes.IsValidUTF8 := by
  unfold String.fromUTF8?
  split <;> simp_all

theorem toUTF8_inj {text text' : String} (h : text.toUTF8 = text'.toUTF8) : text = text' :=
  String.toByteArray_inj.1 h

namespace Loader

variable {l : Loader} {v : Variable} {d t : Document} {environment : List Variable}

/-! ## Variables that concern a loader -/

/-- What the names of its variables start with. -/
def mark (l : Loader) : String := l.family ++ "_SET_"

/-- The name of a variable is the mark of the loader and something after it. -/
def Names (l : Loader) (v : Variable) (rest : String) : Prop :=
  rest ≠ "" ∧ v.name = (l.mark ++ rest).toUTF8

theorem keyPart?_eq_some_iff {name rest : String} :
    l.keyPart? name = some rest ↔ rest ≠ "" ∧ name = l.mark ++ rest := by
  have hchars : ∀ chars : List Char, (l.mark.toList.isPrefixOf? name.toList = some chars ↔
      name = l.mark ++ String.ofList chars) := fun chars => by
    rw [List.isPrefixOf?_eq_some_iff_append_eq, ← String.toList_inj, String.toList_append,
      String.toList_ofList, eq_comm]
  unfold keyPart?
  rw [← mark, Option.bind_eq_bind, Option.bind_eq_some_iff]
  constructor
  · rintro ⟨chars, hchars', hrest⟩
    split at hrest
    next => contradiction
    next hne =>
      cases hrest
      exact ⟨by simpa using hne, (hchars chars).1 hchars'⟩
  · rintro ⟨hne, rfl⟩
    refine ⟨rest.toList, (hchars _).2 (by rw [String.ofList_toList]), ?_⟩
    rw [if_neg (by simpa using hne), String.ofList_toList]

theorem namedPart?_eq_some_iff {rest : String} : l.namedPart? v = some rest ↔ l.Names v rest := by
  rw [namedPart?, Option.bind_eq_some_iff]
  simp only [fromUTF8?_eq_some_iff, keyPart?_eq_some_iff]
  constructor
  · rintro ⟨name, hname, hne, rfl⟩
    exact ⟨hne, hname⟩
  · exact fun ⟨hne, hname⟩ => ⟨_, hname, hne, rfl⟩

/-! ## Reading variables -/

/-- The pair that a variable gives, if it concerns the loader. Its value must be a text. -/
def read (l : Loader) (v : Variable) : Except SettingError (Option Pair) :=
  match l.namedPart? v with
  | none => .ok none
  | some rest =>
    match String.fromUTF8? v.value with
    | none => .error (.invalidArgument (.notUtf8 (l.mark ++ rest)))
    | some text => .ok (some ⟨lowercase rest, text⟩)

theorem read_eq_error_iff {e : SettingError} : l.read v = .error e ↔
    ∃ rest, l.Names v rest ∧ ¬ v.value.IsValidUTF8 ∧
      e = .invalidArgument (.notUtf8 (l.mark ++ rest)) := by
  simp only [← namedPart?_eq_some_iff, ← fromUTF8?_eq_none_iff]
  unfold read
  cases l.namedPart? v with
  | none => simp
  | some rest => cases String.fromUTF8? v.value <;> simp [eq_comm]

theorem read_eq_some_iff {p : Pair} : l.read v = .ok (some p) ↔
    ∃ rest, l.Names v rest ∧ v.value = p.value.toUTF8 ∧ p.key = lowercase rest := by
  simp only [← namedPart?_eq_some_iff, ← fromUTF8?_eq_some_iff]
  unfold read
  cases l.namedPart? v with
  | none => simp
  | some rest =>
    cases String.fromUTF8? v.value with
    | none => simp
    | some text => cases p; simp [eq_comm, and_comm]

theorem exists_text_of_read {rest : String} {given : Option Pair} (hrest : l.Names v rest)
    (h : l.read v = .ok given) : ∃ text : String, v.value = text.toUTF8 := by
  cases htext : String.fromUTF8? v.value with
  | some text => exact ⟨text, fromUTF8?_eq_some_iff.1 htext⟩
  | none =>
    rw [read_eq_error_iff.2 ⟨rest, hrest, fromUTF8?_eq_none_iff.1 htext, rfl⟩] at h
    contradiction

/-- Writes a pair, if there is one. -/
def writeGiven (d : Document) (given : Option Pair) : Document := given.elim d d.set

theorem foldl_writeGiven (given : List (Option Pair)) (d : Document) :
    given.foldl writeGiven d = given.reduceOption.foldl Document.set d := by
  induction given generalizing d with
  | nil => rfl
  | cons p given ih => cases p <;> exact ih _

theorem result_override (l : Loader) (d : Document) (v : Variable) :
    (l.override d v).result = (do return writeGiven d (← l.read v)) := by
  unfold override read namedPart?
  cases String.fromUTF8? v.name with
  | none => rfl
  | some name =>
    rw [Option.bind_some]
    cases hpart : l.keyPart? name with
    | none =>
      simp only [hpart]
      rfl
    | some rest =>
      obtain ⟨-, rfl⟩ := keyPart?_eq_some_iff.1 hpart
      simp only [hpart]
      cases String.fromUTF8? v.value <;> rfl

/-- **Variables can all be read before any is written.** -/
theorem result_overrideAll (l : Loader) (d : Document) (environment : List Variable) :
    (l.overrideAll d environment).result =
      (do return (← environment.mapM l.read).foldl writeGiven d) := by
  rw [overrideAll, Outcome.result_foldlM, funext₂ (l.result_override)]
  exact foldlM_read l.read writeGiven environment d

/-- A variable that concerns the loader has a value that is no text. -/
def Unreadable (l : Loader) (environment : List Variable) : Prop :=
  ∃ v ∈ environment, ∃ rest, l.Names v rest ∧ ¬ v.value.IsValidUTF8

theorem exists_mapM_read_iff :
    (∃ given, environment.mapM l.read = .ok given) ↔ ¬ l.Unreadable environment := by
  rw [exists_mapM_iff, Unreadable]
  push Not
  refine forall₂_congr fun v _ => ?_
  constructor
  · rintro ⟨given, hgiven⟩ rest hnames
    by_contra hvalue
    rw [read_eq_error_iff.2 ⟨rest, hnames, hvalue, rfl⟩] at hgiven
    contradiction
  · intro h
    cases hv : l.read v with
    | ok given => exact ⟨given, rfl⟩
    | error e =>
      obtain ⟨rest, hnames, hvalue, -⟩ := read_eq_error_iff.1 hv
      exact absurd (h rest hnames) hvalue

/-- **Overriding fails exactly if some variable cannot be read.** -/
theorem exists_overrideAll_error_iff :
    (∃ e, (l.overrideAll d environment).result = .error e) ↔ l.Unreadable environment := by
  rw [← not_iff_not, ← exists_mapM_read_iff, result_overrideAll]
  cases environment.mapM l.read <;> simp [bind, Except.bind, pure, Except.pure]

theorem overrideAll_eq_error_iff {e : SettingError} :
    (l.overrideAll d environment).result = .error e ↔
      ∃ before v after rest, environment = before ++ v :: after ∧ ¬ l.Unreadable before ∧
        l.Names v rest ∧ ¬ v.value.IsValidUTF8 ∧
          e = .invalidArgument (.notUtf8 (l.mark ++ rest)) := by
  have hread : (l.overrideAll d environment).result = .error e ↔
      environment.mapM l.read = .error e := by
    rw [result_overrideAll]
    cases environment.mapM l.read <;> simp [bind, Except.bind, pure, Except.pure]
  rw [hread, mapM_eq_error_iff]
  simp only [← exists_mapM_iff, exists_mapM_read_iff, read_eq_error_iff]
  constructor
  · rintro ⟨before, v, after, henv, hbefore, rest, h⟩
    exact ⟨before, v, after, rest, henv, hbefore, h⟩
  · rintro ⟨before, v, after, rest, henv, hbefore, h⟩
    exact ⟨before, v, after, henv, hbefore, rest, h⟩

theorem exists_fault_of_error {e : SettingError}
    (h : (l.overrideAll d environment).result = .error e) :
    ∃ fault, e = .invalidArgument fault := by
  obtain ⟨_, _, _, _, _, _, _, _, rfl⟩ := overrideAll_eq_error_iff.1 h
  exact ⟨_, rfl⟩

/-! ## What variables make of a document -/

/-- No two variables mean the same setting: names that differ do so in lower case too. -/
def MeanApart (l : Loader) (environment : List Variable) : Prop :=
  ∀ v ∈ environment, ∀ w ∈ environment, ∀ rest rest', l.Names v rest → l.Names w rest' →
    lowercase rest = lowercase rest' → rest = rest'

/-- A document with the settings of an environment over it. Every variable that concerns the loader
gives a text, and nothing else changes. -/
structure Overridden (l : Loader) (d : Document) (environment : List Variable) (t : Document) :
    Prop where
  given : ∀ v ∈ environment, ∀ rest, l.Names v rest →
    ∃ text, v.value = text.toUTF8 ∧ t.global.get? (lowercase rest) = some text
  kept : ∀ key, (∀ v ∈ environment, ∀ rest, l.Names v rest → lowercase rest ≠ key) →
    t.global.get? key = d.global.get? key
  limits : t.limits = d.limits
  extruders : t.extruders = d.extruders

/-- A load that does not fail leaves the settings of the environment over the document. -/
theorem overridden_of_result (hnames : (environment.map (·.name)).Nodup)
    (hapart : l.MeanApart environment) (h : (l.overrideAll d environment).result = .ok t) :
    l.Overridden d environment t := by
  rw [result_overrideAll] at h
  cases hread : environment.mapM l.read with
  | error e => rw [hread] at h; contradiction
  | ok given =>
    rw [hread] at h
    have ht : t = given.foldl writeGiven d := (Except.ok.inj h).symm
    rw [foldl_writeGiven, Document.foldl_set] at ht
    have hmem : ∀ p, p ∈ given.reduceOption ↔ ∃ v ∈ environment, ∃ rest, l.Names v rest ∧
        v.value = p.value.toUTF8 ∧ p.key = lowercase rest := fun p => by
      simp only [List.reduceOption_mem_iff, mem_of_mapM_eq_ok hread, read_eq_some_iff]
    have hget : ∀ key, t.global.get? key =
        (lastText? key given.reduceOption).or (d.global.get? key) := fun key => by
      rw [ht, KeyMap.get?_foldl_insert_pairs]
    refine ⟨fun v hv rest hrest => ?_, fun key hkey => ?_, by rw [ht], by rw [ht]⟩
    · obtain ⟨x, hx⟩ := exists_mapM_iff.1 ⟨given, hread⟩ v hv
      obtain ⟨text, hvalue⟩ := exists_text_of_read hrest hx
      have hp : Pair.mk (lowercase rest) text ∈ given.reduceOption :=
        (hmem _).2 ⟨v, hv, rest, hrest, hvalue, rfl⟩
      refine ⟨text, hvalue, ?_⟩
      rw [hget, lastText?_eq_some hp fun q hq hqkey => ?_, Option.some_or]
      -- another pair for the setting comes from the same variable
      obtain ⟨w, hw, rest', hrest', hwvalue, hwkey⟩ := (hmem q).1 hq
      obtain rfl := hapart v hv w hw rest rest' hrest hrest' (hqkey.symm.trans hwkey)
      obtain rfl := List.inj_on_of_nodup_map hnames hv hw (hrest.2.trans hrest'.2.symm)
      exact toUTF8_inj (hwvalue.symm.trans hvalue)
    · have hnone : ∀ p ∈ given.reduceOption, p.key ≠ key := by
        intro p hp heq
        obtain ⟨v, hv, rest, hrest, -, hpkey⟩ := (hmem p).1 hp
        exact hkey v hv rest hrest (hpkey.symm.trans heq)
      rw [hget, lastText?_eq_none hnone, Option.none_or]

theorem Overridden.unique {t' : Document} (h : l.Overridden d environment t)
    (h' : l.Overridden d environment t') : t = t' := by
  have hglobal : t.global = t'.global := KeyMap.ext_get? fun key => by
    by_cases hkey : ∃ v ∈ environment, ∃ rest, l.Names v rest ∧ lowercase rest = key
    · obtain ⟨v, hv, rest, hrest, rfl⟩ := hkey
      obtain ⟨text, hvalue, htext⟩ := h.given v hv rest hrest
      obtain ⟨text', hvalue', htext'⟩ := h'.given v hv rest hrest
      rw [htext, htext', toUTF8_inj (hvalue.symm.trans hvalue')]
    · have hother : ∀ v ∈ environment, ∀ rest, l.Names v rest → lowercase rest ≠ key :=
        fun v hv rest hrest heq => hkey ⟨v, hv, rest, hrest, heq⟩
      rw [h.kept key hother, h'.kept key hother]
  cases t
  cases t'
  simp only [Document.mk.injEq]
  exact ⟨hglobal, h.limits.trans h'.limits.symm, h.extruders.trans h'.extruders.symm⟩

section Order

variable {environment' : List Variable} (hperm : environment.Perm environment')
include hperm

theorem unreadable_perm : l.Unreadable environment ↔ l.Unreadable environment' := by
  simp only [Unreadable, hperm.mem_iff]

theorem MeanApart.perm (h : l.MeanApart environment) : l.MeanApart environment' := by
  simpa only [MeanApart, hperm.mem_iff] using h

theorem Overridden.perm (h : l.Overridden d environment' t) : l.Overridden d environment t := by
  refine ⟨fun v hv => h.given v (hperm.mem_iff.1 hv), fun key hkey => h.kept key fun v hv => ?_,
    h.limits, h.extruders⟩
  exact hkey v (hperm.mem_iff.2 hv)

end Order

/-- **The order of the environment does not matter.** Two listings of it fail together, exactly if a
variable that concerns the loader has a value that is no text. Otherwise, unless two variables mean
the same setting, they give the same document: that of the settings of the environment over the
given one. Variables that do not concern the loader have no effect. -/
theorem overrideAll_perm (l : Loader) (d : Document) {environment environment' : List Variable}
    (hperm : environment.Perm environment') (hnames : (environment.map (·.name)).Nodup) :
    let result (listing : List Variable) := (l.overrideAll d listing).result
    ((∃ e, result environment = .error e) ↔ l.Unreadable environment) ∧
    ((∃ e, result environment' = .error e) ↔ l.Unreadable environment) ∧
    (∀ e, result environment = .error e ∨ result environment' = .error e →
      ∃ fault, e = .invalidArgument fault) ∧
    (l.MeanApart environment → ¬ l.Unreadable environment →
      ∃ t, result environment = .ok t ∧ result environment' = .ok t ∧
        l.Overridden d environment t) ∧
    (∀ v, (∀ rest, ¬ l.Names v rest) → ∀ before after,
      l.overrideAll d (before ++ v :: after) = l.overrideAll d (before ++ after)) ∧
    ∀ source, base source = .ok d → ∀ listing, l.load source listing = l.overrideAll d listing := by
  intro result
  refine ⟨exists_overrideAll_error_iff, ?_, ?_, ?_, ?_, ?_⟩
  · exact exists_overrideAll_error_iff.trans (unreadable_perm hperm).symm
  · rintro e (h | h) <;> exact exists_fault_of_error h
  · intro hapart hread
    have hok : ∀ listing, ¬ l.Unreadable listing → ∃ t, result listing = .ok t := by
      intro listing hlisting
      cases h : result listing with
      | ok t => exact ⟨t, rfl⟩
      | error e => exact absurd (exists_overrideAll_error_iff.1 ⟨e, h⟩) hlisting
    obtain ⟨t, ht⟩ := hok environment hread
    obtain ⟨t', ht'⟩ := hok environment' (mt (unreadable_perm hperm).2 hread)
    have hover : l.Overridden d environment t := overridden_of_result hnames hapart ht
    have hover' : l.Overridden d environment' t' :=
      overridden_of_result ((hperm.map _).nodup_iff.1 hnames) (hapart.perm hperm) ht'
    obtain rfl := hover.unique (hover'.perm hperm)
    exact ⟨t, ht, ht', hover⟩
  · intro v hv before after
    have hpart : l.namedPart? v = none := by
      cases h : l.namedPart? v with
      | none => rfl
      | some rest => exact absurd (namedPart?_eq_some_iff.1 h) (hv rest)
    simp only [overrideAll, List.foldlM_append, List.foldlM_cons, override_eq_self hpart, pure_bind]
  · intro source hsource listing
    rw [load, hsource]
    rfl

/-- A variable that concerns no loader. -/
def home : Variable := ⟨"HOME".toUTF8, "/".toUTF8⟩

def speed : Variable := ⟨"STRATA_SET_SPEED".toUTF8, "50".toUTF8⟩

def width : Variable := ⟨"STRATA_SET_WIDTH".toUTF8, "0.4".toUTF8⟩

/-- A speed that is no text. -/
def noSpeed : Variable := ⟨"STRATA_SET_SPEED".toUTF8, ⟨#[0xff]⟩⟩

theorem not_names_home (rest : String) : ¬ standard.Names home rest := by
  have hnone : standard.namedPart? home = none := by decide
  intro h
  rw [namedPart?_eq_some_iff.2 h] at hnone
  contradiction

theorem names_of_mem {rest : String} (hv : v ∈ [speed, home, width]) (h : standard.Names v rest) :
    v = speed ∧ rest = "SPEED" ∨ v = width ∧ rest = "WIDTH" := by
  have hpart := namedPart?_eq_some_iff.2 h
  simp only [List.mem_cons, List.not_mem_nil, or_false] at hv
  rcases hv with rfl | rfl | rfl
  · exact .inl ⟨rfl, Option.some.inj (hpart.symm.trans (by decide))⟩
  · exact absurd h (not_names_home rest)
  · exact .inr ⟨rfl, Option.some.inj (hpart.symm.trans (by decide))⟩

theorem meanApart_speed_width : standard.MeanApart [speed, home, width] := by
  intro v hv w hw rest rest' hrest hrest' heq
  obtain ⟨-, rfl⟩ | ⟨-, rfl⟩ := names_of_mem hv hrest <;>
    obtain ⟨-, rfl⟩ | ⟨-, rfl⟩ := names_of_mem hw hrest'
  · rfl
  · exact absurd heq (by decide)
  · exact absurd heq (by decide)
  · rfl

theorem not_unreadable_speed_width : ¬ standard.Unreadable [speed, home, width] := by
  rintro ⟨v, hv, rest, hrest, hvalue⟩
  obtain ⟨rfl, -⟩ | ⟨rfl, -⟩ := names_of_mem hv hrest
  · exact hvalue (String.isValidUTF8 "50")
  · exact hvalue (String.isValidUTF8 "0.4")

/-- Two settings with another variable between them, in this order and the other way round; and a
setting that cannot be read. -/
theorem overrideAll_perm_speed_width :
    [speed, home, width].Perm [width, home, speed] ∧
    ([speed, home, width].map (·.name)).Nodup ∧
    standard.MeanApart [speed, home, width] ∧ ¬ standard.Unreadable [speed, home, width] ∧
    (∃ t, (standard.overrideAll ∅ [speed, home, width]).result = .ok t ∧
      (standard.overrideAll ∅ [width, home, speed]).result = .ok t ∧
      t.global.get? "speed" = some "50" ∧ t.global.get? "home" = none) ∧
    (∀ rest, ¬ standard.Names home rest) ∧
    standard.overrideAll ∅ [speed, home, width] = standard.overrideAll ∅ [speed, width] ∧
    base .environment = .ok ∅ ∧
    standard.load .environment [speed] = standard.overrideAll ∅ [speed] ∧
    ∃ e fault, (standard.overrideAll ∅ [noSpeed]).result = .error e ∧
      e = .invalidArgument fault := by
  have hperm : [speed, home, width].Perm [width, home, speed] :=
    (List.reverse_perm [width, home, speed])
  have hnames : ([speed, home, width].map (·.name)).Nodup := by decide
  obtain ⟨-, -, -, hsame, hother, hload⟩ := overrideAll_perm standard ∅ hperm hnames
  obtain ⟨t, ht, ht', hover⟩ := hsame meanApart_speed_width not_unreadable_speed_width
  have hbad : standard.Unreadable [noSpeed] := ⟨noSpeed, List.mem_cons_self, "SPEED",
    namedPart?_eq_some_iff.1 (by decide), fromUTF8?_eq_none_iff.1 (by decide)⟩
  obtain ⟨hfails, -, hfault, -⟩ :=
    overrideAll_perm standard ∅ (List.Perm.refl [noSpeed]) (List.nodup_singleton _)
  obtain ⟨e, he⟩ := hfails.2 hbad
  obtain ⟨fault, hfault⟩ := hfault e (.inl he)
  refine ⟨hperm, hnames, meanApart_speed_width, not_unreadable_speed_width,
    ⟨t, ht, ht', ?_, ?_⟩, not_names_home, hother home not_names_home [speed] [width], rfl,
    hload .environment rfl [speed], e, fault, he, hfault⟩
  · have hspeed : standard.Names speed "SPEED" := namedPart?_eq_some_iff.1 (by decide)
    obtain ⟨text, hvalue, htext⟩ := hover.given speed List.mem_cons_self "SPEED" hspeed
    have heq : "50" = text := toUTF8_inj hvalue
    rw [heq]
    exact htext
  · refine (hover.kept "home" fun v hv rest hrest => ?_).trans rfl
    obtain ⟨-, rfl⟩ | ⟨-, rfl⟩ := names_of_mem hv hrest <;> decide

end Loader

end PrintSettings
