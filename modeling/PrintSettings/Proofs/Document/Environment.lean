import PrintSettings.Document.Loader

/-! # Variables of the environment

A variable concerns a loader if its name is a text that carries the loader's mark and something
after it (`namedPart?`). Other variables leave the document as it is (`overrideAll_eq_self`). -/

namespace PrintSettings.Loader

/-- What stands after the mark in the name of a variable, if the variable concerns the loader. -/
def namedPart? (l : Loader) (v : Variable) : Option String :=
  (String.fromUTF8? v.name).bind l.keyPart?

theorem override_eq_self {l : Loader} {v : Variable} (h : l.namedPart? v = none) (d : Document) :
    l.override d v = pure d := by
  unfold namedPart? at h
  unfold override
  split
  · rfl
  next name hname =>
    rw [hname, Option.bind_some] at h
    rw [h]

/-- **Variables that do not concern the loader change nothing.** -/
theorem overrideAll_eq_self {l : Loader} {environment : List Variable}
    (h : ∀ v ∈ environment, l.namedPart? v = none) (d : Document) :
    l.overrideAll d environment = pure d := by
  unfold overrideAll
  induction environment with
  | nil => rfl
  | cons v environment ih =>
    rw [List.foldlM_cons, override_eq_self (h v List.mem_cons_self), pure_bind]
    exact ih fun w hw => h w (List.mem_cons_of_mem _ hw)

end PrintSettings.Loader
