/-! # Maps with ordered keys

A map from names to values, kept as the list of its entries in strictly ascending order of names.
Two maps with the same lookups are the same map (`ext_get?`). Names are ordered by code points. -/

namespace PrintSettings

/-- A map from names to values, in ascending order of names. -/
structure KeyMap (α : Type) where
  entries : List (String × α)
  sorted : entries.Pairwise (·.1 < ·.1)
deriving DecidableEq, Repr

namespace KeyMap

variable {α β : Type}

/-! ## Operations -/

def empty : KeyMap α := ⟨[], List.Pairwise.nil⟩

instance : EmptyCollection (KeyMap α) := ⟨empty⟩
instance : Inhabited (KeyMap α) := ⟨empty⟩

/-- The value of a name in a list of entries. -/
def find? (key : String) : List (String × α) → Option α
  | [] => none
  | (k, a) :: rest => if k = key then some a else find? key rest

def get? (m : KeyMap α) (key : String) : Option α := find? key m.entries

def contains (m : KeyMap α) (key : String) : Bool := (m.get? key).isSome

def size (m : KeyMap α) : Nat := m.entries.length

def isEmpty (m : KeyMap α) : Bool := m.entries.isEmpty

def keys (m : KeyMap α) : List String := m.entries.map (·.1)

/-- Puts an entry in its place, instead of one with the same name. -/
def insertEntry (key : String) (a : α) : List (String × α) → List (String × α)
  | [] => [(key, a)]
  | (k, b) :: rest =>
    if key < k then (key, a) :: (k, b) :: rest
    else if key = k then (key, a) :: rest
    else (k, b) :: insertEntry key a rest

theorem mem_insertEntry {key : String} {a : α} {l : List (String × α)} {e : String × α}
    (h : e ∈ insertEntry key a l) : e = (key, a) ∨ e ∈ l := by
  induction l with
  | nil => simpa [insertEntry] using h
  | cons b l ih =>
    simp only [insertEntry] at h
    split at h
    · simpa using h
    · split at h
      · rcases List.mem_cons.1 h with h | h
        · exact .inl h
        · exact .inr (List.mem_cons_of_mem _ h)
      · rcases List.mem_cons.1 h with h | h
        · exact .inr (h ▸ List.mem_cons_self)
        · exact (ih h).imp_right (List.mem_cons_of_mem _)

theorem lt_of_not_lt_of_ne {a b : String} (h : ¬ a < b) (hne : a ≠ b) : b < a := by
  rcases String.le_total a b with hab | hab
  · exact absurd (String.le_antisymm hab (String.not_lt.1 h)) hne
  · exact Decidable.byContradiction fun hba => hne (String.le_antisymm (String.not_lt.1 hba) hab)

theorem sorted_insertEntry {key : String} {a : α} {l : List (String × α)}
    (h : l.Pairwise (·.1 < ·.1)) : (insertEntry key a l).Pairwise (·.1 < ·.1) := by
  induction l with
  | nil => simp [insertEntry]
  | cons b l ih =>
    obtain ⟨hb, hl⟩ := List.pairwise_cons.1 h
    simp only [insertEntry]
    split
    next hlt =>
      refine List.pairwise_cons.2 ⟨fun e he => ?_, h⟩
      rcases List.mem_cons.1 he with rfl | he
      · exact hlt
      · exact String.lt_trans hlt (hb e he)
    next hlt =>
      split
      next heq => exact List.pairwise_cons.2 ⟨fun e he => heq ▸ hb e he, hl⟩
      next hne =>
        refine List.pairwise_cons.2 ⟨fun e he => ?_, ih hl⟩
        rcases mem_insertEntry he with rfl | he
        · exact lt_of_not_lt_of_ne hlt hne
        · exact hb e he

/-- The map with a value for one name, whatever it had before. -/
def insert (m : KeyMap α) (key : String) (a : α) : KeyMap α :=
  ⟨insertEntry key a m.entries, sorted_insertEntry m.sorted⟩

/-- The map of a list of entries; of several with one name the last counts. -/
def ofList (l : List (String × α)) : KeyMap α := l.foldl (fun m e => m.insert e.1 e.2) ∅

/-- The map with every value changed, which may depend on the name. -/
def map (f : String → α → β) (m : KeyMap α) : KeyMap β :=
  ⟨m.entries.map fun e => (e.1, f e.1 e.2), by
    rw [List.pairwise_map]
    exact m.sorted⟩

/-! ## Lookups -/

theorem find?_insertEntry {key k : String} {a : α} {l : List (String × α)} :
    find? k (insertEntry key a l) = if key = k then some a else find? k l := by
  induction l with
  | nil => simp [insertEntry, find?]
  | cons b l ih =>
    simp only [insertEntry]
    split
    · simp [find?]
    · split
      next heq =>
        subst heq
        by_cases hk : b.1 = k <;> simp [find?, hk]
      next hne =>
        by_cases hk : b.1 = k
        · subst hk
          simp [find?, hne]
        · simp [find?, hk, ih]

@[simp] theorem get?_insert (m : KeyMap α) (key k : String) (a : α) :
    (m.insert key a).get? k = if key = k then some a else m.get? k :=
  find?_insertEntry

@[simp] theorem get?_empty (k : String) : (∅ : KeyMap α).get? k = none := rfl

theorem find?_map {f : String → α → β} {k : String} {l : List (String × α)} :
    find? k (l.map fun e => (e.1, f e.1 e.2)) = (find? k l).map (f k) := by
  induction l with
  | nil => rfl
  | cons b l ih =>
    by_cases hk : b.1 = k
    · subst hk
      simp [find?]
    · simp [find?, hk, ih]

@[simp] theorem get?_map (f : String → α → β) (m : KeyMap α) (k : String) :
    (m.map f).get? k = (m.get? k).map (f k) := find?_map

/-! ## Equality -/

theorem find?_eq_none {k : String} {l : List (String × α)} (h : ∀ e ∈ l, k < e.1) :
    find? k l = none := by
  induction l with
  | nil => rfl
  | cons b l ih =>
    have hb : b.1 ≠ k := fun hbk => String.lt_irrefl k (hbk ▸ h b List.mem_cons_self)
    simpa [find?, hb] using ih fun e he => h e (List.mem_cons_of_mem _ he)

theorem mem_of_find?_eq_some {k : String} {a : α} {l : List (String × α)}
    (h : find? k l = some a) : (k, a) ∈ l := by
  induction l with
  | nil => simp [find?] at h
  | cons b l ih =>
    by_cases hb : b.1 = k
    · subst hb
      simp only [find?, if_true, Option.some.injEq] at h
      exact h ▸ List.mem_cons_self
    · exact List.mem_cons_of_mem _ (ih (by simpa [find?, hb] using h))

theorem entries_ext {l l' : List (String × α)} (h : l.Pairwise (·.1 < ·.1))
    (h' : l'.Pairwise (·.1 < ·.1)) (heq : ∀ k, find? k l = find? k l') : l = l' := by
  induction l generalizing l' with
  | nil =>
    cases l' with
    | nil => rfl
    | cons b l' => simpa [find?] using heq b.1
  | cons b l ih =>
    cases l' with
    | nil => simpa [find?] using heq b.1
    | cons b' l' =>
      obtain ⟨hb, hl⟩ := List.pairwise_cons.1 h
      obtain ⟨hb', hl'⟩ := List.pairwise_cons.1 h'
      have hkey : b.1 = b'.1 := by
        refine Decidable.byContradiction fun hne => ?_
        have h1 := heq b.1
        have h2 := heq b'.1
        simp only [find?, if_true, Ne.symm hne, hne, if_false] at h1 h2
        exact String.lt_asymm (hb' _ (mem_of_find?_eq_some h1.symm))
          (hb _ (mem_of_find?_eq_some h2))
      have hval : b.2 = b'.2 := by simpa [find?, hkey] using heq b.1
      refine List.cons_eq_cons.2 ⟨Prod.ext hkey hval, ih hl hl' fun k => ?_⟩
      by_cases hk : b.1 = k
      · subst hk
        rw [find?_eq_none fun e he => hb e he, find?_eq_none fun e he => hkey ▸ hb' e he]
      · have := heq k
        simpa [find?, hk, hkey ▸ hk] using this

theorem ext_get? {m m' : KeyMap α} (h : ∀ k, m.get? k = m'.get? k) : m = m' := by
  cases m
  cases m'
  simp only [KeyMap.mk.injEq]
  exact entries_ext (by assumption) (by assumption) h

/-! ## Entries -/

theorem find?_eq_some_of_mem {e : String × α} {l : List (String × α)}
    (h : l.Pairwise (·.1 < ·.1)) (he : e ∈ l) : find? e.1 l = some e.2 := by
  induction l with
  | nil => simp at he
  | cons b l ih =>
    obtain ⟨hb, hl⟩ := List.pairwise_cons.1 h
    rcases List.mem_cons.1 he with rfl | he
    · simp [find?]
    · have hne : b.1 ≠ e.1 := fun hbe => String.lt_irrefl e.1 (hbe ▸ hb e he)
      simpa [find?, hne] using ih hl he

theorem mem_entries_iff {m : KeyMap α} {e : String × α} : e ∈ m.entries ↔ m.get? e.1 = some e.2 :=
  ⟨find?_eq_some_of_mem m.sorted, mem_of_find?_eq_some⟩

theorem get?_foldl_insert (l : List (String × α)) (hl : l.Pairwise (·.1 < ·.1)) (m : KeyMap α)
    (k : String) :
    (l.foldl (fun m e => m.insert e.1 e.2) m).get? k = (find? k l).or (m.get? k) := by
  induction l generalizing m with
  | nil => simp [find?]
  | cons b l ih =>
    obtain ⟨hb, hl⟩ := List.pairwise_cons.1 hl
    rw [List.foldl_cons, ih hl, get?_insert]
    by_cases hk : b.1 = k
    · subst hk
      rw [find?_eq_none fun e he => hb e he]
      simp [find?]
    · simp [find?, hk]

theorem ofList_entries (m : KeyMap α) : ofList m.entries = m := by
  refine ext_get? fun k => ?_
  rw [ofList, get?_foldl_insert m.entries m.sorted, get?_empty, Option.or_none]
  rfl

theorem foldl_insert_map (f : String → α → β) (m : KeyMap α) :
    m.entries.foldl (fun m e => m.insert e.1 (f e.1 e.2)) ∅ = m.map f := by
  have h := ofList_entries (m.map f)
  rwa [ofList, map, List.foldl_map] at h

/-! ## Filtering -/

/-- The map of the entries that a condition lets through. -/
def filter (p : String → α → Bool) (m : KeyMap α) : KeyMap α :=
  ⟨m.entries.filter fun e => p e.1 e.2, m.sorted.filter _⟩

theorem get?_filter_eq_some {p : String → α → Bool} {m : KeyMap α} {k : String} {a : α} :
    (m.filter p).get? k = some a ↔ m.get? k = some a ∧ p k a := by
  have h := mem_entries_iff (m := m.filter p) (e := (k, a))
  have h' := mem_entries_iff (m := m) (e := (k, a))
  rw [← h, ← h']
  exact List.mem_filter

end KeyMap

end PrintSettings
