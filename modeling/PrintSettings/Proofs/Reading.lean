import Mathlib.Data.List.Forall2

/-! # Reading lists

A list is read member by member (`mapM_eq_ok_iff`), and the first member that cannot be read is what
is wrong with it (`mapM_eq_error_iff`). It makes no difference whether members are put to use as
they are read or afterwards (`foldlM_read`). -/

namespace PrintSettings

variable {ε α β : Type} {read : α → Except ε β} {a : α} {l : List α}

theorem mapM_cons_of_error {e : ε} (h : read a = .error e) : (a :: l).mapM read = .error e := by
  rw [List.mapM_cons, h]
  rfl

theorem mapM_cons_of_ok {x : β} (h : read a = .ok x) :
    (a :: l).mapM read = (l.mapM read).map (x :: ·) := by
  rw [List.mapM_cons, h]
  cases l.mapM read <;> rfl

theorem mapM_eq_ok_iff {xs : List β} :
    l.mapM read = .ok xs ↔ List.Forall₂ (fun a x => read a = .ok x) l xs := by
  induction l generalizing xs with
  | nil =>
    rw [List.forall₂_nil_left_iff]
    exact ⟨fun h => (Except.ok.inj h).symm, fun h => h ▸ rfl⟩
  | cons a l ih =>
    rw [List.forall₂_cons_left_iff]
    cases ha : read a with
    | error e =>
      rw [mapM_cons_of_error ha]
      simp
    | ok x =>
      rw [mapM_cons_of_ok ha]
      cases hl : l.mapM read with
      | error e => simp [Except.map, ← ih, hl]
      | ok xs' => simp [Except.map, ← ih, hl, eq_comm]

theorem mem_of_mapM_eq_ok {xs : List β} (h : l.mapM read = .ok xs) {x : β} :
    x ∈ xs ↔ ∃ a ∈ l, read a = .ok x := by
  have hall : List.Forall₂ (fun a x => read a = .ok x) l xs := mapM_eq_ok_iff.1 h
  clear h
  induction hall with
  | nil => simp
  | cons hax _ ih => simp [ih, hax, eq_comm]

theorem forall_of_mapM_eq_ok {xs : List β} {P : β → Prop} (h : l.mapM read = .ok xs)
    (hread : ∀ a x, read a = .ok x → P x) : ∀ x ∈ xs, P x := by
  intro x hx
  obtain ⟨a, -, hax⟩ := (mem_of_mapM_eq_ok h).1 hx
  exact hread a x hax

theorem exists_mapM_iff :
    (∃ xs, l.mapM read = .ok xs) ↔ ∀ a ∈ l, ∃ x, read a = .ok x := by
  induction l with
  | nil => exact iff_of_true ⟨[], rfl⟩ (by simp)
  | cons a l ih =>
    rw [List.forall_mem_cons, ← ih]
    cases ha : read a with
    | error e =>
      rw [mapM_cons_of_error ha]
      simp
    | ok x =>
      rw [mapM_cons_of_ok ha]
      cases l.mapM read <;> simp [Except.map]

/-- Where the first member with `Q` is, if all those before it have `P`: it is the head of a list,
or the head has `P` and it is the first one in the rest. -/
theorem exists_first_cons_iff {P Q : α → Prop} :
    (∃ before b after, a :: l = before ++ b :: after ∧ (∀ c ∈ before, P c) ∧ Q b) ↔
      Q a ∨ P a ∧ ∃ before b after, l = before ++ b :: after ∧ (∀ c ∈ before, P c) ∧ Q b := by
  constructor
  · rintro ⟨before, b, after, hsplit, hbefore, hb⟩
    obtain ⟨rfl, hrest⟩ | ⟨before, rfl, rfl⟩ := List.cons_eq_append_iff.1 hsplit
    · obtain ⟨rfl, -⟩ := List.cons_eq_cons.1 hrest
      exact .inl hb
    · obtain ⟨ha, hbefore⟩ := List.forall_mem_cons.1 hbefore
      exact .inr ⟨ha, before, b, after, rfl, hbefore, hb⟩
  · rintro (ha | ⟨ha, before, b, after, rfl, hbefore, hb⟩)
    · exact ⟨[], a, l, rfl, List.forall_mem_nil _, ha⟩
    · exact ⟨a :: before, b, after, rfl, List.forall_mem_cons.2 ⟨ha, hbefore⟩, hb⟩

theorem mapM_eq_error_iff {e : ε} :
    l.mapM read = .error e ↔ ∃ before a after, l = before ++ a :: after ∧
      (∀ b ∈ before, ∃ x, read b = .ok x) ∧ read a = .error e := by
  induction l with
  | nil => simp [pure, Except.pure]
  | cons a l ih =>
    rw [exists_first_cons_iff, ← ih]
    cases ha : read a with
    | error e' =>
      rw [mapM_cons_of_error ha]
      simp
    | ok x =>
      rw [mapM_cons_of_ok ha]
      cases l.mapM read <;> simp [Except.map]

/-- Reading and writing in turn is reading everything and then writing everything. -/
theorem foldlM_read {σ : Type} (read : α → Except ε β) (write : σ → β → σ) (l : List α) (s : σ) :
    l.foldlM (fun s a => do return write s (← read a)) s =
      (do return (← l.mapM read).foldl write s) := by
  induction l generalizing s with
  | nil => rfl
  | cons a l ih =>
    rw [List.foldlM_cons, List.mapM_cons]
    cases read a with
    | error e => rfl
    | ok b =>
      simp only [bind_assoc, pure_bind]
      exact ih (write s b)

end PrintSettings
