import PrintSettings.Error

/-! # Results of outcomes

The result of an outcome is what is left of it when its records are forgotten. Results follow the
steps of a computation (`result_bind`). -/

namespace PrintSettings.Outcome

variable {α β : Type}

/-- The result or error of an outcome, without the records. -/
def result (x : Outcome α) : Except SettingError α := x.run.value

@[simp] theorem result_pure (a : α) : result (pure a) = .ok a := rfl

@[simp] theorem result_bind (x : Outcome α) (f : α → Outcome β) :
    result (x >>= f) = x.result >>= fun a => (f a).result := by
  rcases x with ⟨value, log⟩
  cases value <;> rfl

@[simp] theorem result_ofExcept (x : Except SettingError α) : result (ofExcept x) = x := rfl

theorem result_foldlM {σ : Type} (step : σ → α → Outcome σ) (l : List α) (s : σ) :
    (l.foldlM step s).result = l.foldlM (fun s a => (step s a).result) s := by
  induction l generalizing s with
  | nil => rfl
  | cons a l ih =>
    rw [List.foldlM_cons, List.foldlM_cons, result_bind]
    simp only [ih]

end PrintSettings.Outcome
