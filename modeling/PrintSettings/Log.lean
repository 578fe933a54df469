/-! # Log records

Operations report what they do in records of three levels. A computation that may report is a value
together with its records in order (`Logged`); running one after another appends the records. -/

namespace PrintSettings

inductive Level where
  | debug
  | warn
  | error
deriving DecidableEq, Repr

def Level.name : Level → String
  | debug => "DEBUG"
  | warn => "WARN"
  | error => "ERROR"

structure Record where
  level : Level
  text : String
deriving DecidableEq, Repr

/-- A value and the records made while computing it, in order. -/
structure Logged (α : Type) where
  value : α
  log : List Record
deriving DecidableEq, Repr

namespace Logged

instance : Monad Logged where
  pure a := ⟨a, []⟩
  bind x f := let y := f x.value; ⟨y.value, x.log ++ y.log⟩

def record (level : Level) (text : String) : Logged Unit := ⟨(), [⟨level, text⟩]⟩

theorem pure_eq {α : Type} (a : α) : (pure a : Logged α) = ⟨a, []⟩ := rfl

theorem bind_eq {α β : Type} (x : Logged α) (f : α → Logged β) :
    x >>= f = ⟨(f x.value).value, x.log ++ (f x.value).log⟩ := rfl

instance : LawfulMonad Logged := LawfulMonad.mk' Logged
  (fun x => by
    show (⟨x.value, x.log ++ []⟩ : Logged _) = x
    rw [List.append_nil])
  (fun _ _ => rfl)
  (fun x f g => by simp [bind_eq, List.append_assoc])

end Logged

end PrintSettings
