import ScriptCheck.Record

/-! What a check gives back: its log, which is there also after a failure, and its result. Checks
run one after the other until the first violation. -/

namespace ScriptCheck

structure Outcome (α : Type) where
  log : List Record
  result : Except Violation α

namespace Outcome

variable {α β : Type}

protected def bind (first : Outcome α) (next : α → Outcome β) : Outcome β :=
  match first.result with
  | .ok a =>
    let second := next a
    ⟨first.log ++ second.log, second.result⟩
  | .error v => ⟨first.log, .error v⟩

instance : Monad Outcome where
  pure a := ⟨[], .ok a⟩
  bind := Outcome.bind

def fail (v : Violation) : Outcome α := ⟨[], .error v⟩

def write (r : Record) : Outcome Unit := ⟨[r], .ok ()⟩

def ofExcept (result : Except Violation α) : Outcome α := ⟨[], result⟩

def require (condition : Prop) [Decidable condition] (v : Violation) : Outcome Unit :=
  if condition then pure () else fail v

/-- Adds a last record to the log of a check that stopped. -/
def onFailure (check : Outcome α) (note : Violation → Record) : Outcome α :=
  match check.result with
  | .ok _ => check
  | .error v => ⟨check.log ++ [note v], .error v⟩

@[simp] theorem result_pure (a : α) : (pure a : Outcome α).result = .ok a := rfl

@[simp] theorem log_pure (a : α) : (pure a : Outcome α).log = [] := rfl

@[simp] theorem result_bind (first : Outcome α) (next : α → Outcome β) :
    (first >>= next).result = first.result >>= fun a => (next a).result := by
  show (Outcome.bind first next).result = _
  unfold Outcome.bind
  cases first.result <;> rfl

instance : LawfulMonad Outcome := LawfulMonad.mk' Outcome
  (fun x => by
    obtain ⟨log, result⟩ := x
    show Outcome.bind _ _ = _
    cases result <;> simp [Outcome.bind, Function.comp])
  (fun _ _ => rfl)
  (fun x f g => by
    obtain ⟨log, result⟩ := x
    show Outcome.bind (Outcome.bind _ _) _ = Outcome.bind _ (fun a => Outcome.bind _ _)
    cases result with
    | error v => rfl
    | ok a =>
      simp only [Outcome.bind]
      cases (f a).result <;> simp)

end Outcome

end ScriptCheck
