/-! Types of values, and their names in program text. -/

namespace ScriptCheck

inductive Ty where
  | int
  | bool
  /-- The type of `None`, and of everything done for effect only. -/
  | none
  deriving DecidableEq, Repr

namespace Ty

def name : Ty → String
  | int => "int"
  | bool => "bool"
  | none => "none"

instance : ToString Ty := ⟨name⟩

def ofName? : String → Option Ty
  | "int" => some int
  | "bool" => some bool
  | "none" => some none
  | _ => .none

theorem ofName?_eq_some_iff {text : String} {ty : Ty} : ofName? text = some ty ↔ text = ty.name := by
  constructor
  · intro found
    unfold ofName? at found
    split at found <;> cases found <;> rfl
  · rintro rfl
    cases ty <;> rfl

end Ty

end ScriptCheck
