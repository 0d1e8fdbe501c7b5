import ScriptCheck.Operator

/-! What a program can do wrong, one constructor per cause, and the wording of each. -/

namespace ScriptCheck

inductive Violation where
  | unboundName (name : String)
  | unknownFunction (name : String)
  | wrongArity (name : String) (expected actual : Nat)
  /-- The argument at `position`, counted from one, has another type than the parameter. -/
  | wrongArgument (name : String) (position : Nat) (expected actual : Ty)
  | wrongAssignment (name : String) (expected actual : Ty)
  | wrongReturn (expected actual : Ty)
  | unknownOperator (text : String)
  | wrongOperand (text : String) (expected actual : Ty)
  | duplicateFunction (name : String)
  | nestedFunction (name : String)
  | unknownType (text : String)
  deriving DecidableEq, Repr

namespace Violation

def message : Violation → String
  | unboundName name => s!"unbound identifier: {name}"
  | unknownFunction name => s!"function {name} not found"
  | wrongArity name expected actual => s!"{name} expects {expected} argument(s) but got {actual}"
  | wrongArgument name position expected actual =>
    s!"argument #{position} of {name}: expected {expected}, got {actual}"
  | wrongAssignment name expected actual =>
    s!"cannot assign {actual} to {name}, which has type {expected}"
  | wrongReturn expected actual => s!"{actual} returned but {expected} expected"
  | unknownOperator text => s!"unsupported operator: {text}"
  | wrongOperand text expected actual => s!"operand of {text}: expected {expected}, got {actual}"
  | duplicateFunction name => s!"function {name} is already defined"
  | nestedFunction name => s!"function {name} cannot be defined inside another function"
  | unknownType text => s!"unknown type: {text}"

/-- The violation as one diagnostic line, behind a heading that the terminal may show in colour. -/
def report (heading : String) (v : Violation) : String :=
  heading ++ ": " ++ v.message

end Violation

def Ty.read (text : String) : Except Violation Ty :=
  match Ty.ofName? text with
  | some ty => .ok ty
  | .none => .error (.unknownType text)

def Operator.read (text : String) : Except Violation Operator :=
  match Operator.ofSymbol? text with
  | some op => .ok op
  | none => .error (.unknownOperator text)

end ScriptCheck
