import ScriptCheck.Ty

namespace ScriptCheck

/-- What a caller knows of a function: its parameter types in declared order, and its return type. -/
structure Signature where
  params : List Ty
  ret : Ty
  deriving DecidableEq, Repr

namespace Signature

def arity (sig : Signature) : Nat := sig.params.length

def render (sig : Signature) : String :=
  "(" ++ ", ".intercalate (sig.params.map Ty.name) ++ ") -> " ++ sig.ret.name

end Signature

end ScriptCheck
