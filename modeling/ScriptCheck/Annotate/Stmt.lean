import ScriptCheck.Annotate.Expr

/-! Types of statements, in order. An assignment may bind a name for the statements after it. -/

namespace ScriptCheck

open Outcome

namespace Check

def assign (name : String) (ty : Ty) : Check Unit := fun ctx =>
  match ctx.scope.get? name with
  | some expected =>
    ⟨do require (ty = expected) (.wrongAssignment name expected ty); write (.reassign name ty), ctx⟩
  | none => ⟨write (.bind name ty), ctx.bind name ty⟩

def enterBody (name : String) : Check Unit := look fun ctx => do
  require (ctx.inFunction = false) (.nestedFunction name)
  write (.body name)

def requireReturn (ty : Ty) : Check Unit := look fun ctx =>
  require (ty = ctx.returnTy) (.wrongReturn ctx.returnTy ty)

end Check

mutual
/-- Labels a statement and all its parts. A `return` has the type of its value, and every other
statement has type `none`. -/
def Stmt.annotate : Stmt Unit → Check (Stmt Ty)
  | .assign name value _ => do
    let value ← Check.look (·.annotateExpr value)
    Check.assign name value.ty
    return .assign name value .none
  | .define head body _ => do
    Check.enterBody head.name
    let body ← Check.within (·.inBody head) (Stmt.annotateAll body)
    return .define head body .none
  | .expr value _ => do
    let value ← Check.look (·.annotateExpr value)
    return .expr value .none
  | .ret value _ => do
    let value ← Check.look (·.annotateExpr value)
    Check.requireReturn value.ty
    return .ret value value.ty
  | .pass _ => return .pass .none

def Stmt.annotateAll : List (Stmt Unit) → Check (List (Stmt Ty))
  | [] => return []
  | s :: rest => do
    let s ← s.annotate
    let rest ← Stmt.annotateAll rest
    return s :: rest
end

end ScriptCheck
