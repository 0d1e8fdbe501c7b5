import ScriptCheck.NameTable.Basic
import ScriptCheck.Outcome

/-! What a check knows at a point of a program, and checks that change it. -/

namespace ScriptCheck

abbrev Scope := NameTable Ty

abbrev Functions := NameTable Signature

def Scope.withParams (scope : Scope) (params : List Param) : Scope :=
  scope.insertAll (params.map fun p => (p.name, p.ty))

/-- Whether the operands of a binary operation are compared with what the operator takes. -/
inductive Strictness where
  | permissive
  | strict
  deriving DecidableEq, Repr

structure Context where
  functions : Functions
  scope : Scope
  /-- The return type of the function around this point, `none` at top level. -/
  returnTy : Ty
  inFunction : Bool
  strictness : Strictness
  deriving DecidableEq, Repr

namespace Context

def top (functions : Functions) (scope : Scope) (strictness : Strictness) : Context where
  functions := functions
  scope := scope
  returnTy := .none
  inFunction := false
  strictness := strictness

def inBody (ctx : Context) (head : Header) : Context where
  functions := ctx.functions
  scope := ctx.scope.withParams head.params
  returnTy := head.ret
  inFunction := true
  strictness := ctx.strictness

def bind (ctx : Context) (name : String) (ty : Ty) : Context :=
  { ctx with scope := ctx.scope.insert name ty }

end Context

/-- An outcome, and the context it leaves behind, which is there also after a failure. -/
structure Step (α : Type) extends Outcome α where
  context : Context

def Check (α : Type) := Context → Step α

namespace Check

variable {α β : Type}

protected def bind (first : Check α) (next : α → Check β) : Check β := fun ctx =>
  let done := first ctx
  match done.result with
  | .ok a =>
    let rest := next a done.context
    ⟨⟨done.log ++ rest.log, rest.result⟩, rest.context⟩
  | .error v => ⟨⟨done.log, .error v⟩, done.context⟩

instance : Monad Check where
  pure a := fun ctx => ⟨pure a, ctx⟩
  bind := Check.bind

def look (check : Context → Outcome α) : Check α := fun ctx => ⟨check ctx, ctx⟩

/-- Runs a check in a context derived from the current one, which then comes back unchanged. -/
def within (enter : Context → Context) (check : Check α) : Check α := fun ctx =>
  ⟨(check (enter ctx)).toOutcome, ctx⟩

end Check

end ScriptCheck
