import ScriptCheck.Annotate.Stmt

/-! Whole programs: the signatures of all top-level functions are collected first, so functions
may call each other in any order; then the statements are checked in source order. Also the two
checks of a single tree against given tables. -/

namespace ScriptCheck

open Outcome

def Functions.declare (functions : Functions) (head : Header) : Outcome Functions := do
  write (.hoist head.name head.signature)
  let (replaced, table) := functions.exchange head.name head.signature
  require (head.name ≠ printName ∧ replaced = none) (.duplicateFunction head.name)
  return table

def Functions.ofHeaders (heads : List Header) : Outcome Functions :=
  heads.foldlM Functions.declare ∅

namespace Program

def functions {α : Type} (program : Program α) : Outcome Functions :=
  Functions.ofHeaders program.headers

def annotate (strictness : Strictness) (program : Program Unit) : Outcome (Program Ty) := do
  write (.start program.length)
  let functions ← program.functions
  let run := Stmt.annotateAll program (.top functions ∅ strictness)
  let typed ← run.toOutcome.onFailure .failed
  write (.done functions.size run.context.scope.size)
  return typed

end Program

def Expr.annotateIn (functions : Functions) (scope : Scope) (e : Expr Unit) : Outcome (Expr Ty) :=
  (Context.top functions scope .permissive).annotateExpr e

/-- Labels one statement at top level against the given tables, `returnTy` being what a `return`
has to give, and says which scope it leaves. Operands are not compared. -/
def Stmt.annotateIn (functions : Functions) (returnTy : Ty) (s : Stmt Unit) (scope : Scope) :
    Outcome (Stmt Ty) × Scope :=
  let step := s.annotate { Context.top functions scope .permissive with returnTy := returnTy }
  (step.toOutcome, step.context.scope)

end ScriptCheck
