import ScriptCheck.Context

/-! Types of expressions. Nothing here changes the context. -/

namespace ScriptCheck

/-- The function that takes one argument of any type. Every program has it, no table lists it and
no program may define it. -/
def printName : String := "print"

open Outcome

def Context.requireOperands (ctx : Context) (op : Operator) (left right : Ty) : Outcome Unit :=
  match ctx.strictness with
  | .permissive => pure ()
  | .strict => do
    require (left = op.operandTy) (.wrongOperand op.symbol op.operandTy left)
    require (right = op.operandTy) (.wrongOperand op.symbol op.operandTy right)

def Context.signatureOf (ctx : Context) (name : String) : Outcome Signature :=
  match ctx.functions.get? name with
  | some sig => pure sig
  | none => fail (.unknownFunction name)

mutual
def Context.annotateExpr (ctx : Context) : Expr Unit → Outcome (Expr Ty)
  | .lit value _ => do
    write (.literal value)
    return .lit value value.ty
  | .var name _ =>
    match ctx.scope.get? name with
    | some ty => do
      write (.var name ty)
      return .var name ty
    | none => fail (.unboundName name)
  | .binary text left right _ => do
    let op ← ofExcept (Operator.read text)
    let left ← ctx.annotateExpr left
    let right ← ctx.annotateExpr right
    ctx.requireOperands op left.ty right.ty
    write (.operation op)
    return .binary text left right op.resultTy
  | .call name args _ =>
    if name = printName then do
      require (args.length = 1) (.wrongArity name 1 args.length)
      let args ← ctx.annotateAll args
      return .call name args .none
    else do
      let sig ← ctx.signatureOf name
      require (args.length = sig.arity) (.wrongArity name sig.arity args.length)
      let args ← ctx.annotateArgs name 1 args sig.params
      write (.call name sig)
      return .call name args sig.ret

def Context.annotateAll (ctx : Context) : List (Expr Unit) → Outcome (List (Expr Ty))
  | [] => return []
  | e :: rest => do
    let e ← ctx.annotateExpr e
    let rest ← ctx.annotateAll rest
    return e :: rest

/-- Labels arguments from left to right, the first of them at `position`, and compares each with
its parameter's type before it looks at the next. Ends with the shorter list. -/
def Context.annotateArgs (ctx : Context) (name : String) (position : Nat) :
    List (Expr Unit) → List Ty → Outcome (List (Expr Ty))
  | arg :: args, expected :: params => do
    let arg ← ctx.annotateExpr arg
    require (arg.ty = expected) (.wrongArgument name position expected arg.ty)
    let args ← ctx.annotateArgs name (position + 1) args params
    return arg :: args
  | _, _ => return []
end

end ScriptCheck
