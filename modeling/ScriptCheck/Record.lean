import ScriptCheck.Tree.Printer
import ScriptCheck.Violation

/-! The log of a check. A record says which step was taken; its level and its text follow. -/

namespace ScriptCheck

inductive Level where
  | debug
  | trace
  deriving DecidableEq, Repr

inductive Record where
  | start (statements : Nat)
  | hoist (name : String) (sig : Signature)
  | literal (value : Literal)
  | var (name : String) (ty : Ty)
  | operation (op : Operator)
  | call (name : String) (sig : Signature)
  | bind (name : String) (ty : Ty)
  | reassign (name : String) (ty : Ty)
  | body (name : String)
  | failed (cause : Violation)
  | done (functions globals : Nat)
  deriving DecidableEq, Repr

namespace Record

/-- What happens once per expression, or changes nothing, is traced only. -/
def level : Record → Level
  | literal _ | var _ _ | operation _ | call _ _ | reassign _ _ => .trace
  | start _ | hoist _ _ | bind _ _ | body _ | failed _ | done _ _ => .debug

def literalText : Literal → String
  | .number value => "Number(" ++ toString value.toInt ++ ")"
  | .bool true => "Bool(true)"
  | .bool false => "Bool(false)"
  | .none => "None"

/-- The text of a record. `quote` puts a name between quotes where a record shows a leaf as code. -/
def text (quote : String → String) : Record → String
  | start statements => s!"checking program of {statements} statement(s)"
  | hoist name sig => "hoist " ++ name ++ sig.render
  | literal value => literalText value ++ " : " ++ value.ty.name
  | var name ty => "Id(" ++ quote name ++ ") : " ++ ty.name
  | operation op => "binop " ++ op.symbol ++ " : " ++ op.resultTy.name
  | call name sig => "call " ++ name ++ sig.render ++ " : " ++ sig.ret.name
  | bind name ty => "bind " ++ name ++ " : " ++ ty.name
  | reassign name ty => "reassign " ++ name ++ " : " ++ ty.name
  | body name => "checking body of " ++ name
  | failed cause => "check failed: " ++ cause.message
  | done functions globals => s!"program checked: {functions} function(s), {globals} global(s)"

end Record

def Level.keep : Level → List Record → List Record
  | debug, log => log.filter (·.level = .debug)
  | trace, log => log

end ScriptCheck
