import ScriptCheck.Signature

/-! Program trees. Every expression and every statement carries a label: nothing (`Unit`) in a
program as read, its type (`Ty`) in an annotated one. -/

namespace ScriptCheck

inductive Literal where
  | number (value : Int64)
  | bool (value : Bool)
  | none
  deriving DecidableEq, Repr

def Literal.ty : Literal → Ty
  | number _ => .int
  | bool _ => .bool
  | none => .none

structure Param where
  name : String
  ty : Ty
  deriving DecidableEq, Repr

structure Header where
  name : String
  params : List Param
  ret : Ty
  deriving DecidableEq, Repr

def Header.signature (head : Header) : Signature where
  params := head.params.map Param.ty
  ret := head.ret

/-- An expression. A binary operation keeps its operator as written, which need not be an operator
the language has. -/
inductive Expr (α : Type) where
  | lit (value : Literal) (label : α)
  | var (name : String) (label : α)
  | binary (op : String) (left right : Expr α) (label : α)
  | call (name : String) (args : List (Expr α)) (label : α)
  deriving Repr

/-- A statement. The first assignment to a name declares it. -/
inductive Stmt (α : Type) where
  | assign (name : String) (value : Expr α) (label : α)
  | define (head : Header) (body : List (Stmt α)) (label : α)
  | expr (value : Expr α) (label : α)
  | ret (value : Expr α) (label : α)
  | pass (label : α)
  deriving Repr

abbrev Program (α : Type) := List (Stmt α)

def Expr.label {α : Type} : Expr α → α
  | lit _ a | var _ a | binary _ _ _ a | call _ _ a => a

def Stmt.label {α : Type} : Stmt α → α
  | assign _ _ a | define _ _ a | expr _ a | ret _ a | pass a => a

abbrev Expr.ty (e : Expr Ty) : Ty := e.label

abbrev Stmt.ty (s : Stmt Ty) : Ty := s.label

def Stmt.header? {α : Type} : Stmt α → Option Header
  | define head _ _ => some head
  | _ => none

def Program.headers {α : Type} (program : Program α) : List Header :=
  program.filterMap Stmt.header?

end ScriptCheck
