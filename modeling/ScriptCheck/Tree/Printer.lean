import ScriptCheck.Tree.Basic

/-! The text of annotated trees. Each expression is followed by its type, as in
`f(3 : int) : int`; a statement shows no type of its own. -/

namespace ScriptCheck

def Literal.render : Literal → String
  | number value => toString value.toInt
  | bool true => "True"
  | bool false => "False"
  | none => "None"

def Param.render (param : Param) : String :=
  param.name ++ ": " ++ param.ty.name

def Header.render (head : Header) : String :=
  "def " ++ head.name ++ "(" ++ ", ".intercalate (head.params.map Param.render) ++ ") -> " ++
    head.ret.name ++ ":"

mutual
def Expr.render : Expr Ty → String
  | .lit value ty => value.render ++ " : " ++ ty.name
  | .var name ty => name ++ " : " ++ ty.name
  | .binary op left right ty =>
    "(" ++ left.render ++ " " ++ op ++ " " ++ right.render ++ ") : " ++ ty.name
  | .call name args ty =>
    name ++ "(" ++ ", ".intercalate (Expr.renderAll args) ++ ") : " ++ ty.name

def Expr.renderAll : List (Expr Ty) → List String
  | [] => []
  | e :: rest => e.render :: Expr.renderAll rest
end

def indent : Nat → String
  | 0 => ""
  | depth + 1 => "    " ++ indent depth

def line (depth : Nat) (text : String) : String :=
  indent depth ++ text ++ "\n"

mutual
/-- The lines of a statement at the given depth. A body stands one level deeper than its header. -/
def Stmt.render (depth : Nat) : Stmt Ty → String
  | .assign name value _ => line depth (name ++ " = " ++ value.render)
  | .define head body _ => line depth head.render ++ Stmt.renderAll (depth + 1) body
  | .expr value _ => line depth value.render
  | .ret value _ => line depth ("return " ++ value.render)
  | .pass _ => line depth "pass"

def Stmt.renderAll (depth : Nat) : List (Stmt Ty) → String
  | [] => ""
  | s :: rest => s.render depth ++ Stmt.renderAll depth rest
end

def Program.render (program : Program Ty) : String :=
  Stmt.renderAll 0 program

end ScriptCheck
