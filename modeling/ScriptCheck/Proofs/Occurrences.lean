import ScriptCheck.Tree.Basic

/-! What occurs in a tree: the nodes of an expression, the statements inside a statement, and the
names that these use. -/

namespace ScriptCheck

variable {α : Type}

mutual
def Expr.nodes : Expr α → List (Expr α)
  | .lit value a => [.lit value a]
  | .var name a => [.var name a]
  | .binary op left right a => .binary op left right a :: (left.nodes ++ right.nodes)
  | .call name args a => .call name args a :: Expr.nodesAll args

def Expr.nodesAll : List (Expr α) → List (Expr α)
  | [] => []
  | e :: rest => e.nodes ++ Expr.nodesAll rest
end

/-- The nodes that stand in a statement itself. Those in the body of a function do not. -/
def Stmt.nodes : Stmt α → List (Expr α)
  | .assign _ value _ | .expr value _ | .ret value _ => value.nodes
  | .define _ _ _ | .pass _ => []

mutual
def Stmt.parts : Stmt α → List (Stmt α)
  | .define head body a => .define head body a :: Stmt.partsAll body
  | s => [s]

def Stmt.partsAll : List (Stmt α) → List (Stmt α)
  | [] => []
  | s :: rest => s.parts ++ Stmt.partsAll rest
end

theorem Stmt.mem_partsAll {part : Stmt α} {stmts : List (Stmt α)} :
    part ∈ Stmt.partsAll stmts ↔ ∃ s ∈ stmts, part ∈ s.parts := by
  induction stmts with
  | nil => simp [Stmt.partsAll]
  | cons s rest ih => simp [Stmt.partsAll, ih]

theorem Stmt.self_mem_parts (s : Stmt α) : s ∈ s.parts := by
  cases s <;> exact List.mem_cons_self

theorem Stmt.mem_partsAll_of_mem {s : Stmt α} {stmts : List (Stmt α)} (member : s ∈ stmts) :
    s ∈ Stmt.partsAll stmts :=
  Stmt.mem_partsAll.mpr ⟨s, member, s.self_mem_parts⟩

theorem Stmt.mem_partsAll_of_mem_body {head : Header} {body stmts : List (Stmt α)} {a : α}
    {s : Stmt α} (member : .define head body a ∈ stmts) (inside : s ∈ body) :
    s ∈ Stmt.partsAll stmts :=
  Stmt.mem_partsAll.mpr ⟨_, member, List.mem_cons_of_mem _ (Stmt.mem_partsAll_of_mem inside)⟩

theorem Stmt.parts_eq_singleton {s : Stmt α} (plain : s.header? = none) : s.parts = [s] := by
  cases s with
  | define head body a => cases plain
  | _ => rfl

theorem Stmt.partsAll_eq_self {stmts : List (Stmt α)} (plain : ∀ s ∈ stmts, s.header? = none) :
    Stmt.partsAll stmts = stmts := by
  induction stmts with
  | nil => rfl
  | cons s rest ih =>
    obtain ⟨first, others⟩ := List.forall_mem_cons.mp plain
    rw [Stmt.partsAll, Stmt.parts_eq_singleton first, ih others, List.singleton_append]

def Program.nodes (program : Program α) : List (Expr α) :=
  (Stmt.partsAll program).flatMap Stmt.nodes

def Expr.varName? : Expr α → Option String
  | .var name _ => some name
  | _ => none

def Expr.callee? : Expr α → Option String
  | .call name _ _ => some name
  | _ => none

def Expr.namesIn (nodes : List (Expr α)) : List String :=
  nodes.filterMap Expr.varName?

def Expr.calleesIn (nodes : List (Expr α)) : List String :=
  nodes.filterMap Expr.callee?

mutual
/-- The names that a statement takes from its scope: those it reads and the one it assigns to. In a
body, the parameters of its function are not taken from outside. -/
def Stmt.freeNames : Stmt α → List String
  | .assign name value _ => name :: Expr.namesIn value.nodes
  | .define head body _ => (Stmt.freeNamesAll body).filter (· ∉ head.params.map Param.name)
  | .expr value _ | .ret value _ => Expr.namesIn value.nodes
  | .pass _ => []

def Stmt.freeNamesAll : List (Stmt α) → List String
  | [] => []
  | s :: rest => s.freeNames ++ Stmt.freeNamesAll rest
end

mutual
/-- All names that a statement reads or assigns to. In a body, parameters count like other names. -/
def Stmt.names : Stmt α → List String
  | .assign name value _ => name :: Expr.namesIn value.nodes
  | .define _ body _ => Stmt.namesAll body
  | .expr value _ | .ret value _ => Expr.namesIn value.nodes
  | .pass _ => []

def Stmt.namesAll : List (Stmt α) → List String
  | [] => []
  | s :: rest => s.names ++ Stmt.namesAll rest
end

mutual
theorem Stmt.freeNames_subset_names : ∀ s : Stmt α, s.freeNames ⊆ s.names
  | .assign _ _ _ | .expr _ _ | .ret _ _ | .pass _ => List.Subset.refl _
  | .define _ body _ =>
    List.Subset.trans List.filter_sublist.subset (Stmt.freeNamesAll_subset_namesAll body)

theorem Stmt.freeNamesAll_subset_namesAll : ∀ stmts : List (Stmt α),
    Stmt.freeNamesAll stmts ⊆ Stmt.namesAll stmts
  | [] => List.Subset.refl _
  | s :: rest => by
    have first := Stmt.freeNames_subset_names s
    have others := Stmt.freeNamesAll_subset_namesAll rest
    intro name member
    rcases List.mem_append.mp member with inFirst | inRest
    · exact List.mem_append_left _ (first inFirst)
    · exact List.mem_append_right _ (others inRest)
end

def Stmt.target? : Stmt α → Option String
  | .assign name _ _ => some name
  | _ => none

theorem Stmt.target?_mem_names {s : Stmt α} {name : String} (assigned : name ∈ s.target?) :
    name ∈ s.names := by
  cases s with
  | assign target value a =>
    cases assigned
    exact List.mem_cons_self
  | _ => cases assigned

def Stmt.calleesAll (stmts : List (Stmt α)) : List String :=
  Expr.calleesIn ((Stmt.partsAll stmts).flatMap Stmt.nodes)

def Stmt.callees (s : Stmt α) : List String :=
  Expr.calleesIn (s.parts.flatMap Stmt.nodes)

@[simp] theorem Expr.namesIn_append (nodes more : List (Expr α)) :
    Expr.namesIn (nodes ++ more) = Expr.namesIn nodes ++ Expr.namesIn more :=
  List.filterMap_append

@[simp] theorem Expr.calleesIn_append (nodes more : List (Expr α)) :
    Expr.calleesIn (nodes ++ more) = Expr.calleesIn nodes ++ Expr.calleesIn more :=
  List.filterMap_append

theorem Stmt.callees_eq_of_plain {s : Stmt α} (plain : s.header? = none) :
    s.callees = Expr.calleesIn s.nodes := by
  rw [Stmt.callees, Stmt.parts_eq_singleton plain, List.flatMap_singleton]

theorem Stmt.callees_define (head : Header) (body : List (Stmt α)) (a : α) :
    (Stmt.define head body a).callees = Stmt.calleesAll body := by
  rw [Stmt.callees, Stmt.parts, List.flatMap_cons, Stmt.nodes, List.nil_append, Stmt.calleesAll]

theorem Stmt.calleesAll_cons (s : Stmt α) (rest : List (Stmt α)) :
    Stmt.calleesAll (s :: rest) = s.callees ++ Stmt.calleesAll rest := by
  unfold Stmt.calleesAll Stmt.callees
  rw [Stmt.partsAll, List.flatMap_append, Expr.calleesIn_append]

end ScriptCheck
