import ScriptCheck.Proofs.Rules

/-! Everything that is wrong with a program, in the order in which the text is read. Nothing here
stops at a violation: an expression has a type that does not depend on whether its parts are in
order, and the scope goes on from that type. The checker stops at the first entry of the list. -/

namespace ScriptCheck

def mismatch (expected : Ty) (cause : Ty → Violation) : Option Ty → List Violation
  | some actual => if actual = expected then [] else [cause actual]
  | none => []

namespace Expr

/-- The type of an expression whose parts are taken to be in order, if its own node gives one. -/
def rootTy (funs : FunTypes) (vars : VarTypes) : Expr Unit → Option Ty
  | .lit (.number _) _ => some .int
  | .lit (.bool _) _ => some .bool
  | .lit .none _ => some .none
  | .var name _ => vars name
  | .binary text _ _ _ => (Operator.ofSymbol? text).map Operator.resultTy
  | .call name _ _ => if name = printName then some .none else (funs name).map Signature.ret

def operandViolations (funs : FunTypes) (mode : Strictness) (vars : VarTypes) (text : String)
    (left right : Expr Unit) : List Violation :=
  match mode, Operator.ofSymbol? text with
  | .strict, some op =>
    mismatch op.operandTy (.wrongOperand text op.operandTy) (left.rootTy funs vars) ++
      mismatch op.operandTy (.wrongOperand text op.operandTy) (right.rootTy funs vars)
  | _, _ => []

mutual
def violations (funs : FunTypes) (mode : Strictness) (vars : VarTypes) :
    Expr Unit → List Violation
  | .lit _ _ => []
  | .var name _ => if (vars name).isSome then [] else [.unboundName name]
  | .binary text left right _ =>
    (if (Operator.ofSymbol? text).isSome then [] else [.unknownOperator text]) ++
      (left.violations funs mode vars ++
        (right.violations funs mode vars ++ operandViolations funs mode vars text left right))
  | .call name args _ =>
    if name = printName then
      (if args.length = 1 then [] else [.wrongArity name 1 args.length]) ++
        argViolations funs mode vars name 1 args []
    else
      match funs name with
      | none => .unknownFunction name :: argViolations funs mode vars name 1 args []
      | some sig =>
        (if args.length = sig.params.length then []
          else [.wrongArity name sig.params.length args.length]) ++
          argViolations funs mode vars name 1 args sig.params

/-- All violations in arguments, the first of them at `position`. What is wrong inside an argument
comes before its type, and an argument without a parameter is not compared. -/
def argViolations (funs : FunTypes) (mode : Strictness) (vars : VarTypes) (name : String)
    (position : Nat) : List (Expr Unit) → List Ty → List Violation
  | [], _ => []
  | arg :: args, [] =>
    arg.violations funs mode vars ++ argViolations funs mode vars name (position + 1) args []
  | arg :: args, expected :: params =>
    arg.violations funs mode vars ++
      (mismatch expected (.wrongArgument name position expected) (arg.rootTy funs vars) ++
        argViolations funs mode vars name (position + 1) args params)
end

end Expr

/-- The types of variables after a statement, whether or not the statement is in order. -/
def VarTypes.assume (funs : FunTypes) (vars : VarTypes) : Stmt Unit → VarTypes
  | .assign name value _ =>
    match vars name with
    | none => Function.update vars name (value.rootTy funs vars)
    | some _ => vars
  | _ => vars

mutual
def Stmt.violations (funs : FunTypes) (mode : Strictness) (returnTy : Ty) (inside : Bool)
    (vars : VarTypes) : Stmt Unit → List Violation
  | .assign name value _ =>
    value.violations funs mode vars ++
      match vars name with
      | some held => mismatch held (.wrongAssignment name held) (value.rootTy funs vars)
      | none => []
  | .define head body _ =>
    (if inside then [.nestedFunction head.name] else []) ++
      Stmt.violationsAll funs mode head.ret true (vars.override head.params) body
  | .expr value _ => value.violations funs mode vars
  | .ret value _ =>
    value.violations funs mode vars ++
      mismatch returnTy (.wrongReturn returnTy) (value.rootTy funs vars)
  | .pass _ => []

def Stmt.violationsAll (funs : FunTypes) (mode : Strictness) (returnTy : Ty) (inside : Bool)
    (vars : VarTypes) : List (Stmt Unit) → List Violation
  | [] => []
  | s :: rest =>
    s.violations funs mode returnTy inside vars ++
      Stmt.violationsAll funs mode returnTy inside (vars.assume funs s) rest
end

def Header.violations (seen : List String) : List Header → List Violation
  | [] => []
  | head :: rest =>
    (if head.name = printName ∨ head.name ∈ seen then [.duplicateFunction head.name] else []) ++
      Header.violations (head.name :: seen) rest

def FunTypes.given (heads : List Header) : FunTypes := fun name =>
  (heads.map fun head =>
    (head.name, (⟨head.params.map Param.ty, head.ret⟩ : Signature))).reverse.lookup name

def Program.violations (mode : Strictness) (program : Program Unit) : List Violation :=
  Header.violations [] program.headers ++
    Stmt.violationsAll (.given program.headers) mode .none false (fun _ => none) program

/-- A check stops exactly if something is found, and then at the first thing found. -/
def Reports {α : Type} (result : Except Violation α) (found : List Violation) : Prop :=
  match result with
  | .ok _ => found = []
  | .error v => found.head? = some v

namespace Reports

variable {α β : Type} {found rest : List Violation}

theorem bind {first : Except Violation α} {next : α → Except Violation β}
    (reports : Reports first found) (others : ∀ a, first = .ok a → Reports (next a) rest) :
    Reports (first >>= next) (found ++ rest) := by
  cases first with
  | ok a =>
    have none : found = [] := reports
    rw [none, List.nil_append]
    exact others a rfl
  | error v =>
    have first : found.head? = some v := reports
    change (found ++ rest).head? = some v
    rw [List.head?_append, first, Option.some_or]

theorem map {first : Except Violation α} {f : α → β} (reports : Reports first found) :
    Reports (first >>= fun a => .ok (f a)) found := by
  cases first <;> exact reports

theorem condition (holds : Prop) [Decidable holds] (v : Violation) :
    Reports (Outcome.require holds v).result (if holds then [] else [v]) := by
  rw [Outcome.result_require]
  split <;> rfl

theorem comparison (actual expected : Ty) (cause : Ty → Violation) :
    Reports (Outcome.require (actual = expected) (cause actual)).result
      (mismatch expected cause (some actual)) :=
  condition (actual = expected) (cause actual)

end Reports

theorem Operator.read_reports (text : String) :
    Reports (Operator.read text)
      (if (Operator.ofSymbol? text).isSome then [] else [.unknownOperator text]) := by
  unfold Operator.read
  cases Operator.ofSymbol? text <;> rfl

namespace Context

variable {ctx : Context}

theorem rootTy_of_ok {e : Expr Unit} {typed : Expr Ty}
    (checked : (ctx.annotateExpr e).result = .ok typed) :
    e.rootTy ctx.functions.get? ctx.scope.get? = some typed.ty := by
  cases e with
  | lit value u =>
    rw [result_lit] at checked
    cases checked
    cases value <;> rfl
  | var name u =>
    obtain ⟨ty, bound, rfl⟩ := var_eq_ok_iff.mp checked
    exact bound
  | binary text left right u =>
    obtain ⟨op, l, r, written, -, -, -, rfl⟩ := binary_eq_ok_iff.mp checked
    have known := Operator.ofSymbol?_eq_some_iff.mpr written
    simp [Expr.rootTy, known, Expr.label]
  | call name args u =>
    by_cases builtin : name = printName
    · subst builtin
      obtain ⟨arg, a, rfl, -, rfl⟩ := print_eq_ok_iff.mp checked
      simp [Expr.rootTy, Expr.label]
    · obtain ⟨sig, typedArgs, known, -, -, rfl⟩ := (call_eq_ok_iff builtin).mp checked
      simp [Expr.rootTy, builtin, known, Expr.label]

theorem operands_report {text : String} {left right : Expr Unit} {op : Operator} {l r : Expr Ty}
    (written : text = op.symbol) (first : (ctx.annotateExpr left).result = .ok l)
    (second : (ctx.annotateExpr right).result = .ok r) :
    Reports (ctx.requireOperands op l.ty r.ty).result
      (Expr.operandViolations ctx.functions.get? ctx.strictness ctx.scope.get? text left
        right) := by
  have known := Operator.ofSymbol?_eq_some_iff.mpr written
  unfold requireOperands Expr.operandViolations
  rw [rootTy_of_ok first, rootTy_of_ok second, known, written]
  cases ctx.strictness with
  | permissive => rfl
  | strict =>
    rw [Outcome.result_bind]
    apply Reports.bind (Reports.comparison l.ty op.operandTy _)
    intro _ _
    exact Reports.comparison r.ty op.operandTy _

mutual
theorem annotateExpr_reports : ∀ e : Expr Unit, Reports (ctx.annotateExpr e).result
    (e.violations ctx.functions.get? ctx.strictness ctx.scope.get?)
  | .lit value u => by
    rw [result_lit, Expr.violations]
    rfl
  | .var name u => by
    rw [annotateExpr, Expr.violations]
    cases ctx.scope.get? name <;> rfl
  | .binary text left right u => by
    rw [annotateExpr, Expr.violations]
    simp only [Outcome.result_bind, Outcome.result_ofExcept]
    apply Reports.bind (Operator.read_reports text)
    intro op read
    apply Reports.bind (annotateExpr_reports left)
    intro l first
    apply Reports.bind (annotateExpr_reports right)
    intro r second
    -- operands are compared where both passed, and then their types are those of the roots
    exact Reports.map (operands_report (Operator.read_eq_ok_iff.mp read) first second)
  | .call name args u => by
    rw [annotateExpr, Expr.violations]
    by_cases builtin : name = printName
    · simp only [if_pos builtin, Outcome.result_bind]
      apply Reports.bind (Reports.condition _ _)
      intro _ _
      exact Reports.map (annotateAll_reports args name 1)
    · simp only [if_neg builtin, Outcome.result_bind]
      unfold signatureOf
      cases ctx.functions.get? name with
      -- the arguments of an unknown function add to the list, but not to its front
      | none => rfl
      | some sig =>
        apply Reports.bind (Reports.condition _ _)
        intro _ counted
        have count := Outcome.require_eq_ok_iff.mp counted
        exact Reports.map (annotateArgs_reports args name 1 sig.params count)

theorem annotateAll_reports : ∀ (args : List (Expr Unit)) (name : String) (position : Nat),
    Reports (ctx.annotateAll args).result
      (Expr.argViolations ctx.functions.get? ctx.strictness ctx.scope.get? name position args [])
  | [], name, position => rfl
  | arg :: args, name, position => by
    rw [annotateAll, Expr.argViolations]
    simp only [Outcome.result_bind]
    apply Reports.bind (annotateExpr_reports arg)
    intro _ _
    exact Reports.map (annotateAll_reports args name (position + 1))

theorem annotateArgs_reports : ∀ (args : List (Expr Unit)) (name : String) (position : Nat)
    (params : List Ty), args.length = params.length →
    Reports (ctx.annotateArgs name position args params).result
      (Expr.argViolations ctx.functions.get? ctx.strictness ctx.scope.get? name position args
        params)
  | [], name, position, [], _ => rfl
  | arg :: args, name, position, expected :: params, count => by
    rw [annotateArgs, Expr.argViolations]
    simp only [Outcome.result_bind]
    apply Reports.bind (annotateExpr_reports arg)
    intro a checked
    rw [rootTy_of_ok checked]
    apply Reports.bind (Reports.comparison a.ty expected _)
    intro _ _
    exact Reports.map (annotateArgs_reports args name (position + 1) params (Nat.succ.inj count))
end

theorem get?_after_eq_assume {s : Stmt Unit} {typed : Stmt Ty}
    (checked : (s.annotate ctx).result = .ok typed) :
    (ctx.after typed).scope.get? = VarTypes.assume ctx.functions.get? ctx.scope.get? s := by
  cases s with
  | assign name value u =>
    obtain ⟨v, first, -, rfl⟩ := Stmt.assign_eq_ok_iff.mp checked
    have root := rootTy_of_ok first
    cases held : ctx.scope.get? name with
    | none => simp only [after_assign_of_unbound held, get?_bind, VarTypes.assume, held, root]
    | some ty => simp only [after_assign_of_bound held, VarTypes.assume, held]
  | define head body u =>
    obtain ⟨-, typedBody, -, rfl⟩ := Stmt.define_eq_ok_iff.mp checked
    rfl
  | expr value u =>
    obtain ⟨v, -, rfl⟩ := Stmt.expr_eq_ok_iff.mp checked
    rfl
  | ret value u =>
    obtain ⟨v, -, -, rfl⟩ := Stmt.ret_eq_ok_iff.mp checked
    rfl
  | pass u =>
    rw [Stmt.outcome_pass] at checked
    cases checked
    rfl

theorem assign_reports (name : String) (ty : Ty) :
    Reports (Check.assign name ty ctx).result
      (match ctx.scope.get? name with
      | some held => mismatch held (.wrongAssignment name held) (some ty)
      | none => []) := by
  unfold Check.assign
  cases ctx.scope.get? name with
  | none => rfl
  | some held =>
    simp only [Outcome.result_bind]
    exact Reports.map (Reports.comparison ty held _)

namespace Gives

variable {funs : FunTypes} {mode : Strictness} {returnTy : Ty} {inside : Bool} {vars : VarTypes}

theorem reports (gives : ctx.Gives funs mode returnTy inside vars) (e : Expr Unit) :
    Reports (ctx.annotateExpr e).result (e.violations funs mode vars) := by
  rw [← gives.functions, ← gives.strictness, ← gives.scope]
  exact annotateExpr_reports e

theorem rootTy (gives : ctx.Gives funs mode returnTy inside vars) {e : Expr Unit} {typed : Expr Ty}
    (checked : (ctx.annotateExpr e).result = .ok typed) : e.rootTy funs vars = some typed.ty := by
  rw [← gives.functions, ← gives.scope]
  exact rootTy_of_ok checked

theorem assume (gives : ctx.Gives funs mode returnTy inside vars) {s : Stmt Unit} {typed : Stmt Ty}
    (checked : (s.annotate ctx).result = .ok typed) :
    (ctx.after typed).Gives funs mode returnTy inside (vars.assume funs s) := by
  apply gives.after
  rw [get?_after_eq_assume checked, gives.functions, gives.scope]

end Gives

end Context

mutual
theorem Stmt.annotate_reports {funs : FunTypes} {mode : Strictness} : ∀ (s : Stmt Unit)
    {returnTy : Ty} {inside : Bool} {vars : VarTypes} {ctx : Context},
    ctx.Gives funs mode returnTy inside vars →
    Reports (s.annotate ctx).result (s.violations funs mode returnTy inside vars)
  | .assign name value u, returnTy, inside, vars, ctx, gives => by
    rw [Stmt.outcome_assign, Stmt.violations]
    simp only [Outcome.result_bind]
    apply Reports.bind (gives.reports value)
    intro v checked
    rw [gives.rootTy checked, ← gives.scope]
    exact Reports.map (Context.assign_reports name v.ty)
  | .define head body u, returnTy, inside, vars, ctx, gives => by
    rw [Stmt.outcome_define, Stmt.violations, gives.inFunction]
    simp only [Outcome.result_bind]
    cases inside with
    -- a refused definition is not entered, and what is wrong in its body comes later
    | true => rfl
    | false => exact Reports.map (Stmt.annotateAll_reports body (gives.inBody head))
  | .expr value u, returnTy, inside, vars, ctx, gives => by
    rw [Stmt.outcome_expr, Stmt.violations]
    simp only [Outcome.result_bind]
    exact Reports.map (gives.reports value)
  | .ret value u, returnTy, inside, vars, ctx, gives => by
    rw [Stmt.outcome_ret, Stmt.violations, gives.returnTy]
    simp only [Outcome.result_bind]
    apply Reports.bind (gives.reports value)
    intro v checked
    rw [gives.rootTy checked]
    exact Reports.map (Reports.comparison v.ty returnTy _)
  | .pass u, returnTy, inside, vars, ctx, gives => by
    rw [Stmt.outcome_pass, Stmt.violations]
    rfl

theorem Stmt.annotateAll_reports {funs : FunTypes} {mode : Strictness} :
    ∀ (stmts : List (Stmt Unit)) {returnTy : Ty} {inside : Bool} {vars : VarTypes} {ctx : Context},
    ctx.Gives funs mode returnTy inside vars →
    Reports (Stmt.annotateAll stmts ctx).result
      (Stmt.violationsAll funs mode returnTy inside vars stmts)
  | [], returnTy, inside, vars, ctx, gives => by
    rw [Stmt.outcome_annotateAll_nil, Stmt.violationsAll]
    rfl
  | s :: rest, returnTy, inside, vars, ctx, gives => by
    rw [Stmt.outcome_annotateAll_cons, Stmt.violationsAll]
    simp only [Outcome.result_bind]
    apply Reports.bind (Stmt.annotate_reports s gives)
    intro typed checked
    exact Reports.map (Stmt.annotateAll_reports rest (gives.assume checked))
end

theorem Functions.declare_reports (head : Header) {functions : Functions} {seen : List String}
    (entered : ∀ name, functions.get? name = none ↔ name ∉ seen) :
    Reports (functions.declare head).result
      (if head.name = printName ∨ head.name ∈ seen then [.duplicateFunction head.name]
        else []) := by
  rw [Functions.result_declare]
  by_cases taken : head.name = printName ∨ head.name ∈ seen
  · have refused : ¬ (head.name ≠ printName ∧ functions.get? head.name = none) := by
      rw [entered]
      tauto
    rw [if_pos taken, if_neg refused]
    rfl
  · have free : head.name ≠ printName ∧ functions.get? head.name = none := by
      rw [entered]
      tauto
    rw [if_neg taken, if_pos free]
    rfl

theorem Functions.foldlM_declare_reports (heads : List Header) {functions : Functions}
    {seen : List String} (entered : ∀ name, functions.get? name = none ↔ name ∉ seen) :
    Reports (heads.foldlM Functions.declare functions).result (Header.violations seen heads) := by
  induction heads generalizing functions seen with
  | nil => rfl
  | cons head rest ih =>
    rw [List.foldlM_cons, Outcome.result_bind, Header.violations]
    apply Reports.bind (Functions.declare_reports head entered)
    intro table declared
    obtain ⟨-, rfl⟩ := Functions.declare_eq_ok_iff.mp declared
    apply ih
    intro name
    rw [NameTable.get?_insert, List.mem_cons, not_or, ← entered]
    by_cases same : name = head.name <;> simp [same]

theorem Program.annotate_reports (strictness : Strictness) (program : Program Unit) :
    Reports (program.annotate strictness).result (program.violations strictness) := by
  rw [Program.result_annotate, Program.violations]
  apply Reports.bind (Functions.foldlM_declare_reports program.headers (by simp))
  intro functions collected
  obtain ⟨-, -, rfl⟩ := Program.functions_eq_ok_iff.mp collected
  apply Stmt.annotateAll_reports program
  refine ⟨?_, rfl, rfl, rfl, rfl⟩
  -- the table answers with the last entry of a name, as the reversed list of headers does
  funext name
  rw [Context.top, NameTable.get?_insertAll, NameTable.get?_empty, Option.or_none]
  rfl

/-- The checker reports the first of all violations of a program, and accepts the program exactly
if there are none. -/
theorem Program.annotate_eq_error_iff_first_violation (strictness : Strictness)
    (program : Program Unit) :
    (∀ v, (program.annotate strictness).result = .error v ↔
      (program.violations strictness).head? = some v) ∧
    ((∃ typed, (program.annotate strictness).result = .ok typed) ↔
      program.violations strictness = []) := by
  have reports := Program.annotate_reports strictness program
  cases checked : (program.annotate strictness).result with
  | ok typed =>
    rw [checked] at reports
    have none : program.violations strictness = [] := reports
    simp [none]
  | error w =>
    rw [checked] at reports
    have first : (program.violations strictness).head? = some w := reports
    have some : program.violations strictness ≠ [] := by
      intro none
      rw [none] at first
      cases first
    simp [first, some]

end ScriptCheck
