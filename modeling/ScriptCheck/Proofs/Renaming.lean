import Mathlib.Logic.Equiv.Basic
import ScriptCheck.Proofs.Runs

/-! Names carry no meaning but their identity. With other names, of variables and of functions
independently of each other, a program is checked to the same end: to the same annotated program, or
to the same violation, with other names in it. -/

namespace ScriptCheck

/-- Other names for variables and for functions. Names that differ still do, and the built-in
function keeps its name. -/
structure Renaming where
  var : String → String
  fn : String → String
  var_injective : Function.Injective var
  fn_injective : Function.Injective fn
  fn_print : fn printName = printName

variable {α β : Type}

mutual
def Expr.rename (r : Renaming) : Expr α → Expr α
  | .lit value a => .lit value a
  | .var name a => .var (r.var name) a
  | .binary op left right a => .binary op (left.rename r) (right.rename r) a
  | .call name args a => .call (r.fn name) (Expr.renameAll r args) a

def Expr.renameAll (r : Renaming) : List (Expr α) → List (Expr α)
  | [] => []
  | e :: rest => e.rename r :: Expr.renameAll r rest
end

def Param.rename (r : Renaming) (param : Param) : Param :=
  { param with name := r.var param.name }

def Header.rename (r : Renaming) (head : Header) : Header where
  name := r.fn head.name
  params := head.params.map (Param.rename r)
  ret := head.ret

mutual
def Stmt.rename (r : Renaming) : Stmt α → Stmt α
  | .assign name value a => .assign (r.var name) (value.rename r) a
  | .define head body a => .define (head.rename r) (Stmt.renameAll r body) a
  | .expr value a => .expr (value.rename r) a
  | .ret value a => .ret (value.rename r) a
  | .pass a => .pass a

def Stmt.renameAll (r : Renaming) : List (Stmt α) → List (Stmt α)
  | [] => []
  | s :: rest => s.rename r :: Stmt.renameAll r rest
end

def Program.rename (r : Renaming) (program : Program α) : Program α :=
  Stmt.renameAll r program

def Violation.rename (r : Renaming) : Violation → Violation
  | .unboundName name => .unboundName (r.var name)
  | .wrongAssignment name expected actual => .wrongAssignment (r.var name) expected actual
  | .unknownFunction name => .unknownFunction (r.fn name)
  | .wrongArity name expected actual => .wrongArity (r.fn name) expected actual
  | .wrongArgument name position expected actual =>
    .wrongArgument (r.fn name) position expected actual
  | .duplicateFunction name => .duplicateFunction (r.fn name)
  | .nestedFunction name => .nestedFunction (r.fn name)
  | .wrongReturn expected actual => .wrongReturn expected actual
  | .unknownOperator text => .unknownOperator text
  | .wrongOperand text expected actual => .wrongOperand text expected actual
  | .unknownType text => .unknownType text

namespace Renaming

variable {r : Renaming}

theorem fn_eq_print_iff {name : String} : r.fn name = printName ↔ name = printName := by
  constructor
  · intro same
    apply r.fn_injective
    rw [same, r.fn_print]
  · rintro rfl
    exact r.fn_print

abbrev Carries (r : Renaming) (rel : α → β → Prop) :
    Except Violation α → Except Violation β → Prop :=
  Alike (Violation.rename r) rel

/-- The second context says about the new names what the first says about the old ones. About names
that are not new ones it may say anything. -/
structure Relates (r : Renaming) (ctx ctx' : Context) : Prop where
  scope : ∀ name, ctx'.scope.get? (r.var name) = ctx.scope.get? name
  functions : ∀ name, ctx'.functions.get? (r.fn name) = ctx.functions.get? name
  returnTy : ctx'.returnTy = ctx.returnTy
  inFunction : ctx'.inFunction = ctx.inFunction
  strictness : ctx'.strictness = ctx.strictness

end Renaming

variable {r : Renaming}

@[simp] theorem Expr.label_rename (e : Expr α) : (e.rename r).label = e.label := by
  cases e <;> rfl

@[simp] theorem Expr.length_renameAll (args : List (Expr α)) :
    (Expr.renameAll r args).length = args.length := by
  induction args with
  | nil => rfl
  | cons arg args ih => rw [Expr.renameAll, List.length_cons, List.length_cons, ih]

theorem Header.signature_rename (head : Header) : (head.rename r).signature = head.signature := by
  simp [Header.signature, Header.rename, Param.rename, Function.comp_def]

theorem Stmt.assigns_rename (t : Stmt Ty) (name : String) :
    (t.rename r).assigns (r.var name) = t.assigns name := by
  cases t with
  | assign target value a =>
    simp only [Stmt.rename, Stmt.assigns, Expr.ty, Expr.label_rename, r.var_injective.eq_iff]
  | _ => rfl

namespace Renaming.Relates

variable {ctx ctx' : Context}

theorem after (relates : r.Relates ctx ctx') (t : Stmt Ty) :
    r.Relates (ctx.after t) (ctx'.after (t.rename r)) where
  scope name := by
    rw [Context.get?_after, Context.get?_after, relates.scope, Stmt.assigns_rename]
  functions name := by
    rw [Context.functions_after, Context.functions_after, relates.functions]
  returnTy := by rw [Context.returnTy_after, Context.returnTy_after, relates.returnTy]
  inFunction := by rw [Context.inFunction_after, Context.inFunction_after, relates.inFunction]
  strictness := by rw [Context.strictness_after, Context.strictness_after, relates.strictness]

theorem inBody (relates : r.Relates ctx ctx') (head : Header) :
    r.Relates (ctx.inBody head) (ctx'.inBody (head.rename r)) where
  scope name := by
    have found : (head.rename r).params.reverse.find? (·.name = r.var name) =
        (head.params.reverse.find? (·.name = name)).map (Param.rename r) := by
      rw [Header.rename, ← List.map_reverse, List.find?_map]
      congr 2
      funext param
      simp [Param.rename, r.var_injective.eq_iff]
    simp only [Context.inBody]
    rw [Scope.get?_withParams, Scope.get?_withParams, found, relates.scope, Option.map_map]
    rfl
  functions := relates.functions
  returnTy := rfl
  inFunction := rfl
  strictness := relates.strictness

end Renaming.Relates

open Renaming

theorem Operator.read_carries (text : String) :
    r.Carries (· = ·) (Operator.read text) (Operator.read text) := by
  unfold Operator.read
  cases Operator.ofSymbol? text with
  | none => exact .error _
  | some op => exact .ok rfl

namespace Context

variable {ctx ctx' : Context}

theorem requireOperands_carries (relates : r.Relates ctx ctx') (op : Operator) (left right : Ty) :
    r.Carries (· = ·) (ctx.requireOperands op left right).result
      (ctx'.requireOperands op left right).result := by
  unfold requireOperands
  rw [relates.strictness]
  cases ctx.strictness with
  | permissive => exact .ok rfl
  | strict =>
    rw [Outcome.result_bind]
    apply Alike.bind (Alike.condition Iff.rfl rfl)
    intro _ _ _
    exact Alike.condition Iff.rfl rfl

theorem signatureOf_carries (relates : r.Relates ctx ctx') (name : String) :
    r.Carries (· = ·) (ctx.signatureOf name).result (ctx'.signatureOf (r.fn name)).result := by
  unfold signatureOf
  rw [relates.functions]
  cases ctx.functions.get? name with
  | none => exact .error _
  | some sig => exact .ok rfl

mutual
theorem annotateExpr_carries (relates : r.Relates ctx ctx') : ∀ e : Expr Unit,
    r.Carries (fun t u => u = t.rename r) (ctx.annotateExpr e).result
      (ctx'.annotateExpr (e.rename r)).result
  | .lit value u => by
    rw [Expr.rename, result_lit, result_lit]
    exact .ok rfl
  | .var name u => by
    rw [Expr.rename, annotateExpr, annotateExpr, relates.scope]
    cases ctx.scope.get? name with
    | none => exact .error _
    | some ty => exact .ok rfl
  | .binary text left right u => by
    rw [Expr.rename, annotateExpr, annotateExpr]
    simp only [Outcome.result_bind, Outcome.result_ofExcept]
    apply Alike.bind (Operator.read_carries text)
    rintro op _ rfl
    apply Alike.bind (annotateExpr_carries relates left)
    rintro l _ rfl
    apply Alike.bind (annotateExpr_carries relates right)
    rintro m _ rfl
    simp only [Expr.ty, Expr.label_rename]
    apply Alike.bind (requireOperands_carries relates op l.label m.label)
    intro _ _ _
    exact .ok rfl
  | .call name args u => by
    rw [Expr.rename, annotateExpr, annotateExpr]
    by_cases builtin : name = printName
    · rw [if_pos builtin, if_pos (fn_eq_print_iff.mpr builtin)]
      simp only [Outcome.result_bind, Expr.length_renameAll]
      apply Alike.bind (Alike.condition Iff.rfl rfl)
      intro _ _ _
      apply Alike.bind (annotateAll_carries relates args)
      rintro typed _ rfl
      exact .ok rfl
    · rw [if_neg builtin, if_neg (builtin ∘ fn_eq_print_iff.mp)]
      simp only [Outcome.result_bind, Expr.length_renameAll]
      apply Alike.bind (signatureOf_carries relates name)
      rintro sig _ rfl
      apply Alike.bind (Alike.condition Iff.rfl rfl)
      intro _ _ _
      apply Alike.bind (annotateArgs_carries relates args name 1 sig.params)
      rintro typed _ rfl
      exact .ok rfl

theorem annotateAll_carries (relates : r.Relates ctx ctx') : ∀ args : List (Expr Unit),
    r.Carries (fun t u => u = Expr.renameAll r t) (ctx.annotateAll args).result
      (ctx'.annotateAll (Expr.renameAll r args)).result
  | [] => .ok rfl
  | arg :: args => by
    rw [Expr.renameAll, annotateAll, annotateAll]
    simp only [Outcome.result_bind]
    apply Alike.bind (annotateExpr_carries relates arg)
    rintro a _ rfl
    apply Alike.bind (annotateAll_carries relates args)
    rintro rest _ rfl
    exact .ok rfl

theorem annotateArgs_carries (relates : r.Relates ctx ctx') : ∀ (args : List (Expr Unit))
    (name : String) (position : Nat) (params : List Ty),
    r.Carries (fun t u => u = Expr.renameAll r t)
      (ctx.annotateArgs name position args params).result
      (ctx'.annotateArgs (r.fn name) position (Expr.renameAll r args) params).result
  | [], name, position, params => .ok rfl
  | arg :: args, name, position, [] => .ok rfl
  | arg :: args, name, position, expected :: params => by
    rw [Expr.renameAll, annotateArgs, annotateArgs]
    simp only [Outcome.result_bind]
    apply Alike.bind (annotateExpr_carries relates arg)
    rintro a _ rfl
    simp only [Expr.ty, Expr.label_rename]
    apply Alike.bind (Alike.condition Iff.rfl rfl)
    intro _ _ _
    apply Alike.bind (annotateArgs_carries relates args name (position + 1) params)
    rintro rest _ rfl
    exact .ok rfl
end

theorem assign_carries (relates : r.Relates ctx ctx') (name : String) (ty : Ty) :
    r.Carries (· = ·) (Check.assign name ty ctx).result
      (Check.assign (r.var name) ty ctx').result := by
  unfold Check.assign
  rw [relates.scope]
  cases ctx.scope.get? name with
  | none => exact .ok rfl
  | some held =>
    dsimp only
    rw [Outcome.result_bind, Outcome.result_bind]
    apply Alike.bind (Alike.condition Iff.rfl rfl)
    intro _ _ _
    exact .ok rfl

end Context

mutual
theorem Stmt.annotate_carries : ∀ (s : Stmt Unit) {ctx ctx' : Context}, r.Relates ctx ctx' →
    r.Carries (fun t u => u = t.rename r) (s.annotate ctx).result
      ((s.rename r).annotate ctx').result
  | .assign name value u, ctx, ctx', relates => by
    rw [Stmt.rename, Stmt.outcome_assign, Stmt.outcome_assign]
    simp only [Outcome.result_bind]
    apply Alike.bind (Context.annotateExpr_carries relates value)
    rintro v _ rfl
    simp only [Expr.ty, Expr.label_rename]
    apply Alike.bind (Context.assign_carries relates name v.label)
    intro _ _ _
    exact .ok rfl
  | .define head body u, ctx, ctx', relates => by
    rw [Stmt.rename, Stmt.outcome_define, Stmt.outcome_define, relates.inFunction]
    simp only [Outcome.result_bind]
    apply Alike.bind (Alike.condition Iff.rfl rfl)
    intro _ _ _
    apply Alike.bind (Stmt.annotateAll_carries body (relates.inBody head))
    rintro typedBody _ rfl
    exact .ok rfl
  | .expr value u, ctx, ctx', relates => by
    rw [Stmt.rename, Stmt.outcome_expr, Stmt.outcome_expr]
    simp only [Outcome.result_bind]
    apply Alike.bind (Context.annotateExpr_carries relates value)
    rintro v _ rfl
    exact .ok rfl
  | .ret value u, ctx, ctx', relates => by
    rw [Stmt.rename, Stmt.outcome_ret, Stmt.outcome_ret, relates.returnTy]
    simp only [Outcome.result_bind]
    apply Alike.bind (Context.annotateExpr_carries relates value)
    rintro v _ rfl
    simp only [Expr.ty, Expr.label_rename]
    apply Alike.bind (Alike.condition Iff.rfl rfl)
    intro _ _ _
    exact .ok rfl
  | .pass u, ctx, ctx', _ => by
    rw [Stmt.rename, Stmt.outcome_pass, Stmt.outcome_pass]
    exact .ok rfl

theorem Stmt.annotateAll_carries : ∀ (stmts : List (Stmt Unit)) {ctx ctx' : Context},
    r.Relates ctx ctx' →
    r.Carries (fun t u => u = Stmt.renameAll r t) (Stmt.annotateAll stmts ctx).result
      (Stmt.annotateAll (Stmt.renameAll r stmts) ctx').result
  | [], ctx, ctx', _ => by
    rw [Stmt.renameAll, Stmt.outcome_annotateAll_nil, Stmt.outcome_annotateAll_nil]
    exact .ok rfl
  | s :: rest, ctx, ctx', relates => by
    rw [Stmt.renameAll, Stmt.outcome_annotateAll_cons, Stmt.outcome_annotateAll_cons]
    simp only [Outcome.result_bind]
    apply Alike.bind (Stmt.annotate_carries s relates)
    rintro typed _ rfl
    apply Alike.bind (Stmt.annotateAll_carries rest (relates.after typed))
    rintro others _ rfl
    exact .ok rfl
end

def Renaming.RelatesTables (r : Renaming) (functions functions' : Functions) : Prop :=
  ∀ name, functions'.get? (r.fn name) = functions.get? name

theorem Functions.declare_carries {functions functions' : Functions}
    (relates : r.RelatesTables functions functions') (head : Header) :
    r.Carries r.RelatesTables (functions.declare head).result
      (functions'.declare (head.rename r)).result := by
  have same : ((head.rename r).name ≠ printName ∧ functions'.get? (head.rename r).name = none) ↔
      (head.name ≠ printName ∧ functions.get? head.name = none) := by
    simp only [Header.rename, ne_eq, fn_eq_print_iff, relates head.name]
  -- the name is free on both sides or on neither, as no two names become one
  rw [Functions.declare_eq, Functions.declare_eq]
  simp only [Outcome.result_bind, Outcome.result_write, Except.ok_bind]
  apply Alike.bind (Alike.condition same rfl)
  intro _ _ _
  refine .ok fun name => ?_
  rw [Header.signature_rename, NameTable.get?_insert, NameTable.get?_insert]
  simp only [Header.rename, r.fn_injective.eq_iff, relates name]

theorem Functions.foldlM_declare_carries (heads : List Header) {functions functions' : Functions}
    (relates : r.RelatesTables functions functions') :
    r.Carries r.RelatesTables (heads.foldlM Functions.declare functions).result
      ((heads.map (Header.rename r)).foldlM Functions.declare functions').result := by
  induction heads generalizing functions functions' with
  | nil => exact .ok relates
  | cons head rest ih =>
    rw [List.map_cons, List.foldlM_cons, List.foldlM_cons, Outcome.result_bind, Outcome.result_bind]
    apply Alike.bind (Functions.declare_carries relates head)
    intro table table' declared
    exact ih declared

namespace Program

theorem headers_rename (program : Program α) :
    (Program.rename r program).headers = program.headers.map (Header.rename r) := by
  unfold Program.rename Program.headers
  induction program with
  | nil => rfl
  | cons s rest ih =>
    rw [Stmt.renameAll, List.filterMap_cons, List.filterMap_cons, ih]
    cases s <;> rfl

/-- With other names, a program is accepted with the renamed annotated program, or refused with the
renamed violation. -/
theorem annotate_rename (r : Renaming) (strictness : Strictness) (program : Program Unit) :
    ((Program.rename r program).annotate strictness).result =
      ((program.annotate strictness).result.map (Program.rename r)).mapError
        (Violation.rename r) := by
  apply Alike.eq_map
  rw [result_annotate, result_annotate, Program.functions, Program.functions, headers_rename]
  apply Alike.bind (Functions.foldlM_declare_carries program.headers fun _ => rfl)
  intro functions functions' tables
  apply Stmt.annotateAll_carries program
  exact ⟨fun _ => rfl, tables, rfl, rfl, rfl⟩

def sampleRenaming : Renaming where
  var := Equiv.swap "x" "y"
  fn := Equiv.swap "f" "x"
  var_injective := Equiv.injective _
  fn_injective := Equiv.injective _
  fn_print := Equiv.swap_apply_of_ne_of_ne (by decide) (by decide)

def sampleNamesakes : Program Unit :=
  [.define ⟨"x", [⟨"y", .int⟩], .int⟩ [.ret (.var "y" ()) ()] (),
    .assign "x" (.call "x" [.lit (.number 1) ()] ()) (), .expr (.call "f" [.var "x" ()] ()) ()]

theorem annotate_rename_sample :
    (sampleNamesakes.annotate .strict).result = .error (.unknownFunction "f") ∧
    Program.rename sampleRenaming sampleNamesakes =
      [.define ⟨"f", [⟨"x", .int⟩], .int⟩ [.ret (.var "x" ()) ()] (),
        .assign "y" (.call "f" [.lit (.number 1) ()] ()) (),
        .expr (.call "x" [.var "y" ()] ()) ()] ∧
    ((Program.rename sampleRenaming sampleNamesakes).annotate .strict).result =
      .error (.unknownFunction "x") := by
  have refused : (sampleNamesakes.annotate .strict).result = .error (.unknownFunction "f") := by rfl
  refine ⟨refused, by rfl, ?_⟩
  rw [annotate_rename, refused]
  rfl

end Program

end ScriptCheck
