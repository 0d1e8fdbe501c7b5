import ScriptCheck.Proofs.Hoisting

/-! The two ways to treat operands, compared. A strict check does what the permissive one does until
it meets an operation whose operands do not have the type that the operator takes; there it stops.
The operations it meets can be read off the tree that the permissive check gives. -/

namespace ScriptCheck

structure Operation where
  text : String
  left : Expr Ty
  right : Expr Ty

namespace Operation

def Fits (o : Operation) : Prop :=
  ∀ op, Operator.ofSymbol? o.text = some op →
    o.left.ty = op.operandTy ∧ o.right.ty = op.operandTy

def violation? (o : Operation) : Option Violation :=
  match Operator.ofSymbol? o.text with
  | some op =>
    if o.left.ty ≠ op.operandTy then some (.wrongOperand o.text op.operandTy o.left.ty)
    else if o.right.ty ≠ op.operandTy then some (.wrongOperand o.text op.operandTy o.right.ty)
    else none
  | none => none

end Operation

mutual
/-- The operations in an expression, each after those in its operands. -/
def Expr.operations : Expr Ty → List Operation
  | .lit _ _ | .var _ _ => []
  | .binary text left right _ => left.operations ++ (right.operations ++ [⟨text, left, right⟩])
  | .call _ args _ => Expr.operationsAll args

def Expr.operationsAll : List (Expr Ty) → List Operation
  | [] => []
  | e :: rest => e.operations ++ Expr.operationsAll rest
end

mutual
def Stmt.operations : Stmt Ty → List Operation
  | .assign _ value _ | .expr value _ | .ret value _ => value.operations
  | .define _ body _ => Stmt.operationsAll body
  | .pass _ => []

def Stmt.operationsAll : List (Stmt Ty) → List Operation
  | [] => []
  | s :: rest => s.operations ++ Stmt.operationsAll rest
end

def Violation.IsOperand (v : Violation) : Prop :=
  ∃ text expected actual, v = .wrongOperand text expected actual

namespace Operation

variable {o : Operation} {v : Violation}

theorem fits_iff : o.Fits ↔ o.violation? = none := by
  unfold Fits violation?
  cases Operator.ofSymbol? o.text with
  | none => simp
  | some op =>
    by_cases first : o.left.ty = op.operandTy <;> by_cases second : o.right.ty = op.operandTy <;>
      simp [first, second]

instance : Decidable o.Fits := decidable_of_iff _ fits_iff.symm

theorem violation?_of_not_fits (unfit : ¬ o.Fits) :
    ∃ op, Operator.ofSymbol? o.text = some op ∧ o.violation? = some (.wrongOperand o.text op.operandTy
      (if o.left.ty = op.operandTy then o.right.ty else o.left.ty)) := by
  rw [fits_iff] at unfit
  unfold violation? at unfit ⊢
  cases known : Operator.ofSymbol? o.text with
  | none => simp [known] at unfit
  | some op =>
    by_cases first : o.left.ty = op.operandTy
    · have second : o.right.ty ≠ op.operandTy := by
        intro same
        simp [known, first, same] at unfit
      exact ⟨op, rfl, by simp [first, second]⟩
    · exact ⟨op, rfl, by simp [first]⟩

theorem isOperand_of_violation? (found : o.violation? = some v) : v.IsOperand := by
  have unfit : ¬ o.Fits := by
    rw [fits_iff, found]
    simp
  obtain ⟨op, -, reported⟩ := violation?_of_not_fits unfit
  rw [reported] at found
  exact ⟨_, _, _, (Option.some.inj found).symm⟩

end Operation

def firstOffence (ops : List Operation) : Option Violation :=
  ops.findSome? Operation.violation?

theorem isOperand_of_firstOffence {ops : List Operation} {v : Violation}
    (found : firstOffence ops = some v) : v.IsOperand := by
  obtain ⟨o, -, offence⟩ := List.exists_of_findSome?_eq_some found
  exact Operation.isOperand_of_violation? offence

theorem firstOffence_eq_none {ops : List Operation} (fit : ∀ o ∈ ops, o.Fits) :
    firstOffence ops = none :=
  List.findSome?_eq_none_iff.mpr fun o member => Operation.fits_iff.mp (fit o member)

theorem firstOffence_append (ops more : List Operation) :
    firstOffence (ops ++ more) = (firstOffence ops).or (firstOffence more) :=
  List.findSome?_append

/-- `strict` is `permissive` up to the first offence among the operations that are met. `meets a ops`
says which operations are met on the way to the value `a`. -/
structure Tightens {α : Type} (meets : α → List Operation → Prop)
    (permissive strict : Outcome α) : Prop where
  passed : ∀ a, permissive.result = .ok a → ∃ ops, meets a ops ∧
    (firstOffence ops = none → strict = permissive) ∧
    ∀ v, firstOffence ops = some v → strict.result = .error v
  failed : ∀ v, permissive.result = .error v → ¬ v.IsOperand ∧
    (strict = permissive ∨ ∃ w, w.IsOperand ∧ strict.result = .error w)
  logs : strict.log <+: permissive.log

namespace Tightens

variable {α β : Type} {meets : α → List Operation → Prop} {reaches : β → List Operation → Prop}

theorem same {check : Outcome α} (plain : ∀ v, check.result = .error v → ¬ v.IsOperand)
    (nothing : ∀ a, check.result = .ok a → meets a []) : Tightens meets check check where
  passed a done := ⟨[], nothing a done, fun _ => rfl, fun _ found => by cases found⟩
  failed v stopped := ⟨plain v stopped, .inl rfl⟩
  logs := List.prefix_rfl

theorem of_error {permissive strict : Outcome α} {v : Violation}
    (stopped : permissive.result = .error v) (plain : ¬ v.IsOperand)
    (answer : strict = permissive ∨ ∃ w, w.IsOperand ∧ strict.result = .error w)
    (logs : strict.log <+: permissive.log) : Tightens meets permissive strict where
  passed a passed := by
    rw [stopped] at passed
    cases passed
  failed w failed := by
    rw [stopped] at failed
    cases failed
    exact ⟨plain, answer⟩
  logs := logs

theorem bind {first first' : Outcome α} {next next' : α → Outcome β} {met : α → List Operation}
    (head : Tightens (fun a ops => ops = met a) first first')
    (tail : ∀ a, first.result = .ok a →
      Tightens (fun b more => reaches b (met a ++ more)) (next a) (next' a)) :
    Tightens reaches (first >>= next) (first' >>= next') := by
  cases done : first.result with
  | error v =>
    obtain ⟨plain, rfl | ⟨w, operand, stopped⟩⟩ := head.failed v done
    · rw [Outcome.bind_of_error done, Outcome.bind_of_error done]
      exact of_error rfl plain (.inl rfl) List.prefix_rfl
    · rw [Outcome.bind_of_error done, Outcome.bind_of_error stopped]
      exact of_error rfl plain (.inr ⟨w, operand, rfl⟩) head.logs
  | ok a =>
    obtain ⟨_, rfl, agrees, stops⟩ := head.passed a done
    have rest := tail a done
    rw [Outcome.bind_of_ok done]
    cases offence : firstOffence (met a) with
    | some v =>
      -- the strict check has stopped before the second step
      rw [Outcome.bind_of_error (stops v offence)]
      refine ⟨?_, ?_, head.logs.trans (List.prefix_append _ _)⟩
      · intro b passed
        obtain ⟨more, reached, -⟩ := rest.passed b passed
        refine ⟨met a ++ more, reached, ?_⟩
        rw [firstOffence_append, offence, Option.some_or]
        constructor
        · intro none
          cases none
        · intro w found
          rw [Option.some.inj found]
      · intro w failed
        exact ⟨(rest.failed w failed).1, .inr ⟨v, isOperand_of_firstOffence offence, rfl⟩⟩
    | none =>
      rw [agrees offence, Outcome.bind_of_ok done]
      refine ⟨?_, ?_, (List.prefix_append_right_inj _).mpr rest.logs⟩
      · intro b passed
        obtain ⟨more, reached, agrees, stops⟩ := rest.passed b passed
        refine ⟨met a ++ more, reached, ?_⟩
        rw [firstOffence_append, offence, Option.none_or]
        refine ⟨?_, stops⟩
        intro none
        rw [agrees none]
      · intro w failed
        obtain ⟨plain, agrees | stopped⟩ := rest.failed w failed
        · exact ⟨plain, .inl (by rw [agrees])⟩
        · exact ⟨plain, .inr stopped⟩

theorem value (a : α) (met : meets a []) : Tightens meets (pure a) (pure a) := by
  apply same
  · intro v failed
    cases failed
  · intro _ passed
    cases passed
    exact met

theorem failure {v : Violation} (plain : ¬ v.IsOperand) :
    Tightens meets (Outcome.fail v) (Outcome.fail v) :=
  of_error rfl plain (.inl rfl) List.prefix_rfl

theorem record (r : Record) : Tightens (fun _ ops => ops = []) (Outcome.write r) (Outcome.write r) := by
  apply same
  · intro v failed
    cases failed
  · intro _ _
    rfl

theorem condition (holds : Prop) [Decidable holds] {v : Violation} (plain : ¬ v.IsOperand) :
    Tightens (fun _ ops => ops = []) (Outcome.require holds v) (Outcome.require holds v) := by
  unfold Outcome.require
  split
  · exact value _ rfl
  · exact failure plain

end Tightens

theorem Operator.read_tightens (text : String) :
    Tightens (fun _ ops => ops = []) (Outcome.ofExcept (Operator.read text))
      (Outcome.ofExcept (Operator.read text)) := by
  unfold Operator.read
  cases Operator.ofSymbol? text with
  | some op => exact Tightens.value op rfl
  | none => exact Tightens.failure (by simp [Violation.IsOperand])

def Context.withStrictness (ctx : Context) (strictness : Strictness) : Context :=
  { ctx with strictness := strictness }

namespace Context

theorem signatureOf_tightens (ctx : Context) (name : String) :
    Tightens (fun _ ops => ops = []) (ctx.signatureOf name) (ctx.signatureOf name) := by
  unfold signatureOf
  cases ctx.functions.get? name with
  | some sig => exact Tightens.value sig rfl
  | none => exact Tightens.failure (by simp [Violation.IsOperand])

theorem requireOperands_strict (ctx : Context) (op : Operator) (left right : Expr Ty) :
    (ctx.withStrictness .strict).requireOperands op left.ty right.ty =
      match (Operation.mk op.symbol left right).violation? with
      | some v => Outcome.fail v
      | none => pure () := by
  have known := Operator.ofSymbol?_eq_some_iff.mpr (rfl : op.symbol = op.symbol)
  unfold requireOperands Operation.violation?
  rw [known]
  by_cases first : left.ty = op.operandTy
  · by_cases second : right.ty = op.operandTy <;>
      simp [withStrictness, Outcome.require, first, second]
  · simp only [withStrictness, Outcome.require, first, if_false, ne_eq, not_false_eq_true, if_true]
    rfl

/-- The one step in which the two ways differ. -/
theorem requireOperands_tightens (ctx : Context) (op : Operator) (left right : Expr Ty) :
    Tightens (fun _ ops => ops = [⟨op.symbol, left, right⟩])
      ((ctx.withStrictness .permissive).requireOperands op left.ty right.ty)
      ((ctx.withStrictness .strict).requireOperands op left.ty right.ty) := by
  rw [requireOperands_strict]
  have offence : firstOffence [⟨op.symbol, left, right⟩] =
      (Operation.mk op.symbol left right).violation? := by
    rw [firstOffence, List.findSome?_cons]
    cases (Operation.mk op.symbol left right).violation? <;> rfl
  refine ⟨?_, ?_, ?_⟩
  · intro _ _
    refine ⟨_, rfl, ?_, ?_⟩
    · intro none
      rw [← offence, none]
      rfl
    · intro v found
      rw [← offence, found]
      rfl
  · intro v failed
    cases failed
  · cases (Operation.mk op.symbol left right).violation? <;> exact List.nil_prefix

variable (ctx : Context)

mutual
theorem annotateExpr_tightens : ∀ e : Expr Unit,
    Tightens (fun typed ops => ops = typed.operations)
      ((ctx.withStrictness .permissive).annotateExpr e)
      ((ctx.withStrictness .strict).annotateExpr e)
  | .lit value u => by
    rw [annotateExpr, annotateExpr]
    apply Tightens.bind (Tightens.record _)
    intro _ _
    exact Tightens.value _ rfl
  | .var name u => by
    rw [annotateExpr, annotateExpr]
    simp only [withStrictness]
    cases ctx.scope.get? name with
    | none => exact Tightens.failure (by simp [Violation.IsOperand])
    | some ty =>
      apply Tightens.bind (Tightens.record _)
      intro _ _
      exact Tightens.value _ rfl
  | .binary text left right u => by
    rw [annotateExpr, annotateExpr]
    apply Tightens.bind (Operator.read_tightens text)
    intro op read
    obtain rfl := Operator.read_eq_ok_iff.mp read
    apply Tightens.bind (annotateExpr_tightens left)
    intro l _
    apply Tightens.bind (annotateExpr_tightens right)
    intro r _
    apply Tightens.bind (ctx.requireOperands_tightens op l r)
    intro _ _
    apply Tightens.bind (Tightens.record _)
    intro _ _
    apply Tightens.value
    simp [Expr.operations]
  | .call name args u => by
    rw [annotateExpr, annotateExpr]
    by_cases builtin : name = printName
    · simp only [if_pos builtin]
      apply Tightens.bind (Tightens.condition _ (by simp [Violation.IsOperand]))
      intro _ _
      apply Tightens.bind (annotateAll_tightens args)
      intro typed _
      apply Tightens.value
      simp [Expr.operations]
    · simp only [if_neg builtin]
      apply Tightens.bind (ctx.signatureOf_tightens name)
      intro sig _
      apply Tightens.bind (Tightens.condition _ (by simp [Violation.IsOperand]))
      intro _ _
      apply Tightens.bind (annotateArgs_tightens args name 1 sig.params)
      intro typed _
      apply Tightens.bind (Tightens.record _)
      intro _ _
      apply Tightens.value
      simp [Expr.operations]

theorem annotateAll_tightens : ∀ args : List (Expr Unit),
    Tightens (fun typed ops => ops = Expr.operationsAll typed)
      ((ctx.withStrictness .permissive).annotateAll args)
      ((ctx.withStrictness .strict).annotateAll args)
  | [] => Tightens.value _ rfl
  | arg :: args => by
    rw [annotateAll, annotateAll]
    apply Tightens.bind (annotateExpr_tightens arg)
    intro a _
    apply Tightens.bind (annotateAll_tightens args)
    intro rest _
    apply Tightens.value
    simp [Expr.operationsAll]

theorem annotateArgs_tightens : ∀ (args : List (Expr Unit)) (name : String) (position : Nat)
    (params : List Ty),
    Tightens (fun typed ops => ops = Expr.operationsAll typed)
      ((ctx.withStrictness .permissive).annotateArgs name position args params)
      ((ctx.withStrictness .strict).annotateArgs name position args params)
  | [], name, position, params => Tightens.value _ rfl
  | arg :: args, name, position, [] => Tightens.value _ rfl
  | arg :: args, name, position, expected :: params => by
    rw [annotateArgs, annotateArgs]
    apply Tightens.bind (annotateExpr_tightens arg)
    intro a _
    apply Tightens.bind (Tightens.condition _ (by simp [Violation.IsOperand]))
    intro _ _
    apply Tightens.bind (annotateArgs_tightens args name (position + 1) params)
    intro rest _
    apply Tightens.value
    simp [Expr.operationsAll]
end

theorem after_withStrictness (strictness : Strictness) (s : Stmt Ty) :
    (ctx.withStrictness strictness).after s = (ctx.after s).withStrictness strictness := by
  have same : (ctx.withStrictness strictness).scope = ctx.scope := rfl
  rw [after_eq_of_scope_eq same, after_eq ctx s]
  rfl

theorem assign_tightens (name : String) (ty : Ty) :
    Tightens (fun _ ops => ops = [])
      (Check.assign name ty (ctx.withStrictness .permissive)).toOutcome
      (Check.assign name ty (ctx.withStrictness .strict)).toOutcome := by
  unfold Check.assign
  simp only [withStrictness]
  cases ctx.scope.get? name with
  | none => exact Tightens.record _
  | some held =>
    apply Tightens.bind (Tightens.condition _ (by simp [Violation.IsOperand]))
    intro _ _
    exact Tightens.record _

end Context

mutual
theorem Stmt.annotate_tightens : ∀ (s : Stmt Unit) (ctx : Context),
    Tightens (fun typed ops => ops = typed.operations)
      (s.annotate (ctx.withStrictness .permissive)).toOutcome
      (s.annotate (ctx.withStrictness .strict)).toOutcome
  | .assign name value u, ctx => by
    rw [Stmt.outcome_assign, Stmt.outcome_assign]
    apply Tightens.bind (ctx.annotateExpr_tightens value)
    intro v _
    apply Tightens.bind (ctx.assign_tightens name v.ty)
    intro _ _
    apply Tightens.value
    simp [Stmt.operations]
  | .define head body u, ctx => by
    rw [Stmt.outcome_define, Stmt.outcome_define]
    apply Tightens.bind (Tightens.condition _ (by simp [Violation.IsOperand]))
    intro _ _
    apply Tightens.bind (Tightens.record _)
    intro _ _
    apply Tightens.bind (Stmt.annotateAll_tightens body (ctx.inBody head))
    intro typedBody _
    apply Tightens.value
    simp [Stmt.operations]
  | .expr value u, ctx => by
    rw [Stmt.outcome_expr, Stmt.outcome_expr]
    apply Tightens.bind (ctx.annotateExpr_tightens value)
    intro v _
    apply Tightens.value
    simp [Stmt.operations]
  | .ret value u, ctx => by
    rw [Stmt.outcome_ret, Stmt.outcome_ret]
    apply Tightens.bind (ctx.annotateExpr_tightens value)
    intro v _
    apply Tightens.bind (Tightens.condition _ (by simp [Violation.IsOperand]))
    intro _ _
    apply Tightens.value
    simp [Stmt.operations]
  | .pass u, ctx => by
    rw [Stmt.outcome_pass, Stmt.outcome_pass]
    exact Tightens.value _ rfl

theorem Stmt.annotateAll_tightens : ∀ (stmts : List (Stmt Unit)) (ctx : Context),
    Tightens (fun typed ops => ops = Stmt.operationsAll typed)
      (Stmt.annotateAll stmts (ctx.withStrictness .permissive)).toOutcome
      (Stmt.annotateAll stmts (ctx.withStrictness .strict)).toOutcome
  | [], ctx => by
    rw [Stmt.outcome_annotateAll_nil, Stmt.outcome_annotateAll_nil]
    exact Tightens.value _ rfl
  | s :: rest, ctx => by
    rw [Stmt.outcome_annotateAll_cons, Stmt.outcome_annotateAll_cons]
    apply Tightens.bind (Stmt.annotate_tightens s ctx)
    intro typed _
    rw [Context.after_withStrictness, Context.after_withStrictness]
    apply Tightens.bind (Stmt.annotateAll_tightens rest (ctx.after typed))
    intro others _
    apply Tightens.value
    simp [Stmt.operationsAll]
end

namespace Program

theorem functions_tightens (program : Program Unit) :
    Tightens (fun _ ops => ops = []) program.functions program.functions := by
  apply Tightens.same
  · intro v failed
    obtain ⟨head, -, rfl⟩ := Functions.foldlM_declare_eq_error program.headers failed
    simp [Violation.IsOperand]
  · intro _ _
    rfl

theorem annotate_tightens (program : Program Unit) :
    ∃ permissive strict : Outcome (Program Ty),
      (program.annotate .permissive).result = permissive.result ∧
      (program.annotate .strict).result = strict.result ∧
      Tightens (fun typed ops => ops = Stmt.operationsAll typed) permissive strict := by
  refine ⟨program.functions >>= fun functions =>
      (Stmt.annotateAll program (.top functions ∅ .permissive)).toOutcome,
    program.functions >>= fun functions =>
      (Stmt.annotateAll program (.top functions ∅ .strict)).toOutcome, ?_, ?_, ?_⟩
  · rw [result_annotate, Outcome.result_bind]
  · rw [result_annotate, Outcome.result_bind]
  · apply Tightens.bind (functions_tightens program)
    intro functions _
    exact Stmt.annotateAll_tightens program (.top functions ∅ .permissive)

/-- If permissive checking accepts a program, then strict checking gives the same annotated program
where all its operations fit, and otherwise names the first one that does not, and of its operands
the left one if that is wrong. If permissive checking finds a violation, it is never about operands,
and strict checking finds the same one or stops at operands. -/
theorem strict_result_of_permissive (program : Program Unit) :
    (∀ typed, (program.annotate .permissive).result = .ok typed →
      ((∀ o ∈ Stmt.operationsAll typed, o.Fits) → (program.annotate .strict).result = .ok typed) ∧
      ∀ before o after, Stmt.operationsAll typed = before ++ o :: after →
        (∀ p ∈ before, p.Fits) → ¬ o.Fits →
        ∃ op, Operator.ofSymbol? o.text = some op ∧
          (program.annotate .strict).result = .error (.wrongOperand o.text op.operandTy
            (if o.left.ty = op.operandTy then o.right.ty else o.left.ty))) ∧
    ∀ v, (program.annotate .permissive).result = .error v →
      (∀ text expected actual, v ≠ .wrongOperand text expected actual) ∧
      ((program.annotate .strict).result = .error v ∨
        ∃ text expected actual,
          (program.annotate .strict).result = .error (.wrongOperand text expected actual)) := by
  obtain ⟨permissive, strict, loose, tight, related⟩ := annotate_tightens program
  rw [loose, tight]
  constructor
  · intro typed passed
    obtain ⟨_, rfl, agrees, stops⟩ := related.passed typed passed
    constructor
    · intro fit
      rw [agrees (firstOffence_eq_none fit), passed]
    · intro before o after split fit unfit
      obtain ⟨op, known, offence⟩ := Operation.violation?_of_not_fits unfit
      refine ⟨op, known, stops _ ?_⟩
      rw [split, firstOffence_append, firstOffence_eq_none fit, Option.none_or, firstOffence,
        List.findSome?_cons, offence]
  · intro v failed
    obtain ⟨plain, answer⟩ := related.failed v failed
    refine ⟨?_, ?_⟩
    · intro text expected actual equal
      exact plain ⟨text, expected, actual, equal⟩
    · rcases answer with same | ⟨w, operand, stopped⟩
      · rw [same, failed]
        exact .inl rfl
      · obtain ⟨text, expected, actual, rfl⟩ := operand
        exact .inr ⟨text, expected, actual, stopped⟩

/-- `1 + (True and 2)`, where both operations have a wrong operand. -/
def sampleSum : Expr Unit :=
  .binary "+" (.lit (.number 1) ())
    (.binary "and" (.lit (.bool true) ()) (.lit (.number 2) ()) ()) ()

def sampleDifference : Expr Unit :=
  .binary "-" (.lit (.number 1) ()) (.lit (.number 2) ()) ()

def sampleTyped : Expr Ty :=
  .binary "-" (.lit (.number 1) .int) (.lit (.number 2) .int) .int

theorem strict_result_of_permissive_sample :
    (∃ typed, (annotate .permissive [.define ⟨"f", [], .int⟩ [.ret sampleSum ()] ()]).result =
      .ok typed) ∧
    (annotate .strict [.define ⟨"f", [], .int⟩ [.ret sampleSum ()] ()]).result =
      .error (.wrongOperand "and" .bool .int) ∧
    (annotate .permissive [.expr sampleSum (), .expr (.var "x" ()) ()]).result =
      .error (.unboundName "x") ∧
    ((annotate .strict [.expr sampleSum (), .expr (.var "x" ()) ()]).result =
        .error (.unboundName "x") ∨
      ∃ text expected actual,
        (annotate .strict [.expr sampleSum (), .expr (.var "x" ()) ()]).result =
          .error (.wrongOperand text expected actual)) ∧
    (annotate .strict [.expr sampleDifference ()]).result = .ok [.expr sampleTyped .none] := by
  have body := strict_result_of_permissive [.define ⟨"f", [], .int⟩ [.ret sampleSum ()] ()]
  have late := strict_result_of_permissive [.expr sampleSum (), .expr (.var "x" ()) ()]
  have fitting := strict_result_of_permissive [.expr sampleDifference ()]
  obtain ⟨op, known, stopped⟩ := (body.1 _ rfl).2 []
    ⟨"and", .lit (.bool true) .bool, .lit (.number 2) .int⟩ _ rfl (by simp) (by decide)
  cases known
  exact ⟨⟨_, rfl⟩, stopped, rfl, (late.2 _ rfl).2, (fitting.1 _ rfl).1 (by decide)⟩

end Program

end ScriptCheck
