import ScriptCheck.Proofs.Occurrences
import ScriptCheck.Proofs.Runs

/-! Where a check stops, and why. A violation in an expression is the fault of one of its nodes. A run
of statements stops at one of them, where those before it led; and that statement is at fault itself,
or a statement in the body of the function that it defines. -/

namespace ScriptCheck

variable {v : Violation}

theorem Except.bind_eq_error_iff {α β : Type} {first : Except Violation α}
    {next : α → Except Violation β} :
    (first >>= next) = .error v ↔ first = .error v ∨ ∃ a, first = .ok a ∧ next a = .error v := by
  cases first with
  | error w => simp
  | ok a => simp

theorem Outcome.require_eq_error_iff {condition : Prop} [Decidable condition] {w : Violation} :
    (require condition w).result = .error v ↔ ¬ condition ∧ v = w := by
  rw [result_require]
  split
  · next holds => simp [holds]
  · next fails => simp [fails, eq_comm]

theorem Operator.read_eq_error_iff {text : String} :
    Operator.read text = .error v ↔ Operator.ofSymbol? text = none ∧ v = .unknownOperator text := by
  unfold Operator.read
  cases Operator.ofSymbol? text with
  | none => simp [eq_comm]
  | some op => simp

namespace Context

variable {ctx : Context}

theorem signatureOf_eq_error_iff {name : String} :
    (ctx.signatureOf name).result = .error v ↔
      ctx.functions.get? name = none ∧ v = .unknownFunction name := by
  unfold signatureOf
  cases ctx.functions.get? name with
  | none => simp [eq_comm]
  | some sig => simp

theorem requireOperands_eq_error {op : Operator} {left right : Ty}
    (failed : (ctx.requireOperands op left right).result = .error v) :
    ctx.strictness = .strict ∧
      ∃ actual, actual ≠ op.operandTy ∧ v = .wrongOperand op.symbol op.operandTy actual := by
  unfold requireOperands at failed
  split at failed
  · cases failed
  · next mode =>
    rw [Outcome.result_bind, Except.bind_eq_error_iff] at failed
    refine ⟨mode, ?_⟩
    rcases failed with first | ⟨_, -, second⟩
    · exact ⟨left, Outcome.require_eq_error_iff.mp first⟩
    · exact ⟨right, Outcome.require_eq_error_iff.mp second⟩

/-- The node is at fault: what the violation tells is the matter with the node itself. -/
inductive Blames (ctx : Context) : Violation → Expr Unit → Prop where
  | name {name : String} {u : Unit} (unbound : ctx.scope.get? name = none) :
      Blames ctx (.unboundName name) (.var name u)
  | operator {text : String} {left right : Expr Unit} {u : Unit}
      (unknown : Operator.ofSymbol? text = none) :
      Blames ctx (.unknownOperator text) (.binary text left right u)
  | operand {op : Operator} {left right : Expr Unit} {u : Unit} {actual : Ty}
      (mode : ctx.strictness = .strict) (apart : actual ≠ op.operandTy) :
      Blames ctx (.wrongOperand op.symbol op.operandTy actual) (.binary op.symbol left right u)
  | printArity {args : List (Expr Unit)} {u : Unit} (count : args.length ≠ 1) :
      Blames ctx (.wrongArity printName 1 args.length) (.call printName args u)
  | function {name : String} {args : List (Expr Unit)} {u : Unit} (other : name ≠ printName)
      (unknown : ctx.functions.get? name = none) :
      Blames ctx (.unknownFunction name) (.call name args u)
  | arity {name : String} {args : List (Expr Unit)} {u : Unit} {sig : Signature}
      (other : name ≠ printName) (known : ctx.functions.get? name = some sig)
      (count : args.length ≠ sig.arity) :
      Blames ctx (.wrongArity name sig.arity args.length) (.call name args u)
  | argument {name : String} {args : List (Expr Unit)} {u : Unit} {sig : Signature} {index : Nat}
      {expected actual : Ty} (other : name ≠ printName)
      (known : ctx.functions.get? name = some sig) (count : args.length = sig.arity)
      (declared : sig.params[index]? = some expected) (apart : actual ≠ expected) :
      Blames ctx (.wrongArgument name (index + 1) expected actual) (.call name args u)

def BlamesAny (ctx : Context) (v : Violation) (nodes : List (Expr Unit)) : Prop :=
  ∃ node ∈ nodes, ctx.Blames v node

theorem BlamesAny.mono {nodes more : List (Expr Unit)} (fault : ctx.BlamesAny v nodes)
    (subset : nodes ⊆ more) : ctx.BlamesAny v more := by
  obtain ⟨node, member, blames⟩ := fault
  exact ⟨node, subset member, blames⟩

theorem Blames.first {node : Expr Unit} (blames : ctx.Blames v node) (rest : List (Expr Unit)) :
    ctx.BlamesAny v (node :: rest) :=
  ⟨node, List.mem_cons_self, blames⟩

theorem BlamesAny.later {nodes : List (Expr Unit)} (fault : ctx.BlamesAny v nodes)
    (node : Expr Unit) : ctx.BlamesAny v (node :: nodes) :=
  fault.mono (List.subset_cons_self node nodes)

mutual
theorem annotateExpr_blames : ∀ (e : Expr Unit) {v : Violation},
    (ctx.annotateExpr e).result = .error v → ctx.BlamesAny v e.nodes
  | .lit value u, v, failed => by
    rw [result_lit] at failed
    cases failed
  | .var name u, v, failed => by
    rw [annotateExpr] at failed
    cases held : ctx.scope.get? name with
    | none =>
      rw [held] at failed
      cases failed
      exact (Blames.name held).first []
    | some ty =>
      rw [held] at failed
      cases failed
  | .binary text left right u, v, failed => by
    rw [annotateExpr] at failed
    simp only [Outcome.result_bind, Except.bind_eq_error_iff, Outcome.result_ofExcept,
      Operator.read_eq_error_iff, Operator.read_eq_ok_iff] at failed
    rcases failed with ⟨unknown, rfl⟩ | ⟨op, rfl, inLeft | ⟨l, -, inRight | ⟨r, -, rest⟩⟩⟩
    · exact (Blames.operator unknown).first _
    · have fault := annotateExpr_blames left inLeft
      exact (fault.mono (List.subset_append_left _ _)).later _
    · have fault := annotateExpr_blames right inRight
      exact (fault.mono (List.subset_append_right _ _)).later _
    · rcases rest with operands | ⟨_, -, written⟩
      · obtain ⟨mode, actual, apart, rfl⟩ := requireOperands_eq_error operands
        exact (Blames.operand mode apart).first _
      · simp at written
  | .call name args u, v, failed => by
    rw [annotateExpr] at failed
    by_cases builtin : name = printName
    · subst builtin
      simp only [if_true, Outcome.result_bind, Except.bind_eq_error_iff,
        Outcome.require_eq_error_iff] at failed
      rcases failed with ⟨count, rfl⟩ | ⟨_, -, inArgs | ⟨_, -, returned⟩⟩
      · exact (Blames.printArity count).first _
      · exact (annotateAll_blames args inArgs).later _
      · cases returned
    · simp only [if_neg builtin, Outcome.result_bind, Except.bind_eq_error_iff,
        signatureOf_eq_error_iff, signatureOf_eq_ok_iff, Outcome.require_eq_error_iff,
        Outcome.require_eq_ok_iff] at failed
      rcases failed with ⟨unknown, rfl⟩ | ⟨sig, known, ⟨count, rfl⟩ | ⟨_, count, rest⟩⟩
      · exact (Blames.function builtin unknown).first _
      · exact (Blames.arity builtin known count).first _
      · rcases rest with inArgs | ⟨_, -, written⟩
        · rcases annotateArgs_blames args name 1 sig.params inArgs with
            fault | ⟨index, expected, actual, declared, apart, rfl⟩
          · exact fault.later _
          · rw [Nat.add_comm 1 index]
            exact (Blames.argument builtin known count declared apart).first _
        · simp at written

theorem annotateAll_blames : ∀ (args : List (Expr Unit)) {v : Violation},
    (ctx.annotateAll args).result = .error v → ctx.BlamesAny v (Expr.nodesAll args)
  | [], v, failed => by cases failed
  | arg :: args, v, failed => by
    rw [annotateAll] at failed
    simp only [Outcome.result_bind, Except.bind_eq_error_iff] at failed
    rcases failed with inFirst | ⟨_, -, inRest | ⟨_, -, returned⟩⟩
    · exact (annotateExpr_blames arg inFirst).mono (List.subset_append_left _ _)
    · exact (annotateAll_blames args inRest).mono (List.subset_append_right _ _)
    · cases returned

theorem annotateArgs_blames : ∀ (args : List (Expr Unit)) (name : String) (position : Nat)
    (params : List Ty) {v : Violation},
    (ctx.annotateArgs name position args params).result = .error v →
    ctx.BlamesAny v (Expr.nodesAll args) ∨
      ∃ index expected actual, params[index]? = some expected ∧ actual ≠ expected ∧
        v = .wrongArgument name (position + index) expected actual
  | [], name, position, params, v, failed => by cases failed
  | arg :: args, name, position, [], v, failed => by cases failed
  | arg :: args, name, position, expected :: params, v, failed => by
    rw [annotateArgs] at failed
    simp only [Outcome.result_bind, Except.bind_eq_error_iff, Outcome.require_eq_error_iff] at failed
    rcases failed with inFirst | ⟨a, -, ⟨apart, rfl⟩ | ⟨_, -, inRest | ⟨_, -, returned⟩⟩⟩
    · exact .inl ((annotateExpr_blames arg inFirst).mono (List.subset_append_left _ _))
    · exact .inr ⟨0, expected, a.ty, rfl, apart, rfl⟩
    · -- the positions of the remaining arguments are counted from the next one
      rcases annotateArgs_blames args name (position + 1) params inRest with
        fault | ⟨index, declared, actual, found, apart, rfl⟩
      · exact .inl (fault.mono (List.subset_append_right _ _))
      · refine .inr ⟨index + 1, declared, actual, found, apart, ?_⟩
        rw [Nat.add_right_comm, Nat.add_assoc]
    · cases returned
end

inductive BlamesStmt (ctx : Context) : Violation → Stmt Unit → Prop where
  | node {s : Stmt Unit} {v : Violation} (fault : ctx.BlamesAny v s.nodes) : BlamesStmt ctx v s
  | assignment {name : String} {value : Expr Unit} {u : Unit} {held actual : Ty}
      (bound : ctx.scope.get? name = some held) (apart : actual ≠ held) :
      BlamesStmt ctx (.wrongAssignment name held actual) (.assign name value u)
  | ret {value : Expr Unit} {u : Unit} {actual : Ty} (apart : actual ≠ ctx.returnTy) :
      BlamesStmt ctx (.wrongReturn ctx.returnTy actual) (.ret value u)
  | nested {head : Header} {body : List (Stmt Unit)} {u : Unit} (inside : ctx.inFunction = true) :
      BlamesStmt ctx (.nestedFunction head.name) (.define head body u)

theorem assign_eq_error {name : String} {ty : Ty}
    (failed : (Check.assign name ty ctx).result = .error v) :
    ∃ held, ctx.scope.get? name = some held ∧ ty ≠ held ∧ v = .wrongAssignment name held ty := by
  unfold Check.assign at failed
  cases bound : ctx.scope.get? name with
  | none =>
    rw [bound] at failed
    cases failed
  | some held =>
    simp only [bound, Outcome.result_bind, Except.bind_eq_error_iff,
      Outcome.require_eq_error_iff] at failed
    rcases failed with ⟨apart, rfl⟩ | ⟨_, -, written⟩
    · exact ⟨held, rfl, apart, rfl⟩
    · cases written

end Context

namespace Stmt

variable {ctx : Context}

theorem annotate_blames {s : Stmt Unit} (failed : (s.annotate ctx).result = .error v) :
    ctx.BlamesStmt v s ∨ ∃ head body, s = .define head body () ∧ ctx.inFunction = false ∧
      (Stmt.annotateAll body (ctx.inBody head)).result = .error v := by
  cases s with
  | assign name value u =>
    rw [outcome_assign] at failed
    simp only [Outcome.result_bind, Except.bind_eq_error_iff] at failed
    rcases failed with inValue | ⟨_, -, inTarget | ⟨_, -, returned⟩⟩
    · exact .inl (.node (Context.annotateExpr_blames value inValue))
    · obtain ⟨held, bound, apart, rfl⟩ := Context.assign_eq_error inTarget
      exact .inl (.assignment bound apart)
    · cases returned
  | define head body u =>
    rw [outcome_define] at failed
    simp only [Outcome.result_bind, Except.bind_eq_error_iff, Outcome.require_eq_error_iff,
      Outcome.require_eq_ok_iff] at failed
    rcases failed with ⟨inside, rfl⟩ | ⟨_, outside, written | ⟨_, -, inBody | ⟨_, -, returned⟩⟩⟩
    · exact .inl (.nested (Bool.not_eq_false _ ▸ inside))
    · cases written
    · exact .inr ⟨head, body, rfl, outside, inBody⟩
    · cases returned
  | expr value u =>
    rw [outcome_expr] at failed
    simp only [Outcome.result_bind, Except.bind_eq_error_iff] at failed
    rcases failed with inValue | ⟨_, -, returned⟩
    · exact .inl (.node (Context.annotateExpr_blames value inValue))
    · cases returned
  | ret value u =>
    rw [outcome_ret] at failed
    simp only [Outcome.result_bind, Except.bind_eq_error_iff, Outcome.require_eq_error_iff] at failed
    rcases failed with inValue | ⟨_, -, ⟨apart, rfl⟩ | ⟨_, -, returned⟩⟩
    · exact .inl (.node (Context.annotateExpr_blames value inValue))
    · exact .inl (.ret apart)
    · cases returned
  | pass u =>
    rw [outcome_pass] at failed
    cases failed

theorem annotateAll_eq_error_split {stmts : List (Stmt Unit)}
    (failed : (Stmt.annotateAll stmts ctx).result = .error v) :
    ∃ before s later typed, stmts = before ++ s :: later ∧
      (Stmt.annotateAll before ctx).result = .ok typed ∧
      (s.annotate (typed.foldl Context.after ctx)).result = .error v := by
  induction stmts generalizing ctx with
  | nil =>
    rw [outcome_annotateAll_nil] at failed
    cases failed
  | cons s rest ih =>
    rw [outcome_annotateAll_cons] at failed
    simp only [Outcome.result_bind, Except.bind_eq_error_iff] at failed
    rcases failed with here | ⟨t, passed, inRest | ⟨_, -, returned⟩⟩
    · exact ⟨[], s, rest, [], rfl, congrArg Outcome.result outcome_annotateAll_nil, here⟩
    · obtain ⟨before, s', later, typed, rfl, begun, reached⟩ := ih inRest
      refine ⟨s :: before, s', later, t :: typed, rfl, ?_, reached⟩
      exact annotateAll_cons_eq_ok_iff.mpr ⟨t, typed, passed, begun, rfl⟩
    · cases returned

end Stmt

end ScriptCheck
