import Mathlib.Data.List.Forall2
import ScriptCheck.Annotate.Program
import ScriptCheck.NameTable.Lemmas

/-! When a check passes and with which value, one statement for every node of a tree. Statements are
sequenced as outcomes, and the context that a statement leaves is read off its result:
`Context.after` for a statement that passed, the same context for one that did not. Two results side
by side are compared by `Alike`. -/

namespace ScriptCheck

variable {α β γ δ : Type}

theorem Except.bind_eq_ok_iff {first : Except Violation α} {next : α → Except Violation β} {b : β} :
    (first >>= next) = .ok b ↔ ∃ a, first = .ok a ∧ next a = .ok b := by
  cases first with
  | error v => simp [bind, Except.bind]
  | ok a => simp [bind, Except.bind]

@[simp] theorem Except.ok_bind (a : α) (next : α → Except Violation β) :
    ((.ok a : Except Violation α) >>= next) = next a := rfl

@[simp] theorem Except.error_bind (v : Violation) (next : α → Except Violation β) :
    ((.error v : Except Violation α) >>= next) = .error v := rfl

@[simp] theorem Except.map_ok (f : α → β) (a : α) :
    (f <$> (.ok a : Except Violation α)) = .ok (f a) := rfl

@[simp] theorem Except.map_error (f : α → β) (v : Violation) :
    (f <$> (.error v : Except Violation α)) = .error v := rfl

namespace Outcome

@[simp] theorem result_fail (v : Violation) : (fail v : Outcome α).result = .error v := rfl

@[simp] theorem result_write (r : Record) : (write r).result = .ok () := rfl

@[simp] theorem result_ofExcept (result : Except Violation α) : (ofExcept result).result = result :=
  rfl

@[simp] theorem result_map (f : α → β) (check : Outcome α) :
    (f <$> check).result = f <$> check.result := by
  rw [map_eq_pure_bind, result_bind, map_eq_pure_bind]
  rfl

@[simp] theorem result_require (condition : Prop) [Decidable condition] (v : Violation) :
    (require condition v).result = if condition then .ok () else .error v := by
  unfold require
  split <;> rfl

@[simp] theorem result_onFailure (check : Outcome α) (note : Violation → Record) :
    (check.onFailure note).result = check.result := by
  unfold onFailure
  split
  · rfl
  · next v stopped => exact stopped.symm

theorem onFailure_of_ok {check : Outcome α} {a : α} (done : check.result = .ok a)
    (note : Violation → Record) : check.onFailure note = check := by
  rw [onFailure, done]

theorem onFailure_of_error {check : Outcome α} {v : Violation} (stopped : check.result = .error v)
    (note : Violation → Record) : check.onFailure note = ⟨check.log ++ [note v], .error v⟩ := by
  rw [onFailure, stopped]

theorem bind_of_ok {first : Outcome α} {a : α} (done : first.result = .ok a)
    (next : α → Outcome β) :
    first >>= next = ⟨first.log ++ (next a).log, (next a).result⟩ := by
  change Outcome.bind first next = _
  rw [Outcome.bind, done]

theorem bind_of_error {first : Outcome α} {v : Violation} (stopped : first.result = .error v)
    (next : α → Outcome β) : first >>= next = ⟨first.log, .error v⟩ := by
  change Outcome.bind first next = _
  rw [Outcome.bind, stopped]

theorem bind_congr {first : Outcome α} {next other : α → Outcome β}
    (same : ∀ a, first.result = .ok a → next a = other a) : first >>= next = first >>= other := by
  cases done : first.result with
  | error v => rw [bind_of_error done, bind_of_error done]
  | ok a => rw [bind_of_ok done, bind_of_ok done, same a done]

theorem require_eq_ok_iff {condition : Prop} [Decidable condition] {v : Violation} {u : Unit} :
    (require condition v).result = .ok u ↔ condition := by
  rw [result_require]
  split
  · next holds => simp [holds]
  · next fails => simp [fails]

end Outcome

/-- Two results are values that stand in a relation, or violations of which `f` gives the second. -/
inductive Alike (f : Violation → Violation) (rel : α → β → Prop) :
    Except Violation α → Except Violation β → Prop where
  | ok {a : α} {b : β} (related : rel a b) : Alike f rel (.ok a) (.ok b)
  | error (v : Violation) : Alike f rel (.error v) (.error (f v))

namespace Alike

variable {f : Violation → Violation} {rel : α → β → Prop} {rel' : γ → δ → Prop}

theorem bind {first : Except Violation α} {first' : Except Violation β}
    {next : α → Except Violation γ} {next' : β → Except Violation δ}
    (head : Alike f rel first first') (tail : ∀ a b, rel a b → Alike f rel' (next a) (next' b)) :
    Alike f rel' (first >>= next) (first' >>= next') := by
  cases head with
  | ok related => exact tail _ _ related
  | error v => exact .error v

theorem bind_same {first : Except Violation α} {next : α → Except Violation γ}
    {next' : α → Except Violation δ}
    (tail : ∀ a, first = .ok a → Alike id rel' (next a) (next' a)) :
    Alike id rel' (first >>= next) (first >>= next') := by
  cases first with
  | ok a => exact tail a rfl
  | error v => exact .error v

theorem condition {holds holds' : Prop} [Decidable holds] [Decidable holds'] {v w : Violation}
    (same : holds' ↔ holds) (image : w = f v) :
    Alike f (· = ·) (Outcome.require holds v).result (Outcome.require holds' w).result := by
  rw [Outcome.result_require, Outcome.result_require, image]
  by_cases h : holds
  · rw [if_pos h, if_pos (same.mpr h)]
    exact .ok rfl
  · rw [if_neg h, if_neg (h ∘ same.mp)]
    exact .error v

theorem mono {other : α → β → Prop} {first : Except Violation α} {second : Except Violation β}
    (alike : Alike f rel first second) (weaker : ∀ a b, rel a b → other a b) :
    Alike f other first second := by
  cases alike with
  | ok related => exact .ok (weaker _ _ related)
  | error v => exact .error v

theorem error_or_ok {first : Except Violation α} {second : Except Violation β}
    (alike : Alike f rel first second) :
    (∃ v, first = .error v ∧ second = .error (f v)) ∨
      ∃ a b, rel a b ∧ first = .ok a ∧ second = .ok b := by
  cases alike with
  | ok related => exact .inr ⟨_, _, related, rfl, rfl⟩
  | error v => exact .inl ⟨v, rfl, rfl⟩

theorem eq_map {g : α → β} {first : Except Violation α} {second : Except Violation β}
    (alike : Alike f (fun a b => b = g a) first second) :
    second = (first.map g).mapError f := by
  cases alike with
  | ok related => exact congrArg Except.ok related
  | error v => rfl

end Alike

theorem Operator.read_eq_ok_iff {text : String} {op : Operator} :
    Operator.read text = .ok op ↔ text = op.symbol := by
  rw [← Operator.ofSymbol?_eq_some_iff]
  unfold Operator.read
  cases Operator.ofSymbol? text <;> simp

namespace Context

variable {ctx : Context}

theorem requireOperands_eq_ok_iff {op : Operator} {left right : Ty} {u : Unit} :
    (ctx.requireOperands op left right).result = .ok u ↔
      (ctx.strictness = .strict → left = op.operandTy ∧ right = op.operandTy) := by
  unfold requireOperands
  split
  · next mode => simp [mode]
  · next mode =>
    rw [Outcome.result_bind, Except.bind_eq_ok_iff]
    simp only [Outcome.require_eq_ok_iff, exists_const, mode, forall_const]

theorem signatureOf_eq_ok_iff {name : String} {sig : Signature} :
    (ctx.signatureOf name).result = .ok sig ↔ ctx.functions.get? name = some sig := by
  unfold signatureOf
  cases ctx.functions.get? name <;> simp

@[simp] theorem result_lit (value : Literal) (u : Unit) :
    (ctx.annotateExpr (.lit value u)).result = .ok (.lit value value.ty) := by
  rw [annotateExpr]
  rfl

theorem var_eq_ok_iff {name : String} {u : Unit} {typed : Expr Ty} :
    (ctx.annotateExpr (.var name u)).result = .ok typed ↔
      ∃ ty, ctx.scope.get? name = some ty ∧ typed = .var name ty := by
  rw [annotateExpr]
  cases ctx.scope.get? name with
  | none => simp
  | some ty => simp [eq_comm]

theorem binary_eq_ok_iff {text : String} {left right : Expr Unit} {u : Unit} {typed : Expr Ty} :
    (ctx.annotateExpr (.binary text left right u)).result = .ok typed ↔
      ∃ (op : Operator) (l r : Expr Ty), text = op.symbol ∧
        (ctx.annotateExpr left).result = .ok l ∧ (ctx.annotateExpr right).result = .ok r ∧
        (ctx.strictness = .strict → l.ty = op.operandTy ∧ r.ty = op.operandTy) ∧
        typed = .binary text l r op.resultTy := by
  rw [annotateExpr]
  simp only [Outcome.result_bind, Except.bind_eq_ok_iff, Outcome.result_ofExcept,
    Operator.read_eq_ok_iff, requireOperands_eq_ok_iff, Outcome.result_write, Outcome.result_pure,
    Except.ok.injEq, exists_const, true_and, eq_comm (a := typed), exists_and_left]

theorem print_eq_ok_iff {args : List (Expr Unit)} {u : Unit} {typed : Expr Ty} :
    (ctx.annotateExpr (.call printName args u)).result = .ok typed ↔
      ∃ arg a, args = [arg] ∧ (ctx.annotateExpr arg).result = .ok a ∧
        typed = .call printName [a] .none := by
  rw [annotateExpr]
  simp only [if_true, Outcome.result_bind, Except.bind_eq_ok_iff, Outcome.require_eq_ok_iff,
    exists_const, Outcome.result_pure, Except.ok.injEq, List.length_eq_one_iff]
  constructor
  · intro checked
    obtain ⟨⟨arg, rfl⟩, typedArgs, passed, rfl⟩ := checked
    simp only [annotateAll, Outcome.result_bind, Except.bind_eq_ok_iff, Outcome.result_pure,
      Except.ok.injEq] at passed
    obtain ⟨a, checked, _, rfl, rfl⟩ := passed
    exact ⟨arg, a, rfl, checked, rfl⟩
  · intro checked
    obtain ⟨arg, a, rfl, checked, rfl⟩ := checked
    refine ⟨⟨arg, rfl⟩, [a], ?_, rfl⟩
    simp [annotateAll, checked]

theorem call_eq_ok_iff {name : String} {args : List (Expr Unit)} {u : Unit} {typed : Expr Ty}
    (apart : name ≠ printName) :
    (ctx.annotateExpr (.call name args u)).result = .ok typed ↔
      ∃ sig typedArgs, ctx.functions.get? name = some sig ∧ args.length = sig.arity ∧
        (ctx.annotateArgs name 1 args sig.params).result = .ok typedArgs ∧
        typed = .call name typedArgs sig.ret := by
  rw [annotateExpr]
  simp only [if_neg apart, Outcome.result_bind, Except.bind_eq_ok_iff, signatureOf_eq_ok_iff,
    Outcome.require_eq_ok_iff, exists_const, Outcome.result_write, true_and, Outcome.result_pure,
    Except.ok.injEq, eq_comm (a := typed), exists_and_left]

theorem annotateArgs_cons_eq_ok_iff {name : String} {position : Nat} {arg : Expr Unit}
    {args : List (Expr Unit)} {expected : Ty} {params : List Ty} {typed : List (Expr Ty)} :
    (ctx.annotateArgs name position (arg :: args) (expected :: params)).result = .ok typed ↔
      ∃ a rest, (ctx.annotateExpr arg).result = .ok a ∧ a.ty = expected ∧
        (ctx.annotateArgs name (position + 1) args params).result = .ok rest ∧
        typed = a :: rest := by
  rw [annotateArgs]
  simp only [Outcome.result_bind, Except.bind_eq_ok_iff, Outcome.require_eq_ok_iff, exists_const,
    Outcome.result_pure, Except.ok.injEq, eq_comm (a := typed), exists_and_left]

/-- Arguments passed one by one. Where there are as many as parameters, none is left out. -/
theorem annotateArgs_forall₂ {name : String} {position : Nat} {args : List (Expr Unit)}
    {params : List Ty} {typed : List (Expr Ty)} (count : args.length = params.length)
    (checked : (ctx.annotateArgs name position args params).result = .ok typed) :
    List.Forall₂ (fun arg a => (ctx.annotateExpr arg).result = .ok a) args typed := by
  induction args generalizing params typed position with
  | nil =>
    cases checked
    exact .nil
  | cons arg args ih =>
    cases params with
    | nil => cases count
    | cons expected params =>
      obtain ⟨a, rest, first, -, others, rfl⟩ := annotateArgs_cons_eq_ok_iff.mp checked
      exact .cons first (ih (Nat.succ.inj count) others)

theorem call_forall₂ {name : String} {args : List (Expr Unit)} {u : Unit} {typed : Expr Ty}
    (checked : (ctx.annotateExpr (.call name args u)).result = .ok typed) :
    ∃ typedArgs ty, typed = .call name typedArgs ty ∧
      List.Forall₂ (fun arg a => (ctx.annotateExpr arg).result = .ok a) args typedArgs := by
  by_cases builtin : name = printName
  · subst builtin
    obtain ⟨arg, a, rfl, first, rfl⟩ := print_eq_ok_iff.mp checked
    exact ⟨[a], .none, rfl, .cons first .nil⟩
  · obtain ⟨sig, typedArgs, -, count, passed, rfl⟩ := (call_eq_ok_iff builtin).mp checked
    exact ⟨typedArgs, sig.ret, rfl, annotateArgs_forall₂ count passed⟩

/-- The context after a statement that passed. Only the first assignment to a name changes it. -/
def after (ctx : Context) : Stmt Ty → Context
  | .assign name value _ => if ctx.scope.get? name = none then ctx.bind name value.ty else ctx
  | _ => ctx

theorem after_assign_of_unbound {name : String} {value : Expr Ty} {ty : Ty}
    (unbound : ctx.scope.get? name = none) :
    ctx.after (.assign name value ty) = ctx.bind name value.ty := if_pos unbound

theorem after_assign_of_bound {name : String} {value : Expr Ty} {ty held : Ty}
    (bound : ctx.scope.get? name = some held) : ctx.after (.assign name value ty) = ctx := by
  apply if_neg
  rw [bound]
  simp

theorem after_eq (ctx : Context) (s : Stmt Ty) :
    ctx.after s = { ctx with scope := (ctx.after s).scope } := by
  unfold after
  split
  · split <;> rfl
  · rfl

theorem after_eq_of_scope_eq {other : Context} (same : other.scope = ctx.scope) (s : Stmt Ty) :
    other.after s = { other with scope := (ctx.after s).scope } := by
  cases s with
  | assign name value ty =>
    cases held : ctx.scope.get? name with
    | none =>
      rw [after_assign_of_unbound held, after_assign_of_unbound (same ▸ held), bind, same]
      rfl
    | some ty =>
      rw [after_assign_of_bound held, after_assign_of_bound (same ▸ held), ← same]
  | _ =>
    simp only [after, ← same]

@[simp] theorem functions_after (s : Stmt Ty) : (ctx.after s).functions = ctx.functions := by
  rw [after_eq]

@[simp] theorem returnTy_after (s : Stmt Ty) : (ctx.after s).returnTy = ctx.returnTy := by
  rw [after_eq]

@[simp] theorem inFunction_after (s : Stmt Ty) : (ctx.after s).inFunction = ctx.inFunction := by
  rw [after_eq]

@[simp] theorem strictness_after (s : Stmt Ty) : (ctx.after s).strictness = ctx.strictness := by
  rw [after_eq]

end Context

namespace Check

@[simp] theorem toOutcome_pure (a : α) (ctx : Context) :
    ((pure a : Check α) ctx).toOutcome = pure a := rfl

@[simp] theorem context_pure (a : α) (ctx : Context) : ((pure a : Check α) ctx).context = ctx := rfl

@[simp] theorem look_apply (check : Context → Outcome α) (ctx : Context) :
    look check ctx = ⟨check ctx, ctx⟩ := rfl

@[simp] theorem within_apply (enter : Context → Context) (check : Check α) (ctx : Context) :
    within enter check ctx = ⟨(check (enter ctx)).toOutcome, ctx⟩ := rfl

@[simp] theorem toOutcome_bind (first : Check α) (next : α → Check β) (ctx : Context) :
    ((first >>= next) ctx).toOutcome =
      (first ctx).toOutcome >>= fun a => (next a (first ctx).context).toOutcome := by
  change (Check.bind first next ctx).toOutcome = Outcome.bind _ _
  cases done : (first ctx).result <;> simp [Check.bind, Outcome.bind, done]

theorem context_bind (first : Check α) (next : α → Check β) (ctx : Context) :
    ((first >>= next) ctx).context =
      match (first ctx).result with
      | .ok a => (next a (first ctx).context).context
      | .error _ => (first ctx).context := by
  change (Check.bind first next ctx).context = _
  cases done : (first ctx).result <;> simp [Check.bind, done]

theorem assign_eq_ok_iff {name : String} {ty : Ty} {ctx : Context} {u : Unit} :
    (assign name ty ctx).result = .ok u ↔ ∀ held, ctx.scope.get? name = some held → ty = held := by
  unfold assign
  cases ctx.scope.get? name with
  | none => simp
  | some held => simp [Except.bind_eq_ok_iff]

end Check

namespace Stmt

variable {ctx : Context}

theorem outcome_assign (name : String) (value : Expr Unit) (u : Unit) :
    ((Stmt.assign name value u).annotate ctx).toOutcome = do
      let value ← ctx.annotateExpr value
      (Check.assign name value.ty ctx).toOutcome
      return .assign name value .none := by
  rw [Stmt.annotate]
  simp only [Check.toOutcome_bind, Check.look_apply, Check.toOutcome_pure]

theorem outcome_define (head : Header) (body : List (Stmt Unit)) (u : Unit) :
    ((Stmt.define head body u).annotate ctx).toOutcome = do
      Outcome.require (ctx.inFunction = false) (.nestedFunction head.name)
      Outcome.write (.body head.name)
      let body ← (Stmt.annotateAll body (ctx.inBody head)).toOutcome
      return .define head body .none := by
  rw [Stmt.annotate]
  simp only [Check.toOutcome_bind, Check.enterBody, Check.look_apply, Check.within_apply,
    Check.toOutcome_pure, bind_assoc]

theorem outcome_expr (value : Expr Unit) (u : Unit) :
    ((Stmt.expr value u).annotate ctx).toOutcome = do
      let value ← ctx.annotateExpr value
      return .expr value .none := by
  rw [Stmt.annotate]
  simp only [Check.toOutcome_bind, Check.look_apply, Check.toOutcome_pure]

theorem outcome_ret (value : Expr Unit) (u : Unit) :
    ((Stmt.ret value u).annotate ctx).toOutcome = do
      let value ← ctx.annotateExpr value
      Outcome.require (value.ty = ctx.returnTy) (.wrongReturn ctx.returnTy value.ty)
      return .ret value value.ty := by
  rw [Stmt.annotate]
  simp only [Check.toOutcome_bind, Check.look_apply, Check.requireReturn, Check.toOutcome_pure]

@[simp] theorem outcome_pass (u : Unit) :
    ((Stmt.pass u).annotate ctx).toOutcome = pure (.pass .none) := by
  rw [Stmt.annotate]
  rfl

theorem assign_eq_ok_iff {name : String} {value : Expr Unit} {u : Unit} {typed : Stmt Ty} :
    ((Stmt.assign name value u).annotate ctx).result = .ok typed ↔
      ∃ v, (ctx.annotateExpr value).result = .ok v ∧
        (∀ held, ctx.scope.get? name = some held → v.ty = held) ∧ typed = .assign name v .none := by
  rw [outcome_assign]
  simp only [Outcome.result_bind, Except.bind_eq_ok_iff, Check.assign_eq_ok_iff, exists_const,
    Outcome.result_pure, Except.ok.injEq, eq_comm (a := typed)]

theorem define_eq_ok_iff {head : Header} {body : List (Stmt Unit)} {u : Unit} {typed : Stmt Ty} :
    ((Stmt.define head body u).annotate ctx).result = .ok typed ↔
      ctx.inFunction = false ∧ ∃ typedBody,
        (Stmt.annotateAll body (ctx.inBody head)).result = .ok typedBody ∧
        typed = .define head typedBody .none := by
  rw [outcome_define]
  simp only [Outcome.result_bind, Except.bind_eq_ok_iff, Outcome.require_eq_ok_iff, exists_const,
    Outcome.result_write, true_and, Outcome.result_pure, Except.ok.injEq, eq_comm (a := typed)]

theorem expr_eq_ok_iff {value : Expr Unit} {u : Unit} {typed : Stmt Ty} :
    ((Stmt.expr value u).annotate ctx).result = .ok typed ↔
      ∃ v, (ctx.annotateExpr value).result = .ok v ∧ typed = .expr v .none := by
  rw [outcome_expr]
  simp only [Outcome.result_bind, Except.bind_eq_ok_iff, Outcome.result_pure, Except.ok.injEq,
    eq_comm (a := typed)]

theorem ret_eq_ok_iff {value : Expr Unit} {u : Unit} {typed : Stmt Ty} :
    ((Stmt.ret value u).annotate ctx).result = .ok typed ↔
      ∃ v, (ctx.annotateExpr value).result = .ok v ∧ v.ty = ctx.returnTy ∧
        typed = .ret v v.ty := by
  rw [outcome_ret]
  simp only [Outcome.result_bind, Except.bind_eq_ok_iff, Outcome.require_eq_ok_iff, exists_const,
    Outcome.result_pure, Except.ok.injEq, eq_comm (a := typed)]

/-- What a statement leaves behind is decided by its result alone. -/
theorem context_annotate (s : Stmt Unit) :
    (s.annotate ctx).context =
      match (s.annotate ctx).result with
      | .ok typed => ctx.after typed
      | .error _ => ctx := by
  cases s with
  | assign name value u =>
    rw [Stmt.annotate]
    cases checked : (ctx.annotateExpr value).result with
    | error v => simp [Check.context_bind, checked]
    | ok value =>
      cases held : ctx.scope.get? name with
      -- the one place where the context changes, and no later step of the statement can fail
      | none => simp [Check.context_bind, checked, Check.assign, held, Context.after]
      | some ty =>
        by_cases same : value.ty = ty
        · simp [Check.context_bind, checked, Check.assign, held, same, Context.after]
        · simp [Check.context_bind, checked, Check.assign, held, same]
  | define head body u =>
    rw [Stmt.annotate]
    cases inside : ctx.inFunction with
    | true => simp [Check.context_bind, Check.enterBody, inside]
    | false =>
      cases checked : (Stmt.annotateAll body (ctx.inBody head)).result with
      | error v => simp [Check.context_bind, Check.enterBody, inside, checked]
      | ok body => simp [Check.context_bind, Check.enterBody, inside, checked, Context.after]
  | expr value u =>
    rw [Stmt.annotate]
    cases checked : (ctx.annotateExpr value).result with
    | error v => simp [Check.context_bind, checked]
    | ok value => simp [Check.context_bind, checked, Context.after]
  | ret value u =>
    rw [Stmt.annotate]
    cases checked : (ctx.annotateExpr value).result with
    | error v => simp [Check.context_bind, checked]
    | ok value =>
      by_cases fits : value.ty = ctx.returnTy
      · simp [Check.context_bind, checked, Check.requireReturn, fits, Context.after]
      · simp [Check.context_bind, checked, Check.requireReturn, fits]
  | pass u =>
    rw [Stmt.annotate]
    rfl

theorem context_of_ok {s : Stmt Unit} {typed : Stmt Ty}
    (passed : (s.annotate ctx).result = .ok typed) : (s.annotate ctx).context = ctx.after typed := by
  rw [context_annotate, passed]

theorem context_of_error {s : Stmt Unit} {v : Violation}
    (failed : (s.annotate ctx).result = .error v) : (s.annotate ctx).context = ctx := by
  rw [context_annotate, failed]

@[simp] theorem outcome_annotateAll_nil : (Stmt.annotateAll [] ctx).toOutcome = pure [] := by
  rw [Stmt.annotateAll]
  rfl

theorem outcome_annotateAll_cons (s : Stmt Unit) (rest : List (Stmt Unit)) :
    (Stmt.annotateAll (s :: rest) ctx).toOutcome = do
      let typed ← (s.annotate ctx).toOutcome
      let others ← (Stmt.annotateAll rest (ctx.after typed)).toOutcome
      return typed :: others := by
  rw [Stmt.annotateAll]
  simp only [Check.toOutcome_bind, Check.toOutcome_pure]
  apply Outcome.bind_congr
  intro typed passed
  rw [context_of_ok passed]

theorem annotateAll_cons_eq_ok_iff {s : Stmt Unit} {rest : List (Stmt Unit)}
    {typed : List (Stmt Ty)} :
    (Stmt.annotateAll (s :: rest) ctx).result = .ok typed ↔
      ∃ t ts, (s.annotate ctx).result = .ok t ∧
        (Stmt.annotateAll rest (ctx.after t)).result = .ok ts ∧ typed = t :: ts := by
  rw [outcome_annotateAll_cons]
  simp only [Outcome.result_bind, Except.bind_eq_ok_iff, Outcome.result_pure, Except.ok.injEq,
    eq_comm (a := typed), exists_and_left]

end Stmt

theorem Program.result_annotate (strictness : Strictness) (program : Program Unit) :
    (program.annotate strictness).result =
      program.functions.result >>= fun functions =>
        (Stmt.annotateAll program (.top functions ∅ strictness)).result := by
  unfold Program.annotate
  simp only [Outcome.result_bind, Outcome.result_write, Outcome.result_onFailure]
  cases program.functions.result with
  | error v => rfl
  | ok functions =>
    simp only [Except.ok_bind]
    cases (Stmt.annotateAll program (.top functions ∅ strictness)).result <;> rfl

theorem Program.result_annotate_of_collected {program : Program Unit} {functions : Functions}
    (collected : program.functions.result = .ok functions) (strictness : Strictness) :
    (program.annotate strictness).result =
      (Stmt.annotateAll program (.top functions ∅ strictness)).result := by
  rw [Program.result_annotate, collected, Except.ok_bind]

end ScriptCheck
