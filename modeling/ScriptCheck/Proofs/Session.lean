import ScriptCheck.Proofs.Results

/-! A session: statements checked one after the other in one context, where a statement that fails
does not end the session. The scope at its end is the scope at its start, and beside it the first
successful assignment to each further name. -/

namespace ScriptCheck

def Context.feed (ctx : Context) (stmts : List (Stmt Unit)) : Context :=
  stmts.foldl (fun ctx s => (s.annotate ctx).context) ctx

def Context.answers (ctx : Context) :
    List (Stmt Unit) → List (Stmt Unit × Except Violation (Stmt Ty))
  | [] => []
  | s :: rest => (s, (s.annotate ctx).result) :: (s.annotate ctx).context.answers rest

def assignedTy (name : String) : Stmt Unit × Except Violation (Stmt Ty) → Option Ty
  | (.assign target _ _, .ok (.assign _ value _)) => if target = name then some value.ty else none
  | _ => none

def Stmt.assigns (name : String) : Stmt Ty → Option Ty
  | .assign target value _ => if target = name then some value.ty else none
  | _ => none

namespace Context

variable {ctx : Context}

theorem feed_cons (s : Stmt Unit) (rest : List (Stmt Unit)) :
    ctx.feed (s :: rest) = (s.annotate ctx).context.feed rest := rfl

/-- The first assignment to a name is the only one that shows in a lookup. -/
theorem get?_after (typed : Stmt Ty) (name : String) :
    (ctx.after typed).scope.get? name = (ctx.scope.get? name).or (typed.assigns name) := by
  cases typed with
  | assign target value ty =>
    cases held : ctx.scope.get? target with
    | none =>
      have lookup : (ctx.bind target value.ty).scope.get? name =
          if name = target then some value.ty else ctx.scope.get? name := NameTable.get?_insert
      rw [after_assign_of_unbound held, lookup, Stmt.assigns]
      by_cases same : name = target
      · subst same
        simp [held]
      · have apart : target ≠ name := fun e => same e.symm
        simp [same, apart]
    | some ty =>
      rw [after_assign_of_bound held, Stmt.assigns]
      by_cases same : target = name
      · subst same
        simp [held]
      · simp [same]
  | _ => simp [after, Stmt.assigns]

theorem assignedTy_of_ok {s : Stmt Unit} {typed : Stmt Ty} (name : String)
    (checked : (s.annotate ctx).result = .ok typed) :
    assignedTy name (s, .ok typed) = typed.assigns name := by
  cases s with
  | assign target value u =>
    rcases Stmt.assign_eq_ok_iff.mp checked with ⟨v, -, -, rfl⟩
    rfl
  | define head body u =>
    rcases Stmt.define_eq_ok_iff.mp checked with ⟨-, typedBody, -, rfl⟩
    rfl
  | expr value u =>
    rcases Stmt.expr_eq_ok_iff.mp checked with ⟨v, -, rfl⟩
    rfl
  | ret value u =>
    rcases Stmt.ret_eq_ok_iff.mp checked with ⟨v, -, -, rfl⟩
    rfl
  | pass u =>
    rw [Stmt.outcome_pass] at checked
    cases checked
    rfl

theorem assignedTy_error (name : String) (s : Stmt Unit) (v : Violation) :
    assignedTy name (s, .error v) = none := by
  cases s <;> rfl

theorem get?_annotate (s : Stmt Unit) (name : String) :
    (s.annotate ctx).context.scope.get? name =
      (ctx.scope.get? name).or (assignedTy name (s, (s.annotate ctx).result)) := by
  cases checked : (s.annotate ctx).result with
  | error v => rw [Stmt.context_of_error checked, assignedTy_error, Option.or_none]
  | ok typed => rw [Stmt.context_of_ok checked, get?_after, assignedTy_of_ok name checked]

theorem annotate_context_eq (s : Stmt Unit) :
    (s.annotate ctx).context = { ctx with scope := (s.annotate ctx).context.scope } := by
  rw [Stmt.context_annotate]
  split
  · exact after_eq ctx _
  · rfl

theorem feed_eq (stmts : List (Stmt Unit)) :
    ctx.feed stmts = { ctx with scope := (ctx.feed stmts).scope } := by
  induction stmts generalizing ctx with
  | nil => rfl
  | cons s rest ih =>
    rw [feed_cons, ih, annotate_context_eq]

theorem get?_feed (stmts : List (Stmt Unit)) (name : String) :
    (ctx.feed stmts).scope.get? name =
      (ctx.scope.get? name).or ((ctx.answers stmts).findSome? (assignedTy name)) := by
  induction stmts generalizing ctx with
  | nil => simp [feed, answers]
  | cons s rest ih =>
    rw [feed_cons, ih, get?_annotate, answers, List.findSome?_cons, Option.or_assoc]
    congr 1
    cases assignedTy name (s, (s.annotate ctx).result) <;> rfl

theorem context_define (head : Header) (body : List (Stmt Unit)) (u : Unit) :
    ((Stmt.define head body u).annotate ctx).context = ctx := by
  cases checked : ((Stmt.define head body u).annotate ctx).result with
  | error v => exact Stmt.context_of_error checked
  | ok typed =>
    obtain ⟨-, typedBody, -, rfl⟩ := Stmt.define_eq_ok_iff.mp checked
    exact Stmt.context_of_ok checked

/-- A session changes nothing but the scope. At its end a name has the type it had at the start, or
else the type of the first successful assignment to it. A statement that fails leaves the context
as it was, so does a definition, and a bound name keeps its type. -/
theorem feed_first_assignment (ctx : Context) (stmts : List (Stmt Unit)) :
    ctx.feed stmts = { ctx with scope := (ctx.feed stmts).scope } ∧
    (∀ name, (ctx.feed stmts).scope.get? name =
      (ctx.scope.get? name).or ((ctx.answers stmts).findSome? (assignedTy name))) ∧
    (∀ (s : Stmt Unit) (v : Violation), (s.annotate ctx).result = .error v →
      (s.annotate ctx).context = ctx) ∧
    (∀ head body u, ((Stmt.define head body u).annotate ctx).context = ctx) ∧
    (∀ name ty, ctx.scope.get? name = some ty → (ctx.feed stmts).scope.get? name = some ty) := by
  refine ⟨feed_eq stmts, get?_feed stmts, ?_, context_define, ?_⟩
  · intro s v failed
    exact Stmt.context_of_error failed
  · intro name ty bound
    rw [get?_feed, bound, Option.some_or]

def sampleContext : Context := (Context.top ∅ ∅ .permissive).bind "x" .bool

def sampleDefinition : Stmt Unit :=
  .define ⟨"f", [⟨"x", .int⟩], .int⟩ [.assign "y" (.var "x" ()) (), .ret (.lit (.bool true) ()) ()] ()

def sampleSession : List (Stmt Unit) :=
  [sampleDefinition, .assign "y" (.var "z" ()) (), .assign "y" (.lit (.number 1) ()) (),
    .assign "y" (.lit (.bool true) ()) (), .assign "x" (.lit .none ()) ()]

theorem feed_first_assignment_sample :
    (sampleDefinition.annotate sampleContext).result = .error (.wrongReturn .int .bool) ∧
    (sampleDefinition.annotate sampleContext).context = sampleContext ∧
    sampleContext.scope.get? "x" = some .bool ∧
    (sampleContext.feed sampleSession).scope.get? "x" = some .bool ∧
    (sampleContext.feed sampleSession).scope.get? "y" = some .int := by
  have session := feed_first_assignment sampleContext sampleSession
  have failed : (sampleDefinition.annotate sampleContext).result =
      .error (.wrongReturn .int .bool) := by rfl
  have bound : sampleContext.scope.get? "x" = some .bool := by rfl
  refine ⟨failed, session.2.2.1 _ _ failed, bound, session.2.2.2.2 _ _ bound, ?_⟩
  rw [session.2.1]
  rfl

end Context

end ScriptCheck
