import Mathlib.Logic.Function.Basic
import ScriptCheck.Proofs.Hoisting

/-! The typing rules of the language, stated apart from the checker: which annotated tree a tree
elaborates to, given the types of its free names. The checker accepts a program with some annotated
program exactly if the rules derive that one. -/

namespace ScriptCheck

abbrev VarTypes := String → Option Ty

abbrev FunTypes := String → Option Signature

/-- The map with the parameters on top, the last of several with one name first. -/
def VarTypes.override (vars : VarTypes) (params : List Param) : VarTypes := fun name =>
  ((params.map fun p => (p.name, p.ty)).reverse.lookup name).or (vars name)

mutual
inductive Expr.Elab (funs : FunTypes) (mode : Strictness) (vars : VarTypes) :
    Expr Unit → Expr Ty → Prop where
  | number (value : Int64) (u : Unit) :
      Expr.Elab funs mode vars (.lit (.number value) u) (.lit (.number value) .int)
  | bool (value : Bool) (u : Unit) :
      Expr.Elab funs mode vars (.lit (.bool value) u) (.lit (.bool value) .bool)
  | none (u : Unit) : Expr.Elab funs mode vars (.lit .none u) (.lit .none .none)
  | var {name : String} {ty : Ty} (u : Unit) (bound : vars name = some ty) :
      Expr.Elab funs mode vars (.var name u) (.var name ty)
  | binary {left right : Expr Unit} {l r : Expr Ty} (op : Operator) (u : Unit)
      (first : Expr.Elab funs mode vars left l) (second : Expr.Elab funs mode vars right r)
      (operands : mode = .strict → l.ty = op.operandTy ∧ r.ty = op.operandTy) :
      Expr.Elab funs mode vars (.binary op.symbol left right u) (.binary op.symbol l r op.resultTy)
  | print {arg : Expr Unit} {a : Expr Ty} (u : Unit) (typed : Expr.Elab funs mode vars arg a) :
      Expr.Elab funs mode vars (.call printName [arg] u) (.call printName [a] .none)
  | call {name : String} {sig : Signature} {args : List (Expr Unit)} {typedArgs : List (Expr Ty)}
      (u : Unit) (apart : name ≠ printName) (known : funs name = some sig)
      (typed : Expr.ElabArgs funs mode vars args sig.params typedArgs) :
      Expr.Elab funs mode vars (.call name args u) (.call name typedArgs sig.ret)

inductive Expr.ElabArgs (funs : FunTypes) (mode : Strictness) (vars : VarTypes) :
    List (Expr Unit) → List Ty → List (Expr Ty) → Prop where
  | nil : Expr.ElabArgs funs mode vars [] [] []
  | cons {arg : Expr Unit} {a : Expr Ty} {args : List (Expr Unit)} {params : List Ty}
      {rest : List (Expr Ty)} (first : Expr.Elab funs mode vars arg a)
      (others : Expr.ElabArgs funs mode vars args params rest) :
      Expr.ElabArgs funs mode vars (arg :: args) (a.ty :: params) (a :: rest)
end

mutual
/-- A statement elaborates to an annotated one and leaves types for the statements after it.
`returnTy` is what a `return` has to give, and `inside` says whether this is a function body. -/
inductive Stmt.Elab (funs : FunTypes) (mode : Strictness) :
    (returnTy : Ty) → (inside : Bool) → VarTypes → Stmt Unit → Stmt Ty → VarTypes → Prop where
  | declare {returnTy : Ty} {inside : Bool} {vars : VarTypes} {name : String} {value : Expr Unit}
      {v : Expr Ty} (u : Unit) (typed : Expr.Elab funs mode vars value v)
      (unbound : vars name = none) :
      Stmt.Elab funs mode returnTy inside vars (.assign name value u) (.assign name v .none)
        (Function.update vars name (some v.ty))
  | reassign {returnTy : Ty} {inside : Bool} {vars : VarTypes} {name : String} {value : Expr Unit}
      {v : Expr Ty} (u : Unit) (typed : Expr.Elab funs mode vars value v)
      (bound : vars name = some v.ty) :
      Stmt.Elab funs mode returnTy inside vars (.assign name value u) (.assign name v .none) vars
  | define {returnTy : Ty} {vars left : VarTypes} {head : Header} {body : List (Stmt Unit)}
      {typedBody : List (Stmt Ty)} (u : Unit)
      (typed : Stmt.ElabAll funs mode head.ret true (vars.override head.params) body typedBody left) :
      Stmt.Elab funs mode returnTy false vars (.define head body u) (.define head typedBody .none)
        vars
  | expr {returnTy : Ty} {inside : Bool} {vars : VarTypes} {value : Expr Unit} {v : Expr Ty}
      (u : Unit) (typed : Expr.Elab funs mode vars value v) :
      Stmt.Elab funs mode returnTy inside vars (.expr value u) (.expr v .none) vars
  | ret {inside : Bool} {vars : VarTypes} {value : Expr Unit} {v : Expr Ty}
      (u : Unit) (typed : Expr.Elab funs mode vars value v) :
      Stmt.Elab funs mode v.ty inside vars (.ret value u) (.ret v v.ty) vars
  | pass {returnTy : Ty} {inside : Bool} {vars : VarTypes} (u : Unit) :
      Stmt.Elab funs mode returnTy inside vars (.pass u) (.pass .none) vars

inductive Stmt.ElabAll (funs : FunTypes) (mode : Strictness) :
    Ty → Bool → VarTypes → List (Stmt Unit) → List (Stmt Ty) → VarTypes → Prop where
  | nil {returnTy : Ty} {inside : Bool} {vars : VarTypes} :
      Stmt.ElabAll funs mode returnTy inside vars [] [] vars
  | cons {returnTy : Ty} {inside : Bool} {vars next left : VarTypes} {s : Stmt Unit} {t : Stmt Ty}
      {rest : List (Stmt Unit)} {typedRest : List (Stmt Ty)}
      (first : Stmt.Elab funs mode returnTy inside vars s t next)
      (others : Stmt.ElabAll funs mode returnTy inside next rest typedRest left) :
      Stmt.ElabAll funs mode returnTy inside vars (s :: rest) (t :: typedRest) left
end

abbrev Context.Elab (ctx : Context) : Expr Unit → Expr Ty → Prop :=
  Expr.Elab ctx.functions.get? ctx.strictness ctx.scope.get?

namespace Context

variable {ctx : Context}

mutual
theorem elab_of_ok : ∀ (e : Expr Unit) {typed : Expr Ty},
    (ctx.annotateExpr e).result = .ok typed → ctx.Elab e typed
  | .lit value u, typed, checked => by
    rw [result_lit] at checked
    cases checked
    cases value with
    | number value => exact .number value u
    | bool value => exact .bool value u
    | none => exact .none u
  | .var name u, typed, checked => by
    obtain ⟨ty, bound, rfl⟩ := var_eq_ok_iff.mp checked
    exact .var u bound
  | .binary text left right u, typed, checked => by
    obtain ⟨op, l, r, rfl, first, second, operands, rfl⟩ := binary_eq_ok_iff.mp checked
    exact .binary op u (elab_of_ok left first) (elab_of_ok right second) operands
  | .call name args u, typed, checked => by
    by_cases builtin : name = printName
    · subst builtin
      cases args with
      | nil =>
        obtain ⟨_, _, count, -⟩ := print_eq_ok_iff.mp checked
        cases count
      | cons arg rest =>
        obtain ⟨_, a, count, first, rfl⟩ := print_eq_ok_iff.mp checked
        cases count
        exact .print u (elab_of_ok arg first)
    · obtain ⟨sig, typedArgs, known, count, passed, rfl⟩ := (call_eq_ok_iff builtin).mp checked
      exact .call u builtin known (elabArgs_of_ok args count passed)

theorem elabArgs_of_ok {name : String} {position : Nat} : ∀ (args : List (Expr Unit))
    {params : List Ty} {typed : List (Expr Ty)}, args.length = params.length →
    (ctx.annotateArgs name position args params).result = .ok typed →
    Expr.ElabArgs ctx.functions.get? ctx.strictness ctx.scope.get? args params typed
  | [], [], typed, _, checked => by
    cases checked
    exact .nil
  | arg :: args, expected :: params, typed, count, checked => by
    obtain ⟨a, rest, first, rfl, others, rfl⟩ := annotateArgs_cons_eq_ok_iff.mp checked
    exact .cons (elab_of_ok arg first) (elabArgs_of_ok args (Nat.succ.inj count) others)
end

end Context

mutual
theorem Expr.Elab.checks {ctx : Context} : ∀ {e : Expr Unit} {typed : Expr Ty},
    ctx.Elab e typed → (ctx.annotateExpr e).result = .ok typed
  | _, _, .number value u => Context.result_lit (.number value) u
  | _, _, .bool value u => Context.result_lit (.bool value) u
  | _, _, .none u => Context.result_lit .none u
  | _, _, .var u bound => Context.var_eq_ok_iff.mpr ⟨_, bound, rfl⟩
  | _, _, .binary op u first second operands =>
    Context.binary_eq_ok_iff.mpr ⟨op, _, _, rfl, first.checks, second.checks, operands, rfl⟩
  | _, _, .print u typed => Context.print_eq_ok_iff.mpr ⟨_, _, rfl, typed.checks, rfl⟩
  | .call name _ _, _, .call u apart known typed => by
    obtain ⟨count, passed⟩ := typed.checks name 1
    exact (Context.call_eq_ok_iff apart).mpr ⟨_, _, known, count, passed, rfl⟩

theorem Expr.ElabArgs.checks {ctx : Context} : ∀ {args : List (Expr Unit)} {params : List Ty}
    {typed : List (Expr Ty)},
    Expr.ElabArgs ctx.functions.get? ctx.strictness ctx.scope.get? args params typed →
    ∀ (name : String) (position : Nat), args.length = params.length ∧
      (ctx.annotateArgs name position args params).result = .ok typed
  | _, _, _, .nil, name, position => ⟨rfl, rfl⟩
  | _, _, _, .cons first others, name, position => by
    obtain ⟨count, passed⟩ := others.checks name (position + 1)
    refine ⟨congrArg Nat.succ count, ?_⟩
    exact Context.annotateArgs_cons_eq_ok_iff.mpr ⟨_, _, first.checks, rfl, passed, rfl⟩
end

namespace Context

theorem get?_inBody (ctx : Context) (head : Header) :
    (ctx.inBody head).scope.get? = VarTypes.override ctx.scope.get? head.params := by
  funext name
  exact NameTable.get?_insertAll _ _ _

theorem get?_bind (ctx : Context) (name : String) (ty : Ty) :
    (ctx.bind name ty).scope.get? = Function.update ctx.scope.get? name (some ty) := by
  funext other
  rw [Function.update_apply]
  exact NameTable.get?_insert

structure Gives (ctx : Context) (funs : FunTypes) (mode : Strictness) (returnTy : Ty)
    (inside : Bool) (vars : VarTypes) : Prop where
  functions : ctx.functions.get? = funs
  strictness : ctx.strictness = mode
  returnTy : ctx.returnTy = returnTy
  inFunction : ctx.inFunction = inside
  scope : ctx.scope.get? = vars

namespace Gives

variable {ctx : Context} {funs : FunTypes} {mode : Strictness} {returnTy : Ty} {inside : Bool}
  {vars : VarTypes}

theorem after (gives : ctx.Gives funs mode returnTy inside vars) {typed : Stmt Ty}
    {left : VarTypes} (scope : (ctx.after typed).scope.get? = left) :
    (ctx.after typed).Gives funs mode returnTy inside left where
  functions := by rw [functions_after, gives.functions]
  strictness := by rw [strictness_after, gives.strictness]
  returnTy := by rw [returnTy_after, gives.returnTy]
  inFunction := by rw [inFunction_after, gives.inFunction]
  scope := scope

theorem inBody (gives : ctx.Gives funs mode returnTy inside vars) (head : Header) :
    (ctx.inBody head).Gives funs mode head.ret true (vars.override head.params) where
  functions := gives.functions
  strictness := gives.strictness
  returnTy := rfl
  inFunction := rfl
  scope := by rw [get?_inBody, gives.scope]

theorem checks (gives : ctx.Gives funs mode returnTy inside vars) {e : Expr Unit} {typed : Expr Ty}
    (derived : Expr.Elab funs mode vars e typed) : (ctx.annotateExpr e).result = .ok typed := by
  rw [← gives.functions, ← gives.strictness, ← gives.scope] at derived
  exact derived.checks

end Gives

end Context

mutual
theorem Stmt.elab_of_ok : ∀ (s : Stmt Unit) {ctx : Context} {typed : Stmt Ty},
    (s.annotate ctx).result = .ok typed →
    Stmt.Elab ctx.functions.get? ctx.strictness ctx.returnTy ctx.inFunction ctx.scope.get? s typed
      (ctx.after typed).scope.get?
  | .assign name value u, ctx, typed, checked => by
    obtain ⟨v, first, fits, rfl⟩ := Stmt.assign_eq_ok_iff.mp checked
    cases held : ctx.scope.get? name with
    | none =>
      rw [Context.after_assign_of_unbound held, Context.get?_bind]
      exact .declare u (Context.elab_of_ok value first) held
    | some ty =>
      rw [Context.after_assign_of_bound held]
      apply Stmt.Elab.reassign u (Context.elab_of_ok value first)
      rw [held, fits ty held]
  | .define head body u, ctx, typed, checked => by
    obtain ⟨outside, typedBody, passed, rfl⟩ := Stmt.define_eq_ok_iff.mp checked
    have inner := Stmt.elabAll_of_ok body passed
    rw [Context.get?_inBody] at inner
    rw [outside]
    exact .define u inner
  | .expr value u, ctx, typed, checked => by
    obtain ⟨v, first, rfl⟩ := Stmt.expr_eq_ok_iff.mp checked
    exact .expr u (Context.elab_of_ok value first)
  | .ret value u, ctx, typed, checked => by
    obtain ⟨v, first, fits, rfl⟩ := Stmt.ret_eq_ok_iff.mp checked
    rw [← fits]
    exact .ret u (Context.elab_of_ok value first)
  | .pass u, ctx, typed, checked => by
    rw [Stmt.outcome_pass] at checked
    cases checked
    exact .pass u

theorem Stmt.elabAll_of_ok : ∀ (stmts : List (Stmt Unit)) {ctx : Context} {typed : List (Stmt Ty)},
    (Stmt.annotateAll stmts ctx).result = .ok typed →
    Stmt.ElabAll ctx.functions.get? ctx.strictness ctx.returnTy ctx.inFunction ctx.scope.get? stmts
      typed (typed.foldl Context.after ctx).scope.get?
  | [], ctx, typed, checked => by
    rw [Stmt.outcome_annotateAll_nil] at checked
    cases checked
    exact .nil
  | s :: rest, ctx, typed, checked => by
    obtain ⟨t, ts, first, others, rfl⟩ := Stmt.annotateAll_cons_eq_ok_iff.mp checked
    have tail := Stmt.elabAll_of_ok rest others
    simp only [Context.functions_after, Context.strictness_after, Context.returnTy_after,
      Context.inFunction_after] at tail
    exact .cons (Stmt.elab_of_ok s first) tail
end

mutual
theorem Stmt.Elab.checks {funs : FunTypes} {mode : Strictness} : ∀ {s : Stmt Unit} {returnTy : Ty}
    {inside : Bool} {vars left : VarTypes} {typed : Stmt Ty},
    Stmt.Elab funs mode returnTy inside vars s typed left →
    ∀ {ctx : Context}, ctx.Gives funs mode returnTy inside vars →
      (s.annotate ctx).result = .ok typed ∧ (ctx.after typed).scope.get? = left
  | .assign name value u, returnTy, inside, vars, left, typed, derived, ctx, gives => by
    cases derived with
    | declare _ value unbound =>
      have free : ctx.scope.get? name = none := by rw [gives.scope, unbound]
      refine ⟨Stmt.assign_eq_ok_iff.mpr ⟨_, gives.checks value, ?_, rfl⟩, ?_⟩
      · intro held found
        rw [free] at found
        cases found
      · rw [Context.after_assign_of_unbound free, Context.get?_bind, gives.scope]
    | reassign _ value bound =>
      have taken := bound
      rw [← gives.scope] at taken
      refine ⟨Stmt.assign_eq_ok_iff.mpr ⟨_, gives.checks value, ?_, rfl⟩, ?_⟩
      · intro held found
        rw [taken] at found
        exact Option.some.inj found
      · rw [Context.after_assign_of_bound taken, gives.scope]
  | .define head body u, returnTy, inside, vars, left, typed, derived, ctx, gives => by
    cases derived with
    | define _ derivedBody =>
      have passed := derivedBody.checks (gives.inBody head)
      exact ⟨Stmt.define_eq_ok_iff.mpr ⟨gives.inFunction, _, passed, rfl⟩, gives.scope⟩
  | .expr value u, returnTy, inside, vars, left, typed, derived, ctx, gives => by
    cases derived with
    | expr _ value => exact ⟨Stmt.expr_eq_ok_iff.mpr ⟨_, gives.checks value, rfl⟩, gives.scope⟩
  | .ret value u, returnTy, inside, vars, left, typed, derived, ctx, gives => by
    cases derived with
    | ret _ value =>
      exact ⟨Stmt.ret_eq_ok_iff.mpr ⟨_, gives.checks value, gives.returnTy.symm, rfl⟩, gives.scope⟩
  | .pass u, returnTy, inside, vars, left, typed, derived, ctx, gives => by
    cases derived with
    | pass => exact ⟨congrArg Outcome.result (Stmt.outcome_pass u), gives.scope⟩

theorem Stmt.ElabAll.checks {funs : FunTypes} {mode : Strictness} : ∀ {stmts : List (Stmt Unit)}
    {returnTy : Ty} {inside : Bool} {vars left : VarTypes} {typed : List (Stmt Ty)},
    Stmt.ElabAll funs mode returnTy inside vars stmts typed left →
    ∀ {ctx : Context}, ctx.Gives funs mode returnTy inside vars →
      (Stmt.annotateAll stmts ctx).result = .ok typed
  | [], returnTy, inside, vars, left, typed, derived, ctx, gives => by
    cases derived with
    | nil => exact congrArg Outcome.result Stmt.outcome_annotateAll_nil
  | s :: rest, returnTy, inside, vars, left, typed, derived, ctx, gives => by
    cases derived with
    | cons first others =>
      -- the rules carry maps and not contexts, so the next context is found from what it gives
      obtain ⟨passed, scope⟩ := first.checks gives
      exact Stmt.annotateAll_cons_eq_ok_iff.mpr
        ⟨_, _, passed, others.checks (gives.after scope), rfl⟩
end

/-- The checker accepts a program, with some annotation, exactly if the signatures of its functions
can be collected and the rules derive that annotation from them and from no variables. Collecting
succeeds exactly with the table that the headers of the program declare. -/
theorem Program.annotate_eq_ok_iff_elab (strictness : Strictness) (program : Program Unit)
    (typed : Program Ty) :
    ((program.annotate strictness).result = .ok typed ↔
      ∃ functions left, program.functions.result = .ok functions ∧
        Stmt.ElabAll functions.get? strictness .none false (fun _ => none) program typed left) ∧
    ∀ functions, program.functions.result = .ok functions ↔ program.Declares functions.get? := by
  refine ⟨?_, fun _ => Program.functions_eq_ok_iff_declares⟩
  rw [Program.result_annotate, Except.bind_eq_ok_iff]
  constructor
  · intro checked
    obtain ⟨functions, collected, passed⟩ := checked
    exact ⟨functions, _, collected, Stmt.elabAll_of_ok program passed⟩
  · intro derived
    obtain ⟨functions, left, collected, derived⟩ := derived
    have gives : (Context.top functions ∅ strictness).Gives functions.get? strictness .none false
        (fun _ => none) := ⟨rfl, rfl, rfl, rfl, rfl⟩
    exact ⟨functions, collected, derived.checks gives⟩

end ScriptCheck
