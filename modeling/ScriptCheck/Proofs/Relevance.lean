import ScriptCheck.Proofs.Occurrences
import ScriptCheck.Proofs.Runs

/-! What a check can depend on. Two contexts that say the same about every name a tree takes from
outside give it the same outcome, log included, whatever else they hold. -/

namespace ScriptCheck

namespace Context

/-- Two contexts that check operands alike, and say the same about some variables and about some
functions. Nothing is asked about the built-in function. -/
structure AgreeOn (left right : Context) (names callees : List String) : Prop where
  strictness : left.strictness = right.strictness
  scope : ∀ name ∈ names, left.scope.get? name = right.scope.get? name
  functions : ∀ name ∈ callees, name ≠ printName →
    left.functions.get? name = right.functions.get? name

def Gains (ctx : Context) (binding : Option (String × Ty)) (next : Context) : Prop :=
  match binding with
  | some (name, ty) => ctx.scope.get? name = none ∧ next = ctx.bind name ty
  | none => next = ctx

end Context

/-- A statement does the same in both contexts: it has the same outcome, and adds the same binding
if it adds one. -/
def Stmt.AlikeIn (s : Stmt Unit) (left right : Context) : Prop :=
  (s.annotate left).toOutcome = (s.annotate right).toOutcome ∧
  ∃ binding, left.Gains binding (s.annotate left).context ∧
    right.Gains binding (s.annotate right).context

namespace Context

variable {left right : Context}

namespace AgreeOn

variable {names callees moreNames moreCallees : List String}

theorem mono (agree : left.AgreeOn right moreNames moreCallees) (someNames : names ⊆ moreNames)
    (someCallees : callees ⊆ moreCallees) : left.AgreeOn right names callees where
  strictness := agree.strictness
  scope name member := agree.scope name (someNames member)
  functions name member := agree.functions name (someCallees member)

theorem first (agree : left.AgreeOn right (names ++ moreNames) (callees ++ moreCallees)) :
    left.AgreeOn right names callees :=
  agree.mono (List.subset_append_left _ _) (List.subset_append_left _ _)

theorem rest (agree : left.AgreeOn right (names ++ moreNames) (callees ++ moreCallees)) :
    left.AgreeOn right moreNames moreCallees :=
  agree.mono (List.subset_append_right _ _) (List.subset_append_right _ _)

theorem after (agree : left.AgreeOn right names callees) (t : Stmt Ty) :
    (left.after t).AgreeOn (right.after t) names callees where
  strictness := by rw [strictness_after, strictness_after, agree.strictness]
  scope name member := by rw [get?_after, get?_after, agree.scope name member]
  functions := by
    rw [functions_after, functions_after]
    exact agree.functions

theorem inBody {head : Header}
    (agree : left.AgreeOn right (names.filter (· ∉ head.params.map Param.name)) callees) :
    (left.inBody head).AgreeOn (right.inBody head) names callees where
  strictness := agree.strictness
  functions := agree.functions
  scope name member := by
    simp only [Context.inBody]
    rw [Scope.get?_withParams, Scope.get?_withParams]
    cases found : head.params.reverse.find? (·.name = name) with
    | some param => rfl
    | none =>
      -- the name comes from outside, so it is among those the contexts agree on
      have outside : name ∉ head.params.map Param.name := by
        simpa using found
      have same : left.scope.get? name = right.scope.get? name := by
        apply agree.scope
        exact List.mem_filter.mpr ⟨member, decide_eq_true outside⟩
      rw [same]

end AgreeOn

theorem requireOperands_congr (same : left.strictness = right.strictness) :
    left.requireOperands = right.requireOperands := by
  funext op l r
  unfold requireOperands
  rw [same]

theorem signatureOf_congr {name : String}
    (same : left.functions.get? name = right.functions.get? name) :
    left.signatureOf name = right.signatureOf name := by
  unfold signatureOf
  rw [same]

mutual
theorem annotateExpr_congr : ∀ e : Expr Unit,
    left.AgreeOn right (Expr.namesIn e.nodes) (Expr.calleesIn e.nodes) →
    left.annotateExpr e = right.annotateExpr e
  | .lit value u, _ => by
    rw [annotateExpr, annotateExpr]
  | .var name u, agree => by
    have same : left.scope.get? name = right.scope.get? name := agree.scope name (.head _)
    rw [annotateExpr, annotateExpr, same]
  | .binary text l r u, agree => by
    have names : Expr.namesIn (Expr.binary text l r u).nodes =
        Expr.namesIn l.nodes ++ Expr.namesIn r.nodes := Expr.namesIn_append _ _
    have callees : Expr.calleesIn (Expr.binary text l r u).nodes =
        Expr.calleesIn l.nodes ++ Expr.calleesIn r.nodes := Expr.calleesIn_append _ _
    rw [names, callees] at agree
    have first : left.annotateExpr l = right.annotateExpr l := annotateExpr_congr l agree.first
    have second : left.annotateExpr r = right.annotateExpr r := annotateExpr_congr r agree.rest
    rw [annotateExpr, annotateExpr, first, second, requireOperands_congr agree.strictness]
  | .call name args u, agree => by
    have inArgs : left.AgreeOn right (Expr.namesIn (Expr.nodesAll args))
        (Expr.calleesIn (Expr.nodesAll args)) :=
      agree.mono (List.Subset.refl _) (List.subset_cons_self _ _)
    rw [annotateExpr, annotateExpr]
    by_cases builtin : name = printName
    · rw [if_pos builtin, if_pos builtin, annotateAll_congr args inArgs]
    · have same : left.signatureOf name = right.signatureOf name :=
        signatureOf_congr (agree.functions name (.head _) builtin)
      rw [if_neg builtin, if_neg builtin, same]
      simp only [annotateArgs_congr args _ _ _ inArgs]

theorem annotateAll_congr : ∀ args : List (Expr Unit),
    left.AgreeOn right (Expr.namesIn (Expr.nodesAll args)) (Expr.calleesIn (Expr.nodesAll args)) →
    left.annotateAll args = right.annotateAll args
  | [], _ => rfl
  | arg :: args, agree => by
    rw [Expr.nodesAll, Expr.namesIn_append, Expr.calleesIn_append] at agree
    have first : left.annotateExpr arg = right.annotateExpr arg :=
      annotateExpr_congr arg agree.first
    have others : left.annotateAll args = right.annotateAll args :=
      annotateAll_congr args agree.rest
    rw [annotateAll, annotateAll, first, others]

theorem annotateArgs_congr : ∀ (args : List (Expr Unit)) (name : String) (position : Nat)
    (params : List Ty),
    left.AgreeOn right (Expr.namesIn (Expr.nodesAll args)) (Expr.calleesIn (Expr.nodesAll args)) →
    left.annotateArgs name position args params = right.annotateArgs name position args params
  | [], name, position, params, _ => rfl
  | arg :: args, name, position, [], _ => rfl
  | arg :: args, name, position, expected :: params, agree => by
    rw [Expr.nodesAll, Expr.namesIn_append, Expr.calleesIn_append] at agree
    have first : left.annotateExpr arg = right.annotateExpr arg :=
      annotateExpr_congr arg agree.first
    have others := annotateArgs_congr args name (position + 1) params agree.rest
    rw [annotateArgs, annotateArgs, first, others]
end

theorem assign_congr {name : String} {ty : Ty}
    (same : left.scope.get? name = right.scope.get? name) :
    (Check.assign name ty left).toOutcome = (Check.assign name ty right).toOutcome := by
  unfold Check.assign
  rw [same]
  cases right.scope.get? name <;> rfl

end Context

namespace Stmt

mutual
theorem annotate_congr : ∀ (s : Stmt Unit) {left right : Context},
    left.AgreeOn right s.freeNames s.callees → left.returnTy = right.returnTy →
    left.inFunction = right.inFunction →
    (s.annotate left).toOutcome = (s.annotate right).toOutcome
  | .assign name value u, left, right, agree, _, _ => by
    rw [Stmt.callees_eq_of_plain rfl] at agree
    have inValue : left.AgreeOn right (Expr.namesIn value.nodes) (Expr.calleesIn value.nodes) :=
      agree.mono (List.subset_cons_self _ _) (List.Subset.refl _)
    have same : left.scope.get? name = right.scope.get? name := agree.scope name (.head _)
    rw [outcome_assign, outcome_assign, Context.annotateExpr_congr value inValue]
    simp only [Context.assign_congr same]
  | .define head body u, left, right, agree, _, inside => by
    rw [Stmt.callees_define] at agree
    have inner : (left.inBody head).AgreeOn (right.inBody head) (Stmt.freeNamesAll body)
        (Stmt.calleesAll body) := Context.AgreeOn.inBody agree
    rw [outcome_define, outcome_define, inside, annotateAll_congr body inner rfl rfl]
  | .expr value u, left, right, agree, _, _ => by
    rw [Stmt.callees_eq_of_plain rfl] at agree
    rw [outcome_expr, outcome_expr, Context.annotateExpr_congr value agree]
  | .ret value u, left, right, agree, returns, _ => by
    rw [Stmt.callees_eq_of_plain rfl] at agree
    rw [outcome_ret, outcome_ret, returns, Context.annotateExpr_congr value agree]
  | .pass u, left, right, _, _, _ => by
    rw [outcome_pass, outcome_pass]

theorem annotateAll_congr : ∀ (stmts : List (Stmt Unit)) {left right : Context},
    left.AgreeOn right (Stmt.freeNamesAll stmts) (Stmt.calleesAll stmts) →
    left.returnTy = right.returnTy → left.inFunction = right.inFunction →
    (Stmt.annotateAll stmts left).toOutcome = (Stmt.annotateAll stmts right).toOutcome
  | [], left, right, _, _, _ => by
    rw [outcome_annotateAll_nil, outcome_annotateAll_nil]
  | s :: rest, left, right, agree, returns, inside => by
    rw [Stmt.freeNamesAll, Stmt.calleesAll_cons] at agree
    have first : (s.annotate left).toOutcome = (s.annotate right).toOutcome :=
      annotate_congr s agree.first returns inside
    rw [outcome_annotateAll_cons, outcome_annotateAll_cons, first]
    apply Outcome.bind_congr
    -- the first statement has one typed form in both contexts, so both grow by the same binding
    intro typed _
    have others : (Stmt.annotateAll rest (left.after typed)).toOutcome =
        (Stmt.annotateAll rest (right.after typed)).toOutcome := by
      apply annotateAll_congr rest (agree.rest.after typed)
      · rw [Context.returnTy_after, Context.returnTy_after, returns]
      · rw [Context.inFunction_after, Context.inFunction_after, inside]
    rw [others]
end

end Stmt

namespace Context

def newBinding (ctx : Context) : Stmt Ty → Option (String × Ty)
  | .assign name value _ => if ctx.scope.get? name = none then some (name, value.ty) else none
  | _ => none

theorem gains_after (ctx : Context) (t : Stmt Ty) : ctx.Gains (ctx.newBinding t) (ctx.after t) := by
  cases t with
  | assign name value label =>
    cases held : ctx.scope.get? name with
    | none =>
      rw [newBinding, if_pos held, after_assign_of_unbound held]
      exact ⟨held, rfl⟩
    | some ty =>
      have taken : ¬ ctx.scope.get? name = none := by
        rw [held]
        simp
      rw [newBinding, if_neg taken, after_assign_of_bound held]
      rfl
  | _ => rfl

theorem newBinding_congr {left right : Context} {s : Stmt Unit} {typed : Stmt Ty}
    {callees : List String} (agree : left.AgreeOn right s.freeNames callees)
    (checked : (s.annotate left).result = .ok typed) :
    left.newBinding typed = right.newBinding typed := by
  obtain rfl : typed.erase = s := Stmt.erase_of_ok s checked
  cases typed with
  | assign name value label =>
    have same : left.scope.get? name = right.scope.get? name := agree.scope name (.head _)
    rw [newBinding, newBinding, same]
  | _ => rfl

theorem alike_of_agreeOn {left right : Context} {s : Stmt Unit}
    (agree : left.AgreeOn right s.freeNames s.callees) (returns : left.returnTy = right.returnTy)
    (inside : left.inFunction = right.inFunction) : s.AlikeIn left right := by
  have outcomes := Stmt.annotate_congr s agree returns inside
  have results : (s.annotate left).result = (s.annotate right).result :=
    congrArg Outcome.result outcomes
  refine ⟨outcomes, ?_⟩
  cases checked : (s.annotate left).result with
  | error v =>
    rw [checked] at results
    exact ⟨none, Stmt.context_of_error checked, Stmt.context_of_error results.symm⟩
  | ok typed =>
    rw [checked] at results
    rw [Stmt.context_of_ok checked, Stmt.context_of_ok results.symm]
    refine ⟨left.newBinding typed, gains_after left typed, ?_⟩
    rw [newBinding_congr agree checked]
    exact gains_after right typed

def withFunction (ctx : Context) (name : String) (sig : Signature) : Context :=
  { ctx with functions := ctx.functions.insert name sig }

theorem agreeOn_withPrint (ctx : Context) (sig : Signature) (names callees : List String) :
    (ctx.withFunction printName sig).AgreeOn ctx names callees where
  strictness := rfl
  scope _ _ := rfl
  functions _ _ apart := NameTable.get?_insert_of_ne apart

/-- An expression has one outcome in all contexts that agree on the names it reads and the functions
it calls. A statement does the same in all contexts that agree on the names it takes from its scope
and the functions it calls, and that expect the same of it as a part of a function. An entry for the
built-in function makes no difference at all. -/
theorem outcome_determined (left right : Context) :
    (∀ e : Expr Unit, left.AgreeOn right (Expr.namesIn e.nodes) (Expr.calleesIn e.nodes) →
      left.annotateExpr e = right.annotateExpr e) ∧
    (∀ s : Stmt Unit, left.AgreeOn right s.freeNames s.callees → left.returnTy = right.returnTy →
      left.inFunction = right.inFunction → s.AlikeIn left right) ∧
    ∀ sig, (∀ e, (left.withFunction printName sig).annotateExpr e = left.annotateExpr e) ∧
      ∀ s : Stmt Unit, s.AlikeIn (left.withFunction printName sig) left := by
  refine ⟨fun e agree => annotateExpr_congr e agree, fun s => alike_of_agreeOn, ?_⟩
  intro sig
  constructor
  · intro e
    exact annotateExpr_congr e (agreeOn_withPrint left sig _ _)
  · intro s
    exact alike_of_agreeOn (agreeOn_withPrint left sig _ _) rfl rfl

def sampleLeft : Context :=
  (Context.top (NameTable.insert ∅ printName ⟨[], .int⟩) ∅ .strict).bind "k" .int |>.bind "x" .bool

def sampleRight : Context := (Context.top ∅ ∅ .strict).bind "k" .int |>.bind "z" .none

def sampleFunction : Stmt Unit :=
  .define ⟨"f", [⟨"x", .int⟩], .int⟩
    [.expr (.call printName [.var "x" ()] ()) (),
      .ret (.binary "+" (.var "x" ()) (.var "k" ()) ()) ()] ()

theorem outcome_determined_sample :
    sampleLeft.scope.get? "x" ≠ sampleRight.scope.get? "x" ∧
    sampleLeft.AgreeOn sampleRight sampleFunction.freeNames sampleFunction.callees ∧
    sampleFunction.AlikeIn sampleLeft sampleRight ∧
    (∃ typed, (sampleFunction.annotate sampleRight).result = .ok typed) ∧
    sampleLeft.annotateExpr (.call printName [.var "k" ()] ()) =
      sampleRight.annotateExpr (.call printName [.var "k" ()] ()) := by
  have agree : sampleLeft.AgreeOn sampleRight sampleFunction.freeNames sampleFunction.callees :=
    ⟨rfl, by decide, by decide⟩
  obtain ⟨expressions, statements, -⟩ := outcome_determined sampleLeft sampleRight
  exact ⟨by decide, agree, statements _ agree rfl rfl, ⟨_, rfl⟩,
    expressions _ ⟨rfl, by decide, by decide⟩⟩

end Context

end ScriptCheck
