import ScriptCheck.Proofs.Session

/-! Checking a program one call at a time. A caller who collects the functions, and then checks each
statement by a call of its own with the scope that the last call left, gets the result that the check
of the whole program has. -/

namespace ScriptCheck

namespace Stmt

def standalone (functions : Functions) (returnTy : Ty) (scope : Scope) : Context :=
  { Context.top functions scope .permissive with returnTy := returnTy }

/-- Single checks one after the other, each with the scope that the one before it left, up to the
first that fails; and the scope that the last of them left. -/
def annotateEach (functions : Functions) (returnTy : Ty) :
    List (Stmt Unit) → Scope → Except Violation (List (Stmt Ty)) × Scope
  | [], scope => (.ok [], scope)
  | s :: rest, scope =>
    let call := s.annotateIn functions returnTy scope
    match call.1.result with
    | .error v => (.error v, call.2)
    | .ok typed =>
      let others := annotateEach functions returnTy rest call.2
      (others.1 >>= fun others => .ok (typed :: others), others.2)

variable {functions : Functions} {returnTy : Ty} {scope : Scope}

theorem annotateIn_eq (s : Stmt Unit) :
    s.annotateIn functions returnTy scope =
      ((s.annotate (standalone functions returnTy scope)).toOutcome,
        (s.annotate (standalone functions returnTy scope)).context.scope) := rfl

theorem context_standalone (s : Stmt Unit) :
    (s.annotate (standalone functions returnTy scope)).context =
      standalone functions returnTy (s.annotateIn functions returnTy scope).2 := by
  rw [Context.annotate_context_eq, annotateIn_eq]
  rfl

theorem scope_of_error {s : Stmt Unit} {v : Violation}
    (failed : (s.annotateIn functions returnTy scope).1.result = .error v) :
    (s.annotateIn functions returnTy scope).2 = scope := by
  rw [annotateIn_eq] at failed ⊢
  exact congrArg Context.scope (context_of_error failed)

theorem annotateEach_eq (stmts : List (Stmt Unit)) :
    annotateEach functions returnTy stmts scope =
      ((annotateAll stmts (standalone functions returnTy scope)).result,
        (annotateAll stmts (standalone functions returnTy scope)).context.scope) := by
  induction stmts generalizing scope with
  | nil =>
    rw [annotateAll]
    rfl
  | cons s rest ih =>
    have call : (s.annotateIn functions returnTy scope).1.result =
        (s.annotate (standalone functions returnTy scope)).result := rfl
    rw [annotateEach, call, annotateAll, Check.context_bind, Check.toOutcome_bind]
    cases checked : (s.annotate (standalone functions returnTy scope)).result with
    | error v => rw [Outcome.bind_of_error checked]; rfl
    | ok typed =>
      simp only [ih, context_standalone, Outcome.result_bind, checked, Except.ok_bind,
        Check.toOutcome_bind, Check.context_bind]
      cases annotateAll rest (standalone functions returnTy _) with
      | mk outcome context => cases outcome.result <;> rfl

end Stmt

namespace Program

/-- The check of a program has the result of collecting its functions and then checking its
statements by single calls, from the empty scope on. A call that fails gives its scope back as it
was. -/
theorem annotate_eq_single_checks (program : Program Unit) :
    ((program.annotate .permissive).result = do
      let functions ← program.functions.result
      (Stmt.annotateEach functions .none program ∅).1) ∧
    ∀ (functions : Functions) (returnTy : Ty) (s : Stmt Unit) (scope : Scope) (v : Violation),
      (s.annotateIn functions returnTy scope).1.result = .error v →
      (s.annotateIn functions returnTy scope).2 = scope := by
  constructor
  · rw [result_annotate]
    simp only [Stmt.annotateEach_eq]
    rfl
  · intro functions returnTy s scope v failed
    exact Stmt.scope_of_error failed

def sampleHalfway : Stmt Unit :=
  .define ⟨"f", [⟨"a", .bool⟩], .int⟩ [.assign "y" (.var "x" ()) (), .ret (.var "a" ()) ()] ()

def sampleGlobals : Scope := (∅ : Scope).insert "x" .int

theorem annotate_eq_single_checks_sample :
    (sampleHalfway.annotateIn ∅ .none sampleGlobals).1.result = .error (.wrongReturn .int .bool) ∧
    (sampleHalfway.annotateIn ∅ .none sampleGlobals).2 = sampleGlobals ∧
    (Program.annotate .permissive
      [.assign "x" (.lit (.number 1) ()) (), sampleHalfway, .pass ()]).result =
        .error (.wrongReturn .int .bool) := by
  have failed : (sampleHalfway.annotateIn ∅ .none sampleGlobals).1.result =
      .error (.wrongReturn .int .bool) := by rfl
  refine ⟨failed, (annotate_eq_single_checks []).2 _ _ _ _ _ failed, ?_⟩
  rw [(annotate_eq_single_checks _).1]
  rfl

end Program

end ScriptCheck
