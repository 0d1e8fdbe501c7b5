import ScriptCheck.Proofs.Results

/-! Labels put on by a check can be taken off again. What is left is the tree that was checked, so
an accepted check changes nothing but labels, and its input can be read off its output. -/

namespace ScriptCheck

variable {α : Type}

mutual
def Expr.erase : Expr α → Expr Unit
  | .lit value _ => .lit value ()
  | .var name _ => .var name ()
  | .binary op left right _ => .binary op left.erase right.erase ()
  | .call name args _ => .call name (Expr.eraseAll args) ()

def Expr.eraseAll : List (Expr α) → List (Expr Unit)
  | [] => []
  | e :: rest => e.erase :: Expr.eraseAll rest
end

mutual
def Stmt.erase : Stmt α → Stmt Unit
  | .assign name value _ => .assign name value.erase ()
  | .define head body _ => .define head (Stmt.eraseAll body) ()
  | .expr value _ => .expr value.erase ()
  | .ret value _ => .ret value.erase ()
  | .pass _ => .pass ()

def Stmt.eraseAll : List (Stmt α) → List (Stmt Unit)
  | [] => []
  | s :: rest => s.erase :: Stmt.eraseAll rest
end

def Program.erase (program : Program α) : Program Unit :=
  Stmt.eraseAll program

theorem Stmt.header?_erase (s : Stmt α) : s.erase.header? = s.header? := by
  cases s <;> rfl

theorem Program.headers_erase (program : Program α) :
    (Program.erase program).headers = Program.headers program := by
  unfold Program.erase Program.headers
  induction program with
  | nil => rfl
  | cons s rest ih =>
    have first := s.header?_erase
    rw [Stmt.eraseAll, List.filterMap_cons, List.filterMap_cons, first, ih]

namespace Context

variable {ctx : Context}

mutual
theorem erase_of_ok : ∀ (e : Expr Unit) {typed : Expr Ty},
    (ctx.annotateExpr e).result = .ok typed → typed.erase = e
  | .lit value u, typed, checked => by
    rw [result_lit] at checked
    cases checked
    rfl
  | .var name u, typed, checked => by
    obtain ⟨ty, -, rfl⟩ := var_eq_ok_iff.mp checked
    rfl
  | .binary text left right u, typed, checked => by
    obtain ⟨op, l, r, -, first, second, -, rfl⟩ := binary_eq_ok_iff.mp checked
    rw [Expr.erase, erase_of_ok left first, erase_of_ok right second]
  | .call name args u, typed, checked => by
    obtain ⟨typedArgs, ty, rfl, passed⟩ := call_forall₂ checked
    rw [Expr.erase, eraseAll_of_ok args passed]

theorem eraseAll_of_ok : ∀ (args : List (Expr Unit)) {typed : List (Expr Ty)},
    List.Forall₂ (fun arg a => (ctx.annotateExpr arg).result = .ok a) args typed →
    Expr.eraseAll typed = args
  | [], typed, passed => by
    cases passed
    rfl
  | arg :: args, typed, passed => by
    cases passed with
    | cons first others =>
      rw [Expr.eraseAll, erase_of_ok arg first, eraseAll_of_ok args others]
end

end Context

mutual
theorem Stmt.erase_of_ok : ∀ (s : Stmt Unit) {ctx : Context} {typed : Stmt Ty},
    (s.annotate ctx).result = .ok typed → typed.erase = s
  | .assign name value u, ctx, typed, checked => by
    obtain ⟨v, first, -, rfl⟩ := Stmt.assign_eq_ok_iff.mp checked
    rw [Stmt.erase, Context.erase_of_ok value first]
  | .define head body u, ctx, typed, checked => by
    obtain ⟨-, typedBody, passed, rfl⟩ := Stmt.define_eq_ok_iff.mp checked
    rw [Stmt.erase, Stmt.eraseAll_of_ok body passed]
  | .expr value u, ctx, typed, checked => by
    obtain ⟨v, first, rfl⟩ := Stmt.expr_eq_ok_iff.mp checked
    rw [Stmt.erase, Context.erase_of_ok value first]
  | .ret value u, ctx, typed, checked => by
    obtain ⟨v, first, -, rfl⟩ := Stmt.ret_eq_ok_iff.mp checked
    rw [Stmt.erase, Context.erase_of_ok value first]
  | .pass u, ctx, typed, checked => by
    rw [Stmt.outcome_pass] at checked
    cases checked
    rfl

theorem Stmt.eraseAll_of_ok : ∀ (stmts : List (Stmt Unit)) {ctx : Context} {typed : List (Stmt Ty)},
    (Stmt.annotateAll stmts ctx).result = .ok typed → Stmt.eraseAll typed = stmts
  | [], ctx, typed, checked => by
    rw [Stmt.outcome_annotateAll_nil] at checked
    cases checked
    rfl
  | s :: rest, ctx, typed, checked => by
    obtain ⟨t, ts, first, others, rfl⟩ := Stmt.annotateAll_cons_eq_ok_iff.mp checked
    rw [Stmt.eraseAll, Stmt.erase_of_ok s first, Stmt.eraseAll_of_ok rest others]
end

theorem Program.erase_of_ok {strictness : Strictness} {program : Program Unit} {typed : Program Ty}
    (accepted : (program.annotate strictness).result = .ok typed) :
    Program.erase typed = program := by
  rw [Program.result_annotate, Except.bind_eq_ok_iff] at accepted
  obtain ⟨functions, -, passed⟩ := accepted
  exact Stmt.eraseAll_of_ok program passed

/-- A check, which may depend on a state, that does nothing to its input but put labels on it. The
labels can be taken off again, to put them on once more gives the same, and no other input gets the
same result, not even in another state. -/
def OnlyLabels {σ β γ : Type} (check : σ → β → Except Violation γ) (erase : γ → β) : Prop :=
  ∀ state input labelled, check state input = .ok labelled →
    erase labelled = input ∧ check state (erase labelled) = .ok labelled ∧
      ∀ other input', check other input' = .ok labelled → input' = input

theorem OnlyLabels.of_erase {σ β γ : Type} {check : σ → β → Except Violation γ} {erase : γ → β}
    (erases : ∀ state input labelled, check state input = .ok labelled → erase labelled = input) :
    OnlyLabels check erase := by
  intro state input labelled checked
  have same : erase labelled = input := erases state input labelled checked
  refine ⟨same, ?_, ?_⟩
  · rw [same, checked]
  · intro other input' checked'
    calc
      input' = erase labelled := (erases other input' labelled checked').symm
      _ = input := same

/-- Checking only labels: a whole program under either way to treat operands, and one expression or
one statement in any context. -/
theorem Program.annotate_only_labels :
    OnlyLabels (fun strictness program => (Program.annotate strictness program).result)
      Program.erase ∧
    OnlyLabels (fun (ctx : Context) e => (ctx.annotateExpr e).result) Expr.erase ∧
    OnlyLabels (fun (ctx : Context) s => (Stmt.annotate s ctx).result) Stmt.erase := by
  refine ⟨OnlyLabels.of_erase ?_, OnlyLabels.of_erase ?_, OnlyLabels.of_erase ?_⟩
  · intro strictness program typed accepted
    exact Program.erase_of_ok accepted
  · intro ctx e typed checked
    exact Context.erase_of_ok e checked
  · intro ctx s typed checked
    exact Stmt.erase_of_ok s checked

def Program.sampleCalls : Program Unit :=
  [.define ⟨"f", [⟨"x", .int⟩, ⟨"y", .bool⟩], .int⟩ [.ret (.var "x" ()) ()] (),
    .expr (.call "print" [.call "f" [.lit (.number 1) (), .lit (.bool true) ()] ()] ()) ()]

def Program.sampleCallsTyped : Program Ty :=
  [.define ⟨"f", [⟨"x", .int⟩, ⟨"y", .bool⟩], .int⟩ [.ret (.var "x" .int) .int] .none,
    .expr (.call "print" [.call "f" [.lit (.number 1) .int, .lit (.bool true) .bool] .int] .none)
      .none]

theorem Program.annotate_only_labels_sample :
    (Program.sampleCalls.annotate .strict).result = .ok Program.sampleCallsTyped ∧
    Program.erase Program.sampleCallsTyped = Program.sampleCalls ∧
    ((Program.erase Program.sampleCallsTyped).annotate .strict).result =
      .ok Program.sampleCallsTyped ∧
    ∀ program, (Program.annotate .permissive program).result = .ok Program.sampleCallsTyped →
      program = Program.sampleCalls := by
  have accepted : (Program.sampleCalls.annotate .strict).result = .ok Program.sampleCallsTyped := by
    rfl
  obtain ⟨erased, again, unique⟩ := Program.annotate_only_labels.1 _ _ _ accepted
  exact ⟨accepted, erased, again, unique .permissive⟩

end ScriptCheck
