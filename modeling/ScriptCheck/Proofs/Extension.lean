import ScriptCheck.Proofs.Relevance

/-! What statements put after a program can do to the check of the program itself. They add functions
to the table under which all of it is checked, so a check that stopped at an unknown function may now
go on. Every other check comes out as before. -/

namespace ScriptCheck

namespace Functions

def Grows (table larger : Functions) : Prop :=
  ∀ name sig, table.get? name = some sig → larger.get? name = some sig

def Gains (table larger : Functions) (name : String) : Prop :=
  table.get? name = none ∧ ∃ sig, larger.get? name = some sig

end Functions

/-- `again` is the same check under a larger table: it comes out as before, unless it had stopped at a
function that the table has gained. -/
def Outcome.Persists {α : Type} (gained : String → Prop) (check again : Outcome α) : Prop :=
  again = check ∨ ∃ name, gained name ∧ check.result = .error (.unknownFunction name)

namespace Outcome.Persists

variable {α β : Type} {gained : String → Prop}

theorem bind {first first' : Outcome α} {next next' : α → Outcome β}
    (head : Persists gained first first')
    (tail : ∀ a, first.result = .ok a → Persists gained (next a) (next' a)) :
    Persists gained (first >>= next) (first' >>= next') := by
  rcases head with same | ⟨name, new, stopped⟩
  · rw [same]
    cases done : first.result with
    | error v => exact .inl (by rw [bind_of_error done, bind_of_error done])
    | ok a =>
      rw [bind_of_ok done, bind_of_ok done]
      rcases tail a done with same | ⟨name, new, stopped⟩
      · exact .inl (by rw [same])
      · exact .inr ⟨name, new, stopped⟩
  · exact .inr ⟨name, new, by rw [bind_of_error stopped]⟩

theorem bind_same {first : Outcome α} {next next' : α → Outcome β}
    (tail : ∀ a, first.result = .ok a → Persists gained (next a) (next' a)) :
    Persists gained (first >>= next) (first >>= next') :=
  bind (.inl rfl) tail

theorem bind_last {first first' : Outcome α} (head : Persists gained first first')
    (next : α → Outcome β) : Persists gained (first >>= next) (first' >>= next) :=
  bind head fun _ _ => .inl rfl

end Outcome.Persists

namespace Context

def withFunctions (ctx : Context) (table : Functions) : Context :=
  { ctx with functions := table }

variable {ctx : Context} {larger : Functions}

theorem after_withFunctions (t : Stmt Ty) :
    (ctx.withFunctions larger).after t = (ctx.after t).withFunctions larger := by
  have same : (ctx.withFunctions larger).scope = ctx.scope := rfl
  rw [after_eq_of_scope_eq same, after_eq ctx t]
  rfl

theorem foldl_after_withFunctions (typed : List (Stmt Ty)) :
    typed.foldl after (ctx.withFunctions larger) = (typed.foldl after ctx).withFunctions larger := by
  induction typed generalizing ctx with
  | nil => rfl
  | cons t rest ih => rw [List.foldl_cons, List.foldl_cons, after_withFunctions, ih]

theorem signatureOf_persists (grows : ctx.functions.Grows larger) (name : String) :
    Outcome.Persists (ctx.functions.Gains larger) (ctx.signatureOf name)
      ((ctx.withFunctions larger).signatureOf name) := by
  cases known : ctx.functions.get? name with
  | some sig =>
    have still : larger.get? name = some sig := grows name sig known
    exact .inl (signatureOf_congr (still.trans known.symm))
  | none =>
    cases gained : larger.get? name with
    | none => exact .inl (signatureOf_congr (gained.trans known.symm))
    | some sig =>
      refine .inr ⟨name, ⟨known, sig, gained⟩, ?_⟩
      rw [signatureOf, known]
      rfl

mutual
theorem annotateExpr_persists (grows : ctx.functions.Grows larger) : ∀ e : Expr Unit,
    Outcome.Persists (ctx.functions.Gains larger) (ctx.annotateExpr e)
      ((ctx.withFunctions larger).annotateExpr e)
  | .lit value u => by
    rw [annotateExpr, annotateExpr]
    exact .inl rfl
  | .var name u => by
    rw [annotateExpr, annotateExpr]
    exact .inl rfl
  | .binary text left right u => by
    rw [annotateExpr, annotateExpr]
    apply Outcome.Persists.bind_same
    intro op _
    apply Outcome.Persists.bind (annotateExpr_persists grows left)
    intro l _
    exact Outcome.Persists.bind_last (annotateExpr_persists grows right) _
  | .call name args u => by
    rw [annotateExpr, annotateExpr]
    by_cases builtin : name = printName
    · rw [if_pos builtin, if_pos builtin]
      apply Outcome.Persists.bind_same
      intro _ _
      exact Outcome.Persists.bind_last (annotateAll_persists grows args) _
    · rw [if_neg builtin, if_neg builtin]
      apply Outcome.Persists.bind (signatureOf_persists grows name)
      intro sig _
      apply Outcome.Persists.bind_same
      intro _ _
      exact Outcome.Persists.bind_last (annotateArgs_persists grows args name 1 sig.params) _

theorem annotateAll_persists (grows : ctx.functions.Grows larger) : ∀ args : List (Expr Unit),
    Outcome.Persists (ctx.functions.Gains larger) (ctx.annotateAll args)
      ((ctx.withFunctions larger).annotateAll args)
  | [] => .inl rfl
  | arg :: args => by
    rw [annotateAll, annotateAll]
    apply Outcome.Persists.bind (annotateExpr_persists grows arg)
    intro _ _
    exact Outcome.Persists.bind_last (annotateAll_persists grows args) _

theorem annotateArgs_persists (grows : ctx.functions.Grows larger) :
    ∀ (args : List (Expr Unit)) (name : String) (position : Nat) (params : List Ty),
    Outcome.Persists (ctx.functions.Gains larger) (ctx.annotateArgs name position args params)
      ((ctx.withFunctions larger).annotateArgs name position args params)
  | [], name, position, params => .inl rfl
  | arg :: args, name, position, [] => .inl rfl
  | arg :: args, name, position, expected :: params => by
    rw [annotateArgs, annotateArgs]
    apply Outcome.Persists.bind (annotateExpr_persists grows arg)
    intro _ _
    apply Outcome.Persists.bind_same
    intro _ _
    exact Outcome.Persists.bind_last (annotateArgs_persists grows args name (position + 1) params) _
end

end Context

namespace Stmt

variable {larger : Functions}

mutual
theorem annotate_persists : ∀ (s : Stmt Unit) (ctx : Context), ctx.functions.Grows larger →
    Outcome.Persists (ctx.functions.Gains larger) (s.annotate ctx).toOutcome
      (s.annotate (ctx.withFunctions larger)).toOutcome
  | .assign name value u, ctx, grows => by
    rw [outcome_assign, outcome_assign]
    apply Outcome.Persists.bind (Context.annotateExpr_persists grows value)
    intro v _
    have same : (Check.assign name v.ty (ctx.withFunctions larger)).toOutcome =
        (Check.assign name v.ty ctx).toOutcome := Context.assign_congr rfl
    exact .inl (by rw [same])
  | .define head body u, ctx, grows => by
    rw [outcome_define, outcome_define]
    apply Outcome.Persists.bind_same
    intro _ _
    apply Outcome.Persists.bind_same
    intro _ _
    exact Outcome.Persists.bind_last (annotateAll_persists body (ctx.inBody head) grows) _
  | .expr value u, ctx, grows => by
    rw [outcome_expr, outcome_expr]
    exact Outcome.Persists.bind_last (Context.annotateExpr_persists grows value) _
  | .ret value u, ctx, grows => by
    rw [outcome_ret, outcome_ret]
    exact Outcome.Persists.bind_last (Context.annotateExpr_persists grows value) _
  | .pass u, ctx, grows => by
    rw [outcome_pass, outcome_pass]
    exact .inl rfl

theorem annotateAll_persists : ∀ (stmts : List (Stmt Unit)) (ctx : Context),
    ctx.functions.Grows larger →
    Outcome.Persists (ctx.functions.Gains larger) (Stmt.annotateAll stmts ctx).toOutcome
      (Stmt.annotateAll stmts (ctx.withFunctions larger)).toOutcome
  | [], ctx, grows => by
    rw [outcome_annotateAll_nil, outcome_annotateAll_nil]
    exact .inl rfl
  | s :: rest, ctx, grows => by
    rw [outcome_annotateAll_cons, outcome_annotateAll_cons]
    apply Outcome.Persists.bind (annotate_persists s ctx grows)
    -- both runs go on from the same typed statement, so their scopes stay the same
    intro typed _
    have others := annotateAll_persists rest (ctx.after typed)
    rw [Context.functions_after] at others
    rw [Context.after_withFunctions]
    exact Outcome.Persists.bind_last (others grows) _
end

end Stmt

namespace Program

variable {program more : Program Unit} {functions : Functions} {strictness : Strictness}

theorem functions_of_append (collected : (program ++ more).functions.result = .ok functions) :
    ∃ own, program.functions.result = .ok own ∧ own.Grows functions ∧
      ∀ name, own.Gains functions name → name ∈ more.headers.map Header.name := by
  have declares := functions_eq_ok_iff_declares.mp collected
  have distinct := declares.distinct
  have unreserved := declares.unreserved
  have signature_iff := declares.signature_iff
  rw [headers_append] at distinct unreserved signature_iff
  rw [List.map_append] at distinct unreserved
  have ownTable : program.functions.result = .ok _ := functions_eq_ok_iff.mpr
    ⟨(List.nodup_append.mp distinct).1, fun member => unreserved (List.mem_append_left _ member), rfl⟩
  have own_iff := (functions_eq_ok_iff_declares.mp ownTable).signature_iff
  refine ⟨_, ownTable, ?_, ?_⟩
  · intro name sig known
    obtain ⟨head, member, named⟩ := (own_iff name sig).mp known
    exact (signature_iff name sig).mpr ⟨head, List.mem_append_left _ member, named⟩
  · rintro name ⟨unknown, sig, known⟩
    obtain ⟨head, member, named, signed⟩ := (signature_iff name sig).mp known
    rcases List.mem_append.mp member with inProgram | inMore
    · have found := (own_iff name sig).mpr ⟨head, inProgram, named, signed⟩
      rw [unknown] at found
      cases found
    · exact List.mem_map.mpr ⟨head, inMore, named⟩

/-- Statements put after an accepted program leave its typed statements as they are, and are
themselves checked with the functions of the whole in the scope that the program ends with. After a
program that failed they change nothing, unless it failed at a function that they define. -/
theorem annotate_append_conservative (strictness : Strictness) (program more : Program Unit)
    (functions : Functions) (collected : (program ++ more).functions.result = .ok functions) :
    (∀ typed, (program.annotate strictness).result = .ok typed →
      ∃ own, program.functions.result = .ok own ∧
        ((program ++ more).annotate strictness).result =
          (typed ++ ·) <$> (Stmt.annotateAll more (.top functions
            (Stmt.annotateAll program (.top own ∅ strictness)).context.scope strictness)).result) ∧
    ∀ v, (program.annotate strictness).result = .error v →
      (∀ name, v = .unknownFunction name → name ∉ more.headers.map Header.name) →
      ((program ++ more).annotate strictness).result = .error v := by
  obtain ⟨own, ownTable, grows, gained⟩ := functions_of_append collected
  have persists := Stmt.annotateAll_persists program (.top own ∅ strictness) grows
  have start : (Context.top own ∅ strictness).withFunctions functions =
      .top functions ∅ strictness := rfl
  rw [start] at persists
  have alone : (program.annotate strictness).result =
      (Stmt.annotateAll program (.top own ∅ strictness)).result := by
    rw [result_annotate, ownTable, Except.ok_bind]
  rw [alone, result_annotate_append collected]
  constructor
  · intro typed checked
    refine ⟨own, ownTable, ?_⟩
    rcases persists with same | ⟨name, -, stopped⟩
    · have reached : typed.foldl Context.after (.top functions ∅ strictness) = .top functions
          (Stmt.annotateAll program (.top own ∅ strictness)).context.scope strictness := by
        rw [Stmt.context_annotateAll_of_ok checked, ← start, Context.foldl_after_withFunctions,
          Context.foldl_after_eq]
        rfl
      rw [same, checked, Except.ok_bind, reached, map_eq_pure_bind]
    · rw [checked] at stopped
      cases stopped
  · intro v failed known
    rcases persists with same | ⟨name, new, stopped⟩
    · rw [same, failed, Except.error_bind]
    · rw [failed] at stopped
      cases stopped
      exact absurd (gained name new) (known name rfl)

def sampleBase : Program Unit :=
  [.assign "x" (.lit (.number 1) ()) (), .define ⟨"f", [], .int⟩ [.ret (.var "x" ()) ()] ()]

def sampleBaseTyped : Program Ty :=
  [.assign "x" (.lit (.number 1) .int) .none,
    .define ⟨"f", [], .int⟩ [.ret (.var "x" .int) .int] .none]

def sampleAdded : Program Unit :=
  [.assign "y" (.call "g" [.call "f" [] ()] ()) (),
    .define ⟨"g", [⟨"n", .int⟩], .bool⟩
      [.ret (.binary ">" (.var "n" ()) (.var "x" ()) ()) ()] ()]

def sampleTable : Functions :=
  NameTable.insertAll ∅ [("f", ⟨[], .int⟩), ("g", ⟨[.int], .bool⟩)]

def sampleStuck : Program Unit :=
  sampleBase ++ [.expr (.call printName [.call "h" [] ()] ()) ()]

theorem annotate_append_conservative_sample :
    (sampleBase.annotate .strict).result = .ok sampleBaseTyped ∧
    (∃ own, sampleBase.functions.result = .ok own ∧
      ((sampleBase ++ sampleAdded).annotate .strict).result =
        (sampleBaseTyped ++ ·) <$> (Stmt.annotateAll sampleAdded (.top sampleTable
          (Stmt.annotateAll sampleBase (.top own ∅ .strict)).context.scope .strict)).result) ∧
    (sampleStuck.annotate .strict).result = .error (.unknownFunction "h") ∧
    ((sampleStuck ++ sampleAdded).annotate .strict).result = .error (.unknownFunction "h") := by
  have accepted : (sampleBase.annotate .strict).result = .ok sampleBaseTyped := by rfl
  have failed : (sampleStuck.annotate .strict).result = .error (.unknownFunction "h") := by rfl
  have missing : ∀ name, Violation.unknownFunction "h" = .unknownFunction name →
      name ∉ sampleAdded.headers.map Header.name := by
    intro name same
    cases same
    decide
  obtain ⟨goesOn, -⟩ :=
    annotate_append_conservative .strict sampleBase sampleAdded sampleTable (by rfl)
  obtain ⟨-, stays⟩ :=
    annotate_append_conservative .strict sampleStuck sampleAdded sampleTable (by rfl)
  exact ⟨accepted, goesOn _ accepted, failed, stays _ failed missing⟩

/-- What was stuck at a function that is then defined may fail in another way. -/
example :
    let stuck : Program Unit := [.expr (.call "g" [.lit (.bool true) ()] ()) ()]
    let added : Program Unit := [.define ⟨"g", [⟨"n", .int⟩], .int⟩ [] ()]
    (stuck.annotate .permissive).result = .error (.unknownFunction "g") ∧
    ((stuck ++ added).annotate .permissive).result = .error (.wrongArgument "g" 1 .int .bool) := by
  exact ⟨rfl, rfl⟩

end Program

end ScriptCheck
