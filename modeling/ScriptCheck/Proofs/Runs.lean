import ScriptCheck.Proofs.Erasure
import ScriptCheck.Proofs.Hoisting
import ScriptCheck.Proofs.Session

/-! Runs of statements that were all accepted. The context that a run leaves is read off its typed
statements with `Context.after`, one after the other, and a run can be cut at any of them. -/

namespace ScriptCheck

theorem Param.lookup_entries (params : List Param) (name : String) :
    (params.map fun p => (p.name, p.ty)).lookup name =
      (params.find? (·.name = name)).map Param.ty := by
  induction params with
  | nil => rfl
  | cons p rest ih =>
    by_cases same : p.name = name
    · simp [same]
    · have other : (name == p.name) = false := beq_eq_false_iff_ne.mpr fun e => same e.symm
      simp [List.lookup_cons, other, same, ih]

theorem Scope.get?_withParams (scope : Scope) (params : List Param) (name : String) :
    (scope.withParams params).get? name =
      ((params.reverse.find? (·.name = name)).map Param.ty).or (scope.get? name) := by
  rw [Scope.withParams, NameTable.get?_insertAll, ← List.map_reverse, Param.lookup_entries]

namespace Context

variable {ctx : Context}

theorem foldl_after_eq (typed : List (Stmt Ty)) :
    typed.foldl after ctx = { ctx with scope := (typed.foldl after ctx).scope } := by
  induction typed generalizing ctx with
  | nil => rfl
  | cons t rest ih =>
    rw [List.foldl_cons, ih, after_eq]

@[simp] theorem functions_foldl_after (typed : List (Stmt Ty)) :
    (typed.foldl after ctx).functions = ctx.functions := by
  rw [foldl_after_eq]

@[simp] theorem inFunction_foldl_after (typed : List (Stmt Ty)) :
    (typed.foldl after ctx).inFunction = ctx.inFunction := by
  rw [foldl_after_eq]

/-- At the end of a run a name has the type it had at the start, or else that of the first
assignment to it. -/
theorem get?_foldl_after (typed : List (Stmt Ty)) (name : String) :
    (typed.foldl after ctx).scope.get? name =
      (ctx.scope.get? name).or (typed.findSome? (Stmt.assigns name)) := by
  induction typed generalizing ctx with
  | nil => simp
  | cons t rest ih =>
    rw [List.foldl_cons, ih, get?_after, List.findSome?_cons, Option.or_assoc]
    congr 1
    cases t.assigns name <;> rfl

theorem get?_after_of_bound {name : String} {ty : Ty} (bound : ctx.scope.get? name = some ty)
    (t : Stmt Ty) : (ctx.after t).scope.get? name = some ty := by
  rw [get?_after, bound, Option.some_or]

theorem get?_foldl_after_of_bound {name : String} {ty : Ty}
    (bound : ctx.scope.get? name = some ty) (typed : List (Stmt Ty)) :
    (typed.foldl after ctx).scope.get? name = some ty := by
  rw [get?_foldl_after, bound, Option.some_or]

end Context

theorem Stmt.annotateAll_eq_ok_split {stmts : List (Stmt Unit)} {ctx : Context} {typed : Stmt Ty}
    {before later : List (Stmt Ty)}
    (checked : (Stmt.annotateAll stmts ctx).result = .ok (before ++ typed :: later)) :
    ∃ first s rest, stmts = first ++ s :: rest ∧
      (Stmt.annotateAll first ctx).result = .ok before ∧
      (s.annotate (before.foldl Context.after ctx)).result = .ok typed := by
  induction before generalizing stmts ctx with
  | nil =>
    cases stmts with
    | nil =>
      rw [Stmt.outcome_annotateAll_nil] at checked
      cases checked
    | cons s rest =>
      obtain ⟨t, ts, passed, -, same⟩ := Stmt.annotateAll_cons_eq_ok_iff.mp checked
      cases same
      exact ⟨[], s, rest, rfl, congrArg Outcome.result Stmt.outcome_annotateAll_nil, passed⟩
  | cons b before ih =>
    cases stmts with
    | nil =>
      rw [Stmt.outcome_annotateAll_nil] at checked
      cases checked
    | cons s rest =>
      obtain ⟨t, ts, passed, others, same⟩ := Stmt.annotateAll_cons_eq_ok_iff.mp checked
      cases same
      obtain ⟨first, s', rest', rfl, begun, reached⟩ := ih others
      refine ⟨s :: first, s', rest', rfl, ?_, reached⟩
      exact Stmt.annotateAll_cons_eq_ok_iff.mpr ⟨b, before, passed, begun, rfl⟩

namespace Stmt

variable {ctx : Context}

theorem outcome_annotateAll_append (first rest : List (Stmt Unit)) :
    (Stmt.annotateAll (first ++ rest) ctx).toOutcome = do
      let typed ← (Stmt.annotateAll first ctx).toOutcome
      let others ← (Stmt.annotateAll rest (typed.foldl Context.after ctx)).toOutcome
      return typed ++ others := by
  induction first generalizing ctx with
  | nil => simp
  | cons s first ih =>
    rw [List.cons_append, outcome_annotateAll_cons, outcome_annotateAll_cons]
    simp only [ih, bind_assoc, pure_bind, List.foldl_cons, List.cons_append]

theorem annotateAll_append_eq_ok_iff {first rest : List (Stmt Unit)} {typed : List (Stmt Ty)} :
    (Stmt.annotateAll (first ++ rest) ctx).result = .ok typed ↔
      ∃ ts us, (Stmt.annotateAll first ctx).result = .ok ts ∧
        (Stmt.annotateAll rest (ts.foldl Context.after ctx)).result = .ok us ∧
        typed = ts ++ us := by
  rw [outcome_annotateAll_append]
  simp only [Outcome.result_bind, Except.bind_eq_ok_iff, Outcome.result_pure, Except.ok.injEq,
    eq_comm (a := typed), exists_and_left]

theorem length_of_ok {stmts : List (Stmt Unit)} {typed : List (Stmt Ty)}
    (checked : (Stmt.annotateAll stmts ctx).result = .ok typed) : typed.length = stmts.length := by
  induction stmts generalizing ctx typed with
  | nil =>
    rw [outcome_annotateAll_nil] at checked
    cases checked
    rfl
  | cons s rest ih =>
    obtain ⟨t, ts, -, others, rfl⟩ := annotateAll_cons_eq_ok_iff.mp checked
    rw [List.length_cons, List.length_cons, ih others]

theorem annotateAll_append_eq_ok_append_iff {first rest : List (Stmt Unit)} {ts us : List (Stmt Ty)}
    (aligned : ts.length = first.length) :
    (Stmt.annotateAll (first ++ rest) ctx).result = .ok (ts ++ us) ↔
      (Stmt.annotateAll first ctx).result = .ok ts ∧
        (Stmt.annotateAll rest (ts.foldl Context.after ctx)).result = .ok us := by
  rw [annotateAll_append_eq_ok_iff]
  constructor
  · intro cut
    obtain ⟨ts', us', begun, others, same⟩ := cut
    have lengths : ts.length = ts'.length := aligned.trans (length_of_ok begun).symm
    obtain ⟨rfl, rfl⟩ := List.append_inj same lengths
    exact ⟨begun, others⟩
  · intro checked
    obtain ⟨begun, others⟩ := checked
    exact ⟨ts, us, begun, others, rfl⟩

theorem context_annotateAll_of_ok {stmts : List (Stmt Unit)} {typed : List (Stmt Ty)}
    (checked : (Stmt.annotateAll stmts ctx).result = .ok typed) :
    (Stmt.annotateAll stmts ctx).context = typed.foldl Context.after ctx := by
  induction stmts generalizing ctx typed with
  | nil =>
    rw [outcome_annotateAll_nil] at checked
    cases checked
    rw [Stmt.annotateAll, Check.context_pure, List.foldl_nil]
  | cons s rest ih =>
    obtain ⟨t, ts, passed, others, rfl⟩ := annotateAll_cons_eq_ok_iff.mp checked
    rw [Stmt.annotateAll, Check.context_bind, passed, context_of_ok passed]
    simp only [Check.context_bind, others, Check.context_pure, ih others, List.foldl_cons]

theorem passed_of_mem {stmts : List (Stmt Unit)} {typed : List (Stmt Ty)}
    (checked : (Stmt.annotateAll stmts ctx).result = .ok typed) {t : Stmt Ty} (member : t ∈ typed) :
    ∃ before later s, typed = before ++ t :: later ∧
      (Stmt.annotate s (before.foldl Context.after ctx)).result = .ok t := by
  obtain ⟨before, later, rfl⟩ := List.append_of_mem member
  obtain ⟨_, s, _, -, -, passed⟩ := Stmt.annotateAll_eq_ok_split checked
  exact ⟨before, later, s, rfl, passed⟩

theorem header?_of_inFunction {s : Stmt Unit} {typed : Stmt Ty} (inside : ctx.inFunction = true)
    (checked : (s.annotate ctx).result = .ok typed) : typed.header? = none := by
  have bare : typed.erase = s := Stmt.erase_of_ok s checked
  rw [← Stmt.header?_erase, bare]
  cases s with
  | define head body u =>
    obtain ⟨outside, -⟩ := Stmt.define_eq_ok_iff.mp checked
    rw [inside] at outside
    cases outside
  | _ => rfl

theorem header?_of_body {body : List (Stmt Unit)} {typed : List (Stmt Ty)}
    (inside : ctx.inFunction = true) (checked : (Stmt.annotateAll body ctx).result = .ok typed) :
    ∀ s ∈ typed, s.header? = none := by
  intro s member
  obtain ⟨before, -, _, -, passed⟩ := passed_of_mem checked member
  apply header?_of_inFunction _ passed
  rw [Context.inFunction_foldl_after, inside]

theorem body_of_ok {s : Stmt Unit} {head : Header} {body : List (Stmt Ty)} {label : Ty}
    (checked : (s.annotate ctx).result = .ok (.define head body label)) :
    (Stmt.annotateAll (Stmt.eraseAll body) (ctx.inBody head)).result = .ok body := by
  obtain rfl : Stmt.define head (Stmt.eraseAll body) () = s := Stmt.erase_of_ok s checked
  obtain ⟨-, typedBody, passed, same⟩ := Stmt.define_eq_ok_iff.mp checked
  cases same
  exact passed

end Stmt

namespace Program

variable {strictness : Strictness} {functions : Functions} {first rest : Program Unit}

theorem headers_append {α : Type} (first rest : Program α) :
    (first ++ rest).headers = first.headers ++ rest.headers :=
  List.filterMap_append

theorem result_annotate_append (collected : (first ++ rest).functions.result = .ok functions) :
    ((first ++ rest).annotate strictness).result = do
      let typed ← (Stmt.annotateAll first (.top functions ∅ strictness)).result
      let others ← (Stmt.annotateAll rest
        (typed.foldl Context.after (.top functions ∅ strictness))).result
      return typed ++ others := by
  rw [result_annotate, collected, Except.ok_bind, Stmt.outcome_annotateAll_append]
  simp only [Outcome.result_bind]
  rfl

theorem annotate_append_eq_ok_append_iff {ts us : Program Ty} (aligned : ts.length = first.length) :
    ((first ++ rest).annotate strictness).result = .ok (ts ++ us) ↔
      ∃ functions, (first ++ rest).functions.result = .ok functions ∧
        (Stmt.annotateAll first (.top functions ∅ strictness)).result = .ok ts ∧
        (Stmt.annotateAll rest
          (ts.foldl Context.after (.top functions ∅ strictness))).result = .ok us := by
  rw [result_annotate, Except.bind_eq_ok_iff]
  simp only [Stmt.annotateAll_append_eq_ok_append_iff aligned]

end Program

end ScriptCheck
