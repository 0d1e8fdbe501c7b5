import ScriptCheck.Proofs.Consistency
import ScriptCheck.Proofs.Edits
import ScriptCheck.Proofs.Failures

/-! Names are assigned before they are read. The names that a run has in its scope can be told from
the statements alone: those at its start, and those that the statements so far assign to. -/

namespace ScriptCheck

variable {α : Type}

/-- The names that statements assign to. What stands in the body of a function does not count. -/
def Stmt.targets (stmts : List (Stmt α)) : List String :=
  stmts.filterMap Stmt.target?

def Stmt.reads (s : Stmt α) : List String :=
  Expr.namesIn (s.parts.flatMap Stmt.nodes)

structure Program.WellScoped (program : Program Unit) : Prop where
  top : ∀ before s later, program = before ++ s :: later →
    ∀ name ∈ Expr.namesIn s.nodes, name ∈ Stmt.targets before
  /-- In a function its parameters may be read, and what was assigned to before its definition. -/
  body : ∀ before head body u later, program = before ++ .define head body u :: later →
    ∀ first s rest, body = first ++ s :: rest → ∀ name ∈ s.reads,
      name ∈ head.params.map Param.name ∨ name ∈ Stmt.targets first ∨ name ∈ Stmt.targets before

theorem Stmt.reads_of_plain {s : Stmt α} (plain : s.header? = none) :
    s.reads = Expr.namesIn s.nodes := by
  rw [Stmt.reads, Stmt.parts_eq_singleton plain, List.flatMap_singleton]

theorem Stmt.mem_reads_of_mem {s : Stmt α} {name : String} (member : name ∈ Expr.namesIn s.nodes) :
    name ∈ s.reads := by
  cases plain : s.header? with
  | none =>
    rw [Stmt.reads_of_plain plain]
    exact member
  | some head =>
    cases s with
    | define head body a => cases member
    | _ => cases plain

mutual
theorem Expr.namesIn_erase : ∀ e : Expr α, Expr.namesIn e.erase.nodes = Expr.namesIn e.nodes
  | .lit _ _ | .var _ _ => rfl
  | .binary op left right a => by
    change Expr.namesIn (left.erase.nodes ++ right.erase.nodes) =
      Expr.namesIn (left.nodes ++ right.nodes)
    rw [Expr.namesIn_append, Expr.namesIn_append, Expr.namesIn_erase left, Expr.namesIn_erase right]
  | .call name args a => Expr.namesIn_eraseAll args

theorem Expr.namesIn_eraseAll : ∀ args : List (Expr α),
    Expr.namesIn (Expr.nodesAll (Expr.eraseAll args)) = Expr.namesIn (Expr.nodesAll args)
  | [] => rfl
  | e :: rest => by
    rw [Expr.eraseAll, Expr.nodesAll, Expr.nodesAll, Expr.namesIn_append, Expr.namesIn_append,
      Expr.namesIn_erase e, Expr.namesIn_eraseAll rest]
end

theorem Stmt.targets_eraseAll (stmts : List (Stmt α)) :
    Stmt.targets (Stmt.eraseAll stmts) = Stmt.targets stmts := by
  unfold Stmt.targets
  induction stmts with
  | nil => rfl
  | cons s rest ih =>
    rw [Stmt.eraseAll, List.filterMap_cons, List.filterMap_cons, s.target?_erase, ih]

theorem Stmt.assigns_ne_none_iff {t : Stmt Ty} {name : String} :
    t.assigns name ≠ none ↔ t.target? = some name := by
  cases t <;> simp [Stmt.assigns, Stmt.target?]

def Scope.Has (scope : Scope) (names : List String) : Prop :=
  ∀ name, scope.get? name ≠ none ↔ name ∈ names

theorem Scope.has_empty : (∅ : Scope).Has [] := by
  intro name
  simp

namespace Context

variable {ctx : Context} {names : List String}

theorem has_foldl_after (has : ctx.scope.Has names) {stmts : List (Stmt Unit)}
    {typed : List (Stmt Ty)} (checked : (Stmt.annotateAll stmts ctx).result = .ok typed) :
    (typed.foldl after ctx).scope.Has (names ++ Stmt.targets stmts) := by
  intro name
  have bare : Stmt.eraseAll typed = stmts := Stmt.eraseAll_of_ok stmts checked
  have assigned : typed.findSome? (Stmt.assigns name) ≠ none ↔ name ∈ Stmt.targets typed := by
    simp only [ne_eq, List.findSome?_eq_none_iff, Stmt.targets, List.mem_filterMap,
      ← Stmt.assigns_ne_none_iff, not_forall, exists_prop]
  rw [get?_foldl_after, ← bare, Stmt.targets_eraseAll, List.mem_append, ← has name, ← assigned,
    ne_eq, Option.or_eq_none_iff, not_and_or]

theorem has_inBody (has : ctx.scope.Has names) (head : Header) :
    (ctx.inBody head).scope.Has (head.params.map Param.name ++ names) := by
  intro name
  have lookup : (ctx.inBody head).scope.get? name =
      ((head.params.reverse.find? (·.name = name)).map Param.ty).or (ctx.scope.get? name) :=
    Scope.get?_withParams _ _ _
  have param : head.params.reverse.find? (·.name = name) ≠ none ↔
      name ∈ head.params.map Param.name := by
    simp
  rw [lookup, List.mem_append, ← has name, ← param, ne_eq, Option.or_eq_none_iff, not_and_or,
    Option.map_eq_none_iff]

theorem bound_of_expr_ok {e : Expr Unit} {typed : Expr Ty}
    (checked : (ctx.annotateExpr e).result = .ok typed) {name : String}
    (member : name ∈ Expr.namesIn e.nodes) : ctx.scope.get? name ≠ none := by
  rw [← erase_of_ok e checked, Expr.namesIn_erase] at member
  obtain ⟨node, inside, read⟩ := List.mem_filterMap.mp member
  have explained := explains_of_ok e checked node inside
  cases node with
  | var other ty =>
    cases read
    exact Option.ne_none_iff_exists'.mpr ⟨ty, explained⟩
  | _ => cases read

theorem bound_of_ok {s : Stmt Unit} {typed : Stmt Ty}
    (checked : (s.annotate ctx).result = .ok typed) {name : String}
    (member : name ∈ Expr.namesIn s.nodes) : ctx.scope.get? name ≠ none := by
  cases s with
  | assign target value u =>
    obtain ⟨v, passed, -, -⟩ := Stmt.assign_eq_ok_iff.mp checked
    exact bound_of_expr_ok passed member
  | expr value u =>
    obtain ⟨v, passed, -⟩ := Stmt.expr_eq_ok_iff.mp checked
    exact bound_of_expr_ok passed member
  | ret value u =>
    obtain ⟨v, passed, -, -⟩ := Stmt.ret_eq_ok_iff.mp checked
    exact bound_of_expr_ok passed member
  | define head body u => cases member
  | pass u => cases member

theorem BlamesStmt.unbound {s : Stmt Unit} {name : String}
    (blames : ctx.BlamesStmt (.unboundName name) s) :
    name ∈ Expr.namesIn s.nodes ∧ ctx.scope.get? name = none := by
  cases blames with
  | node fault =>
    obtain ⟨node, inside, blames⟩ := fault
    cases blames with
    | name unbound => exact ⟨List.mem_filterMap.mpr ⟨_, inside, rfl⟩, unbound⟩

end Context

namespace Stmt

variable {ctx : Context} {names : List String}

theorem passed_of_split {before later : List (Stmt Unit)} {s : Stmt Unit} {typed : List (Stmt Ty)}
    (checked : (annotateAll (before ++ s :: later) ctx).result = .ok typed) :
    ∃ ts t, (annotateAll before ctx).result = .ok ts ∧
      (s.annotate (ts.foldl Context.after ctx)).result = .ok t := by
  obtain ⟨ts, us, begun, others, -⟩ := annotateAll_append_eq_ok_iff.mp checked
  obtain ⟨t, _, passed, -, -⟩ := annotateAll_cons_eq_ok_iff.mp others
  exact ⟨ts, t, begun, passed⟩

theorem plain_of_inFunction {s : Stmt Unit} {typed : Stmt Ty} (inside : ctx.inFunction = true)
    (checked : (s.annotate ctx).result = .ok typed) : s.header? = none := by
  rw [← erase_of_ok s checked, header?_erase]
  exact header?_of_inFunction inside checked

theorem known_of_ok (has : ctx.scope.Has names) {before later : List (Stmt Unit)} {s : Stmt Unit}
    {typed : List (Stmt Ty)}
    (checked : (annotateAll (before ++ s :: later) ctx).result = .ok typed) {name : String}
    (member : name ∈ Expr.namesIn s.nodes) : name ∈ names ++ targets before := by
  obtain ⟨ts, t, begun, passed⟩ := passed_of_split checked
  exact (Context.has_foldl_after has begun name).mp (Context.bound_of_ok passed member)

/-- Run: a name that is found unbound is read where it is not known, by a statement of the run or in
the body of a function that the run defines. -/
theorem unknown_of_unbound (has : ctx.scope.Has names) {stmts : List (Stmt Unit)} {name : String}
    (failed : (annotateAll stmts ctx).result = .error (.unboundName name)) :
    ∃ before s later, stmts = before ++ s :: later ∧
      ((name ∈ Expr.namesIn s.nodes ∧ name ∉ names ++ targets before) ∨
        ctx.inFunction = false ∧ ∃ head body inner, s = .define head body () ∧
          inner.inFunction = true ∧
          inner.scope.Has (head.params.map Param.name ++ (names ++ targets before)) ∧
          (annotateAll body inner).result = .error (.unboundName name)) := by
  obtain ⟨before, s, later, typed, rfl, begun, stopped⟩ := annotateAll_eq_error_split failed
  have reached := Context.has_foldl_after has begun
  refine ⟨before, s, later, rfl, ?_⟩
  rcases annotate_blames stopped with blames | ⟨head, body, rfl, outside, inBody⟩
  · obtain ⟨member, unbound⟩ := blames.unbound
    exact .inl ⟨member, fun known => (reached name).mpr known unbound⟩
  · rw [Context.inFunction_foldl_after] at outside
    exact .inr ⟨outside, head, body, _, rfl, rfl, Context.has_inBody reached head, inBody⟩

end Stmt

namespace Program

variable {program : Program Unit} {strictness : Strictness} {functions : Functions}

theorem wellScoped_of_ok {typed : Program Ty}
    (checked : (Stmt.annotateAll program (.top functions ∅ strictness)).result = .ok typed) :
    program.WellScoped where
  top before s later split name member := by
    rw [split] at checked
    exact Stmt.known_of_ok Scope.has_empty checked member
  body before head body u later split first s rest inside name member := by
    rw [split] at checked
    obtain ⟨ts, t, begun, passed⟩ := Stmt.passed_of_split checked
    obtain ⟨-, typedBody, checkedBody, -⟩ := Stmt.define_eq_ok_iff.mp passed
    have has := Context.has_inBody (Context.has_foldl_after Scope.has_empty begun) head
    rw [inside] at checkedBody
    -- no function is defined in the body, so all that is read there is read by its statements
    obtain ⟨_, _, -, passedInside⟩ := Stmt.passed_of_split checkedBody
    have plain := Stmt.plain_of_inFunction (Context.inFunction_foldl_after _) passedInside
    rw [Stmt.reads_of_plain plain] at member
    have known := Stmt.known_of_ok has checkedBody member
    simp only [List.nil_append, List.mem_append] at known
    rcases known with (param | outer) | inner
    · exact .inl param
    · exact .inr (.inr outer)
    · exact .inr (.inl inner)

theorem WellScoped.not_unbound (wellScoped : program.WellScoped) (name : String) :
    (Stmt.annotateAll program (.top functions ∅ strictness)).result ≠
      .error (.unboundName name) := by
  intro failed
  obtain ⟨before, s, later, split, here | ⟨-, head, body, inner, rfl, inside, has, inBody⟩⟩ :=
    Stmt.unknown_of_unbound Scope.has_empty failed
  · exact here.2 (wellScoped.top before s later split name here.1)
  · obtain ⟨first, t, rest, splitBody, there | ⟨outside, -⟩⟩ := Stmt.unknown_of_unbound has inBody
    · have known := wellScoped.body before head body () later split first t rest splitBody name
        (Stmt.mem_reads_of_mem there.1)
      apply there.2
      simp only [List.nil_append, List.mem_append]
      rcases known with param | inner | outer
      · exact .inl (.inl param)
      · exact .inr inner
      · exact .inl (.inr outer)
    · rw [inside] at outside
      cases outside

/-- In an accepted program every name is assigned to before it is read; and where this is so, no name
is reported as unbound, whatever else is wrong with the program. -/
theorem assigned_before_read (strictness : Strictness) (program : Program Unit) :
    (∀ typed, (program.annotate strictness).result = .ok typed → program.WellScoped) ∧
    (program.WellScoped → ∀ name,
      (program.annotate strictness).result ≠ .error (.unboundName name)) := by
  constructor
  · intro typed accepted
    rw [result_annotate, Except.bind_eq_ok_iff] at accepted
    obtain ⟨functions, -, checked⟩ := accepted
    exact wellScoped_of_ok checked
  · intro wellScoped name failed
    rw [result_annotate, Except.bind_eq_error_iff] at failed
    rcases failed with refused | ⟨functions, -, stopped⟩
    · obtain ⟨head, -, same⟩ := functions_eq_error_iff.mp refused
      cases same
    · exact wellScoped.not_unbound name stopped

def sampleReads : Program Unit :=
  [.assign "x" (.lit (.bool true) ()) (),
    .define ⟨"f", [⟨"a", .int⟩], .int⟩
      [.assign "y" (.var "a" ()) (), .ret (.binary "+" (.var "y" ()) (.var "x" ()) ()) ()] (),
    .expr (.call "f" [.lit (.number 1) ()] ()) ()]

def sampleReadsTyped : Program Ty :=
  [.assign "x" (.lit (.bool true) .bool) .none,
    .define ⟨"f", [⟨"a", .int⟩], .int⟩
      [.assign "y" (.var "a" .int) .none,
        .ret (.binary "+" (.var "y" .int) (.var "x" .bool) .int) .int] .none,
    .expr (.call "f" [.lit (.number 1) .int] .int) .none]

theorem assigned_before_read_sample :
    (sampleReads.annotate .permissive).result = .ok sampleReadsTyped ∧ sampleReads.WellScoped ∧
    (sampleReads.annotate .strict).result = .error (.wrongOperand "+" .int .bool) ∧
    ∀ name, (sampleReads.annotate .strict).result ≠ .error (.unboundName name) := by
  have accepted : (sampleReads.annotate .permissive).result = .ok sampleReadsTyped := by rfl
  have wellScoped := (assigned_before_read .permissive sampleReads).1 _ accepted
  exact ⟨accepted, wellScoped, rfl, (assigned_before_read .strict sampleReads).2 wellScoped⟩

end Program

end ScriptCheck
