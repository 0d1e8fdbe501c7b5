import ScriptCheck.Proofs.Occurrences
import ScriptCheck.Proofs.Runs

/-! The labels of an accepted program agree with each other. Each label is what the context at the
end of its scope says, since a name keeps the type it was bound with; and the signature under which
a function was called stands in the one definition of that function. -/

namespace ScriptCheck

/-- A statement gives a name a label: where it reads the name, or where it assigns to it. What
stands in the body of a function does not count. -/
def Stmt.Labels (s : Stmt Ty) (name : String) (ty : Ty) : Prop :=
  .var name ty ∈ s.nodes ∨ ∃ value label, s = .assign name value label ∧ value.ty = ty

namespace Context

variable {ctx : Context}

def Explains (ctx : Context) : Expr Ty → Prop
  | .var name ty => ctx.scope.get? name = some ty
  | .call name args ty => name ≠ printName → ∃ sig, ctx.functions.get? name = some sig ∧
      args.map Expr.ty = sig.params ∧ ty = sig.ret
  | _ => True

structure Backs (ctx : Context) (s : Stmt Ty) : Prop where
  nodes : ∀ node ∈ s.nodes, ctx.Explains node
  target : ∀ name value label, s = .assign name value label → ctx.scope.get? name = some value.ty

theorem Backs.get? {s : Stmt Ty} (backs : ctx.Backs s) {name : String} {ty : Ty}
    (labels : s.Labels name ty) : ctx.scope.get? name = some ty := by
  rcases labels with read | ⟨value, label, assigned, rfl⟩
  · exact backs.nodes _ read
  · exact backs.target name value label assigned

theorem map_ty_of_ok {name : String} {position : Nat} {args : List (Expr Unit)} {params : List Ty}
    {typed : List (Expr Ty)} (count : args.length = params.length)
    (checked : (ctx.annotateArgs name position args params).result = .ok typed) :
    typed.map Expr.ty = params := by
  induction args generalizing params typed position with
  | nil =>
    have none : params = [] := List.length_eq_zero_iff.mp count.symm
    subst none
    cases checked
    rfl
  | cons arg args ih =>
    cases params with
    | nil => cases count
    | cons expected params =>
      obtain ⟨a, rest, -, same, others, rfl⟩ := annotateArgs_cons_eq_ok_iff.mp checked
      rw [List.map_cons, same, ih (Nat.succ.inj count) others]

mutual
theorem explains_of_ok : ∀ (e : Expr Unit) {typed : Expr Ty},
    (ctx.annotateExpr e).result = .ok typed → ∀ node ∈ typed.nodes, ctx.Explains node
  | .lit value u, typed, checked, node, member => by
    rw [result_lit] at checked
    cases checked
    obtain rfl := List.mem_singleton.mp member
    trivial
  | .var name u, typed, checked, node, member => by
    obtain ⟨ty, bound, rfl⟩ := var_eq_ok_iff.mp checked
    obtain rfl := List.mem_singleton.mp member
    exact bound
  | .binary text left right u, typed, checked, node, member => by
    obtain ⟨op, l, r, -, first, second, -, rfl⟩ := binary_eq_ok_iff.mp checked
    rcases List.mem_cons.mp member with rfl | inside
    · trivial
    · rcases List.mem_append.mp inside with inLeft | inRight
      · exact explains_of_ok left first node inLeft
      · exact explains_of_ok right second node inRight
  | .call name args u, typed, checked, node, member => by
    obtain ⟨typedArgs, ty, rfl, passed⟩ := call_forall₂ checked
    rcases List.mem_cons.mp member with rfl | inside
    · intro apart
      obtain ⟨sig, _, known, count, fits, same⟩ := (call_eq_ok_iff apart).mp checked
      cases same
      exact ⟨sig, known, map_ty_of_ok count fits, rfl⟩
    · exact explains_all_of_ok args passed node inside

theorem explains_all_of_ok : ∀ (args : List (Expr Unit)) {typed : List (Expr Ty)},
    List.Forall₂ (fun arg a => (ctx.annotateExpr arg).result = .ok a) args typed →
    ∀ node ∈ Expr.nodesAll typed, ctx.Explains node
  | [], typed, passed, node, member => by
    cases passed
    cases member
  | arg :: args, typed, passed, node, member => by
    cases passed with
    | cons first others =>
      rcases List.mem_append.mp member with inFirst | inRest
      · exact explains_of_ok arg first node inFirst
      · exact explains_all_of_ok args others node inRest
end

theorem Explains.after {node : Expr Ty} (explains : ctx.Explains node) (t : Stmt Ty) :
    (ctx.after t).Explains node := by
  cases node with
  | var name ty => exact get?_after_of_bound explains t
  | call name args ty =>
    intro apart
    rw [functions_after]
    exact explains apart
  | _ => trivial

theorem Backs.after {s : Stmt Ty} (backs : ctx.Backs s) (t : Stmt Ty) : (ctx.after t).Backs s where
  nodes node member := (backs.nodes node member).after t
  target name value label same := get?_after_of_bound (backs.target name value label same) t

theorem Backs.foldl_after {s : Stmt Ty} (backs : ctx.Backs s) (typed : List (Stmt Ty)) :
    (typed.foldl Context.after ctx).Backs s := by
  induction typed generalizing ctx with
  | nil => exact backs
  | cons t rest ih => exact ih (backs.after t)

theorem backs_of_ok {s : Stmt Unit} {typed : Stmt Ty}
    (checked : (s.annotate ctx).result = .ok typed) : (ctx.after typed).Backs typed := by
  cases s with
  | assign name value u =>
    obtain ⟨v, first, fits, rfl⟩ := Stmt.assign_eq_ok_iff.mp checked
    refine ⟨fun node member => (explains_of_ok value first node member).after _, ?_⟩
    intro target assigned label same
    cases same
    rw [get?_after, Stmt.assigns, if_pos rfl]
    cases held : ctx.scope.get? name with
    | none => rfl
    | some ty => rw [Option.some_or, fits ty held]
  | define head body u =>
    obtain ⟨-, typedBody, -, rfl⟩ := Stmt.define_eq_ok_iff.mp checked
    exact ⟨by simp [Stmt.nodes], by simp⟩
  | expr value u =>
    obtain ⟨v, first, rfl⟩ := Stmt.expr_eq_ok_iff.mp checked
    exact ⟨explains_of_ok value first, by simp⟩
  | ret value u =>
    obtain ⟨v, first, -, rfl⟩ := Stmt.ret_eq_ok_iff.mp checked
    exact ⟨explains_of_ok value first, by simp⟩
  | pass u =>
    rw [Stmt.outcome_pass] at checked
    cases checked
    exact ⟨by simp [Stmt.nodes], by simp⟩

theorem backs_of_run {stmts : List (Stmt Unit)} {typed : List (Stmt Ty)}
    (checked : (Stmt.annotateAll stmts ctx).result = .ok typed) :
    ∀ s ∈ typed, (typed.foldl Context.after ctx).Backs s := by
  intro s member
  obtain ⟨before, later, _, rfl, passed⟩ := Stmt.passed_of_mem checked member
  rw [List.foldl_append, List.foldl_cons]
  -- names keep their types, so what comes later takes nothing back
  exact (backs_of_ok passed).foldl_after later

theorem explains_parts {stmts : List (Stmt Unit)} {typed : List (Stmt Ty)}
    (checked : (Stmt.annotateAll stmts ctx).result = .ok typed) {part : Stmt Ty}
    (member : part ∈ Stmt.partsAll typed) {node : Expr Ty} (inside : node ∈ part.nodes) :
    ∃ inner : Context, inner.functions = ctx.functions ∧ inner.Explains node := by
  obtain ⟨s, present, contained⟩ := Stmt.mem_partsAll.mp member
  have backs := backs_of_run checked s present
  have outer : part = s → ∃ inner : Context, inner.functions = ctx.functions ∧
      inner.Explains node := by
    rintro rfl
    exact ⟨_, functions_foldl_after typed, backs.nodes node inside⟩
  cases s with
  | define head body label =>
    rcases List.mem_cons.mp contained with same | deeper
    · exact outer same
    · -- bodies hold no definitions, so one level is all there is
      obtain ⟨before, _, _, -, passed⟩ := Stmt.passed_of_mem checked present
      have checkedBody := Stmt.body_of_ok passed
      rw [Stmt.partsAll_eq_self (Stmt.header?_of_body rfl checkedBody)] at deeper
      have backsBody := backs_of_run checkedBody part deeper
      refine ⟨_, ?_, backsBody.nodes node inside⟩
      calc
        _ = ((before.foldl after ctx).inBody head).functions := functions_foldl_after body
        _ = (before.foldl after ctx).functions := rfl
        _ = ctx.functions := functions_foldl_after before
  | _ => exact outer (List.mem_singleton.mp contained)

theorem labels_unique {stmts : List (Stmt Unit)} {typed : List (Stmt Ty)}
    (checked : (Stmt.annotateAll stmts ctx).result = .ok typed) (name : String) :
    ∃ ty, (∀ s ∈ typed, ∀ label, s.Labels name label → label = ty) ∧
      ∀ bound, ctx.scope.get? name = some bound → ty = bound := by
  refine ⟨((typed.foldl after ctx).scope.get? name).getD .none, ?_, ?_⟩
  · intro s member label labels
    have found := (backs_of_run checked s member).get? labels
    rw [found, Option.getD_some]
  · intro bound found
    rw [get?_foldl_after_of_bound found, Option.getD_some]

/-- In a body the labels of a name are the type of the last parameter of that name, or else what
the scope around the function says. -/
theorem labels_unique_in_body {head : Header} {stmts : List (Stmt Unit)} {body : List (Stmt Ty)}
    (checked : (Stmt.annotateAll stmts (ctx.inBody head)).result = .ok body) (name : String) :
    ∃ ty, (∀ s ∈ body, ∀ label, s.Labels name label → label = ty) ∧
      (∀ param, head.params.reverse.find? (·.name = name) = some param → ty = param.ty) ∧
      ((∀ param ∈ head.params, param.name ≠ name) →
        ∀ outer, ctx.scope.get? name = some outer → ty = outer) := by
  have lookup : (ctx.inBody head).scope.get? name =
      ((head.params.reverse.find? (·.name = name)).map Param.ty).or (ctx.scope.get? name) :=
    Scope.get?_withParams _ _ _
  obtain ⟨ty, unique, bound⟩ := labels_unique checked name
  refine ⟨ty, unique, ?_, ?_⟩
  · intro param found
    apply bound
    rw [lookup, found, Option.map_some, Option.some_or]
  · intro apart outer found
    have missing : head.params.reverse.find? (·.name = name) = none := by
      simpa using apart
    apply bound
    rw [lookup, missing, Option.map_none, Option.none_or, found]

end Context

theorem Program.call_declared {program : Program Unit} {typed : Program Ty} {functions : Functions}
    {strictness : Strictness} (collected : program.functions.result = .ok functions)
    (checked : (Stmt.annotateAll program (.top functions ∅ strictness)).result = .ok typed)
    {part : Stmt Ty} (member : part ∈ Stmt.partsAll typed) {name : String} {args : List (Expr Ty)}
    {ty : Ty} (inside : .call name args ty ∈ part.nodes) (apart : name ≠ printName) :
    ∃ head, typed.headers.filter (·.name = name) = [head] ∧
      args.map Expr.ty = head.params.map Param.ty ∧ ty = head.ret := by
  obtain ⟨inner, same, explains⟩ := Context.explains_parts checked member inside
  obtain ⟨sig, known, types, rfl⟩ := explains apart
  rw [same] at known
  have declares := Program.functions_eq_ok_iff_declares.mp collected
  obtain ⟨head, only, rfl⟩ := declares.filter_headers known
  have bare : Program.erase typed = program := Stmt.eraseAll_of_ok program checked
  rw [← bare, Program.headers_erase] at only
  exact ⟨head, only, types, rfl⟩

/-- In an accepted program all labels fit together. A call, wherever it stands, carries the types of
the one definition of its function. Outside of functions all labels of a name are the same, and so
they are in the body of each function, which defines no further function; there they are the type of
the last parameter of that name, or else of any assignment to it before the definition. -/
theorem Program.labels_consistent (strictness : Strictness) (program : Program Unit)
    (typed : Program Ty) (accepted : (program.annotate strictness).result = .ok typed) :
    (∀ part ∈ Stmt.partsAll typed, ∀ name args ty, .call name args ty ∈ part.nodes →
      name ≠ printName → ∃ head, typed.headers.filter (·.name = name) = [head] ∧
        args.map Expr.ty = head.params.map Param.ty ∧ ty = head.ret) ∧
    (∀ name, ∃ ty, ∀ s ∈ typed, ∀ label, s.Labels name label → label = ty) ∧
    ∀ before head body label later, typed = before ++ .define head body label :: later →
      (∀ s ∈ Stmt.partsAll body, s.header? = none) ∧
      ∀ name, ∃ ty, (∀ s ∈ Stmt.partsAll body, ∀ label, s.Labels name label → label = ty) ∧
        (∀ param, head.params.reverse.find? (·.name = name) = some param → ty = param.ty) ∧
        ((∀ param ∈ head.params, param.name ≠ name) →
          ∀ value label, .assign name value label ∈ before → ty = value.ty) := by
  rw [Program.result_annotate, Except.bind_eq_ok_iff] at accepted
  obtain ⟨functions, collected, checked⟩ := accepted
  refine ⟨?_, ?_, ?_⟩
  · intro part member name args ty inside apart
    exact Program.call_declared collected checked member inside apart
  · intro name
    obtain ⟨ty, unique, -⟩ := Context.labels_unique checked name
    exact ⟨ty, unique⟩
  · rintro before head body label later rfl
    obtain ⟨first, _, _, -, begun, passed⟩ := Stmt.annotateAll_eq_ok_split checked
    have checkedBody := Stmt.body_of_ok passed
    have plain := Stmt.header?_of_body rfl checkedBody
    rw [Stmt.partsAll_eq_self plain]
    refine ⟨plain, ?_⟩
    intro name
    obtain ⟨ty, unique, parameter, outside⟩ := Context.labels_unique_in_body checkedBody name
    refine ⟨ty, unique, parameter, ?_⟩
    intro apart value assigned member
    apply outside apart
    exact (Context.backs_of_run begun _ member).target name value assigned rfl

def Program.sampleShadowing : Program Unit :=
  [.assign "n" (.lit (.number 1) ()) (),
    .expr (.call "print" [.call "f" [.lit .none (), .var "n" ()] ()] ()) (),
    .define ⟨"f", [⟨"x", .none⟩, ⟨"x", .int⟩], .bool⟩
      [.assign "y" (.binary ">" (.var "x" ()) (.var "n" ()) ()) (), .ret (.var "y" ()) ()] ()]

def Program.sampleBody : List (Stmt Ty) :=
  [.assign "y" (.binary ">" (.var "x" .int) (.var "n" .int) .bool) .none,
    .ret (.var "y" .bool) .bool]

def Program.sampleShadowingTyped : Program Ty :=
  [.assign "n" (.lit (.number 1) .int) .none,
    .expr (.call "print" [.call "f" [.lit .none .none, .var "n" .int] .bool] .none) .none,
    .define ⟨"f", [⟨"x", .none⟩, ⟨"x", .int⟩], .bool⟩ Program.sampleBody .none]

theorem Program.labels_consistent_sample :
    (Program.sampleShadowing.annotate .strict).result = .ok Program.sampleShadowingTyped ∧
    (∃ head, Program.sampleShadowingTyped.headers.filter (·.name = "f") = [head] ∧
      [.none, .int] = head.params.map Param.ty ∧ .bool = head.ret) ∧
    (∀ s ∈ Stmt.partsAll Program.sampleBody, ∀ label, s.Labels "x" label → label = .int) ∧
    ∀ s ∈ Stmt.partsAll Program.sampleBody, ∀ label, s.Labels "n" label → label = .int := by
  have accepted : (Program.sampleShadowing.annotate .strict).result =
      .ok Program.sampleShadowingTyped := by rfl
  obtain ⟨calls, -, bodies⟩ := Program.labels_consistent _ _ _ accepted
  obtain ⟨-, body⟩ := bodies (Program.sampleShadowingTyped.take 2) _ _ _ [] rfl
  obtain ⟨tyX, uniqueX, parameter, -⟩ := body "x"
  obtain ⟨tyN, uniqueN, -, outside⟩ := body "n"
  obtain rfl : tyX = .int := parameter ⟨"x", .int⟩ (by rfl)
  obtain rfl : tyN = .int := outside (by decide) (.lit (.number 1) .int) .none (.head _)
  refine ⟨accepted, ?_, uniqueX, uniqueN⟩
  exact calls _ (.tail _ (.head _)) "f" [.lit .none .none, .var "n" .int] .bool
    (.tail _ (.head _)) (by decide)

end ScriptCheck
