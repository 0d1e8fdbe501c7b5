import ScriptCheck.Proofs.Failures

/-! What a violation tells about the program in which it was found is true of that program. -/

namespace ScriptCheck

theorem Operator.ofSymbol?_eq_none_iff {text : String} :
    Operator.ofSymbol? text = none ↔ text ∉ ["+", "-", ">", "and", "or"] := by
  unfold Operator.ofSymbol?
  split <;> simp_all

namespace Program

def Calls (program : Program Unit) (name : String) (count : Nat) : Prop :=
  ∃ args u, .call name args u ∈ program.nodes ∧ args.length = count

def Applies (program : Program Unit) (text : String) : Prop :=
  ∃ left right u, .binary text left right u ∈ program.nodes

def DefinesOnce (program : Program Unit) (name : String) (head : Header) : Prop :=
  program.headers.filter (·.name = name) = [head]

end Program

def Violation.TrueOf (strictness : Strictness) (program : Program Unit) : Violation → Prop
  | .unboundName name => ∃ u, .var name u ∈ program.nodes
  | .unknownFunction name =>
    name ≠ printName ∧ (∃ count, program.Calls name count) ∧
      name ∉ program.headers.map Header.name
  | .wrongArity name expected actual =>
    expected ≠ actual ∧ program.Calls name actual ∧
      if name = printName then expected = 1
      else ∃ head, program.DefinesOnce name head ∧ expected = head.params.length
  | .wrongArgument name position expected actual =>
    name ≠ printName ∧ expected ≠ actual ∧ ∃ head, program.DefinesOnce name head ∧
      (1 ≤ position ∧ position ≤ head.params.length) ∧
      (head.params[position - 1]?).map Param.ty = some expected ∧
      program.Calls name head.params.length
  | .wrongAssignment name expected actual =>
    expected ≠ actual ∧ ∃ value u, .assign name value u ∈ Stmt.partsAll program
  | .wrongReturn expected actual =>
    expected ≠ actual ∧
      ((expected = .none ∧ ∃ value u, .ret value u ∈ program) ∨
        ∃ head body u, .define head body u ∈ program ∧ head.ret = expected ∧
          ∃ value u, .ret value u ∈ body)
  | .unknownOperator text => program.Applies text ∧ text ∉ ["+", "-", ">", "and", "or"]
  | .wrongOperand text expected actual =>
    strictness = .strict ∧ expected ≠ actual ∧ program.Applies text ∧
      ∃ op : Operator, text = op.symbol ∧ expected = op.operandTy
  | .duplicateFunction name =>
    ∃ before head later, program.headers = before ++ head :: later ∧ head.name = name ∧
      (name = printName ∨ name ∈ before.map Header.name)
  | .nestedFunction name =>
    ∃ head body u, .define head body u ∈ program ∧
      ∃ inner innerBody u, .define inner innerBody u ∈ body ∧ inner.name = name
  | .unknownType _ => False

/-- The place of a violation in the statements of a program: at top level, or in the body of a
function that is defined there. Of the context at that place only the scope is left open. -/
inductive Program.FaultIn (functions : Functions) (strictness : Strictness) (program : Program Unit)
    (v : Violation) : Prop where
  | top {s : Stmt Unit} (scope : Scope) (member : s ∈ program)
      (blames : (Context.top functions scope strictness).BlamesStmt v s)
  | body {head : Header} {body : List (Stmt Unit)} {s : Stmt Unit} (scope : Scope)
      (member : .define head body () ∈ program) (inside : s ∈ body)
      (blames : { (Context.top functions ∅ strictness).inBody head with
        scope := scope }.BlamesStmt v s)

namespace Program

variable {program : Program Unit} {functions : Functions} {strictness : Strictness} {v : Violation}

theorem faultIn_of_error
    (failed : (Stmt.annotateAll program (.top functions ∅ strictness)).result = .error v) :
    program.FaultIn functions strictness v := by
  obtain ⟨before, s, later, typed, rfl, -, stopped⟩ := Stmt.annotateAll_eq_error_split failed
  rw [Context.foldl_after_eq] at stopped
  have member : s ∈ before ++ s :: later := List.mem_append_right _ List.mem_cons_self
  rcases Stmt.annotate_blames stopped with blames | ⟨head, body, rfl, -, inBody⟩
  · exact .top _ member blames
  · obtain ⟨first, s', rest, typedBody, rfl, -, stopped'⟩ := Stmt.annotateAll_eq_error_split inBody
    rw [Context.foldl_after_eq] at stopped'
    have inside : s' ∈ first ++ s' :: rest := List.mem_append_right _ List.mem_cons_self
    rcases Stmt.annotate_blames stopped' with blames | ⟨_, _, -, outside, -⟩
    · exact .body _ member inside blames
    · -- a body has no bodies inside it
      cases outside

theorem mem_nodes {s : Stmt Unit} {node : Expr Unit} (part : s ∈ Stmt.partsAll program)
    (member : node ∈ s.nodes) : node ∈ program.nodes :=
  List.mem_flatMap.mpr ⟨s, part, member⟩

end Program

namespace Context

variable {ctx : Context} {program : Program Unit} {v : Violation}

theorem Blames.trueOf {node : Expr Unit} (blames : ctx.Blames v node)
    (declares : program.Declares ctx.functions.get?) (member : node ∈ program.nodes) :
    v.TrueOf ctx.strictness program := by
  cases blames with
  | name unbound => exact ⟨_, member⟩
  | operator unknown => exact ⟨⟨_, _, _, member⟩, Operator.ofSymbol?_eq_none_iff.mp unknown⟩
  | operand mode apart => exact ⟨mode, apart.symm, ⟨_, _, _, member⟩, _, rfl, rfl⟩
  | printArity count =>
    refine ⟨count.symm, ⟨_, _, member, rfl⟩, ?_⟩
    rw [if_pos rfl]
  | @function name args u other unknown =>
    refine ⟨other, ⟨_, _, _, member, rfl⟩, ?_⟩
    intro defined
    obtain ⟨head, present, rfl⟩ := List.mem_map.mp defined
    have known := (declares.signature_iff head.name head.signature).mpr ⟨head, present, rfl, rfl⟩
    rw [unknown] at known
    cases known
  | arity other known count =>
    obtain ⟨head, once, rfl⟩ := declares.filter_headers known
    refine ⟨count.symm, ⟨_, _, member, rfl⟩, ?_⟩
    rw [if_neg other]
    exact ⟨head, once, List.length_map _⟩
  | @argument name args u sig index expected actual other known count declared apart =>
    obtain ⟨head, once, rfl⟩ := declares.filter_headers known
    have arity : head.signature.arity = head.params.length := List.length_map _
    have types : (head.params[index]?).map Param.ty = some expected := by
      rw [← List.getElem?_map]
      exact declared
    have inRange : index < head.params.length := by
      obtain ⟨param, found, -⟩ := Option.map_eq_some_iff.mp types
      exact (List.getElem?_eq_some_iff.mp found).1
    exact ⟨other, apart.symm, head, once, ⟨Nat.succ_pos _, inRange⟩, types,
      ⟨args, u, member, count.trans arity⟩⟩

end Context

namespace Program

variable {program : Program Unit} {functions : Functions} {strictness : Strictness} {v : Violation}

theorem FaultIn.trueOf (fault : program.FaultIn functions strictness v)
    (declares : program.Declares functions.get?) : v.TrueOf strictness program := by
  cases fault with
  | top scope member blames =>
    have part := Stmt.mem_partsAll_of_mem member
    cases blames with
    | node fault =>
      obtain ⟨node, inside, blames⟩ := fault
      exact blames.trueOf declares (mem_nodes part inside)
    | assignment bound apart => exact ⟨apart.symm, _, _, part⟩
    | ret apart => exact ⟨apart.symm, .inl ⟨rfl, _, _, member⟩⟩
    | nested inside => cases inside
  | body scope member inBody blames =>
    have part := Stmt.mem_partsAll_of_mem_body member inBody
    cases blames with
    | node fault =>
      obtain ⟨node, inside, blames⟩ := fault
      exact blames.trueOf declares (mem_nodes part inside)
    | assignment bound apart => exact ⟨apart.symm, _, _, part⟩
    | ret apart => exact ⟨apart.symm, .inr ⟨_, _, _, member, rfl, _, _, inBody⟩⟩
    | nested inside => exact ⟨_, _, _, member, _, _, _, inBody, rfl⟩

theorem trueOf_of_functions_error (stopped : program.functions.result = .error v) :
    v.TrueOf strictness program := by
  obtain ⟨head, ⟨before, later, split, -, taken⟩, rfl⟩ := functions_eq_error_iff.mp stopped
  exact ⟨before, head, later, split, rfl, taken⟩

/-- Whatever the checker reports about a program is true of it: the node or statement that it names
stands in the program, and the types, numbers and names that it gives are those of the definitions and
operators concerned. -/
theorem reported_violation_true (strictness : Strictness) (program : Program Unit) (v : Violation)
    (failed : (program.annotate strictness).result = .error v) : v.TrueOf strictness program := by
  rw [result_annotate, Except.bind_eq_error_iff] at failed
  rcases failed with stopped | ⟨functions, collected, stopped⟩
  · exact trueOf_of_functions_error stopped
  · exact (faultIn_of_error stopped).trueOf (functions_eq_ok_iff_declares.mp collected)

def sampleMisuse : Program Unit :=
  [.assign "x" (.lit (.number 1) ()) (),
    .define ⟨"g", [], .none⟩
      [.expr (.call printName [.binary "+" (.var "x" ())
        (.call "f" [.var "x" (), .lit (.number 2) ()] ()) ()] ()) ()] (),
    .define ⟨"f", [⟨"a", .int⟩, ⟨"b", .bool⟩], .int⟩ [.ret (.var "a" ()) ()] ()]

theorem reported_violation_true_sample :
    (sampleMisuse.annotate .strict).result = .error (.wrongArgument "f" 2 .bool .int) ∧
    ∃ head, sampleMisuse.DefinesOnce "f" head ∧ 2 ≤ head.params.length ∧
      (head.params[1]?).map Param.ty = some .bool ∧ sampleMisuse.Calls "f" head.params.length := by
  have failed : (sampleMisuse.annotate .strict).result =
      .error (.wrongArgument "f" 2 .bool .int) := by rfl
  obtain ⟨-, -, head, once, ⟨-, inRange⟩, declared, called⟩ :=
    reported_violation_true .strict sampleMisuse _ failed
  exact ⟨failed, head, once, inRange, declared, called⟩

end Program

end ScriptCheck
