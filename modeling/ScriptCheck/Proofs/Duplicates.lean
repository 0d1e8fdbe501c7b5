import ScriptCheck.Proofs.Diagnostics

/-! Functions that are defined twice, or under a reserved name. They are found before any statement is
checked, so they are reported first, and nothing else is ever reported as a duplicate. -/

namespace ScriptCheck

namespace Program

variable {program : Program Unit} {functions : Functions} {strictness : Strictness}

theorem get?_functions (collected : program.functions.result = .ok functions) (name : String) :
    functions.get? name = (program.headers.find? (·.name = name)).map Header.signature := by
  have declares := functions_eq_ok_iff_declares.mp collected
  cases found : program.headers.find? (·.name = name) with
  | some head =>
    have member := List.mem_of_find?_eq_some found
    have named : head.name = name := by simpa using List.find?_some found
    exact (declares.signature_iff name head.signature).mpr ⟨head, member, named, rfl⟩
  | none =>
    apply Option.eq_none_iff_forall_ne_some.mpr
    intro sig known
    obtain ⟨head, member, named, -⟩ := (declares.signature_iff name sig).mp known
    have apart : head.name ≠ name := by simpa using List.find?_eq_none.mp found head member
    exact apart named

theorem size_functions (collected : program.functions.result = .ok functions) :
    functions.size = program.headers.length := by
  obtain ⟨distinct, -, rfl⟩ := functions_eq_ok_iff.mp collected
  have size := NameTable.size_eq_length distinct fun name =>
    (get?_entries_ne_none_iff distinct name).symm
  rw [size, List.length_map]

theorem FaultIn.ne_duplicateFunction {name : String}
    (fault : program.FaultIn functions strictness (.duplicateFunction name)) : False := by
  cases fault with
  | top scope member blames =>
    cases blames with
    | node fault =>
      obtain ⟨node, -, blames⟩ := fault
      cases blames
  | body scope member inside blames =>
    cases blames with
    | node fault =>
      obtain ⟨node, -, blames⟩ := fault
      cases blames

theorem annotate_eq_duplicateFunction_iff (name : String) :
    (program.annotate strictness).result = .error (.duplicateFunction name) ↔
      program.functions.result = .error (.duplicateFunction name) := by
  rw [result_annotate, Except.bind_eq_error_iff]
  constructor
  · intro failed
    rcases failed with refused | ⟨functions, -, stopped⟩
    · exact refused
    · exact (faultIn_of_error stopped).ne_duplicateFunction.elim
  · exact .inl

/-- Functions can be collected exactly if their names are distinct and none is reserved. The table
then has the signature of each definition at top level and no more. Otherwise the first definition
that repeats a name or takes the reserved one is reported, and the check of the program reports
this, whatever else is wrong with it, and reports duplicates in no other case. -/
theorem functions_exact (program : Program Unit) :
    ((∃ functions, program.functions.result = .ok functions) ↔
      Header.Compatible program.headers) ∧
    (∀ functions, program.functions.result = .ok functions →
      (∀ name, functions.get? name = (program.headers.find? (·.name = name)).map
        fun head => ⟨head.params.map Param.ty, head.ret⟩) ∧
      functions.size = program.headers.length) ∧
    (∀ v, program.functions.result = .error v ↔
      ∃ head, Header.FirstRefused program.headers head ∧ v = .duplicateFunction head.name) ∧
    ∀ strictness name,
      (program.annotate strictness).result = .error (.duplicateFunction name) ↔
        program.functions.result = .error (.duplicateFunction name) := by
  refine ⟨?_, ?_, fun v => functions_eq_error_iff,
    fun strictness => annotate_eq_duplicateFunction_iff⟩
  · constructor
    · intro collected
      obtain ⟨functions, passed⟩ := collected
      exact (Functions.ofHeaders_eq_ok_iff.mp passed).1
    · intro fits
      exact ⟨_, Functions.ofHeaders_eq_ok_iff.mpr ⟨fits, rfl⟩⟩
  · intro functions collected
    exact ⟨get?_functions collected, size_functions collected⟩

def sampleDefinitions : Program Unit :=
  [.expr (.var "x" ()) (),
    .define ⟨"f", [⟨"a", .int⟩, ⟨"b", .bool⟩], .int⟩ [.define ⟨"g", [], .none⟩ [] ()] (),
    .define ⟨"h", [], .bool⟩ [] ()]

def sampleRepetition : Program Unit := sampleDefinitions ++ [Stmt.define ⟨"f", [], .none⟩ [] ()]

theorem functions_exact_sample :
    ∃ functions, sampleDefinitions.functions.result = .ok functions ∧
      functions.get? "f" = some ⟨[.int, .bool], .int⟩ ∧ functions.get? "g" = none ∧
      functions.get? "h" = some ⟨[], .bool⟩ ∧ functions.size = 2 ∧
      (sampleRepetition.annotate .strict).result = .error (.duplicateFunction "f") := by
  have fits : Header.Compatible sampleDefinitions.headers := by
    unfold Header.Compatible
    decide
  obtain ⟨functions, collected⟩ := (functions_exact sampleDefinitions).1.mpr fits
  obtain ⟨lookup, size⟩ := (functions_exact sampleDefinitions).2.1 functions collected
  have repeated := (functions_exact sampleRepetition).2.2.2 .strict "f"
  refine ⟨functions, collected, ?_, ?_, ?_, size, repeated.mpr rfl⟩
  · rw [lookup]
    rfl
  · rw [lookup]
    rfl
  · rw [lookup]
    rfl

end Program

end ScriptCheck
