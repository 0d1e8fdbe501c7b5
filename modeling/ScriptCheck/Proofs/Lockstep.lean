import ScriptCheck.Proofs.Strictness
import ScriptCheck.Proofs.Transcript

/-! The logs of the two ways to treat operands, compared. Up to where the strict check stops it writes
what the permissive one writes; there it adds that it failed, and why. -/

namespace ScriptCheck

theorem Tightens.same_or_stops {α : Type} {meets : α → List Operation → Prop}
    {permissive strict : Outcome α} (related : Tightens meets permissive strict) :
    strict = permissive ∨
      ∃ v, strict.result = .error v ∧ strict.result ≠ permissive.result := by
  cases done : permissive.result with
  | ok a =>
    obtain ⟨ops, -, agrees, stops⟩ := related.passed a done
    cases offence : firstOffence ops with
    | none => exact .inl (agrees offence)
    | some v =>
      refine .inr ⟨v, stops v offence, ?_⟩
      rw [stops v offence]
      simp
  | error w =>
    obtain ⟨plain, same | ⟨v, operand, stopped⟩⟩ := related.failed w done
    · exact .inl same
    · refine .inr ⟨v, stopped, ?_⟩
      rw [stopped]
      intro equal
      cases equal
      exact plain operand

namespace Program

variable {program : Program Unit} {functions : Functions}

theorem annotate_of_refused {v : Violation} (refused : program.functions.result = .error v)
    (strictness : Strictness) :
    program.annotate strictness = ⟨.start program.length :: program.functions.log, .error v⟩ := by
  unfold annotate
  rw [Outcome.bind_of_ok rfl, Outcome.bind_of_error refused]
  rfl

theorem closing_of_error {run : Step (Program Ty)} {v : Violation}
    (stopped : run.result = .error v) : closing functions run = .failed v := by
  rw [closing, stopped]

theorem closing_eq_of_result_eq {strictness other : Strictness}
    (same : (Stmt.annotateAll program (.top functions ∅ strictness)).result =
      (Stmt.annotateAll program (.top functions ∅ other)).result) :
    closing functions (Stmt.annotateAll program (.top functions ∅ strictness)) =
      closing functions (Stmt.annotateAll program (.top functions ∅ other)) := by
  cases checked : (Stmt.annotateAll program (.top functions ∅ other)).result with
  | ok typed =>
    rw [checked] at same
    rw [closing_of_ok checked, closing_of_ok same]
  | error v =>
    rw [checked] at same
    rw [closing_of_error checked, closing_of_error same]

/-- If strict and permissive checking have the same result, they have the same log. Otherwise strict
checking stopped; its log is the permissive one up to some record, and then says that it failed. -/
theorem strict_log_of_permissive (program : Program Unit) :
    ((program.annotate .strict).result = (program.annotate .permissive).result →
      (program.annotate .strict).log = (program.annotate .permissive).log) ∧
    ((program.annotate .strict).result ≠ (program.annotate .permissive).result →
      ∃ v before, (program.annotate .strict).result = .error v ∧
        (program.annotate .strict).log = before ++ [.failed v] ∧
        (∀ quote, (Record.failed v).shown quote = (.debug, "check failed: " ++ v.message)) ∧
        before <+: (program.annotate .permissive).log) := by
  cases collected : program.functions.result with
  | error v =>
    rw [annotate_of_refused collected, annotate_of_refused collected]
    exact ⟨fun _ => rfl, fun apart => absurd rfl apart⟩
  | ok functions =>
    have related : Tightens _ (Stmt.annotateAll program (.top functions ∅ .permissive)).toOutcome
        (Stmt.annotateAll program (.top functions ∅ .strict)).toOutcome :=
      Stmt.annotateAll_tightens program (.top functions ∅ .permissive)
    rw [result_annotate_of_collected collected, result_annotate_of_collected collected,
      log_annotate collected, log_annotate collected]
    rcases related.same_or_stops with same | ⟨v, stopped, apart⟩
    · have results := congrArg Outcome.result same
      have logs := congrArg Outcome.log same
      refine ⟨fun _ => ?_, fun apart => absurd results apart⟩
      rw [closing_eq_of_result_eq results, logs]
    · refine ⟨fun same => absurd same apart, fun _ => ?_⟩
      refine ⟨v, .start program.length :: (program.functions.log ++
        (Stmt.annotateAll program (.top functions ∅ .strict)).log), stopped, ?_, fun _ => rfl, ?_⟩
      · rw [closing_of_error stopped, List.cons_append, List.append_assoc]
      · -- both logs begin alike, and what follows of the strict one is a part of the other
        have shorter := related.logs.trans (List.prefix_append _ [closing functions
          (Stmt.annotateAll program (.top functions ∅ .permissive))])
        exact List.cons_prefix_cons.mpr ⟨rfl, (List.prefix_append_right_inj _).mpr shorter⟩

def sampleMismatch : Program Unit :=
  [.assign "x" (.binary "+" (.lit (.number 1) ()) (.lit (.number 2) ()) ()) (),
    .define ⟨"f", [⟨"b", .bool⟩], .bool⟩
      [.ret (.binary ">" (.var "x" ()) (.var "b" ()) ()) ()] (),
    .pass ()]

def sampleUnbound : Program Unit := [.expr (.var "x" ()) ()]

theorem strict_log_of_permissive_sample :
    (sampleUnbound.annotate .strict).result = (sampleUnbound.annotate .permissive).result ∧
    (sampleUnbound.annotate .strict).log = (sampleUnbound.annotate .permissive).log ∧
    (sampleMismatch.annotate .strict).result ≠ (sampleMismatch.annotate .permissive).result ∧
    ∃ before, (sampleMismatch.annotate .strict).result = .error (.wrongOperand ">" .int .bool) ∧
      (sampleMismatch.annotate .strict).log =
        before ++ [.failed (.wrongOperand ">" .int .bool)] ∧
      before <+: (sampleMismatch.annotate .permissive).log := by
  have same : (sampleUnbound.annotate .strict).result =
      (sampleUnbound.annotate .permissive).result := by rfl
  have strict : (sampleMismatch.annotate .strict).result =
      .error (.wrongOperand ">" .int .bool) := by rfl
  have apart : (sampleMismatch.annotate .strict).result ≠
      (sampleMismatch.annotate .permissive).result := by
    rw [strict]
    rintro ⟨⟩
  obtain ⟨v, before, stopped, log, -, shorter⟩ := (strict_log_of_permissive sampleMismatch).2 apart
  rw [strict] at stopped
  cases stopped
  exact ⟨same, (strict_log_of_permissive sampleUnbound).1 same, apart, before, strict, log, shorter⟩

end Program

end ScriptCheck
