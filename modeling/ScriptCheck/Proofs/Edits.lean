import ScriptCheck.Proofs.Relevance

/-! Edits of a program that leave the rest of it alone: neighbours that do not touch each other's
names change places, and a function gets another body under the same header. -/

namespace ScriptCheck

/-- Neither statement assigns to a name that occurs in the other. -/
def Stmt.Independent {α : Type} (s t : Stmt α) : Prop :=
  (∀ name ∈ s.target?, name ∉ t.names) ∧ ∀ name ∈ t.target?, name ∉ s.names

instance {α : Type} (s t : Stmt α) : Decidable (s.Independent t) :=
  inferInstanceAs (Decidable ((∀ name ∈ s.target?, name ∉ t.names) ∧
    ∀ name ∈ t.target?, name ∉ s.names))

theorem Stmt.Independent.symm {α : Type} {s t : Stmt α} (independent : s.Independent t) :
    t.Independent s := And.symm independent

theorem Stmt.Independent.of_target?_eq_none {α : Type} {s t : Stmt α} (first : s.target? = none)
    (second : t.target? = none) : s.Independent t := by
  constructor
  · rw [first]
    rintro name ⟨⟩
  · rw [second]
    rintro name ⟨⟩

theorem Stmt.target?_erase {α : Type} (s : Stmt α) : s.erase.target? = s.target? := by
  cases s <;> rfl

theorem Stmt.mem_target?_of_assigns {t : Stmt Ty} {name : String} {ty : Ty}
    (assigned : t.assigns name = some ty) : name ∈ t.target? := by
  cases t with
  | assign target value label =>
    rw [Stmt.assigns] at assigned
    split at assigned
    · next same => exact congrArg some same
    · cases assigned
  | _ => cases assigned

namespace Context

variable {ctx : Context}

theorem agreeOn_after {t : Stmt Ty} {names : List String} (apart : ∀ name ∈ t.target?, name ∉ names)
    (callees : List String) : (ctx.after t).AgreeOn ctx names callees where
  strictness := strictness_after t
  functions name _ _ := by rw [functions_after]
  scope name member := by
    rw [get?_after]
    cases assigned : t.assigns name with
    | none => rw [Option.or_none]
    | some ty => exact absurd member (apart name (Stmt.mem_target?_of_assigns assigned))

theorem after_comm {t₁ t₂ : Stmt Ty} (apart : ∀ name ∈ t₁.target?, name ∉ t₂.target?) :
    (ctx.after t₁).after t₂ = (ctx.after t₂).after t₁ := by
  have scopes : ((ctx.after t₁).after t₂).scope = ((ctx.after t₂).after t₁).scope := by
    apply NameTable.ext_get?
    intro name
    simp only [get?_after, Option.or_assoc]
    congr 1
    cases first : t₁.assigns name with
    | none => rw [Option.none_or, Option.or_none]
    | some ty =>
      cases second : t₂.assigns name with
      | none => rw [Option.none_or, Option.or_none]
      | some ty' =>
        exact absurd (Stmt.mem_target?_of_assigns second)
          (apart name (Stmt.mem_target?_of_assigns first))
  calc
    (ctx.after t₁).after t₂ = { ctx with scope := ((ctx.after t₁).after t₂).scope } :=
      foldl_after_eq [t₁, t₂]
    _ = { ctx with scope := ((ctx.after t₂).after t₁).scope } := by rw [scopes]
    _ = (ctx.after t₂).after t₁ := (foldl_after_eq [t₂, t₁]).symm

end Context

namespace Stmt

variable {ctx : Context} {s₁ s₂ : Stmt Unit} {t₁ t₂ : Stmt Ty}

theorem annotate_after (passed : (s₁.annotate ctx).result = .ok t₁)
    (apart : ∀ name ∈ s₁.target?, name ∉ s₂.names) :
    (s₂.annotate (ctx.after t₁)).toOutcome = (s₂.annotate ctx).toOutcome := by
  have bare : t₁.erase = s₁ := Stmt.erase_of_ok s₁ passed
  rw [← bare, target?_erase] at apart
  apply annotate_congr s₂
  · apply Context.agreeOn_after
    intro name assigned member
    exact apart name assigned (freeNames_subset_names s₂ member)
  · rw [Context.returnTy_after]
  · rw [Context.inFunction_after]

theorem annotate_swap (independent : s₁.Independent s₂)
    (first : (s₁.annotate ctx).result = .ok t₁)
    (second : (s₂.annotate (ctx.after t₁)).result = .ok t₂) :
    (s₂.annotate ctx).result = .ok t₂ ∧ (s₁.annotate (ctx.after t₂)).result = .ok t₁ ∧
      (ctx.after t₁).after t₂ = (ctx.after t₂).after t₁ := by
  have alone : (s₂.annotate ctx).result = .ok t₂ := by
    rw [← annotate_after first independent.1, second]
  have later : (s₁.annotate (ctx.after t₂)).result = .ok t₁ := by
    rw [annotate_after alone independent.2, first]
  refine ⟨alone, later, Context.after_comm ?_⟩
  rw [← target?_erase t₁, ← target?_erase t₂, Stmt.erase_of_ok s₁ first,
    Stmt.erase_of_ok s₂ second]
  intro name assigned assignedToo
  exact independent.1 name assigned (target?_mem_names assignedToo)

/-- Run: exchanging the first two statements exchanges their typed forms and nothing else. -/
theorem annotateAll_swap {rest : List (Stmt Unit)} {ts : List (Stmt Ty)}
    (independent : s₁.Independent s₂)
    (checked : (Stmt.annotateAll (s₁ :: s₂ :: rest) ctx).result = .ok (t₁ :: t₂ :: ts)) :
    (Stmt.annotateAll (s₂ :: s₁ :: rest) ctx).result = .ok (t₂ :: t₁ :: ts) := by
  obtain ⟨_, _, first, tail, same⟩ := annotateAll_cons_eq_ok_iff.mp checked
  cases same
  obtain ⟨_, _, second, others, same⟩ := annotateAll_cons_eq_ok_iff.mp tail
  cases same
  obtain ⟨alone, later, contexts⟩ := annotate_swap independent first second
  rw [contexts] at others
  refine annotateAll_cons_eq_ok_iff.mpr ⟨t₂, t₁ :: ts, alone, ?_, rfl⟩
  exact annotateAll_cons_eq_ok_iff.mpr ⟨t₁, ts, later, others, rfl⟩

theorem annotateAll_replace_body {head : Header} {body newBody rest : List (Stmt Unit)}
    {typed : Stmt Ty} {ts : List (Stmt Ty)}
    (checked : (Stmt.annotateAll (.define head body () :: rest) ctx).result = .ok (typed :: ts)) :
    (Stmt.annotateAll (.define head newBody () :: rest) ctx).result =
      (· :: ts) <$> ((Stmt.define head newBody ()).annotate ctx).result := by
  obtain ⟨_, _, passed, others, same⟩ := annotateAll_cons_eq_ok_iff.mp checked
  cases same
  obtain ⟨-, typedBody, -, rfl⟩ := define_eq_ok_iff.mp passed
  have unchanged : (Stmt.annotateAll rest ctx).result = .ok ts := others
  rw [outcome_annotateAll_cons, Outcome.result_bind]
  cases replaced : ((Stmt.define head newBody ()).annotate ctx).result with
  | error v => rfl
  | ok typedNew =>
    obtain ⟨-, newTypedBody, -, rfl⟩ := define_eq_ok_iff.mp replaced
    have stays : ctx.after (.define head newTypedBody .none) = ctx := rfl
    rw [Except.ok_bind, stays, Outcome.result_bind, unchanged]
    rfl

end Stmt

namespace Program

variable {strictness : Strictness} {pre post : Program Unit} {typedPre typedPost : Program Ty}

theorem headers_swap (pre post : Program Unit) (s₁ s₂ : Stmt Unit) :
    (pre ++ s₁ :: s₂ :: post).headers.Perm (pre ++ s₂ :: s₁ :: post).headers :=
  ((List.Perm.swap s₂ s₁ post).append_left pre).filterMap Stmt.header?

theorem annotate_swap {s₁ s₂ : Stmt Unit} {t₁ t₂ : Stmt Ty}
    (aligned : typedPre.length = pre.length) (independent : s₁.Independent s₂)
    (accepted : ((pre ++ s₁ :: s₂ :: post).annotate strictness).result =
      .ok (typedPre ++ t₁ :: t₂ :: typedPost)) :
    ((pre ++ s₂ :: s₁ :: post).annotate strictness).result =
      .ok (typedPre ++ t₂ :: t₁ :: typedPost) := by
  obtain ⟨functions, collected, begun, others⟩ :=
    (annotate_append_eq_ok_append_iff aligned).mp accepted
  refine (annotate_append_eq_ok_append_iff aligned).mpr ⟨functions, ?_, begun, ?_⟩
  · exact functions_eq_ok_of_perm (headers_swap pre post s₁ s₂) collected
  · exact Stmt.annotateAll_swap independent others

theorem annotate_perm {block other : List (Stmt Unit × Stmt Ty)} (perm : block.Perm other)
    (aligned : typedPre.length = pre.length) (plain : ∀ pair ∈ block, pair.1.target? = none)
    (accepted : ((pre ++ block.map Prod.fst ++ post).annotate strictness).result =
      .ok (typedPre ++ block.map Prod.snd ++ typedPost)) :
    ((pre ++ other.map Prod.fst ++ post).annotate strictness).result =
      .ok (typedPre ++ other.map Prod.snd ++ typedPost) := by
  induction perm generalizing pre typedPre with
  | nil => exact accepted
  | cons pair _ ih =>
    -- the first statement of both blocks joins what stands before them
    have longer : (typedPre ++ [pair.2]).length = (pre ++ [pair.1]).length := by
      simp [aligned]
    have rest := ih longer (List.forall_mem_cons.mp plain).2
    simp only [List.append_assoc, List.map_cons, List.cons_append] at rest accepted ⊢
    exact rest accepted
  | swap first second rest =>
    obtain ⟨plainSecond, others⟩ := List.forall_mem_cons.mp plain
    have plainFirst := (List.forall_mem_cons.mp others).1
    simp only [List.append_assoc, List.map_cons, List.cons_append] at accepted ⊢
    exact annotate_swap aligned (.of_target?_eq_none plainSecond plainFirst) accepted
  | trans firstPerm _ ih ih' =>
    apply ih' aligned _ (ih aligned plain accepted)
    intro pair member
    exact plain pair (firstPerm.mem_iff.mpr member)

/-- Neighbours that do not assign to each other's names can change places: the program is accepted in
both orders or in neither, with the same typed statements. So can all statements of a block that holds
no assignments. -/
theorem annotate_reorder (strictness : Strictness) (pre post : Program Unit)
    (typedPre typedPost : Program Ty) (aligned : typedPre.length = pre.length) :
    (∀ s₁ s₂ t₁ t₂, s₁.Independent s₂ →
      (((pre ++ [s₁, s₂] ++ post).annotate strictness).result =
          .ok (typedPre ++ [t₁, t₂] ++ typedPost) ↔
        ((pre ++ [s₂, s₁] ++ post).annotate strictness).result =
          .ok (typedPre ++ [t₂, t₁] ++ typedPost))) ∧
    ∀ block other : List (Stmt Unit × Stmt Ty), block.Perm other →
      (∀ pair ∈ block, pair.1.target? = none) →
      (((pre ++ block.map Prod.fst ++ post).annotate strictness).result =
          .ok (typedPre ++ block.map Prod.snd ++ typedPost) ↔
        ((pre ++ other.map Prod.fst ++ post).annotate strictness).result =
          .ok (typedPre ++ other.map Prod.snd ++ typedPost)) := by
  constructor
  · intro s₁ s₂ t₁ t₂ independent
    simp only [List.append_assoc, List.cons_append, List.nil_append]
    exact ⟨annotate_swap aligned independent, annotate_swap aligned independent.symm⟩
  · intro block other perm plain
    have plainOther : ∀ pair ∈ other, pair.1.target? = none := by
      intro pair member
      exact plain pair (perm.mem_iff.mpr member)
    exact ⟨annotate_perm perm aligned plain, annotate_perm perm.symm aligned plainOther⟩

def sampleHead : Header := ⟨"f", [⟨"n", .int⟩], .bool⟩

def sampleReading : List (Stmt Unit) :=
  [.assign "m" (.binary "+" (.var "n" ()) (.var "k" ()) ()) (),
    .ret (.binary ">" (.var "m" ()) (.var "n" ()) ()) ()]

def sampleReadingTyped : List (Stmt Ty) :=
  [.assign "m" (.binary "+" (.var "n" .int) (.var "k" .int) .int) .none,
    .ret (.binary ">" (.var "m" .int) (.var "n" .int) .bool) .bool]

def sampleReader : Stmt Unit := .define sampleHead sampleReading ()

def sampleReaderTyped : Stmt Ty := .define sampleHead sampleReadingTyped .none

def sampleUse : Stmt Unit := .assign "b" (.call "f" [.var "k" ()] ()) ()

def sampleUseTyped : Stmt Ty := .assign "b" (.call "f" [.var "k" .int] .bool) .none

def sampleStart : Program Unit := [.assign "k" (.lit (.number 1) ()) ()]

def sampleStartTyped : Program Ty := [.assign "k" (.lit (.number 1) .int) .none]

def sampleEnd : Program Unit := [.expr (.call printName [.var "b" ()] ()) ()]

def sampleEndTyped : Program Ty := [.expr (.call printName [.var "b" .bool] .none) .none]

def sampleBlock : List (Stmt Unit × Stmt Ty) :=
  [(sampleReader, sampleReaderTyped), (.pass (), .pass .none),
    (.expr (.call "f" [.var "k" ()] ()) (), .expr (.call "f" [.var "k" .int] .bool) .none)]

theorem annotate_reorder_sample :
    sampleReader.Independent sampleUse ∧
    ((sampleStart ++ [sampleReader, sampleUse] ++ sampleEnd).annotate .strict).result =
      .ok (sampleStartTyped ++ [sampleReaderTyped, sampleUseTyped] ++ sampleEndTyped) ∧
    ((sampleStart ++ [sampleUse, sampleReader] ++ sampleEnd).annotate .strict).result =
      .ok (sampleStartTyped ++ [sampleUseTyped, sampleReaderTyped] ++ sampleEndTyped) ∧
    (∀ pair ∈ sampleBlock, pair.1.target? = none) ∧
    ((sampleStart ++ sampleBlock.reverse.map Prod.fst ++ sampleUse :: sampleEnd).annotate
        .strict).result =
      .ok (sampleStartTyped ++ sampleBlock.reverse.map Prod.snd ++
        sampleUseTyped :: sampleEndTyped) := by
  have independent : sampleReader.Independent sampleUse := by decide
  have accepted : ((sampleStart ++ [sampleReader, sampleUse] ++ sampleEnd).annotate .strict).result =
      .ok (sampleStartTyped ++ [sampleReaderTyped, sampleUseTyped] ++ sampleEndTyped) := by rfl
  have plain : ∀ pair ∈ sampleBlock, pair.1.target? = none := by decide
  have swap := (annotate_reorder .strict sampleStart sampleEnd sampleStartTyped sampleEndTyped rfl).1
  have permute := (annotate_reorder .strict sampleStart (sampleUse :: sampleEnd) sampleStartTyped
    (sampleUseTyped :: sampleEndTyped) rfl).2
  refine ⟨independent, accepted, (swap _ _ _ _ independent).mp accepted, plain, ?_⟩
  exact (permute _ _ sampleBlock.reverse_perm.symm plain).mp rfl

theorem headers_replace_body (pre post : Program Unit) (head : Header)
    (body newBody : List (Stmt Unit)) :
    (pre ++ .define head newBody () :: post).headers =
      (pre ++ .define head body () :: post).headers := by
  simp only [headers_append]
  rfl

/-- What a function does is hidden behind its header. With another body, the rest of an accepted
program keeps its typed statements, and the program passes or fails as the new definition does in the
context that the statements before it lead to. -/
theorem annotate_replace_body (strictness : Strictness) (pre post : Program Unit) (head : Header)
    (body newBody : List (Stmt Unit)) (typedPre typedPost : Program Ty) (typed : Stmt Ty)
    (aligned : typedPre.length = pre.length)
    (accepted : ((pre ++ [Stmt.define head body ()] ++ post).annotate strictness).result =
      .ok (typedPre ++ [typed] ++ typedPost)) :
    ∃ functions, (pre ++ [Stmt.define head body ()] ++ post).functions.result = .ok functions ∧
      (pre ++ [Stmt.define head newBody ()] ++ post).functions.result = .ok functions ∧
      ((pre ++ [Stmt.define head newBody ()] ++ post).annotate strictness).result =
        (typedPre ++ [·] ++ typedPost) <$> ((Stmt.define head newBody ()).annotate
          (Stmt.annotateAll pre (.top functions ∅ strictness)).context).result := by
  simp only [List.append_assoc, List.singleton_append] at accepted ⊢
  obtain ⟨functions, collected, begun, others⟩ :=
    (annotate_append_eq_ok_append_iff aligned).mp accepted
  have recollected : (pre ++ .define head newBody () :: post).functions.result = .ok functions := by
    rw [Program.functions, headers_replace_body pre post head body newBody]
    exact collected
  refine ⟨functions, collected, recollected, ?_⟩
  rw [result_annotate_append recollected, begun, Except.ok_bind,
    Stmt.context_annotateAll_of_ok begun, Stmt.annotateAll_replace_body others]
  cases ((Stmt.define head newBody ()).annotate
    (typedPre.foldl Context.after (.top functions ∅ strictness))).result <;> rfl

/-- A body with a variable of its own that has the name of one assigned later on, and another type. -/
def sampleHiding : List (Stmt Unit) :=
  [.assign "b" (.lit .none ()) (), .ret (.lit (.bool true) ()) ()]

def sampleHidingTyped : List (Stmt Ty) :=
  [.assign "b" (.lit .none .none) .none, .ret (.lit (.bool true) .bool) .bool]

theorem annotate_replace_body_sample :
    ((sampleStart ++ [Stmt.define sampleHead sampleReading ()] ++ sampleUse :: sampleEnd).annotate
        .strict).result =
      .ok (sampleStartTyped ++ [sampleReaderTyped] ++ sampleUseTyped :: sampleEndTyped) ∧
    ((sampleStart ++ [Stmt.define sampleHead sampleHiding ()] ++ sampleUse :: sampleEnd).annotate
        .strict).result =
      .ok (sampleStartTyped ++ [.define sampleHead sampleHidingTyped .none] ++
        sampleUseTyped :: sampleEndTyped) ∧
    ((sampleStart ++ [Stmt.define sampleHead [.ret (.var "n" ()) ()] ()] ++
        sampleUse :: sampleEnd).annotate .strict).result = .error (.wrongReturn .bool .int) := by
  have accepted :
      ((sampleStart ++ [Stmt.define sampleHead sampleReading ()] ++ sampleUse :: sampleEnd).annotate
        .strict).result =
      .ok (sampleStartTyped ++ [sampleReaderTyped] ++ sampleUseTyped :: sampleEndTyped) := by rfl
  have replaced := fun newBody => annotate_replace_body .strict sampleStart (sampleUse :: sampleEnd)
    sampleHead sampleReading newBody _ _ _ rfl accepted
  refine ⟨accepted, ?_, ?_⟩
  · obtain ⟨functions, collected, -, result⟩ := replaced sampleHiding
    cases collected
    rw [result]
    rfl
  · obtain ⟨functions, collected, -, result⟩ := replaced [.ret (.var "n" ()) ()]
    cases collected
    rw [result]
    rfl

end Program

end ScriptCheck
