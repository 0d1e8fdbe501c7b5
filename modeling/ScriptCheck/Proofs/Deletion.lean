import Mathlib.Data.Finset.Insert
import ScriptCheck.Proofs.Edits
import ScriptCheck.Proofs.Extension

/-! Statements that nothing depends on can be deleted. Only assignments change the scope, and only the
callers of a function look at its signature; so where neither is touched, what remains of a program
gets the labels it had. -/

namespace ScriptCheck

variable {α : Type}

/-- The elements of a list that stand at chosen positions, which are counted from `start`. -/
def select (chosen : Nat → Bool) (start : Nat) (xs : List α) : List α :=
  ((xs.zipIdx start).filter fun row => chosen row.2).map Prod.fst

section Select

variable {chosen : Nat → Bool} {start : Nat} {x : α} {xs : List α}

@[simp] theorem select_nil : select chosen start ([] : List α) = [] := rfl

theorem select_cons_of_chosen (here : chosen start = true) :
    select chosen start (x :: xs) = x :: select chosen (start + 1) xs := by
  simp [select, here]

theorem select_cons_of_not_chosen (gone : chosen start = false) :
    select chosen start (x :: xs) = select chosen (start + 1) xs := by
  simp [select, gone]

theorem select_sublist : (select chosen start xs).Sublist xs := by
  have rows := (List.filter_sublist (l := xs.zipIdx start) (p := fun row => chosen row.2)).map Prod.fst
  rw [List.zipIdx_map_fst] at rows
  exact rows

theorem mem_select_or (member : x ∈ xs) :
    x ∈ select chosen start xs ∨ x ∈ select (fun i => !chosen i) start xs := by
  induction xs generalizing start with
  | nil => cases member
  | cons first rest ih =>
    cases here : chosen start with
    | true =>
      rw [select_cons_of_chosen here, select_cons_of_not_chosen (by rw [here]; rfl)]
      rcases List.mem_cons.mp member with rfl | later
      · exact .inl List.mem_cons_self
      · exact (ih later).imp_left (List.mem_cons_of_mem first)
    | false =>
      rw [select_cons_of_not_chosen here, select_cons_of_chosen (by rw [here]; rfl)]
      rcases List.mem_cons.mp member with rfl | later
      · exact .inr List.mem_cons_self
      · exact (ih later).imp_right (List.mem_cons_of_mem first)

end Select

namespace Program

def kept (removed : Finset Nat) (program : Program α) : Program α :=
  select (fun i => i ∉ removed) 0 program

def deleted (removed : Finset Nat) (program : Program α) : Program α :=
  select (fun i => i ∈ removed) 0 program

end Program

theorem Context.after_of_target?_eq_none {ctx : Context} {t : Stmt Ty} (plain : t.target? = none) :
    ctx.after t = ctx := by
  cases t with
  | assign name value label => cases plain
  | _ => rfl

namespace Stmt

variable {ctx : Context} {table : Functions}

theorem annotate_withFunctions {s : Stmt Unit}
    (agree : ∀ name ∈ s.callees, name ≠ printName →
      table.get? name = ctx.functions.get? name) :
    (s.annotate (ctx.withFunctions table)).toOutcome = (s.annotate ctx).toOutcome :=
  annotate_congr s ⟨rfl, fun _ _ => rfl, agree⟩ rfl rfl

/-- Run: statements that bind nothing may be left out, and the rest is checked as before in a table
that says the same about the functions it calls. -/
theorem annotateAll_select {chosen : Nat → Bool} {start : Nat} {stmts : List (Stmt Unit)}
    {typed : List (Stmt Ty)}
    (plain : ∀ s ∈ select (fun i => !chosen i) start stmts, s.target? = none)
    (agree : ∀ s ∈ select chosen start stmts, ∀ name ∈ s.callees, name ≠ printName →
      table.get? name = ctx.functions.get? name)
    (checked : (Stmt.annotateAll stmts ctx).result = .ok typed) :
    (Stmt.annotateAll (select chosen start stmts) (ctx.withFunctions table)).result =
      .ok (select chosen start typed) := by
  induction stmts generalizing ctx typed start with
  | nil =>
    rw [outcome_annotateAll_nil] at checked
    cases checked
    rw [select_nil, outcome_annotateAll_nil]
    rfl
  | cons s rest ih =>
    obtain ⟨t, ts, passed, others, rfl⟩ := annotateAll_cons_eq_ok_iff.mp checked
    cases here : chosen start with
    | true =>
      rw [select_cons_of_not_chosen (by rw [here]; rfl)] at plain
      rw [select_cons_of_chosen here] at agree ⊢
      obtain ⟨agreeHere, agreeRest⟩ := List.forall_mem_cons.mp agree
      rw [select_cons_of_chosen here]
      refine annotateAll_cons_eq_ok_iff.mpr ⟨t, _, ?_, ?_, rfl⟩
      · rw [annotate_withFunctions agreeHere, passed]
      · rw [Context.after_withFunctions]
        apply ih plain _ others
        rw [Context.functions_after]
        exact agreeRest
    | false =>
      rw [select_cons_of_chosen (by rw [here]; rfl)] at plain
      rw [select_cons_of_not_chosen here] at agree ⊢
      obtain ⟨plainHere, plainRest⟩ := List.forall_mem_cons.mp plain
      rw [← erase_of_ok s passed, target?_erase] at plainHere
      rw [Context.after_of_target?_eq_none plainHere] at others
      rw [select_cons_of_not_chosen here]
      exact ih plainRest agree others

end Stmt

namespace Program

variable {program part : Program Unit} {functions : Functions}

theorem functions_of_sublist (collected : program.functions.result = .ok functions)
    (sublist : part.Sublist program) :
    ∃ table, part.functions.result = .ok table ∧ ∀ name,
      (∀ head ∈ program.headers, head.name = name → head ∈ part.headers) →
        table.get? name = functions.get? name := by
  have declares := functions_eq_ok_iff_declares.mp collected
  have heads : part.headers.Sublist program.headers := sublist.filterMap Stmt.header?
  have own : part.functions.result = .ok _ := functions_eq_ok_iff.mpr
    ⟨(heads.map Header.name).nodup declares.distinct,
      fun member => declares.unreserved ((heads.map Header.name).subset member), rfl⟩
  have own_iff := (functions_eq_ok_iff_declares.mp own).signature_iff
  refine ⟨_, own, ?_⟩
  intro name stays
  apply Option.ext
  intro sig
  rw [own_iff, declares.signature_iff]
  constructor
  · intro known
    obtain ⟨head, member, named⟩ := known
    exact ⟨head, heads.subset member, named⟩
  · intro known
    obtain ⟨head, member, named, signed⟩ := known
    exact ⟨head, stays head member named, named, signed⟩

theorem deleted_eq (removed : Finset Nat) (program : Program Unit) :
    program.deleted removed = select (fun i => !decide (i ∉ removed)) 0 program := by
  simp [deleted]

/-- Statements of an accepted program can be deleted, if none of them is an assignment and no function
that they define is called by a statement that stays, in a body or outside. The rest is accepted, with
the labels it had. -/
theorem annotate_delete (strictness : Strictness) (program : Program Unit) (typed : Program Ty)
    (accepted : (program.annotate strictness).result = .ok typed) (removed : Finset Nat)
    (plain : ∀ s ∈ program.deleted removed, s.target? = none)
    (uncalled : ∀ head ∈ (program.deleted removed).headers, ∀ s ∈ program.kept removed,
      head.name ∉ s.callees) :
    ((program.kept removed).annotate strictness).result = .ok (typed.kept removed) := by
  rw [result_annotate, Except.bind_eq_ok_iff] at accepted
  obtain ⟨functions, collected, checked⟩ := accepted
  have part : (program.kept removed).Sublist program := select_sublist
  obtain ⟨table, own, same⟩ := functions_of_sublist collected part
  rw [result_annotate_of_collected own]
  rw [deleted_eq] at plain uncalled
  apply Stmt.annotateAll_select plain _ checked
  intro s stays name called _
  apply same
  -- a function that is called was not deleted, so its header is still there
  intro head declared named
  obtain ⟨t, member, header⟩ := List.mem_filterMap.mp declared
  rcases mem_select_or member with here | gone
  · exact List.mem_filterMap.mpr ⟨t, here, header⟩
  · have missing := uncalled head (List.mem_filterMap.mpr ⟨t, gone, header⟩) s stays
    rw [named] at missing
    exact absurd called missing

def sampleLibrary : Program Unit :=
  [.define ⟨"f", [], .int⟩ [.ret (.call "g" [.lit (.number 2) ()] ()) ()] (),
    .assign "x" (.lit (.number 1) ()) (),
    .define ⟨"g", [⟨"n", .int⟩], .int⟩ [.expr (.call "f" [] ()) (), .ret (.var "x" ()) ()] (),
    .pass (),
    .define ⟨"h", [⟨"n", .int⟩], .bool⟩ [.ret (.binary ">" (.var "n" ()) (.var "x" ()) ()) ()] (),
    .expr (.call "h" [.var "x" ()] ()) ()]

def sampleLibraryTyped : Program Ty :=
  [.define ⟨"f", [], .int⟩ [.ret (.call "g" [.lit (.number 2) .int] .int) .int] .none,
    .assign "x" (.lit (.number 1) .int) .none,
    .define ⟨"g", [⟨"n", .int⟩], .int⟩
      [.expr (.call "f" [] .int) .none, .ret (.var "x" .int) .int] .none,
    .pass .none,
    .define ⟨"h", [⟨"n", .int⟩], .bool⟩
      [.ret (.binary ">" (.var "n" .int) (.var "x" .int) .bool) .bool] .none,
    .expr (.call "h" [.var "x" .int] .bool) .none]

theorem annotate_delete_sample :
    (sampleLibrary.annotate .strict).result = .ok sampleLibraryTyped ∧
    (sampleLibrary.deleted {0, 2, 3}).length = 3 ∧
    (∀ s ∈ sampleLibrary.deleted {0, 2, 3}, s.target? = none) ∧
    (∀ head ∈ (sampleLibrary.deleted {0, 2, 3}).headers, ∀ s ∈ sampleLibrary.kept {0, 2, 3},
      head.name ∉ s.callees) ∧
    ((sampleLibrary.kept {0, 2, 3}).annotate .strict).result =
      .ok (sampleLibraryTyped.kept {0, 2, 3}) := by
  have accepted : (sampleLibrary.annotate .strict).result = .ok sampleLibraryTyped := by rfl
  have plain : ∀ s ∈ sampleLibrary.deleted {0, 2, 3}, s.target? = none := by decide
  have uncalled : ∀ head ∈ (sampleLibrary.deleted {0, 2, 3}).headers,
      ∀ s ∈ sampleLibrary.kept {0, 2, 3}, head.name ∉ s.callees := by decide
  exact ⟨accepted, rfl, plain, uncalled, annotate_delete _ _ _ accepted _ plain uncalled⟩

end Program

end ScriptCheck
