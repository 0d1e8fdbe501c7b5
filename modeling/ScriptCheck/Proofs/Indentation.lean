import ScriptCheck.Proofs.Layout

/-! Printed statements line by line. A statement is printed on one line for each of its parts, and
the depth it is printed at moves all these lines alike. -/

namespace ScriptCheck

/-- The lines of a text, each without the line break that ends it. What follows the last line break
is no line. -/
def breakLines (text : String) : List String :=
  (text.toList.splitOn '\n').dropLast.map String.ofList

def joinLines (rows : List String) : String :=
  String.join (rows.map (· ++ "\n"))

def shiftLines (width : Nat) (text : String) : String :=
  joinLines ((breakLines text).map (String.ofList (List.replicate width ' ') ++ ·))

def Unbroken (text : String) : Prop := '\n' ∉ text.toList

instance : DecidablePred Unbroken := fun text => inferInstanceAs (Decidable ('\n' ∉ text.toList))

theorem joinLines_append (rows more : List String) :
    joinLines (rows ++ more) = joinLines rows ++ joinLines more := by
  simp [joinLines]

theorem toList_joinLines (rows : List String) :
    (joinLines rows).toList = ['\n'].intercalate (rows.map String.toList ++ [[]]) := by
  induction rows with
  | nil => rfl
  | cons row rows ih =>
    have first : (joinLines (row :: rows)).toList =
        row.toList ++ ['\n'] ++ (joinLines rows).toList := by
      simp [joinLines]
    obtain ⟨next, others, more⟩ : ∃ next others, rows.map String.toList ++ [[]] = next :: others :=
      List.exists_cons_of_ne_nil (by simp)
    rw [first, ih, List.map_cons, List.cons_append, more, List.intercalate_cons_cons]

theorem breakLines_joinLines {rows : List String} (unbroken : ∀ row ∈ rows, Unbroken row) :
    breakLines (joinLines rows) = rows := by
  have apart : ∀ row ∈ rows.map String.toList ++ [[]], '\n' ∉ row := by
    intro row member
    rcases List.mem_append.mp member with inside | last
    · obtain ⟨text, given, rfl⟩ := List.mem_map.mp inside
      exact unbroken text given
    · rw [List.mem_singleton.mp last]
      exact List.not_mem_nil
  -- the empty row behind the last line break is the one that `breakLines` leaves out
  rw [breakLines, toList_joinLines, List.splitOn_intercalate '\n' apart (by simp)]
  simp [Function.comp_def]

@[simp] theorem unbroken_append {text more : String} :
    Unbroken (text ++ more) ↔ Unbroken text ∧ Unbroken more := by
  simp [Unbroken]

theorem IsWord.unbroken {text : String} (inside : IsWord text) : Unbroken text := by
  intro member
  exact absurd (inside _ member) (by decide)

@[simp] theorem Ty.unbroken_name (ty : Ty) : Unbroken ty.name := by
  cases ty <;> decide

theorem unbroken_intercalate {texts : List String} (unbroken : ∀ text ∈ texts, Unbroken text) :
    Unbroken (", ".intercalate texts) := by
  induction texts with
  | nil => decide
  | cons text texts ih =>
    obtain ⟨first, others⟩ := List.forall_mem_cons.mp unbroken
    cases texts with
    | nil => rwa [String.intercalate_singleton]
    | cons next texts =>
      rw [String.intercalate_cons_cons, unbroken_append, unbroken_append]
      exact ⟨⟨first, by decide⟩, ih others⟩

section Spellings

variable {α : Type}

mutual
def Expr.spellings : Expr α → List String
  | .lit _ _ => []
  | .var name _ => [name]
  | .binary op left right _ => op :: (left.spellings ++ right.spellings)
  | .call name args _ => name :: Expr.spellingsAll args

def Expr.spellingsAll : List (Expr α) → List String
  | [] => []
  | e :: rest => e.spellings ++ Expr.spellingsAll rest
end

def Header.spellings (head : Header) : List String :=
  head.name :: head.params.map Param.name

mutual
def Stmt.spellings : Stmt α → List String
  | .assign name value _ => name :: value.spellings
  | .define head body _ => head.spellings ++ Stmt.spellingsAll body
  | .expr value _ | .ret value _ => value.spellings
  | .pass _ => []

def Stmt.spellingsAll : List (Stmt α) → List String
  | [] => []
  | s :: rest => s.spellings ++ Stmt.spellingsAll rest
end

end Spellings

mutual
theorem Expr.unbroken_render : ∀ e : Expr Ty, (∀ word ∈ e.spellings, Unbroken word) →
    Unbroken e.render
  | .lit value ty, _ => by
    simp only [render, unbroken_append, Ty.unbroken_name, and_true]
    exact ⟨value.isWord_render.unbroken, by decide⟩
  | .var name ty, unbroken => by
    simp only [render, unbroken_append, Ty.unbroken_name, and_true]
    exact ⟨unbroken name (.head _), by decide⟩
  | .binary op left right ty, unbroken => by
    obtain ⟨own, operands⟩ := List.forall_mem_cons.mp unbroken
    obtain ⟨inLeft, inRight⟩ := List.forall_mem_append.mp operands
    have leftText := left.unbroken_render inLeft
    have rightText := right.unbroken_render inRight
    simp only [render, unbroken_append, Ty.unbroken_name, own, leftText, rightText, and_true]
    decide
  | .call name args ty, unbroken => by
    obtain ⟨own, inArgs⟩ := List.forall_mem_cons.mp unbroken
    have list := unbroken_intercalate (Expr.unbroken_renderAll args inArgs)
    simp only [render, unbroken_append, Ty.unbroken_name, own, list, and_true]
    decide

theorem Expr.unbroken_renderAll : ∀ args : List (Expr Ty),
    (∀ word ∈ Expr.spellingsAll args, Unbroken word) →
    ∀ text ∈ Expr.renderAll args, Unbroken text
  | [], _, text, member => by cases member
  | arg :: args, unbroken, text, member => by
    obtain ⟨inFirst, inRest⟩ := List.forall_mem_append.mp unbroken
    rcases List.mem_cons.mp member with rfl | later
    · exact arg.unbroken_render inFirst
    · exact Expr.unbroken_renderAll args inRest text later
end

theorem Header.unbroken_render {head : Header} (unbroken : ∀ word ∈ head.spellings, Unbroken word) :
    Unbroken head.render := by
  obtain ⟨own, inParams⟩ := List.forall_mem_cons.mp unbroken
  have list : Unbroken (", ".intercalate (head.params.map Param.render)) := by
    apply unbroken_intercalate
    intro text member
    obtain ⟨p, inside, rfl⟩ := List.mem_map.mp member
    simp only [Param.render, unbroken_append, Ty.unbroken_name, and_true]
    exact ⟨inParams p.name (List.mem_map_of_mem inside), by decide⟩
  simp only [render, unbroken_append, Ty.unbroken_name, own, list, and_true]
  decide

theorem indent_succ (depth : Nat) : indent (depth + 1) = indent depth ++ "    " := by
  apply String.toList_inj.mp
  rw [String.toList_append, toList_indent, toList_indent, Nat.mul_succ, List.replicate_add]
  rfl

theorem indent_eq (depth : Nat) : indent depth = String.ofList (List.replicate (4 * depth) ' ') := by
  rw [← toList_indent, String.ofList_toList]

namespace Stmt

mutual
/-- What a statement shows at the margin, row by row. The rows of a body are moved in by one level. -/
def rows : Stmt Ty → List String
  | .assign name value _ => [name ++ " = " ++ value.render]
  | .define head body _ => head.render :: (rowsAll body).map ("    " ++ ·)
  | .expr value _ => [value.render]
  | .ret value _ => ["return " ++ value.render]
  | .pass _ => ["pass"]

def rowsAll : List (Stmt Ty) → List String
  | [] => []
  | s :: rest => s.rows ++ rowsAll rest
end

mutual
theorem render_eq_joinLines : ∀ (s : Stmt Ty) (depth : Nat),
    s.render depth = joinLines (s.rows.map (indent depth ++ ·))
  | .assign _ _ _, _ | .expr _ _, _ | .ret _ _, _ | .pass _, _ => by
    simp [render, line, rows, joinLines]
  | .define head body _, depth => by
    -- the body is one level deeper, which its rows say already
    have deeper : (rowsAll body).map (indent (depth + 1) ++ ·) =
        ((rowsAll body).map ("    " ++ ·)).map (indent depth ++ ·) := by
      simp [indent_succ, String.append_assoc]
    rw [render, rows, renderAll_eq_joinLines body (depth + 1), deeper]
    simp [line, joinLines]

theorem renderAll_eq_joinLines : ∀ (stmts : List (Stmt Ty)) (depth : Nat),
    renderAll depth stmts = joinLines ((rowsAll stmts).map (indent depth ++ ·))
  | [], _ => rfl
  | s :: rest, depth => by
    rw [renderAll, render_eq_joinLines s depth, renderAll_eq_joinLines rest depth, rowsAll,
      List.map_append, joinLines_append]
end

mutual
theorem length_rows : ∀ s : Stmt Ty, s.rows.length = s.parts.length
  | .assign _ _ _ | .expr _ _ | .ret _ _ | .pass _ => rfl
  | .define _ body _ => by
    rw [rows, parts, List.length_cons, List.length_cons, List.length_map, length_rowsAll body]

theorem length_rowsAll : ∀ stmts : List (Stmt Ty),
    (rowsAll stmts).length = (partsAll stmts).length
  | [] => rfl
  | s :: rest => by
    rw [rowsAll, partsAll, List.length_append, List.length_append, length_rows s,
      length_rowsAll rest]
end

mutual
theorem unbroken_rows : ∀ s : Stmt Ty, (∀ word ∈ s.spellings, Unbroken word) →
    ∀ row ∈ s.rows, Unbroken row
  | .assign name value label, unbroken => by
    obtain ⟨own, inValue⟩ := List.forall_mem_cons.mp unbroken
    simp only [rows, List.mem_singleton, forall_eq, unbroken_append]
    exact ⟨⟨own, by decide⟩, value.unbroken_render inValue⟩
  | .define head body label, unbroken => by
    obtain ⟨inHead, inBody⟩ := List.forall_mem_append.mp unbroken
    refine List.forall_mem_cons.mpr ⟨Header.unbroken_render inHead, ?_⟩
    intro row member
    obtain ⟨inner, inside, rfl⟩ := List.mem_map.mp member
    exact unbroken_append.mpr ⟨by decide, unbroken_rowsAll body inBody inner inside⟩
  | .expr value label, unbroken => by
    simp only [rows, List.mem_singleton, forall_eq]
    exact value.unbroken_render unbroken
  | .ret value label, unbroken => by
    simp only [rows, List.mem_singleton, forall_eq, unbroken_append]
    exact ⟨by decide, value.unbroken_render unbroken⟩
  | .pass label, _ => by
    simp only [rows, List.mem_singleton, forall_eq]
    decide

theorem unbroken_rowsAll : ∀ stmts : List (Stmt Ty),
    (∀ word ∈ spellingsAll stmts, Unbroken word) → ∀ row ∈ rowsAll stmts, Unbroken row
  | [], _, row, member => by cases member
  | s :: rest, unbroken, row, member => by
    obtain ⟨inFirst, inRest⟩ := List.forall_mem_append.mp unbroken
    rcases List.mem_append.mp member with first | later
    · exact s.unbroken_rows inFirst row first
    · exact unbroken_rowsAll rest inRest row later
end

theorem unbroken_indented {s : Stmt Ty} (unbroken : ∀ word ∈ s.spellings, Unbroken word)
    (depth : Nat) : ∀ row ∈ s.rows.map (indent depth ++ ·), Unbroken row := by
  intro row member
  obtain ⟨text, inside, rfl⟩ := List.mem_map.mp member
  have blanks : Unbroken (indent depth) := by
    rw [Unbroken, toList_indent]
    simp
  exact unbroken_append.mpr ⟨blanks, s.unbroken_rows unbroken text inside⟩

theorem breakLines_render {s : Stmt Ty} (unbroken : ∀ word ∈ s.spellings, Unbroken word)
    (depth : Nat) : breakLines (s.render depth) = s.rows.map (indent depth ++ ·) := by
  rw [render_eq_joinLines, breakLines_joinLines (unbroken_indented unbroken depth)]

/-- A statement whose names and operators hold no line break is printed on as many lines as it has
parts, each ended by a line break; and printing it deeper puts four blanks for each level in front of
every line. -/
theorem render_eq_shiftLines (s : Stmt Ty) (unbroken : ∀ word ∈ s.spellings, Unbroken word)
    (depth : Nat) :
    s.render depth = joinLines (breakLines (s.render depth)) ∧
    (∀ row ∈ breakLines (s.render depth), Unbroken row) ∧
    (breakLines (s.render depth)).length = s.parts.length ∧
    s.render depth = shiftLines (4 * depth) (s.render 0) := by
  have here := breakLines_render unbroken depth
  have margin : breakLines (s.render 0) = s.rows := by
    rw [breakLines_render unbroken 0]
    simp [indent]
  refine ⟨?_, ?_, ?_, ?_⟩
  · rw [here]
    exact render_eq_joinLines s depth
  · rw [here]
    exact unbroken_indented unbroken depth
  · rw [here, List.length_map, length_rows]
  · rw [shiftLines, margin, ← indent_eq]
    exact render_eq_joinLines s depth

def sampleNested : Stmt Ty :=
  .define ⟨"f", [⟨"a", .int⟩, ⟨"b", .bool⟩], .none⟩
    [.define ⟨"g", [], .bool⟩
      [.define ⟨"h", [], .int⟩ [] .int,
        .ret (.binary "<>" (.var "a" .bool)
          (.call "h" [.lit (.number (-5)) .int, .lit .none .bool] .int) .none) .int] .none,
      .assign "y" (.lit (.bool true) .bool) .none] .none

theorem render_eq_shiftLines_sample :
    (∀ word ∈ sampleNested.spellings, Unbroken word) ∧
    (breakLines (sampleNested.render 3)).length = 5 ∧
    sampleNested.render 3 = shiftLines 12 (sampleNested.render 0) := by
  have unbroken : ∀ word ∈ sampleNested.spellings, Unbroken word := by decide
  obtain ⟨-, -, count, shifted⟩ := render_eq_shiftLines sampleNested unbroken 3
  exact ⟨unbroken, count, shifted⟩

end Stmt

end ScriptCheck
