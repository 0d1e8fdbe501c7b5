import ScriptCheck.Proofs.Legibility

/-! The lines of printed statements. A body ends before the first line that is indented less, so the
text of a program has one reading as statements too. -/

namespace ScriptCheck

theorem toList_indent (depth : Nat) : (indent depth).toList = List.replicate (4 * depth) ' ' := by
  induction depth with
  | zero => rfl
  | succ depth ih =>
    rw [indent, String.toList_append, ih, Nat.mul_succ, Nat.add_comm, List.replicate_add]
    rfl

/-- No line at this depth, or deeper, stands at the front of the text. -/
def Outside (depth : Nat) (text : List Char) : Prop :=
  text = [] ∨ ¬ (indent depth).toList <+: text

theorem Outside.deeper {depth : Nat} {text : List Char} (outside : Outside depth text) :
    Outside (depth + 1) text := by
  rcases outside with empty | shallow
  · exact .inl empty
  · refine .inr fun starts => shallow ?_
    have shorter : (indent depth).toList <+: (indent (depth + 1)).toList := by
      rw [toList_indent, toList_indent, List.prefix_replicate_iff]
      simp
    exact shorter.trans starts

theorem outside_of_start {depth : Nat} {c : Char} {chars : List Char} (visible : c ≠ ' ') :
    Outside (depth + 1) ((indent depth).toList ++ c :: chars) := by
  refine .inr fun starts => ?_
  rw [toList_indent, toList_indent, Nat.mul_succ, List.replicate_add,
    List.prefix_append_right_inj] at starts
  obtain ⟨more, same⟩ := starts
  exact visible (List.cons.inj same).1.symm

namespace Stmt

def word : Stmt Ty → String
  | .assign name _ _ => name
  | .define _ _ _ => "def"
  | .expr value _ => value.word
  | .ret _ _ => "return"
  | .pass _ => "pass"

def tail (depth : Nat) (rest : List Char) : Stmt Ty → List Char
  | .assign _ value _ => ' ' :: '=' :: ' ' :: (value.render.toList ++ '\n' :: rest)
  | .define head body _ => head.tail ((renderAll (depth + 1) body).toList ++ rest)
  | .expr value _ => value.tail.toList ++ '\n' :: rest
  | .ret value _ => ' ' :: (value.render.toList ++ '\n' :: rest)
  | .pass _ => '\n' :: rest

theorem toList_render (s : Stmt Ty) (depth : Nat) (rest : List Char) :
    (s.render depth).toList ++ rest =
      (indent depth).toList ++ (s.word.toList ++ s.tail depth rest) := by
  cases s with
  | define head body label =>
    simp [render, line, word, tail, Header.render, Header.tail, String.toList_intercalate,
      Function.comp_def]
  | expr value label => simp [render, line, word, tail, Expr.render_eq value]
  | _ => simp [render, line, word, tail]

theorem isWord_word {s : Stmt Ty} (legible : s.Legible) : IsWord s.word := by
  cases s with
  | assign name value label => exact legible.1.isWord
  | expr value label => exact Expr.isWord_word (legible.1 value value.self_mem_nodes)
  | _ => exact isWord_of_keyword (by simp [word, keywords])

theorem breaks_tail (s : Stmt Ty) (depth : Nat) (rest : List Char) : Breaks (s.tail depth rest) := by
  cases s with
  | expr value label => exact value.breaks_tail _
  | _ => exact breaks_cons (by decide) _

/-- The word that begins statements of this kind and no others. -/
def keyword? : Stmt Ty → Option String
  | .define _ _ _ => some "def"
  | .ret _ _ => some "return"
  | .pass _ => some "pass"
  | .assign _ _ _ => none
  | .expr _ _ => none

theorem keyword?_eq {s : Stmt Ty} (legible : s.Legible) :
    s.keyword? = if s.word ∈ keywords then some s.word else none := by
  cases s with
  | assign name value label => exact (if_neg legible.1.not_keyword).symm
  | expr value label =>
    exact (if_neg (Expr.word_not_keyword (legible.1 value value.self_mem_nodes))).symm
  | define head body label => rfl
  | ret value label => rfl
  | pass label => rfl

theorem word_tail_of_same {s other : Stmt Ty} {depth : Nat} {rest rest' : List Char}
    (legible : s.Legible) (legible' : other.Legible)
    (same : (s.render depth).toList ++ rest = (other.render depth).toList ++ rest') :
    s.word = other.word ∧ s.keyword? = other.keyword? ∧
      s.tail depth rest = other.tail depth rest' := by
  rw [toList_render, toList_render] at same
  obtain ⟨words, tails⟩ := (isWord_word legible).append_cancel (isWord_word legible')
    (s.breaks_tail depth rest) (other.breaks_tail depth rest') (List.append_cancel_left same)
  have kinds : s.keyword? = other.keyword? := by
    rw [keyword?_eq legible, keyword?_eq legible', words]
  exact ⟨words, kinds, tails⟩

theorem render_starts {s : Stmt Ty} (legible : s.Legible) (depth : Nat) (rest : List Char) :
    ∃ c chars, (s.render depth).toList ++ rest = (indent depth).toList ++ c :: chars ∧ c ≠ ' ' := by
  have visible : ∀ c, isWordChar c = true ∨ c = '(' → c ≠ ' ' := by
    intro c kind blank
    rw [blank] at kind
    exact absurd kind (by decide)
  rw [toList_render]
  by_cases unnamed : s.word = ""
  · cases s with
    | assign name value label => exact absurd unnamed legible.1.nonempty
    | expr value label =>
      obtain ⟨c, chars, starts, kind⟩ :=
        Expr.render_starts (legible.1 value value.self_mem_nodes) ('\n' :: rest)
      rw [Expr.render_eq, String.toList_append, List.append_assoc] at starts
      exact ⟨c, chars, congrArg _ starts, visible c kind⟩
    | _ => simp [word] at unnamed
  · obtain ⟨c, chars, starts, inside⟩ := (isWord_word legible).starts unnamed (s.tail depth rest)
    exact ⟨c, chars, congrArg _ starts, visible c (.inl inside)⟩

theorem outside_render {s : Stmt Ty} (legible : s.Legible) (depth : Nat) (rest : List Char) :
    Outside (depth + 1) ((s.render depth).toList ++ rest) := by
  obtain ⟨c, chars, starts, visible⟩ := render_starts legible depth rest
  rw [starts]
  exact outside_of_start visible

theorem not_outside_render {s : Stmt Ty} (legible : s.Legible) (depth : Nat) (rest : List Char) :
    ¬ Outside depth ((s.render depth).toList ++ rest) := by
  obtain ⟨c, chars, starts, -⟩ := render_starts legible depth rest
  rw [starts]
  intro outside
  rcases outside with empty | shallow
  · simp at empty
  · exact shallow (List.prefix_append _ _)

theorem outside_renderAll {stmts : List (Stmt Ty)} {depth : Nat} {rest : List Char}
    (legible : ∀ part ∈ partsAll stmts, part.Legible) (outside : Outside depth rest) :
    Outside (depth + 1) ((renderAll depth stmts).toList ++ rest) := by
  cases stmts with
  | nil => exact outside.deeper
  | cons s stmts =>
    have first := (List.forall_mem_append.mp legible).1 s s.self_mem_parts
    rw [renderAll, String.toList_append, List.append_assoc]
    exact outside_render first depth _

mutual
/-- Step: a text settles the statement at its front, if no line of the depth of a body follows. -/
theorem render_append_cancel : ∀ (s other : Stmt Ty) (depth : Nat) (rest rest' : List Char),
    (∀ part ∈ s.parts, part.Legible) → (∀ part ∈ other.parts, part.Legible) →
    Outside (depth + 1) rest → Outside (depth + 1) rest' →
    (s.render depth).toList ++ rest = (other.render depth).toList ++ rest' →
    s = other ∧ rest = rest'
  | .assign name value label, other, depth, rest, rest', legible, legible', _, _, same => by
    have here := legible _ (self_mem_parts _)
    have here' := legible' other other.self_mem_parts
    obtain ⟨words, kinds, tails⟩ := word_tail_of_same here here' same
    cases other with
    | assign name' value' label' =>
      obtain ⟨-, inValue, rfl⟩ := here
      obtain ⟨-, inValue', rfl⟩ := here'
      have values : value.render.toList ++ '\n' :: rest = value'.render.toList ++ '\n' :: rest' := by
        simpa [tail] using tails
      obtain ⟨rfl, rests⟩ := Expr.render_append_cancel value value' _ _ inValue inValue' values
      cases words
      exact ⟨rfl, (List.cons.inj rests).2⟩
    | expr value' label' => exact absurd tails.symm (value'.tail_ne_equals _ _)
    | _ => cases kinds
  | .define head body label, other, depth, rest, rest', legible, legible', outside, outside',
      same => by
    have here := legible _ (self_mem_parts _)
    have here' := legible' other other.self_mem_parts
    obtain ⟨-, kinds, tails⟩ := word_tail_of_same here here' same
    cases other with
    | define head' body' label' =>
      obtain ⟨inHead, rfl⟩ := here
      obtain ⟨inHead', rfl⟩ := here'
      obtain ⟨rfl, bodies⟩ := Header.tail_cancel inHead inHead' tails
      obtain ⟨rfl, rests⟩ := renderAll_append_cancel body body' (depth + 1) rest rest'
        (List.forall_mem_cons.mp legible).2 (List.forall_mem_cons.mp legible').2 outside outside'
        bodies
      exact ⟨rfl, rests⟩
    | _ => simp [keyword?] at kinds
  | .expr value label, other, depth, rest, rest', legible, legible', _, _, same => by
    have here := legible _ (self_mem_parts _)
    have here' := legible' other other.self_mem_parts
    obtain ⟨words, kinds, tails⟩ := word_tail_of_same here here' same
    cases other with
    | expr value' label' =>
      obtain ⟨inValue, rfl⟩ := here
      obtain ⟨inValue', rfl⟩ := here'
      have values : value.render.toList ++ '\n' :: rest = value'.render.toList ++ '\n' :: rest' := by
        rw [Expr.render_eq, Expr.render_eq, String.toList_append, String.toList_append,
          List.append_assoc, List.append_assoc]
        exact congrArg₂ (· ++ ·) (congrArg String.toList words) tails
      obtain ⟨rfl, rests⟩ := Expr.render_append_cancel value value' _ _ inValue inValue' values
      exact ⟨rfl, (List.cons.inj rests).2⟩
    | assign name' value' label' => exact absurd tails (value.tail_ne_equals _ _)
    | _ => cases kinds
  | .ret value label, other, depth, rest, rest', legible, legible', _, _, same => by
    have here := legible _ (self_mem_parts _)
    have here' := legible' other other.self_mem_parts
    obtain ⟨-, kinds, tails⟩ := word_tail_of_same here here' same
    cases other with
    | ret value' label' =>
      obtain ⟨inValue, rfl⟩ := here
      obtain ⟨inValue', rfl⟩ := here'
      obtain ⟨rfl, rests⟩ := Expr.render_append_cancel value value' _ _ inValue inValue'
        (List.cons.inj tails).2
      exact ⟨rfl, (List.cons.inj rests).2⟩
    | _ => simp [keyword?] at kinds
  | .pass label, other, depth, rest, rest', legible, legible', _, _, same => by
    have here := legible _ (self_mem_parts _)
    have here' := legible' other other.self_mem_parts
    obtain ⟨-, kinds, tails⟩ := word_tail_of_same here here' same
    cases other with
    | pass label' =>
      cases here
      cases here'
      exact ⟨rfl, (List.cons.inj tails).2⟩
    | _ => simp [keyword?] at kinds

theorem renderAll_append_cancel : ∀ (stmts others : List (Stmt Ty)) (depth : Nat)
    (rest rest' : List Char),
    (∀ part ∈ partsAll stmts, part.Legible) → (∀ part ∈ partsAll others, part.Legible) →
    Outside depth rest → Outside depth rest' →
    (renderAll depth stmts).toList ++ rest = (renderAll depth others).toList ++ rest' →
    stmts = others ∧ rest = rest'
  | [], [], _, _, _, _, _, _, _, same => ⟨rfl, same⟩
  | [], other :: others, depth, rest, rest', _, legible', outside, _, same => by
    -- one more statement on the right would be a line of this depth on the left
    have first := (List.forall_mem_append.mp legible').1 other other.self_mem_parts
    rw [renderAll, renderAll, String.toList_append, List.append_assoc] at same
    change rest = _ at same
    rw [same] at outside
    exact absurd outside (not_outside_render first depth _)
  | s :: stmts, [], depth, rest, rest', legible, _, _, outside', same => by
    have first := (List.forall_mem_append.mp legible).1 s s.self_mem_parts
    rw [renderAll, renderAll, String.toList_append, List.append_assoc] at same
    change _ = rest' at same
    rw [← same] at outside'
    exact absurd outside' (not_outside_render first depth _)
  | s :: stmts, other :: others, depth, rest, rest', legible, legible', outside, outside',
      same => by
    obtain ⟨inFirst, inRest⟩ := List.forall_mem_append.mp legible
    obtain ⟨inFirst', inRest'⟩ := List.forall_mem_append.mp legible'
    rw [renderAll, renderAll, String.toList_append, String.toList_append, List.append_assoc,
      List.append_assoc] at same
    obtain ⟨rfl, later⟩ := render_append_cancel s other depth _ _ inFirst inFirst'
      (outside_renderAll inRest outside) (outside_renderAll inRest' outside') same
    obtain ⟨rfl, rests⟩ := renderAll_append_cancel stmts others depth rest rest' inRest inRest'
      outside outside' later
    exact ⟨rfl, rests⟩
end

end Stmt

namespace Program

/-- Legible programs have the same text only if they are the same program, with the same types on all
their parts. -/
theorem render_unambiguous {program other : Program Ty} (legible : program.Legible)
    (legible' : other.Legible) : program.render = other.render ↔ program = other := by
  constructor
  · intro same
    have texts : (Stmt.renderAll 0 program).toList ++ [] = (Stmt.renderAll 0 other).toList ++ [] :=
      congrArg (fun text => text.toList ++ []) same
    exact (Stmt.renderAll_append_cancel program other 0 [] [] legible legible' (.inl rfl) (.inl rfl)
      texts).1
  · intro same
    rw [same]

def sampleReturn : Stmt Ty :=
  .ret (.binary "-" (.var "a" .int)
    (.call "h" [.lit (.number (-5)) .int, .var "b" .bool] .int) .int) .int

def sampleBehind : Program Ty :=
  [.define ⟨"f", [⟨"a", .int⟩, ⟨"b", .bool⟩], .int⟩
    [.define ⟨"g", [], .none⟩ [] .none, sampleReturn] .none]

def sampleWithin : Program Ty :=
  [.define ⟨"f", [⟨"a", .int⟩, ⟨"b", .bool⟩], .int⟩
    [.define ⟨"g", [], .none⟩ [sampleReturn] .none] .none]

theorem render_unambiguous_sample :
    sampleBehind.Legible ∧ sampleWithin.Legible ∧ sampleBehind.render ≠ sampleWithin.render := by
  have behind : sampleBehind.Legible := by decide
  have within : sampleWithin.Legible := by decide
  exact ⟨behind, within, (render_unambiguous behind within).not.mpr (by decide)⟩

end Program

end ScriptCheck
