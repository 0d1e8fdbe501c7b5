import ScriptCheck.Proofs.Occurrences
import ScriptCheck.Proofs.Words
import ScriptCheck.Tree.Equality

/-! Printed programs can be read in one way only. The word that a text begins with, and the
characters behind it, tell what kind of tree is printed; each part of it ends where its own text says;
and a function body ends where the indentation does. -/

namespace ScriptCheck

def Expr.Legible : Expr Ty → Prop
  | .lit _ _ => True
  | .var name _ => IsIdentifier name
  | .binary op _ _ _ => op ∈ operatorTexts
  | .call name _ _ => IsIdentifier name

structure Header.Legible (head : Header) : Prop where
  name : IsIdentifier head.name
  params : ∀ p ∈ head.params, IsIdentifier p.name

/-- What the statement itself shows can stand in program text, and the label, which is not shown,
is the one that statements are given. -/
def Stmt.Legible : Stmt Ty → Prop
  | .assign name value label =>
    IsIdentifier name ∧ (∀ node ∈ value.nodes, node.Legible) ∧ label = .none
  | .define head _ label => head.Legible ∧ label = .none
  | .expr value label => (∀ node ∈ value.nodes, node.Legible) ∧ label = .none
  | .ret value label => (∀ node ∈ value.nodes, node.Legible) ∧ label = value.ty
  | .pass label => label = .none

def Program.Legible (program : Program Ty) : Prop :=
  ∀ s ∈ Stmt.partsAll program, s.Legible

instance : DecidablePred Expr.Legible
  | .lit _ _ => .isTrue trivial
  | .var name _ => inferInstanceAs (Decidable (IsIdentifier name))
  | .binary op _ _ _ => inferInstanceAs (Decidable (op ∈ operatorTexts))
  | .call name _ _ => inferInstanceAs (Decidable (IsIdentifier name))

instance : DecidablePred Header.Legible := fun head =>
  decidable_of_iff (IsIdentifier head.name ∧ ∀ p ∈ head.params, IsIdentifier p.name)
    ⟨fun ⟨name, params⟩ => ⟨name, params⟩, fun ⟨name, params⟩ => ⟨name, params⟩⟩

instance : DecidablePred Stmt.Legible
  | .assign name value label => inferInstanceAs
    (Decidable (IsIdentifier name ∧ (∀ node ∈ value.nodes, node.Legible) ∧ label = .none))
  | .define head _ label => inferInstanceAs (Decidable (head.Legible ∧ label = .none))
  | .expr value label =>
    inferInstanceAs (Decidable ((∀ node ∈ value.nodes, node.Legible) ∧ label = .none))
  | .ret value label =>
    inferInstanceAs (Decidable ((∀ node ∈ value.nodes, node.Legible) ∧ label = value.ty))
  | .pass label => inferInstanceAs (Decidable (label = .none))

instance (program : Program Ty) : Decidable program.Legible :=
  inferInstanceAs (Decidable (∀ s ∈ Stmt.partsAll program, s.Legible))

namespace Expr

def word : Expr Ty → String
  | .lit value _ => value.render
  | .var name _ => name
  | .binary _ _ _ _ => ""
  | .call name _ _ => name

def tail : Expr Ty → String
  | .lit _ ty => " : " ++ ty.name
  | .var _ ty => " : " ++ ty.name
  | .binary op left right ty =>
    "(" ++ left.render ++ " " ++ op ++ " " ++ right.render ++ ") : " ++ ty.name
  | .call _ args ty => "(" ++ ", ".intercalate (Expr.renderAll args) ++ ") : " ++ ty.name

theorem render_eq (e : Expr Ty) : e.render = e.word ++ e.tail := by
  cases e <;> simp [render, word, tail, String.append_assoc]

theorem self_mem_nodes {α : Type} (e : Expr α) : e ∈ e.nodes := by
  cases e <;> exact List.mem_cons_self

theorem renderAll_eq_map (args : List (Expr Ty)) : renderAll args = args.map render := by
  induction args with
  | nil => rfl
  | cons arg args ih => rw [renderAll, ih, List.map_cons]

theorem isWord_word {e : Expr Ty} (legible : e.Legible) : IsWord e.word := by
  cases e with
  | lit value ty => exact value.isWord_render
  | var name ty => exact IsIdentifier.isWord legible
  | binary op left right ty => intro c member; cases member
  | call name args ty => exact IsIdentifier.isWord legible

theorem breaks_tail (e : Expr Ty) (rest : List Char) : Breaks (e.tail.toList ++ rest) := by
  cases e <;> simp [tail, Breaks] <;> decide

def typeText (ty : Ty) (rest : List Char) : List Char :=
  ' ' :: ':' :: ' ' :: (ty.name.toList ++ rest)

theorem typeText_cancel {ty other : Ty} {rest rest' : List Char}
    (same : typeText ty rest = typeText other rest') : ty = other ∧ rest = rest' := by
  have names : ty.name.toList ++ rest = other.name.toList ++ rest' := by
    simpa [typeText] using same
  exact Ty.name_append_cancel names

theorem tail_lit (value : Literal) (ty : Ty) (rest : List Char) :
    (lit value ty).tail.toList ++ rest = typeText ty rest := by
  simp [tail, typeText]

theorem tail_var (name : String) (ty : Ty) (rest : List Char) :
    (var name ty).tail.toList ++ rest = typeText ty rest := by
  simp [tail, typeText]

theorem tail_binary (op : String) (left right : Expr Ty) (ty : Ty) (rest : List Char) :
    (binary op left right ty).tail.toList ++ rest =
      '(' :: (left.render.toList ++ ' ' :: (op.toList ++ ' ' :: (right.render.toList ++
        ')' :: typeText ty rest))) := by
  simp [tail, typeText]

theorem tail_call (name : String) (args : List (Expr Ty)) (ty : Ty) (rest : List Char) :
    (call name args ty).tail.toList ++ rest =
      '(' :: ([',', ' '].intercalate (args.map fun arg => arg.render.toList) ++
        ')' :: typeText ty rest) := by
  simp [tail, typeText, renderAll_eq_map, String.toList_intercalate, Function.comp_def]

theorem word_tail_of_same {e other : Expr Ty} {rest rest' : List Char} (legible : e.Legible)
    (legible' : other.Legible)
    (same : e.render.toList ++ rest = other.render.toList ++ rest') :
    e.word = other.word ∧ e.tail.toList ++ rest = other.tail.toList ++ rest' := by
  rw [render_eq e, render_eq other, String.toList_append, String.toList_append, List.append_assoc,
    List.append_assoc] at same
  exact (isWord_word legible).append_cancel (isWord_word legible') (breaks_tail e rest)
    (breaks_tail other rest') same

theorem word_not_keyword {e : Expr Ty} (legible : e.Legible) : e.word ∉ keywords := by
  cases e with
  | lit value ty => exact value.render_not_keyword
  | var name ty => exact IsIdentifier.not_keyword legible
  | binary op left right ty => simp [word, keywords]
  | call name args ty => exact IsIdentifier.not_keyword legible

theorem tail_ne_equals (e : Expr Ty) (rest rest' : List Char) :
    e.tail.toList ++ rest ≠ ' ' :: '=' :: rest' := by
  cases e <;> simp [tail]

theorem render_starts {e : Expr Ty} (legible : e.Legible) (rest : List Char) :
    ∃ c chars, e.render.toList ++ rest = c :: chars ∧ (isWordChar c = true ∨ c = '(') := by
  by_cases unnamed : e.word = ""
  · cases e with
    | lit value ty => exact absurd unnamed value.render_ne_empty
    | var name ty => exact absurd unnamed legible.nonempty
    | binary op left right ty =>
      rw [render_eq, String.toList_append, List.append_assoc, tail_binary]
      exact ⟨'(', _, rfl, .inr rfl⟩
    | call name args ty => exact absurd unnamed legible.nonempty
  · obtain ⟨c, chars, starts, inside⟩ := (isWord_word legible).starts unnamed (e.tail.toList ++ rest)
    rw [render_eq, String.toList_append, List.append_assoc, starts]
    exact ⟨c, chars, rfl, .inl inside⟩

theorem render_ne_bracket {e : Expr Ty} (legible : e.Legible) (rest rest' : List Char) :
    e.render.toList ++ rest ≠ ')' :: rest' := by
  intro same
  obtain ⟨c, chars, starts, kind⟩ := render_starts legible rest
  obtain ⟨rfl, -⟩ := List.cons.inj (starts.symm.trans same)
  exact absurd kind (by decide)

theorem legible_args {args : List (Expr Ty)} (legible : ∀ node ∈ nodesAll args, node.Legible)
    {arg : Expr Ty} (member : arg ∈ args) : ∀ node ∈ arg.nodes, node.Legible := by
  induction args with
  | nil => cases member
  | cons first args ih =>
    obtain ⟨inFirst, inRest⟩ := List.forall_mem_append.mp legible
    rcases List.mem_cons.mp member with rfl | later
    · exact inFirst
    · exact ih inRest later

mutual
/-- A text settles the expression at its front, whatever follows. -/
theorem render_append_cancel : ∀ (e other : Expr Ty) (rest rest' : List Char),
    (∀ node ∈ e.nodes, node.Legible) → (∀ node ∈ other.nodes, node.Legible) →
    e.render.toList ++ rest = other.render.toList ++ rest' → e = other ∧ rest = rest'
  | .lit value ty, other, rest, rest', legible, legible', same => by
    have here' := legible' other other.self_mem_nodes
    obtain ⟨words, tails⟩ := word_tail_of_same (legible _ (self_mem_nodes _)) here' same
    rw [tail_lit] at tails
    cases other with
    | lit value' ty' =>
      rw [tail_lit] at tails
      obtain ⟨rfl, rests⟩ := typeText_cancel tails
      rw [Literal.render_injective words]
      exact ⟨rfl, rests⟩
    | var name' ty' =>
      -- no literal is written like a name
      change value.render = name' at words
      rw [← words] at here'
      exact absurd here' value.not_isIdentifier_render
    | binary op' left' right' ty' => rw [tail_binary] at tails; cases tails
    | call name' args' ty' => rw [tail_call] at tails; cases tails
  | .var name ty, other, rest, rest', legible, legible', same => by
    have here := legible _ (self_mem_nodes _)
    have here' := legible' other other.self_mem_nodes
    obtain ⟨words, tails⟩ := word_tail_of_same here here' same
    rw [tail_var] at tails
    cases other with
    | lit value' ty' =>
      change name = value'.render at words
      rw [words] at here
      exact absurd here value'.not_isIdentifier_render
    | var name' ty' =>
      rw [tail_var] at tails
      obtain ⟨rfl, rests⟩ := typeText_cancel tails
      cases words
      exact ⟨rfl, rests⟩
    | binary op' left' right' ty' => rw [tail_binary] at tails; cases tails
    | call name' args' ty' => rw [tail_call] at tails; cases tails
  | .binary op left right ty, other, rest, rest', legible, legible', same => by
    have here' := legible' other other.self_mem_nodes
    obtain ⟨words, tails⟩ := word_tail_of_same (legible _ (self_mem_nodes _)) here' same
    rw [tail_binary] at tails
    obtain ⟨known, operands⟩ := List.forall_mem_cons.mp legible
    obtain ⟨inLeft, inRight⟩ := List.forall_mem_append.mp operands
    cases other with
    | lit value' ty' => rw [tail_lit] at tails; cases tails
    | var name' ty' => rw [tail_var] at tails; cases tails
    | binary op' left' right' ty' =>
      rw [tail_binary] at tails
      obtain ⟨known', operands'⟩ := List.forall_mem_cons.mp legible'
      obtain ⟨inLeft', inRight'⟩ := List.forall_mem_append.mp operands'
      obtain ⟨rfl, fromOp⟩ := render_append_cancel left left' _ _ inLeft inLeft'
        (List.cons.inj tails).2
      obtain ⟨rfl, fromRight⟩ := operator_append_cancel known known' (List.cons.inj fromOp).2
      obtain ⟨rfl, fromType⟩ := render_append_cancel right right' _ _ inRight inRight' fromRight
      obtain ⟨rfl, rests⟩ := typeText_cancel (List.cons.inj fromType).2
      exact ⟨rfl, rests⟩
    | call name' args' ty' => exact absurd words.symm here'.nonempty
  | .call name args ty, other, rest, rest', legible, legible', same => by
    have here := legible _ (self_mem_nodes _)
    have here' := legible' other other.self_mem_nodes
    obtain ⟨words, tails⟩ := word_tail_of_same here here' same
    rw [tail_call] at tails
    cases other with
    | lit value' ty' => rw [tail_lit] at tails; cases tails
    | var name' ty' => rw [tail_var] at tails; cases tails
    -- an operation begins with its bracket, so with the empty word, which is no name
    | binary op' left' right' ty' => exact absurd words here.nonempty
    | call name' args' ty' =>
      rw [tail_call] at tails
      have inArgs := (List.forall_mem_cons.mp legible).2
      have inArgs' := (List.forall_mem_cons.mp legible').2
      have each := args_append_cancel args inArgs
      obtain ⟨rfl, fromType⟩ := list_append_cancel
        (fun arg inside arg' inside' r r' => each arg inside arg' r r' (legible_args inArgs' inside'))
        (fun arg inside => render_ne_bracket (legible_args inArgs inside arg arg.self_mem_nodes))
        (fun arg inside => render_ne_bracket (legible_args inArgs' inside arg arg.self_mem_nodes))
        (List.cons.inj tails).2
      obtain ⟨rfl, rests⟩ := typeText_cancel fromType
      cases words
      exact ⟨rfl, rests⟩

theorem args_append_cancel : ∀ (args : List (Expr Ty)), (∀ node ∈ nodesAll args, node.Legible) →
    ∀ arg ∈ args, ∀ (other : Expr Ty) (rest rest' : List Char), (∀ node ∈ other.nodes, node.Legible) →
    arg.render.toList ++ rest = other.render.toList ++ rest' → arg = other ∧ rest = rest'
  | [], _, arg, member, _, _, _, _, _ => by cases member
  | first :: args, legible, arg, member, other, rest, rest', legible', same => by
    obtain ⟨inFirst, inRest⟩ := List.forall_mem_append.mp legible
    rcases List.mem_cons.mp member with here | later
    · rw [here] at same ⊢
      exact render_append_cancel first other rest rest' inFirst legible' same
    · exact args_append_cancel args inRest arg later other rest rest' legible' same
end

end Expr

theorem Param.render_append_cancel {p other : Param} {rest rest' : List Char}
    (identifier : IsIdentifier p.name) (identifier' : IsIdentifier other.name)
    (same : p.render.toList ++ rest = other.render.toList ++ rest') : p = other ∧ rest = rest' := by
  have chars : ∀ (p : Param) (rest : List Char),
      p.render.toList ++ rest = p.name.toList ++ ':' :: ' ' :: (p.ty.name.toList ++ rest) := by
    simp [Param.render]
  rw [chars, chars] at same
  obtain ⟨names, types⟩ := identifier.isWord.append_cancel identifier'.isWord
    (breaks_cons (by decide) _) (breaks_cons (by decide) _) same
  obtain ⟨tys, rests⟩ := Ty.name_append_cancel (List.cons.inj (List.cons.inj types).2).2
  obtain ⟨name, ty⟩ := p
  cases names
  cases tys
  exact ⟨rfl, rests⟩

theorem Param.render_ne_bracket {p : Param} (identifier : IsIdentifier p.name)
    (rest rest' : List Char) : p.render.toList ++ rest ≠ ')' :: rest' := by
  intro same
  rw [Param.render, String.toList_append, String.toList_append, List.append_assoc,
    List.append_assoc] at same
  obtain ⟨c, chars, starts, inside⟩ := identifier.isWord.starts identifier.nonempty
    (": ".toList ++ (p.ty.name.toList ++ rest))
  obtain ⟨rfl, -⟩ := List.cons.inj (starts.symm.trans same)
  exact absurd inside (by decide)

def Header.tail (head : Header) (rest : List Char) : List Char :=
  ' ' :: (head.name.toList ++ '(' ::
    ([',', ' '].intercalate (head.params.map fun p => p.render.toList) ++
      ')' :: ' ' :: '-' :: '>' :: ' ' :: (head.ret.name.toList ++ ':' :: '\n' :: rest)))

theorem Header.tail_cancel {head other : Header} {rest rest' : List Char} (legible : head.Legible)
    (legible' : other.Legible) (same : head.tail rest = other.tail rest') :
    head = other ∧ rest = rest' := by
  obtain ⟨names, lists⟩ := legible.name.isWord.append_cancel legible'.name.isWord
    (breaks_cons (by decide) _) (breaks_cons (by decide) _) (List.cons.inj same).2
  obtain ⟨params, types⟩ := list_append_cancel
    (fun p inside q inside' r r' =>
      Param.render_append_cancel (legible.params p inside) (legible'.params q inside'))
    (fun p inside => Param.render_ne_bracket (legible.params p inside))
    (fun p inside => Param.render_ne_bracket (legible'.params p inside))
    (List.cons.inj lists).2
  have arrow : head.ret.name.toList ++ ':' :: '\n' :: rest =
      other.ret.name.toList ++ ':' :: '\n' :: rest' := by
    simpa using types
  obtain ⟨rets, rests⟩ := Ty.name_append_cancel arrow
  obtain ⟨name, params', ret⟩ := head
  cases names
  cases params
  cases rets
  exact ⟨rfl, (List.cons.inj (List.cons.inj rests).2).2⟩

end ScriptCheck
