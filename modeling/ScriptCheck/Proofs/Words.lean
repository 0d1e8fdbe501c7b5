import Mathlib
import ScriptCheck.Tree.Printer

/-! The pieces of printed text: names, literals, types, operators, and lists between brackets. Each
can be taken off the front of a text in one way only, so what it says and what follows it are both
determined by the text. -/

namespace ScriptCheck

def reservedWords : List String := ["True", "False", "None", "def", "return", "pass", "and", "or"]

def keywords : List String := ["def", "return", "pass"]

structure IsIdentifier (name : String) : Prop where
  nonempty : name ≠ ""
  letters : ∀ c ∈ name.toList, c.isAlphanum ∨ c = '_'
  start : ∀ c ∈ name.toList.head?, c.isDigit = false
  unreserved : name ∉ reservedWords

theorem isIdentifier_iff {name : String} :
    IsIdentifier name ↔ name ≠ "" ∧ name.toList.all (fun c => c.isAlphanum || c = '_') = true ∧
      name.toList.head?.all (fun c => !c.isDigit) = true ∧ name ∉ reservedWords := by
  have letters : name.toList.all (fun c => c.isAlphanum || c = '_') = true ↔
      ∀ c ∈ name.toList, c.isAlphanum ∨ c = '_' := by simp
  have start : name.toList.head?.all (fun c => !c.isDigit) = true ↔
      ∀ c ∈ name.toList.head?, c.isDigit = false := by
    cases name.toList.head? <;> simp
  rw [letters, start]
  constructor
  · intro identifier
    exact ⟨identifier.nonempty, identifier.letters, identifier.start, identifier.unreserved⟩
  · intro checks
    obtain ⟨nonempty, letters, start, unreserved⟩ := checks
    exact ⟨nonempty, letters, start, unreserved⟩

instance : DecidablePred IsIdentifier := fun _ => decidable_of_iff _ isIdentifier_iff.symm

def isWordChar (c : Char) : Bool := c.isAlphanum || c = '_' || c = '-'

def IsWord (text : String) : Prop := ∀ c ∈ text.toList, isWordChar c = true

theorem isWord_of_all {text : String} (inside : text.toList.all isWordChar = true) : IsWord text :=
  List.all_eq_true.mp inside

theorem isWord_of_keyword {text : String} (keyword : text ∈ keywords) : IsWord text := by
  simp only [keywords, List.mem_cons, List.not_mem_nil, or_false] at keyword
  rcases keyword with rfl | rfl | rfl <;> exact isWord_of_all (by decide)

/-- No word goes on into this text. -/
def Breaks (text : List Char) : Prop := ∀ c ∈ text.head?, isWordChar c = false

theorem append_cancel_of_class {p : Char → Bool} {word other rest rest' : List Char}
    (inside : ∀ c ∈ word, p c = true) (inside' : ∀ c ∈ other, p c = true)
    (ends : ∀ c ∈ rest.head?, p c = false) (ends' : ∀ c ∈ rest'.head?, p c = false)
    (same : word ++ rest = other ++ rest') : word = other ∧ rest = rest' := by
  have cut : ∀ {w r : List Char}, (∀ c ∈ w, p c = true) → (∀ c ∈ r.head?, p c = false) →
      (w ++ r).takeWhile p = w := by
    intro w r inside ends
    rw [List.takeWhile_append_of_pos inside]
    cases r with
    | nil => simp
    | cons c r => simp [ends c rfl]
  have words : word = other := by
    rw [← cut inside ends, same, cut inside' ends']
  subst words
  exact ⟨rfl, List.append_cancel_left same⟩

theorem IsWord.append_cancel {word other : String} {rest rest' : List Char} (inside : IsWord word)
    (inside' : IsWord other) (breaks : Breaks rest) (breaks' : Breaks rest')
    (same : word.toList ++ rest = other.toList ++ rest') : word = other ∧ rest = rest' := by
  obtain ⟨words, rests⟩ := append_cancel_of_class inside inside' breaks breaks' same
  exact ⟨String.toList_inj.mp words, rests⟩

theorem IsWord.starts {word : String} (inside : IsWord word) (nonempty : word ≠ "")
    (rest : List Char) : ∃ c chars, word.toList ++ rest = c :: chars ∧ isWordChar c = true := by
  obtain ⟨c, chars, same⟩ := List.exists_cons_of_ne_nil (mt String.toList_eq_nil_iff.mp nonempty)
  have member : c ∈ word.toList := by
    rw [same]
    exact List.mem_cons_self
  exact ⟨c, chars ++ rest, by rw [same, List.cons_append], inside c member⟩

theorem breaks_cons {c : Char} (outside : isWordChar c = false) (rest : List Char) :
    Breaks (c :: rest) := by
  simpa [Breaks] using outside

theorem IsIdentifier.isWord {name : String} (identifier : IsIdentifier name) : IsWord name := by
  intro c member
  rcases identifier.letters c member with letter | underscore
  · simp [isWordChar, letter]
  · simp [isWordChar, underscore]

theorem IsIdentifier.not_keyword {name : String} (identifier : IsIdentifier name) :
    name ∉ keywords := by
  have reserved : keywords ⊆ reservedWords := by decide
  exact fun keyword => identifier.unreserved (reserved keyword)

theorem Ty.name_append_cancel {ty other : Ty} {rest rest' : List Char}
    (same : ty.name.toList ++ rest = other.name.toList ++ rest') : ty = other ∧ rest = rest' := by
  cases ty <;> cases other <;> simp_all [Ty.name]

def operatorTexts : List String := ["+", "-", ">", "and", "or"]

theorem operator_append_cancel {op other : String} {rest rest' : List Char}
    (known : op ∈ operatorTexts) (known' : other ∈ operatorTexts)
    (same : op.toList ++ ' ' :: rest = other.toList ++ ' ' :: rest') :
    op = other ∧ rest = rest' := by
  have unspaced : ∀ text ∈ operatorTexts, ∀ c ∈ text.toList, (c != ' ') = true := by
    simp [operatorTexts]
  obtain ⟨texts, rests⟩ := append_cancel_of_class (unspaced op known) (unspaced other known')
    (by simp) (by simp) same
  exact ⟨String.toList_inj.mp texts, (List.cons.inj rests).2⟩

namespace Literal

theorem chars_number {value : Int64} {c : Char} (member : c ∈ (number value).render.toList) :
    c.isDigit = true ∨ c = '-' := by
  have digits : ∀ {n : Nat}, c ∈ n.repr.toList → c.isDigit = true := by
    intro n member
    rw [Nat.repr, String.toList_ofList] at member
    exact Nat.isDigit_of_mem_toDigits (by decide) (by decide) member
  change c ∈ (Int.repr value.toInt).toList at member
  cases sign : value.toInt with
  | ofNat n =>
    rw [sign] at member
    exact .inl (digits member)
  | negSucc n =>
    rw [sign, Int.repr, String.toList_append] at member
    rcases List.mem_append.mp member with minus | rest
    · exact .inr (List.mem_singleton.mp minus)
    · exact .inl (digits rest)

theorem number_ne {value : Int64} {text : String}
    (other : text.toList.any (fun c => !c.isDigit && c != '-') = true) :
    (number value).render ≠ text := by
  intro same
  obtain ⟨c, member, neither⟩ := List.any_eq_true.mp other
  rw [← same] at member
  rcases chars_number member with digit | minus
  · simp [digit] at neither
  · simp [minus] at neither

theorem number_render_inj {value other : Int64}
    (same : (number value).render = (number other).render) : value = other :=
  Int64.toInt_inj.mp (Int.repr_inj.mp same)

theorem render_injective : Function.Injective Literal.render := by
  intro literal other same
  cases literal with
  | number value =>
    cases other with
    | number value' => rw [number_render_inj same]
    | bool b => cases b <;> exact absurd same (number_ne (by decide))
    | none => exact absurd same (number_ne (by decide))
  | bool b =>
    cases other with
    | number value => cases b <;> exact absurd same.symm (number_ne (by decide))
    | bool b' => revert same; cases b <;> cases b' <;> decide
    | none => revert same; cases b <;> decide
  | none =>
    cases other with
    | number value => exact absurd same.symm (number_ne (by decide))
    | bool b => revert same; cases b <;> decide
    | none => rfl

theorem isWord_render (literal : Literal) : IsWord literal.render := by
  cases literal with
  | number value =>
    intro c member
    rcases chars_number member with digit | minus
    · simp [isWordChar, Char.isAlphanum, digit]
    · simp [isWordChar, minus]
  | bool b => cases b <;> exact isWord_of_all (by decide)
  | none => exact isWord_of_all (by decide)

theorem render_not_keyword (literal : Literal) : literal.render ∉ keywords := by
  cases literal with
  | number value =>
    intro keyword
    simp only [keywords, List.mem_cons, List.not_mem_nil, or_false] at keyword
    rcases keyword with same | same | same <;> exact absurd same (number_ne (by decide))
  | bool b => cases b <;> decide
  | none => decide

theorem render_ne_empty (literal : Literal) : literal.render ≠ "" := by
  cases literal with
  | number value =>
    change Int.repr value.toInt ≠ ""
    cases value.toInt with
    | ofNat n => exact Nat.repr_ne_empty
    | negSucc n => simp [Int.repr]
  | bool b => cases b <;> decide
  | none => decide

theorem not_isIdentifier_render (literal : Literal) : ¬ IsIdentifier literal.render := by
  intro identifier
  cases literal with
  | number value =>
    -- the first character is a digit, since a minus is no letter
    obtain ⟨c, rest, chars⟩ := List.exists_cons_of_ne_nil
      (mt String.toList_eq_nil_iff.mp identifier.nonempty)
    have member : c ∈ (number value).render.toList := by
      rw [chars]
      exact List.mem_cons_self
    rcases chars_number member with digit | rfl
    · have start := identifier.start c (by rw [chars]; rfl)
      rw [digit] at start
      cases start
    · exact absurd (identifier.letters _ member) (by decide)
  | bool b => cases b <;> exact absurd identifier.unreserved (by decide)
  | none => exact absurd identifier.unreserved (by decide)

end Literal

section Lists

variable {α : Type} {text : α → List Char}

theorem commas_append_cancel {xs ys : List α} {rest rest' : List Char}
    (each : ∀ x ∈ xs, ∀ y ∈ ys, ∀ r r', text x ++ r = text y ++ r' → x = y ∧ r = r')
    (same : xs.flatMap (fun x => ',' :: ' ' :: text x) ++ ')' :: rest =
      ys.flatMap (fun y => ',' :: ' ' :: text y) ++ ')' :: rest') : xs = ys ∧ rest = rest' := by
  induction xs generalizing ys with
  | nil =>
    cases ys with
    | nil => simpa using same
    | cons y ys => simp at same
  | cons x xs ih =>
    cases ys with
    | nil => simp at same
    | cons y ys =>
      simp only [List.flatMap_cons, List.cons_append, List.append_assoc, List.cons.injEq,
        true_and] at same
      obtain ⟨rfl, others⟩ := each x List.mem_cons_self y List.mem_cons_self _ _ same
      have later : ∀ a ∈ xs, ∀ b ∈ ys, ∀ r r', text a ++ r = text b ++ r' → a = b ∧ r = r' :=
        fun a inside b inside' =>
          each a (List.mem_cons_of_mem _ inside) b (List.mem_cons_of_mem _ inside')
      obtain ⟨rfl, rests⟩ := ih later others
      exact ⟨rfl, rests⟩

theorem intercalate_cons (x : α) (xs : List α) :
    [',', ' '].intercalate ((x :: xs).map text) =
      text x ++ xs.flatMap (fun x => ',' :: ' ' :: text x) := by
  induction xs generalizing x with
  | nil => simp
  | cons y ys ih =>
    rw [List.map_cons, List.map_cons, List.intercalate_cons_cons, ← List.map_cons, ih]
    simp

theorem list_append_cancel {xs ys : List α} {rest rest' : List Char}
    (each : ∀ x ∈ xs, ∀ y ∈ ys, ∀ r r', text x ++ r = text y ++ r' → x = y ∧ r = r')
    (opens : ∀ x ∈ xs, ∀ r r', text x ++ r ≠ ')' :: r')
    (opens' : ∀ y ∈ ys, ∀ r r', text y ++ r ≠ ')' :: r')
    (same : [',', ' '].intercalate (xs.map text) ++ ')' :: rest =
      [',', ' '].intercalate (ys.map text) ++ ')' :: rest') : xs = ys ∧ rest = rest' := by
  cases xs with
  | nil =>
    cases ys with
    | nil => simpa using same
    | cons y ys =>
      rw [intercalate_cons, List.append_assoc] at same
      exact absurd same.symm (opens' y List.mem_cons_self _ _)
  | cons x xs =>
    cases ys with
    | nil =>
      rw [intercalate_cons, List.append_assoc] at same
      exact absurd same (opens x List.mem_cons_self _ _)
    | cons y ys =>
      rw [intercalate_cons, intercalate_cons] at same
      -- a comma in front makes the first item like the others
      apply commas_append_cancel each
      simpa using same

end Lists

end ScriptCheck
