import ScriptCheck.Tree.Basic

/-! Equality of trees is decidable: `same` compares node by node, labels included. -/

namespace ScriptCheck

variable {α : Type} [DecidableEq α]

mutual
def Expr.same : Expr α → Expr α → Bool
  | .lit v a, .lit w b => v = w && a = b
  | .var x a, .var y b => x = y && a = b
  | .binary o l r a, .binary p m s b => o = p && l.same m && r.same s && a = b
  | .call f xs a, .call g ys b => f = g && Expr.sameAll xs ys && a = b
  | _, _ => false

def Expr.sameAll : List (Expr α) → List (Expr α) → Bool
  | [], [] => true
  | x :: xs, y :: ys => x.same y && Expr.sameAll xs ys
  | _, _ => false
end

mutual
theorem Expr.same_iff : ∀ x y : Expr α, x.same y = true ↔ x = y
  | .lit .., y => by cases y <;> simp [Expr.same]
  | .var .., y => by cases y <;> simp [Expr.same]
  | .binary _ l r _, y => by
    cases y <;> simp [Expr.same, Expr.same_iff l, Expr.same_iff r, and_assoc]
  | .call _ xs _, y => by cases y <;> simp [Expr.same, Expr.sameAll_iff xs, and_assoc]

theorem Expr.sameAll_iff : ∀ xs ys : List (Expr α), Expr.sameAll xs ys = true ↔ xs = ys
  | [], ys => by cases ys <;> simp [Expr.sameAll]
  | x :: xs, ys => by cases ys <;> simp [Expr.sameAll, Expr.same_iff x, Expr.sameAll_iff xs]
end

instance : DecidableEq (Expr α) := fun x y => decidable_of_iff _ (Expr.same_iff x y)

mutual
def Stmt.same : Stmt α → Stmt α → Bool
  | .assign x v a, .assign y w b => x = y && v = w && a = b
  | .define h xs a, .define k ys b => h = k && Stmt.sameAll xs ys && a = b
  | .expr v a, .expr w b => v = w && a = b
  | .ret v a, .ret w b => v = w && a = b
  | .pass a, .pass b => a = b
  | _, _ => false

def Stmt.sameAll : List (Stmt α) → List (Stmt α) → Bool
  | [], [] => true
  | x :: xs, y :: ys => x.same y && Stmt.sameAll xs ys
  | _, _ => false
end

mutual
theorem Stmt.same_iff : ∀ x y : Stmt α, x.same y = true ↔ x = y
  | .assign .., y => by cases y <;> simp [Stmt.same, and_assoc]
  | .define _ xs _, y => by cases y <;> simp [Stmt.same, Stmt.sameAll_iff xs, and_assoc]
  | .expr .., y => by cases y <;> simp [Stmt.same]
  | .ret .., y => by cases y <;> simp [Stmt.same]
  | .pass _, y => by cases y <;> simp [Stmt.same]

theorem Stmt.sameAll_iff : ∀ xs ys : List (Stmt α), Stmt.sameAll xs ys = true ↔ xs = ys
  | [], ys => by cases ys <;> simp [Stmt.sameAll]
  | x :: xs, ys => by cases ys <;> simp [Stmt.sameAll, Stmt.same_iff x, Stmt.sameAll_iff xs]
end

instance : DecidableEq (Stmt α) := fun x y => decidable_of_iff _ (Stmt.same_iff x y)

end ScriptCheck
