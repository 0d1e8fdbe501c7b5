import ScriptCheck.Ty

/-! Binary operators. Trees keep an operator as its source text; this module gives the five
texts that are operators their meaning. -/

namespace ScriptCheck

inductive Operator where
  | add
  | sub
  | gt
  | and
  | or
  deriving DecidableEq, Repr

namespace Operator

def symbol : Operator → String
  | add => "+"
  | sub => "-"
  | gt => ">"
  | and => "and"
  | or => "or"

def ofSymbol? : String → Option Operator
  | "+" => some add
  | "-" => some sub
  | ">" => some gt
  | "and" => some and
  | "or" => some or
  | _ => none

def resultTy : Operator → Ty
  | add | sub => .int
  | gt | and | or => .bool

/-- The type both operands must have where operands are compared. -/
def operandTy : Operator → Ty
  | add | sub | gt => .int
  | and | or => .bool

theorem ofSymbol?_eq_some_iff {text : String} {op : Operator} :
    ofSymbol? text = some op ↔ text = op.symbol := by
  constructor
  · intro found
    unfold ofSymbol? at found
    split at found <;> cases found <;> rfl
  · rintro rfl
    cases op <;> rfl

end Operator

end ScriptCheck
