import StructuredShell.Lowering.Hoisted

/-!
# Conditions

A condition becomes a test. Commands that its operands need run ahead of the whole test, whatever
its outcome, so an operand is saved when any call stands right of it in the condition or further on.
A comparison with literal text on either side compares texts, and every other one integers.
-/

set_option autoImplicit false

namespace StructuredShell

def Condition.anyOperand (property : Expr → Bool) : Condition → Bool
  | .constant _ => false
  | .comparison _ left right => property left || property right
  | .conjunction left right => left.anyOperand property || right.anyOperand property
  | .disjunction left right => left.anyOperand property || right.anyOperand property

def Condition.containsCall (condition : Condition) : Bool :=
  condition.anyOperand Expr.containsCall

def Condition.hoists (condition : Condition) : Bool :=
  condition.anyOperand Expr.hoists

namespace Lowering

open Shell

def comparisonTest (operator : RelOp) (left right : Expr) (first second : Value) : Test :=
  if left.isText || right.isText then .textual operator first second
  else .numeric operator first second

/-- The test for a condition, where `laterCall` tells whether a call further on runs ahead of the
test too. -/
def test (names : String → String) (isLocal laterCall : Bool) :
    Condition → Nat → Lowered Test
  | .constant value, used => .ready (.constant value) used
  | .comparison operator left right, used =>
    let first := value names isLocal (laterCall || right.containsCall) left used
    let second := value names isLocal laterCall right first.used
    ⟨first.setup ++ second.setup, comparisonTest operator left right first.value second.value,
      second.used⟩
  | .conjunction left right, used =>
    let first := test names isLocal (laterCall || right.containsCall) left used
    let second := test names isLocal laterCall right first.used
    ⟨first.setup ++ second.setup, .conjunction first.value second.value, second.used⟩
  | .disjunction left right, used =>
    let first := test names isLocal (laterCall || right.containsCall) left used
    let second := test names isLocal laterCall right first.used
    ⟨first.setup ++ second.setup, .disjunction first.value second.value, second.used⟩

end Lowering

end StructuredShell
