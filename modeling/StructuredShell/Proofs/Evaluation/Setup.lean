import StructuredShell.Lowering.Condition

/-!
# When commands run ahead

Whether lowering puts commands ahead of a value or of a test is known from the source alone.
-/

set_option autoImplicit false

namespace StructuredShell

theorem Expr.hoists_of_containsCall {expr : Expr} (calls : expr.containsCall = true) :
    expr.hoists = true := by
  match expr with
  | .call _ _ => rfl
  | .binary _ left right =>
      simp only [Expr.containsCall, Bool.or_eq_true] at calls
      simp only [Expr.hoists, Bool.or_eq_true]
      rcases calls with left | right
      · exact .inl (.inl (.inr (Expr.hoists_of_containsCall left)))
      · exact .inr (Expr.hoists_of_containsCall right)
  | .var _ | .number _ | .text _ | .raw _ => cases calls

theorem Expr.containsCall_of_not_hoists {expr : Expr} (noSetup : expr.hoists = false) :
    expr.containsCall = false := by
  rw [Bool.eq_false_iff] at noSetup ⊢
  exact fun calls => noSetup (Expr.hoists_of_containsCall calls)

theorem Condition.containsCall_of_not_hoists {condition : Condition}
    (noSetup : condition.hoists = false) : condition.containsCall = false := by
  induction condition with
  | constant _ => rfl
  | comparison _ left right =>
      simp only [hoists, anyOperand, Bool.or_eq_false_iff] at noSetup
      simp only [containsCall, anyOperand, Bool.or_eq_false_iff]
      exact noSetup.imp Expr.containsCall_of_not_hoists Expr.containsCall_of_not_hoists
  | conjunction _ _ leftIH rightIH | disjunction _ _ leftIH rightIH =>
      simp only [hoists, anyOperand, Bool.or_eq_false_iff] at noSetup
      simp only [containsCall, anyOperand, Bool.or_eq_false_iff]
      exact noSetup.imp leftIH rightIH

namespace Lowering

/-- A formula needs commands ahead of it for calls and for literal text. -/
theorem formula_setup_eq_nil_iff (names : String → String) (isLocal : Bool) (source : Expr)
    (used : Nat) :
    (formula names isLocal source used).setup = [] ↔
      source.isText = false ∧ source.hoists = false := by
  match source with
  | .var _ | .number _ | .raw _ =>
      simp [formula, Lowered.ready, Expr.isText, Expr.hoists]
  | .text _ => simp [formula, Lowered.map, Lowered.saved, Expr.isText]
  | .call _ _ => simp [formula, Lowered.map, Lowered.saved, Expr.hoists]
  | .binary operator left right =>
      have leftIff := formula_setup_eq_nil_iff names isLocal left used
      have rightIff := formula_setup_eq_nil_iff names isLocal right
      have noText : (Expr.binary operator left right).isText = false := rfl
      simp only [formula, List.append_eq_nil_iff, rightIff, noText, Expr.hoists,
        Bool.or_eq_false_iff, true_and]
      split
      next saves =>
        -- An operand is saved only on account of a call to its right.
        have hoists : right.hoists = true := by
          simp only [Bool.and_eq_true] at saves
          exact Expr.hoists_of_containsCall saves.1
        simp [Lowered.map, Lowered.saved, hoists]
      next =>
        rw [leftIff]
        simp only [and_assoc]

theorem value_setup_eq_nil_iff (names : String → String) (isLocal : Bool) (source : Expr)
    (used : Nat) :
    (value names isLocal false source used).setup = [] ↔ source.hoists = false := by
  cases source with
  | text text => simp [value, settled, Lowered.ready, Expr.hoists]
  | _ =>
      refine (formula_setup_eq_nil_iff names isLocal _ used).trans ?_
      simp [Expr.isText]

/-- Of two parts that are lowered one after the other, the first one may save its value on account
of a call in the second one. That adds no case in which commands run ahead. -/
theorem setup_append_eq_nil_iff (first : Bool → List Shell.Simple) {second : List Shell.Simple}
    {calls hoistsFirst hoistsSecond : Bool} (firstIff : first false = [] ↔ hoistsFirst = false)
    (secondIff : second = [] ↔ hoistsSecond = false)
    (noCall : hoistsSecond = false → calls = false) :
    first calls ++ second = [] ↔ (hoistsFirst || hoistsSecond) = false := by
  rw [List.append_eq_nil_iff, secondIff, Bool.or_eq_false_iff]
  constructor
  · intro ⟨emptyFirst, noSecond⟩
    rw [noCall noSecond] at emptyFirst
    exact ⟨firstIff.mp emptyFirst, noSecond⟩
  · intro ⟨noFirst, noSecond⟩
    rw [noCall noSecond]
    exact ⟨firstIff.mpr noFirst, noSecond⟩

/-- A test needs commands ahead of it exactly when one of its operands does. -/
theorem test_setup_eq_nil_iff (names : String → String) (isLocal : Bool) (condition : Condition)
    (used : Nat) :
    (test names isLocal false condition used).setup = [] ↔ condition.hoists = false := by
  induction condition generalizing used with
  | constant value => simp [test, Lowered.ready, Condition.hoists, Condition.anyOperand]
  | comparison operator left right =>
      exact setup_append_eq_nil_iff
        (fun calls => (value names isLocal calls left used).setup)
        (value_setup_eq_nil_iff names isLocal left used)
        (value_setup_eq_nil_iff names isLocal right _) Expr.containsCall_of_not_hoists
  | conjunction left right leftIH rightIH =>
      exact setup_append_eq_nil_iff
        (fun calls => (test names isLocal calls left used).setup)
        (leftIH used) (rightIH _) Condition.containsCall_of_not_hoists
  | disjunction left right leftIH rightIH =>
      exact setup_append_eq_nil_iff
        (fun calls => (test names isLocal calls left used).setup)
        (leftIH used) (rightIH _) Condition.containsCall_of_not_hoists

end Lowering

end StructuredShell
