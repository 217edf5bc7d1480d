import Mathlib
import StructuredShell.Lowering.Condition
import StructuredShell.Proofs.Conditions.Lists
import StructuredShell.Proofs.Evaluation.Hoisting

/-!
# Lowering keeps the truth of conditions

A condition is true or false of the values of its operands, all of which are evaluated from left to
right before anything is compared. Its lowered form runs commands ahead of a list of tests. Both
come to the same outcome, in whatever way values count as integers and as texts.
-/

set_option autoImplicit false

namespace StructuredShell

/-! ## The truth of a condition -/

/-- How values are compared: as integers, or as texts in some total order. -/
structure Comparing (V T : Type) where
  integer : V → Int
  text : V → T

def RelOp.holds {α : Type} [LinearOrder α] : RelOp → α → α → Bool
  | .less, first, second => first < second
  | .greater, first, second => second < first
  | .lessEqual, first, second => first ≤ second
  | .greaterEqual, first, second => second ≤ first
  | .equal, first, second => first = second
  | .notEqual, first, second => first ≠ second

variable {V S T : Type} [LinearOrder T]

def Comparing.compare (comparing : Comparing V T) (asTexts : Bool) (operator : RelOp)
    (first second : V) : Bool :=
  if asTexts then operator.holds (comparing.text first) (comparing.text second)
  else operator.holds (comparing.integer first) (comparing.integer second)

/-- Evaluate a condition without skipping any operand. -/
def Condition.evaluate (meaning : Meaning V S) (comparing : Comparing V T) :
    Condition → S → Outcome V S Bool
  | .constant value, store => ⟨value, store, []⟩
  | .comparison operator left right, store =>
    let first := left.evaluate meaning store
    let second := right.evaluate meaning first.store
    ⟨comparing.compare (left.isText || right.isText) operator first.value second.value,
      second.store, first.calls ++ second.calls⟩
  | .conjunction left right, store =>
    let first := left.evaluate meaning comparing store
    let second := right.evaluate meaning comparing first.store
    ⟨first.value && second.value, second.store, first.calls ++ second.calls⟩
  | .disjunction left right, store =>
    let first := left.evaluate meaning comparing store
    let second := right.evaluate meaning comparing first.store
    ⟨first.value || second.value, second.store, first.calls ++ second.calls⟩

theorem Condition.evaluate_store_of_no_call (meaning : Meaning V S) (comparing : Comparing V T)
    (condition : Condition) (noCall : condition.containsCall = false) (store : S) :
    (condition.evaluate meaning comparing store).store = store := by
  induction condition generalizing store with
  | constant value => rfl
  | comparison operator left right =>
      simp only [containsCall, anyOperand, Bool.or_eq_false_iff] at noCall
      simp only [evaluate]
      rw [left.evaluate_store_of_no_call meaning noCall.1,
        right.evaluate_store_of_no_call meaning noCall.2]
  | conjunction left right leftIH rightIH =>
      simp only [containsCall, anyOperand, Bool.or_eq_false_iff] at noCall
      simp only [evaluate]
      rw [leftIH noCall.1, rightIH noCall.2]
  | disjunction left right leftIH rightIH =>
      simp only [containsCall, anyOperand, Bool.or_eq_false_iff] at noCall
      simp only [evaluate]
      rw [leftIH noCall.1, rightIH noCall.2]

/-! ## The outcome of a list of tests -/

namespace Shell

def IntegerOption.holds : IntegerOption → Int → Int → Bool
  | lt, first, second => first < second
  | gt, first, second => first > second
  | le, first, second => first ≤ second
  | ge, first, second => first ≥ second
  | eq, first, second => first = second
  | ne, first, second => first ≠ second

def BracketOperator.holds (comparing : Comparing V T) : BracketOperator → V → V → Bool
  | integer option, first, second =>
    option.holds (comparing.integer first) (comparing.integer second)
  | same, first, second => comparing.text first = comparing.text second
  | different, first, second => comparing.text first ≠ comparing.text second
  | sortsBefore, first, second => comparing.text first < comparing.text second
  | sortsAfter, first, second => comparing.text second < comparing.text first

def TestCommand.succeeds (world : World V S) (comparing : Comparing V T) (machine : Machine V S) :
    TestCommand → Bool
  | constant value => value
  | bracket negated operator left right =>
    negated ^^ operator.holds comparing (world.value machine left) (world.value machine right)

def World.test (world : World V S) (comparing : Comparing V T) (machine : Machine V S)
    (test : Test) : Bool :=
  test.tree.holds (TestCommand.succeeds world comparing machine)

theorem integerOption_holds (operator : RelOp) (first second : Int) :
    (integerOption operator).holds first second = operator.holds first second := by
  cases operator <;> rfl

/-- "At most" is the negation of "after", and "at least" that of "before". -/
theorem textualOperator_holds (comparing : Comparing V T) (operator : RelOp) (first second : V) :
    ((textualOperator operator).1 ^^ (textualOperator operator).2.holds comparing first second) =
      operator.holds (comparing.text first) (comparing.text second) := by
  cases operator with
  | less | greater | equal | notEqual => exact Bool.false_xor _
  | lessEqual | greaterEqual =>
      rw [textualOperator, BracketOperator.holds, RelOp.holds, Bool.true_xor, ← decide_not]
      exact decide_eq_decide.mpr not_lt

end Shell

/-! ## Lowered conditions -/

/-- The conditions that connectives join. -/
inductive ConditionAtom where
  | constant (value : Bool)
  | comparison (operator : RelOp) (left right : Expr)

def Condition.tree : Condition → Shell.AndOr ConditionAtom
  | .constant value => .command (.constant value)
  | .comparison operator left right => .command (.comparison operator left right)
  | .conjunction left right => .both left.tree right.tree
  | .disjunction left right => .either left.tree right.tree

namespace Lowering

open Shell

/-- Which command stands for a condition without connectives. Integers are compared unless one side
is literal text. -/
inductive Renders : ConditionAtom → TestCommand → Prop where
  | constant {value : Bool} : Renders (.constant value) (.constant value)
  | numeric {operator : RelOp} {left right : Expr} {first second : Value} :
      (left.isText || right.isText) = false →
      Renders (.comparison operator left right)
        (.bracket false (.integer (integerOption operator)) first second)
  | textual {operator : RelOp} {left right : Expr} {first second : Value} :
      (left.isText || right.isText) = true →
      Renders (.comparison operator left right)
        (.bracket (textualOperator operator).1 (textualOperator operator).2 first second)

theorem test_tree_related (names : String → String) (isLocal laterCall : Bool)
    (condition : Condition) (used : Nat) :
    condition.tree.Related Renders (test names isLocal laterCall condition used).value.tree := by
  induction condition generalizing laterCall used with
  | constant value => exact .command .constant
  | comparison operator left right =>
      simp only [test, comparisonTest]
      split
      · next isText => exact .command (.textual isText)
      · next noText => exact .command (.numeric (Bool.eq_false_iff.mpr noText))
  | conjunction left right leftIH rightIH => exact .both (leftIH _ _) (rightIH _ _)
  | disjunction left right leftIH rightIH => exact .either (leftIH _ _) (rightIH _ _)

variable {world : World V S} {names : String → String} {machine : Machine V S} {used : Nat}

theorem value_keeps (world : World V S) (names : String → String) (isLocal laterCall : Bool)
    (source : Expr) (used : Nat) (machine : Machine V S) :
    ∃ final, Keeps world names world.value (source.isStable || laterCall) machine used
      (source.evaluate (world.meaning names) machine.store)
      (value names isLocal laterCall source used) final := by
  obtain ⟨_, keptFormula⟩ := formula_keeps world names isLocal source used machine
  exact settled_keeps keptFormula laterCall

theorem test_comparisonTest (world : World V S) (comparing : Comparing V T)
    (machine : Machine V S) (operator : RelOp) (left right : Expr) (first second : Value) :
    world.test comparing machine (comparisonTest operator left right first second) =
      comparing.compare (left.isText || right.isText) operator (world.value machine first)
        (world.value machine second) := by
  unfold comparisonTest Comparing.compare
  split
  · exact textualOperator_holds comparing operator _ _
  · exact (Bool.false_xor _).trans (integerOption_holds operator _ _)

/-- Two conditions that are joined. The first one is tested after the commands of the second one, so
it must be saved if these make a call. -/
theorem Keeps.joined {comparing : Comparing V T} {left right : Condition} {laterCall : Bool}
    {middle final : Machine V S} {first second : Lowered Test} {join : Test → Test → Test}
    {combine : Bool → Bool → Bool}
    (keptFirst : Keeps world names (world.test comparing) (laterCall || right.containsCall) machine
      used (left.evaluate (world.meaning names) comparing machine.store) first middle)
    (keptSecond : Keeps world names (world.test comparing) laterCall middle first.used
      (right.evaluate (world.meaning names) comparing middle.store) second final)
    (same : ∀ (later : Machine V S) (left right : Test), world.test comparing later
      (join left right) = combine (world.test comparing later left)
        (world.test comparing later right)) :
    let directFirst := left.evaluate (world.meaning names) comparing machine.store
    let directSecond := right.evaluate (world.meaning names) comparing directFirst.store
    Keeps world names (world.test comparing) laterCall machine used
      ⟨combine directFirst.value directSecond.value, directSecond.store,
        directFirst.calls ++ directSecond.calls⟩
      ⟨first.setup ++ second.setup, join first.value second.value, second.used⟩ final := by
  rw [keptFirst.store] at keptSecond
  refine keptFirst.both keptSecond ?_ ?_ id same
  · intro unstable
    simp only [Bool.or_eq_false_iff] at unstable
    exact right.evaluate_store_of_no_call _ comparing unstable.2 _
  · intro unstable
    simp only [Bool.or_eq_false_iff] at unstable
    exact unstable.1

/-- A lowered condition can be tested when its commands have run. If a call runs in between, every
operand that the call could change was saved. -/
theorem test_keeps (world : World V S) (comparing : Comparing V T) (names : String → String)
    (isLocal laterCall : Bool) (condition : Condition) (used : Nat) (machine : Machine V S) :
    ∃ final, Keeps world names (world.test comparing) laterCall machine used
      (condition.evaluate (world.meaning names) comparing machine.store)
      (test names isLocal laterCall condition used) final := by
  induction condition generalizing laterCall used machine with
  | constant value => exact ⟨machine, .ready fun _ _ => rfl⟩
  | comparison operator left right =>
      obtain ⟨middle, keptFirst⟩ :=
        value_keeps world names isLocal (laterCall || right.containsCall) left used machine
      obtain ⟨final, keptSecond⟩ := value_keeps world names isLocal laterCall right _ middle
      rw [keptFirst.store] at keptSecond
      refine ⟨final, keptFirst.both keptSecond ?_ ?_ ?_ fun later first second =>
        test_comparisonTest world comparing later operator left right first second⟩
      · intro unstable
        simp only [Bool.or_eq_false_iff] at unstable
        exact right.evaluate_store_of_no_call _ unstable.2.2 _
      · intro unstable
        simp only [Bool.or_eq_false_iff] at unstable
        exact unstable.2.1
      · intro unstable
        simp only [Bool.or_eq_false_iff] at unstable
        exact unstable.2
  | conjunction left right leftIH rightIH =>
      obtain ⟨middle, keptFirst⟩ := leftIH (laterCall || right.containsCall) used machine
      obtain ⟨final, keptSecond⟩ := rightIH laterCall _ middle
      exact ⟨final, keptFirst.joined keptSecond fun _ _ _ => rfl⟩
  | disjunction left right leftIH rightIH =>
      obtain ⟨middle, keptFirst⟩ := leftIH (laterCall || right.containsCall) used machine
      obtain ⟨final, keptSecond⟩ := rightIH laterCall _ middle
      exact ⟨final, keptFirst.joined keptSecond fun _ _ _ => rfl⟩

/-- Lowering keeps the truth of conditions. The text of a lowered condition, each of whose tests
counts as one command, is spelled as the shell asks for it and reads in exactly one way as a list of
commands that `&&` and `||` join. That reading is the tree of the condition with a test for each
comparison, in order. Running the
commands ahead of it and then the list makes the calls of the condition, leaves its store and comes
to its truth. -/
theorem test_keeps_truth (world : World V S) (comparing : Comparing V T) (names : String → String)
    (isLocal laterCall : Bool) (condition : Condition) (used : Nat) (machine : Machine V S) :
    let lowered := test names isLocal laterCall condition used
    let direct := condition.evaluate (world.meaning names) comparing machine.store
    lowered.value.text = String.join (lowered.value.pieces.map TestPiece.text) ∧
    (∀ text, lowered.value.SpelledAs text ↔ text = lowered.value.text) ∧
    (∀ (value : Value) text, value.SpelledAs text ↔ text = value.word) ∧
    (∀ tree, Listed lowered.value.pieces tree ↔
      tree = lowered.value.tree.map TestCommand.text) ∧
    condition.tree.Related Renders lowered.value.tree ∧
    ∃ final, world.run? machine lowered.setup = some final ∧
      final.store = direct.store ∧
      final.calls = machine.calls ++ direct.calls.map (shellCall names) ∧
      lowered.value.tree.holds (TestCommand.succeeds world comparing final) = direct.value := by
  intro lowered direct
  obtain ⟨final, kept⟩ := test_keeps world comparing names isLocal laterCall condition used machine
  exact ⟨rfl, lowered.value.spelledAs_iff, Value.spelledAs_iff, lowered.value.listed_iff,
    test_tree_related names isLocal laterCall condition used,
    final, kept.ran, kept.store, kept.calls, kept.reads_now⟩

end Lowering

end StructuredShell
