import StructuredShell.Shell.Spelling

/-!
# Lists of tests

How a shell reads the text of a test: as commands joined by `&&` and `||`, which bind equally and to
the left, where braces make one command of a whole list. The grammar below says nothing about how
tests are written. The text of a test has exactly one reading in it, which is the tree of the test.
-/

set_option autoImplicit false

namespace StructuredShell.Shell

/-! ## Trees -/

inductive AndOr (α : Type) where
  | command (value : α)
  | both (left right : AndOr α)
  | either (left right : AndOr α)

namespace AndOr

variable {α β : Type}

def map (f : α → β) : AndOr α → AndOr β
  | command value => command (f value)
  | both left right => both (left.map f) (right.map f)
  | either left right => either (left.map f) (right.map f)

/-- The outcome of a list, given those of its commands. -/
def holds (outcome : α → Bool) : AndOr α → Bool
  | command value => outcome value
  | both left right => left.holds outcome && right.holds outcome
  | either left right => left.holds outcome || right.holds outcome

/-- Whether two trees are the same but for their commands, which are related one by one. -/
inductive Related (relation : α → β → Prop) : AndOr α → AndOr β → Prop where
  | command {first : α} {second : β} :
      relation first second → Related relation (command first) (command second)
  | both {left right : AndOr α} {left' right' : AndOr β} :
      Related relation left left' → Related relation right right' →
      Related relation (both left right) (both left' right')
  | either {left right : AndOr α} {left' right' : AndOr β} :
      Related relation left left' → Related relation right right' →
      Related relation (either left right) (either left' right')

end AndOr

/-! ## The grammar of lists -/

mutual

inductive Listed : List TestPiece → AndOr String → Prop where
  | element {pieces : List TestPiece} {tree : AndOr String} :
      Element pieces tree → Listed pieces tree
  | both {left right : List TestPiece} {first second : AndOr String} :
      Listed left first → Element right second →
      Listed (left ++ .both :: right) (.both first second)
  | either {left right : List TestPiece} {first second : AndOr String} :
      Listed left first → Element right second →
      Listed (left ++ .either :: right) (.either first second)

inductive Element : List TestPiece → AndOr String → Prop where
  | command {text : String} : Element [.command text] (.command text)
  | group {pieces : List TestPiece} {tree : AndOr String} :
      Listed pieces tree → Element (.openGroup :: (pieces ++ [.closeGroup])) tree

end

/-! ## A list has one reading

The reader keeps what stands left of its place: for every group that is open, what becomes of the
next element of it. -/

namespace TestPiece

mutual

/-- Read on where an element has to come. -/
def readElement : List (AndOr String → AndOr String) → List TestPiece → Option (AndOr String)
  | pending :: outer, .command text :: rest => readOn (pending (.command text)) outer rest
  | waiting, .openGroup :: rest => readElement (id :: waiting) rest
  | _, _ => none

/-- Read on after an element, given the tree of the list so far. -/
def readOn : AndOr String → List (AndOr String → AndOr String) → List TestPiece →
    Option (AndOr String)
  | tree, outer, .both :: rest => readElement (tree.both :: outer) rest
  | tree, outer, .either :: rest => readElement (tree.either :: outer) rest
  | tree, pending :: outer, .closeGroup :: rest => readOn (pending tree) outer rest
  | tree, [], [] => some tree
  | _, _, _ => none

end

end TestPiece

open TestPiece (readElement readOn)

mutual

theorem Listed.reads {pieces : List TestPiece} {tree : AndOr String} (listed : Listed pieces tree)
    (outer : List (AndOr String → AndOr String)) (rest : List TestPiece) :
    readElement (id :: outer) (pieces ++ rest) = readOn tree outer rest := by
  match listed with
  | .element element => exact element.reads id outer rest
  | .both left right =>
      rw [List.append_assoc, List.cons_append, left.reads, readOn, right.reads]
  | .either left right =>
      rw [List.append_assoc, List.cons_append, left.reads, readOn, right.reads]

theorem Element.reads {pieces : List TestPiece} {tree : AndOr String}
    (element : Element pieces tree) (pending : AndOr String → AndOr String)
    (outer : List (AndOr String → AndOr String)) (rest : List TestPiece) :
    readElement (pending :: outer) (pieces ++ rest) = readOn (pending tree) outer rest := by
  match element with
  | .command => rw [List.cons_append, readElement, List.nil_append]
  | .group listed =>
      rw [List.cons_append, List.append_assoc, readElement, listed.reads, List.cons_append,
        List.nil_append, readOn]

end

/-- No list can be read in two ways. -/
theorem Listed.unique {pieces : List TestPiece} {first second : AndOr String}
    (isFirst : Listed pieces first) (isSecond : Listed pieces second) : first = second := by
  have readFirst := isFirst.reads [] []
  have readSecond := isSecond.reads [] []
  rw [readFirst] at readSecond
  simpa [readOn] using readSecond

/-! ## Commands that test -/

/-- The options by which the shell compares integers. -/
inductive IntegerOption where
  | lt
  | gt
  | le
  | ge
  | eq
  | ne

def IntegerOption.symbol : IntegerOption → String
  | lt => "-lt"
  | gt => "-gt"
  | le => "-le"
  | ge => "-ge"
  | eq => "-eq"
  | ne => "-ne"

inductive BracketOperator where
  | integer (option : IntegerOption)
  | same
  | different
  | sortsBefore
  | sortsAfter

def BracketOperator.symbol : BracketOperator → String
  | integer option => option.symbol
  | same => "="
  | different => "!="
  | sortsBefore => "\\<"
  | sortsAfter => "\\>"

/-- A command that has an outcome and does nothing else. -/
inductive TestCommand where
  | constant (value : Bool)
  | bracket (negated : Bool) (operator : BracketOperator) (left right : Value)

def TestCommand.text : TestCommand → String
  | constant true => "true"
  | constant false => "false"
  | bracket false operator left right =>
    "[ " ++ left.word ++ " " ++ operator.symbol ++ " " ++ right.word ++ " ]"
  | bracket true operator left right =>
    "! [ " ++ left.word ++ " " ++ operator.symbol ++ " " ++ right.word ++ " ]"

/-- Which option compares integers as an operator does. -/
def integerOption : RelOp → IntegerOption
  | .less => .lt
  | .greater => .gt
  | .lessEqual => .le
  | .greaterEqual => .ge
  | .equal => .eq
  | .notEqual => .ne

theorem numericOption_eq (operator : RelOp) :
    numericOption operator = (integerOption operator).symbol := by
  cases operator <;> rfl

theorem numericCommand_eq (operator : RelOp) (left right : Value) :
    bracket (numericOption operator) left right =
      (TestCommand.bracket false (.integer (integerOption operator)) left right).text := by
  rw [numericOption_eq]
  rfl

/-- How texts are compared: by which operator, and whether its outcome is negated. -/
def textualOperator : RelOp → Bool × BracketOperator
  | .equal => (false, .same)
  | .notEqual => (false, .different)
  | .less => (false, .sortsBefore)
  | .greater => (false, .sortsAfter)
  | .lessEqual => (true, .sortsAfter)
  | .greaterEqual => (true, .sortsBefore)

theorem textualCommand_eq (operator : RelOp) (left right : Value) :
    textualCommand operator left right =
      (TestCommand.bracket (textualOperator operator).1 (textualOperator operator).2 left
        right).text := by
  cases operator <;>
    simp [textualCommand, textualOperator, TestCommand.text, BracketOperator.symbol, bracket,
      ← String.append_assoc]

namespace Test

/-- The commands of a test as a tree. -/
def tree : Test → AndOr TestCommand
  | constant value => .command (.constant value)
  | numeric operator left right =>
    .command (.bracket false (.integer (integerOption operator)) left right)
  | textual operator left right =>
    .command (.bracket (textualOperator operator).1 (textualOperator operator).2 left right)
  | conjunction left right => .both left.tree right.tree
  | disjunction left right => .either left.tree right.tree

/-- A test without connectives is one command. -/
theorem element_of_single {test : Test} (noConjunction : test.isConjunction = false)
    (noDisjunction : test.isDisjunction = false) :
    Element test.pieces (test.tree.map TestCommand.text) := by
  cases test with
  | constant value => cases value <;> exact .command
  | numeric operator left right =>
      rw [pieces, numericCommand_eq]
      exact .command
  | textual operator left right =>
      rw [pieces, textualCommand_eq]
      exact .command
  | conjunction => cases noConjunction
  | disjunction => cases noDisjunction

/-- A test is one command as the right operand of a connective, where braces enclose it unless it is
one anyway. -/
theorem element_of_listed {test : Test}
    (listed : Listed test.pieces (test.tree.map TestCommand.text)) :
    Element (if test.isConjunction || test.isDisjunction then grouped test.pieces else test.pieces)
      (test.tree.map TestCommand.text) := by
  split
  · exact .group listed
  · next single =>
      simp only [Bool.or_eq_true, not_or, Bool.not_eq_true] at single
      exact element_of_single single.1 single.2

/-- The text of a test reads as the tree of the test. -/
theorem pieces_listed (test : Test) : Listed test.pieces (test.tree.map TestCommand.text) := by
  induction test with
  | constant value => exact .element (element_of_single rfl rfl)
  | numeric operator left right => exact .element (element_of_single rfl rfl)
  | textual operator left right => exact .element (element_of_single rfl rfl)
  | conjunction left right leftIH rightIH =>
      refine .both ?_ (element_of_listed rightIH)
      split
      · exact .element (.group leftIH)
      · exact leftIH
  | disjunction left right leftIH rightIH =>
      refine .either ?_ (element_of_listed rightIH)
      split
      · exact .element (.group leftIH)
      · exact leftIH

theorem listed_iff (test : Test) (tree : AndOr String) :
    Listed test.pieces tree ↔ tree = test.tree.map TestCommand.text := by
  constructor
  · intro listed
    exact listed.unique test.pieces_listed
  · rintro rfl
    exact test.pieces_listed

end Test

end StructuredShell.Shell
