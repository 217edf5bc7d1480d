import StructuredShell.Shell.Value

/-!
# Tests in shell code

A test is a tree of comparisons. The shell gives `&&` and `||` equal precedence and groups them to
the left, so a composite operand is put into braces unless it is the left operand of its own
connective.
-/

set_option autoImplicit false

namespace StructuredShell.Shell

inductive Test where
  | constant (value : Bool)
  | numeric (operator : RelOp) (left right : Value)
  | textual (operator : RelOp) (left right : Value)
  | conjunction (left right : Test)
  | disjunction (left right : Test)

def numericOption : RelOp → String
  | .less => "-lt"
  | .greater => "-gt"
  | .lessEqual => "-le"
  | .greaterEqual => "-ge"
  | .equal => "-eq"
  | .notEqual => "-ne"

def bracket (operator : String) (left right : Value) : String :=
  "[ " ++ left.word ++ " " ++ operator ++ " " ++ right.word ++ " ]"

/-- A command that compares texts. There is no operator for "at most" and "at least", which are the
negations of the strict ones. -/
def textualCommand (operator : RelOp) (left right : Value) : String :=
  match operator with
  | .equal => bracket "=" left right
  | .notEqual => bracket "!=" left right
  | .less => bracket "\\<" left right
  | .greater => bracket "\\>" left right
  | .lessEqual => "! " ++ bracket "\\>" left right
  | .greaterEqual => "! " ++ bracket "\\<" left right

inductive TestPiece where
  | command (text : String)
  | both
  | either
  | openGroup
  | closeGroup

def TestPiece.text : TestPiece → String
  | command text => text
  | both => " && "
  | either => " || "
  | openGroup => "\x7b "
  | closeGroup => "; \x7d"

def grouped (pieces : List TestPiece) : List TestPiece :=
  .openGroup :: (pieces ++ [.closeGroup])

namespace Test

def isConjunction : Test → Bool
  | conjunction _ _ => true
  | _ => false

def isDisjunction : Test → Bool
  | disjunction _ _ => true
  | _ => false

def pieces : Test → List TestPiece
  | constant true => [.command "true"]
  | constant false => [.command "false"]
  | numeric operator left right => [.command (bracket (numericOption operator) left right)]
  | textual operator left right => [.command (textualCommand operator left right)]
  | conjunction left right =>
    (if left.isDisjunction then grouped left.pieces else left.pieces) ++ .both ::
      (if right.isConjunction || right.isDisjunction then grouped right.pieces else right.pieces)
  | disjunction left right =>
    (if left.isConjunction then grouped left.pieces else left.pieces) ++ .either ::
      (if right.isConjunction || right.isDisjunction then grouped right.pieces else right.pieces)

def text (test : Test) : String :=
  String.join (test.pieces.map TestPiece.text)

end Test

end StructuredShell.Shell
