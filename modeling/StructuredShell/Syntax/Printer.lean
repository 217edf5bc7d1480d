import StructuredShell.Syntax.Tree

/-!
# Showing programs

Statements are shown in the layout of source text. Values and conditions are shown in prefix form
with every operation in parentheses, so that their grouping can be seen.
-/

set_option autoImplicit false

namespace StructuredShell

/-! ## Values and conditions -/

mutual

def Expr.shown : Expr → String
  | .var name => name
  | .number value => value.repr
  | .text value => "\"" ++ value ++ "\""
  | .binary operator left right =>
    "(" ++ operator.symbol ++ " " ++ left.shown ++ " " ++ right.shown ++ ")"
  | .call name arguments => name ++ "(" ++ Expr.shownArguments arguments ++ ")"
  | .raw fragments => "$(" ++ Fragment.shownAll fragments ++ ")"

def Expr.shownArguments : List Expr → String
  | [] => ""
  | [argument] => argument.shown
  | argument :: rest => argument.shown ++ ", " ++ Expr.shownArguments rest

def Fragment.shownAll : List Fragment → String
  | [] => ""
  | .shell text :: rest => text ++ Fragment.shownAll rest
  | .splice value :: rest => "$[" ++ value.shown ++ "]" ++ Fragment.shownAll rest

end

def Condition.shown : Condition → String
  | .constant true => "true"
  | .constant false => "false"
  | .comparison operator left right =>
    "(" ++ operator.symbol ++ " " ++ left.shown ++ " " ++ right.shown ++ ")"
  | .conjunction left right => "(&& " ++ left.shown ++ " " ++ right.shown ++ ")"
  | .disjunction left right => "(|| " ++ left.shown ++ " " ++ right.shown ++ ")"

/-! ## Statements -/

def Assignment.shown (binding : Assignment) : String :=
  (if binding.declaration then "var " else "") ++ binding.target ++ " = " ++ binding.value.shown ++
    ";"

def shownMargin (depth : Nat) : String :=
  String.ofList (List.replicate (4 * depth) ' ')

/-- A value that stands as a statement. Raw text keeps the braces it has in that place. -/
def Expr.shownStatement : Expr → String
  | .raw fragments => "raw \x7b " ++ Fragment.shownAll fragments ++ " \x7d"
  | value => value.shown ++ ";"

mutual

def Statement.shownAt (depth : Nat) : Statement → String
  | .assignment binding => shownMargin depth ++ binding.shown ++ "\n"
  | .returnValue value => shownMargin depth ++ "return " ++ value.shown ++ ";\n"
  | .expression value => shownMargin depth ++ value.shownStatement ++ "\n"
  | .block statements =>
    shownMargin depth ++ "\x7b\n" ++ Statement.shownAll (depth + 1) statements ++
      shownMargin depth ++ "\x7d\n"
  | .conditional condition body alternative =>
    shownMargin depth ++ "if " ++ condition.shown ++ "\n" ++ body.shownAt (depth + 1) ++
      alternative.shownAt depth

/-- The lines after the body of a conditional that stands at a given depth. -/
def Alternative.shownAt (depth : Nat) : Alternative → String
  | .absent => ""
  | .otherwise body => shownMargin depth ++ "else\n" ++ body.shownAt (depth + 1)
  | .elseIf condition body alternative =>
    shownMargin depth ++ "else if " ++ condition.shown ++ "\n" ++ body.shownAt (depth + 1) ++
      alternative.shownAt depth

def Statement.shownAll (depth : Nat) : List Statement → String
  | [] => ""
  | statement :: rest => statement.shownAt depth ++ Statement.shownAll depth rest

end

def Statement.shown (statement : Statement) : String :=
  statement.shownAt 0

/-! ## Programs -/

def FunctionDecl.shown (function : FunctionDecl) : String :=
  "func " ++ function.name ++ "(" ++ String.intercalate ", " function.parameters ++ ") \x7b\n" ++
    Statement.shownAll 1 function.body ++ "\x7d"

/-- A program: the globals, then the functions, with an empty line before every function that does
not open the text. -/
def Program.shown (program : Program) : String :=
  let globals := program.globals.map fun binding => binding.shown ++ "\n"
  let functions := program.functions.map fun function => function.shown ++ "\n"
  let gap := if globals.isEmpty || functions.isEmpty then "" else "\n"
  String.join globals ++ gap ++ String.intercalate "\n" functions

end StructuredShell
