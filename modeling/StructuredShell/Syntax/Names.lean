import StructuredShell.Syntax.Tree

/-!
# The names of a program

Every occurrence of a name in a program, in the order in which a reader meets them: a target before
its value, the name of a call before its arguments, a condition before what it guards. Names inside
the splices of raw text count; raw text itself does not.
-/

set_option autoImplicit false

namespace StructuredShell

mutual

def Expr.names : Expr → List String
  | .var name => [name]
  | .number _ => []
  | .text _ => []
  | .binary _ left right => left.names ++ right.names
  | .call name arguments => name :: Expr.namesOf arguments
  | .raw fragments => Fragment.namesOf fragments

def Expr.namesOf : List Expr → List String
  | [] => []
  | value :: rest => value.names ++ Expr.namesOf rest

def Fragment.namesOf : List Fragment → List String
  | [] => []
  | .shell _ :: rest => Fragment.namesOf rest
  | .splice value :: rest => value.names ++ Fragment.namesOf rest

end

def Condition.names : Condition → List String
  | .constant _ => []
  | .comparison _ left right => left.names ++ right.names
  | .conjunction left right => left.names ++ right.names
  | .disjunction left right => left.names ++ right.names

def Assignment.names (binding : Assignment) : List String :=
  binding.target :: binding.value.names

mutual

def Statement.names : Statement → List String
  | .assignment binding => binding.names
  | .returnValue value => value.names
  | .block statements => Statement.namesOf statements
  | .conditional condition body alternative => condition.names ++ body.names ++ alternative.names
  | .expression value => value.names

def Alternative.names : Alternative → List String
  | .absent => []
  | .otherwise body => body.names
  | .elseIf condition body alternative => condition.names ++ body.names ++ alternative.names

def Statement.namesOf : List Statement → List String
  | [] => []
  | statement :: rest => statement.names ++ Statement.namesOf rest

end

def FunctionDecl.names (function : FunctionDecl) : List String :=
  function.name :: (function.parameters ++ Statement.namesOf function.body)

/-- The names in a program: those of the globals, then those of the functions. -/
def Program.names (program : Program) : List String :=
  program.globals.flatMap Assignment.names ++ program.functions.flatMap FunctionDecl.names

end StructuredShell
