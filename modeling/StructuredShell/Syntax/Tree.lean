/-!
# Program trees

A program is a list of global assignments and a list of functions. Values are arithmetic
expressions, calls and raw shell text; conditions are a separate grammar of comparisons. Nothing
here restricts names, numbers or texts: trees that no source text has are trees too.
-/

set_option autoImplicit false

namespace StructuredShell

/-! ## Values -/

inductive ArithOp where
  | add
  | subtract
  | multiply
  | divide
  | modulo
deriving DecidableEq

/-- The sign of an arithmetic operator, the same in source text and in shell arithmetic. -/
def ArithOp.symbol : ArithOp → String
  | add => "+"
  | subtract => "-"
  | multiply => "*"
  | divide => "/"
  | modulo => "%"

mutual

inductive Expr where
  | var (name : String)
  | number (value : Int)
  | text (value : String)
  | binary (operator : ArithOp) (left right : Expr)
  | call (name : String) (arguments : List Expr)
  | raw (fragments : List Fragment)

/-- A piece of a raw environment: shell text, or a value put in its place. -/
inductive Fragment where
  | shell (text : String)
  | splice (value : Expr)

end

/-! ## Conditions -/

inductive RelOp where
  | less
  | greater
  | lessEqual
  | greaterEqual
  | equal
  | notEqual
deriving DecidableEq

def RelOp.symbol : RelOp → String
  | less => "<"
  | greater => ">"
  | lessEqual => "<="
  | greaterEqual => ">="
  | equal => "=="
  | notEqual => "!="

inductive Condition where
  | constant (value : Bool)
  | comparison (operator : RelOp) (left right : Expr)
  | conjunction (left right : Condition)
  | disjunction (left right : Condition)

/-! ## Statements -/

/-- A binding of a value to a name, which declares the name or rebinds it. -/
structure Assignment where
  declaration : Bool
  target : String
  value : Expr

mutual

inductive Statement where
  | assignment (binding : Assignment)
  | returnValue (value : Expr)
  | block (statements : List Statement)
  | conditional (condition : Condition) (body : Statement) (alternative : Alternative)
  | expression (value : Expr)

/-- What a conditional does when its condition fails. A further condition after `else` is kept apart
from a body that happens to be a conditional. -/
inductive Alternative where
  | absent
  | otherwise (body : Statement)
  | elseIf (condition : Condition) (body : Statement) (alternative : Alternative)

end

/-! ## Programs -/

structure FunctionDecl where
  name : String
  parameters : List String
  body : List Statement

/-- A program: the globals and the functions, each in source order. -/
structure Program where
  globals : List Assignment
  functions : List FunctionDecl

end StructuredShell
