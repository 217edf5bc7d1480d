import StructuredShell.Shell.Formula
import StructuredShell.Shell.Name
import StructuredShell.Shell.Quote

/-!
# Values in shell code

What a shell command can compute without running anything beside it: literal text, or arithmetic
over operands that are each one expansion. A value is written as a word of a command, or put as it
is into raw text.
-/

set_option autoImplicit false

namespace StructuredShell.Shell

inductive Operand where
  | var (name : String)
  | number (value : Int)
  | temporary (index : Nat)
  | result
  | output (code : String)

def Operand.expansion : Operand → String
  | var name => "$" ++ name
  | number value => value.repr
  | temporary index => "$" ++ temporaryName index
  | result => "$" ++ resultName
  | output code => "$(" ++ code ++ ")"

def Operand.word (operand : Operand) : String :=
  match operand with
  | number value => value.repr
  | operand => "\"" ++ operand.expansion ++ "\""

/-- A value: literal text, or a formula over operands. -/
inductive Value where
  | text (value : String)
  | arithmetic (formula : Formula Operand)

namespace Value

def expansion (formula : Formula Operand) : String :=
  "$((" ++ formula.text Operand.expansion ++ "))"

def word : Value → String
  | text value => singleQuote value
  | arithmetic (.atom operand) => operand.word
  | arithmetic formula => expansion formula

/-- A value put into raw text, where no quotes are added: literal text becomes part of the code. -/
def spliced : Value → String
  | text value => value
  | arithmetic (.atom (.var name)) => "$\x7b" ++ name ++ "\x7d"
  | arithmetic (.atom operand) => operand.expansion
  | arithmetic formula => expansion formula

end Value

def callText (name : String) (arguments : List Value) : String :=
  name ++ String.join (arguments.map fun argument => " " ++ argument.word)

end StructuredShell.Shell
