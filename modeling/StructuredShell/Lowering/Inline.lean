import StructuredShell.Shell.Value
import StructuredShell.Syntax.Tree
import StructuredShell.Text.Blank

/-!
# Values inside raw text

Raw text has no place for commands ahead of a value, so a call in a splice becomes the output of
code that runs it. Names of the source program are written as a given function translates them.
-/

set_option autoImplicit false

namespace StructuredShell.Lowering

open Shell

def callCode (name : String) (arguments : List Value) : String :=
  callText name arguments ++ " >/dev/null; printf '%s' \"$" ++ resultName ++ "\""

def textCode (text : String) : String :=
  "printf '%s' " ++ singleQuote text

/-- A value of which the formula is known. Literal text is no formula by itself. -/
def valueOf (value : Expr) (formula : Formula Operand) : Value :=
  match value with
  | .text text => .text text
  | _ => .arithmetic formula

mutual

/-- The formula of a value inside raw text. Literal text reaches arithmetic only as the output of
code that quotes it. -/
def inlineFormula (names : String → String) : Expr → Formula Operand
  | .var name => .atom (.var (names name))
  | .number value => .atom (.number value)
  | .text value => .atom (.output (textCode value))
  | .binary operator left right =>
    .binary operator (inlineFormula names left) (inlineFormula names right)
  | .call name arguments => .atom (.output (callCode (names name) (inlineValues names arguments)))
  | .raw fragments => .atom (.output (Text.trimEnd (inlineCode names fragments)))

def inlineValues (names : String → String) : List Expr → List Value
  | [] => []
  | value :: rest => valueOf value (inlineFormula names value) :: inlineValues names rest

def inlineCode (names : String → String) : List Fragment → String
  | [] => ""
  | .shell text :: rest => text ++ inlineCode names rest
  | .splice value :: rest =>
    (valueOf value (inlineFormula names value)).spliced ++ inlineCode names rest

end

/-- The code of a raw environment. Blanks at its end are dropped. -/
def rawCode (names : String → String) (fragments : List Fragment) : String :=
  Text.trimEnd (inlineCode names fragments)

end StructuredShell.Lowering
