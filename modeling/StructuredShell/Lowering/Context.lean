import StructuredShell.Lowering.OnePass

/-!
# Lowering through one context

The same values and tests, made by one set of functions for code outside raw text and code inside
it. A context goes through the pass. It counts the raw texts that are open around the place that is
written, and whether a call or literal text gets commands ahead of it is asked of the context each
time.
-/

set_option autoImplicit false

namespace StructuredShell.InContext

open Shell
open Lowering (callCode textCode comparisonTest resultValue)

/-! ## Contexts -/

/-- What a pass knows and changes: the names so far, whether temporaries are local, how many raw
texts are open, the temporaries in use, and the commands that have been written ahead. -/
structure Context where
  table : NameTable
  isLocal : Bool
  nesting : Nat
  used : Nat
  commands : List Simple

abbrev Pass := StateM Context

def translate (name : String) : Pass String := fun context =>
  let (shell, table) := context.table.translate name
  (shell, { context with table := table })

def insideRawText : Pass Bool := fun context => (0 < context.nesting, context)

def write (command : Simple) : Pass Unit := fun context =>
  ((), { context with commands := context.commands ++ [command] })

/-- Write the command that saves a value into the next temporary, which stands for it from then
on. -/
def save (value : Value) : Pass Operand := fun context =>
  let index := context.used + 1
  (.temporary index, { context with
    used := index, commands := context.commands ++ [.save context.isLocal index value] })

def enter : Pass Unit := fun context => ((), { context with nesting := context.nesting + 1 })

def leave : Pass Unit := fun context => ((), { context with nesting := context.nesting - 1 })

/-! ## What depends on the context -/

/-- What stands for a value: what it is saved in, if that is asked for and commands can run ahead,
and otherwise what it is already. -/
def kept {α : Type} (asked : Bool) (value : Value) (already : α) (afterwards : Operand → α) :
    Pass α := do
  let inside ← insideRawText
  if asked && !inside then
    let operand ← save value
    return afterwards operand
  else return already

/-- Literal text as an operand of arithmetic. -/
def textOperand (text : String) : Pass Operand := do
  let inside ← insideRawText
  if inside then return .output (textCode text)
  else save (.text text)

def callOperand (shell : String) (given : List Value) : Pass Operand := do
  let inside ← insideRawText
  if inside then return .output (callCode shell given)
  else
    write (.call shell given)
    save resultValue

/-- The code of a raw environment, from the code of its fragments. Blanks at its end are dropped. -/
def enclosed (lower : Pass String) : Pass String := do
  enter
  let code ← lower
  leave
  return Text.trimEnd code

/-! ## Values -/

def unsettled (source : Expr) (lower : Pass (Formula Operand)) : Pass Value :=
  match source with
  | .text text => return .text text
  | _ => do
    let formula ← lower
    return .arithmetic formula

/-- A value from the pass that makes its formula. A value that could change while a later call runs
is saved, if that call runs ahead. -/
def settled (laterCall : Bool) (source : Expr) (lower : Pass (Formula Operand)) : Pass Value := do
  let value ← unsettled source lower
  kept (laterCall && !source.isStable) value value fun operand => .arithmetic (.atom operand)

mutual

def formula : Expr → Pass (Formula Operand)
  | .var name => do
    let shell ← translate name
    return .atom (.var shell)
  | .number value => return .atom (.number value)
  | .text value => do
    let operand ← textOperand value
    return .atom operand
  | .raw fragments => do
    let code ← enclosed (code fragments)
    return .atom (.output code)
  | .call name arguments => do
    let shell ← translate name
    let given ← values arguments
    let operand ← callOperand shell given
    return .atom operand
  | .binary operator left right => do
    let whole ← formula left
    let first ← kept (right.containsCall && !left.isStable) (.arithmetic whole) whole .atom
    let second ← formula right
    return .binary operator first second

def values : List Expr → Pass (List Value)
  | [] => return []
  | argument :: rest => do
    let first ← settled (rest.any Expr.containsCall) argument (formula argument)
    let others ← values rest
    return first :: others

def code : List Fragment → Pass String
  | [] => return ""
  | .shell text :: rest => do
    let others ← code rest
    return text ++ others
  | .splice value :: rest => do
    let first ← settled false value (formula value)
    let others ← code rest
    return first.spliced ++ others

end

def value (laterCall : Bool) (source : Expr) : Pass Value :=
  settled laterCall source (formula source)

def rawCode (fragments : List Fragment) : Pass String :=
  enclosed (code fragments)

/-! ## Conditions -/

def test (laterCall : Bool) : Condition → Pass Test
  | .constant value => return .constant value
  | .comparison operator left right => do
    let first ← value (laterCall || right.containsCall) left
    let second ← value laterCall right
    return comparisonTest operator left right first second
  | .conjunction left right => do
    let first ← test (laterCall || right.containsCall) left
    let second ← test laterCall right
    return .conjunction first second
  | .disjunction left right => do
    let first ← test (laterCall || right.containsCall) left
    let second ← test laterCall right
    return .disjunction first second

end StructuredShell.InContext
