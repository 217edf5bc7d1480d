import StructuredShell.Compile

/-!
# Lowering in one pass

The same commands, made without knowing the shell names ahead. A table goes through the whole pass,
and a name is entered into it at the moment at which the pass has to write it for the first time.
Each function does what its namesake does that is given all the names.
-/

set_option autoImplicit false

namespace StructuredShell.OnePass

open Shell
open Lowering (Lowered Emitted callCode textCode valueOf comparisonTest resultValue isBlock)

abbrev Naming := StateM NameTable

def translate (name : String) : Naming String :=
  fun table => table.translate name

/-! ## Values inside raw text -/

mutual

def inlineFormula : Expr → Naming (Formula Operand)
  | .var name => do
    let shell ← translate name
    return .atom (.var shell)
  | .number value => return .atom (.number value)
  | .text value => return .atom (.output (textCode value))
  | .binary operator left right => do
    let first ← inlineFormula left
    let second ← inlineFormula right
    return .binary operator first second
  | .call name arguments => do
    let shell ← translate name
    let given ← inlineValues arguments
    return .atom (.output (callCode shell given))
  | .raw fragments => do
    let code ← inlineCode fragments
    return .atom (.output (Text.trimEnd code))

def inlineValues : List Expr → Naming (List Value)
  | [] => return []
  | value :: rest => do
    let first ← inlineFormula value
    let others ← inlineValues rest
    return valueOf value first :: others

def inlineCode : List Fragment → Naming String
  | [] => return ""
  | .shell text :: rest => do
    let others ← inlineCode rest
    return text ++ others
  | .splice value :: rest => do
    let first ← inlineFormula value
    let others ← inlineCode rest
    return (valueOf value first).spliced ++ others

end

def rawCode (fragments : List Fragment) : Naming String := do
  let code ← inlineCode fragments
  return Text.trimEnd code

/-! ## Values outside raw text -/

def unsettled (source : Expr) (used : Nat) (lower : Nat → Naming (Lowered (Formula Operand))) :
    Naming (Lowered Value) :=
  match source with
  | .text text => return .ready (.text text) used
  | _ => do
    let formula ← lower used
    return formula.map Value.arithmetic

def settled (isLocal laterCall : Bool) (source : Expr) (used : Nat)
    (lower : Nat → Naming (Lowered (Formula Operand))) : Naming (Lowered Value) := do
  let lowered ← unsettled source used lower
  return if laterCall && !source.isStable then
    (lowered.saved isLocal).map fun operand => .arithmetic (.atom operand)
  else lowered

mutual

def formula (isLocal : Bool) : Expr → Nat → Naming (Lowered (Formula Operand))
  | .var name, used => do
    let shell ← translate name
    return .ready (.atom (.var shell)) used
  | .number value, used => return .ready (.atom (.number value)) used
  | .text value, used => return ((Lowered.ready (Value.text value) used).saved isLocal).map .atom
  | .raw fragments, used => do
    let code ← rawCode fragments
    return .ready (.atom (.output code)) used
  | .call name arguments, used => do
    let shell ← translate name
    let lowered ← values isLocal arguments used
    return (Lowered.saved isLocal ⟨lowered.setup ++ [.call shell lowered.value],
      .arithmetic (.atom .result), lowered.used⟩).map .atom
  | .binary operator left right, used => do
    let whole ← formula isLocal left used
    let first :=
      if right.containsCall && !left.isStable then
        ((whole.map Value.arithmetic).saved isLocal).map .atom
      else whole
    let second ← formula isLocal right first.used
    return ⟨first.setup ++ second.setup, .binary operator first.value second.value, second.used⟩

def values (isLocal : Bool) : List Expr → Nat → Naming (Lowered (List Value))
  | [], used => return .ready [] used
  | argument :: rest, used => do
    let first ← settled isLocal (rest.any Expr.containsCall) argument used
      (formula isLocal argument)
    let others ← values isLocal rest first.used
    return ⟨first.setup ++ others.setup, first.value :: others.value, others.used⟩

end

def value (isLocal laterCall : Bool) (source : Expr) (used : Nat) : Naming (Lowered Value) :=
  settled isLocal laterCall source used (formula isLocal source)

/-! ## Conditions -/

def test (isLocal laterCall : Bool) : Condition → Nat → Naming (Lowered Test)
  | .constant value, used => return .ready (.constant value) used
  | .comparison operator left right, used => do
    let first ← value isLocal (laterCall || right.containsCall) left used
    let second ← value isLocal laterCall right first.used
    return ⟨first.setup ++ second.setup,
      comparisonTest operator left right first.value second.value, second.used⟩
  | .conjunction left right, used => do
    let first ← test isLocal (laterCall || right.containsCall) left used
    let second ← test isLocal laterCall right first.used
    return ⟨first.setup ++ second.setup, .conjunction first.value second.value, second.used⟩
  | .disjunction left right, used => do
    let first ← test isLocal (laterCall || right.containsCall) left used
    let second ← test isLocal laterCall right first.used
    return ⟨first.setup ++ second.setup, .disjunction first.value second.value, second.used⟩

/-! ## Statements -/

def assignment (isLocal : Bool) (binding : Assignment) (used : Nat) : Naming Emitted := do
  let target ← translate binding.target
  let declares := binding.declaration && isLocal
  match binding.value with
  | .call name arguments => do
    let shell ← translate name
    let lowered ← values isLocal arguments used
    return lowered.emit fun given => [.call shell given, .assign declares target resultValue]
  | source => do
    let lowered ← value isLocal false source used
    return lowered.emit fun value => [.assign declares target value]

def returnValue (source : Expr) (used : Nat) : Naming Emitted :=
  match source with
  | .call name arguments => do
    let shell ← translate name
    let lowered ← values true arguments used
    return lowered.emit fun given => [.call shell given, .leave]
  | source => do
    let lowered ← value true false source used
    return lowered.emit fun value => [.handBack value, .leave]

def expression (source : Expr) (used : Nat) : Naming Emitted :=
  match source with
  | .call name arguments => do
    let shell ← translate name
    let lowered ← values true arguments used
    return lowered.emit fun given => [.call shell given]
  | .raw fragments => do
    let code ← rawCode fragments
    return (Lowered.ready code used).emit fun code => if code.isEmpty then [] else [.verbatim code]
  | source => do
    let lowered ← value true false source used
    return lowered.emit fun value => [.evaluate value]

mutual

def contents : Statement → Nat → Naming Emitted
  | .assignment binding, used => assignment true binding used
  | .returnValue value, used => returnValue value used
  | .expression value, used => expression value used
  | .block statements, used => sequence statements used
  | .conditional condition body alternative, used => do
    let head ← test true false condition used
    let inner ← contents body head.used
    let other ← branch alternative inner.used
    return ⟨head.setup.map Command.simple ++
      [.conditional head.value (bodyOf inner.commands) other.1], other.2⟩

def branch : Alternative → Nat → Naming (Branch × Nat)
  | .absent, used => return (.absent, used)
  | .otherwise body, used => do
    let inner ← contents body used
    return (.otherwise (bodyOf inner.commands), inner.used)
  | .elseIf condition body alternative, used => do
    let head ← test true false condition used
    let inner ← contents body head.used
    let other ← branch alternative inner.used
    return if condition.hoists then
      (.otherwise (head.setup.map Command.simple ++
        [.conditional head.value (bodyOf inner.commands) other.1]), other.2)
    else (.elseIf head.value (bodyOf inner.commands) other.1, other.2)

def sequence : List Statement → Nat → Naming Emitted
  | [], used => return ⟨[], used⟩
  | statement :: rest, used => do
    let inner ← contents statement used
    let first := if isBlock statement then [.group (bodyOf inner.commands)] else inner.commands
    let others ← sequence rest inner.used
    return ⟨first ++ others.commands, others.used⟩

end

/-! ## Programs -/

def globals : List Assignment → Nat → Naming Emitted
  | [], used => return ⟨[], used⟩
  | binding :: rest, used => do
    let first ← assignment false binding used
    let others ← globals rest first.used
    return ⟨first.commands ++ others.commands, others.used⟩

def parameters : Nat → List String → Naming (List Command)
  | _, [] => return []
  | index, parameter :: rest => do
    let shell ← translate parameter
    let others ← parameters (index + 1) rest
    return .simple (.parameter shell index) :: others

def function (source : FunctionDecl) (used : Nat) : Naming (Function × Nat) := do
  let shell ← translate source.name
  let given ← parameters 1 source.parameters
  let body ← sequence source.body used
  return (⟨shell, bodyOf (given ++ body.commands)⟩, body.used)

def functions : List FunctionDecl → Nat → Naming (List Function)
  | [], _ => return []
  | source :: rest, used => do
    let first ← function source used
    let others ← functions rest first.2
    return first.1 :: others

def script (entryPoint : String) (program : Program) : Naming Script := do
  let first ← globals program.globals 0
  let second ← functions program.functions first.used
  let entry ← translate entryPoint
  return ⟨first.commands, second, entry⟩

end StructuredShell.OnePass

namespace StructuredShell

/-- Compile a program in one pass, from an empty table on. -/
def Program.compileInOnePass (program : Program) (options : Options) : Compiled :=
  let (script, names) := (OnePass.script options.entryPoint program).run .empty
  ⟨script.text options.shebang options.indent, names⟩

end StructuredShell
