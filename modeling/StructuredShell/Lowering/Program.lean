import StructuredShell.Lowering.Statement
import StructuredShell.Shell.Layout

/-!
# Programs

A program becomes a script: commands for the globals, then its functions, then the call of its entry
point. The temporaries are numbered through the whole script.
-/

set_option autoImplicit false

namespace StructuredShell.Lowering

open Shell

def globals (names : String → String) : List Assignment → Nat → Emitted
  | [], used => ⟨[], used⟩
  | binding :: rest, used =>
    let first := assignment names false binding used
    let others := globals names rest first.used
    ⟨first.commands ++ others.commands, others.used⟩

/-- The commands that name the positional arguments of a function, from a given one on. -/
def parameters (names : String → String) : Nat → List String → List Command
  | _, [] => []
  | index, parameter :: rest =>
    .simple (.parameter (names parameter) index) :: parameters names (index + 1) rest

def function (names : String → String) (source : FunctionDecl) (used : Nat) : Function × Nat :=
  let body := sequence names source.body used
  (⟨names source.name, bodyOf (parameters names 1 source.parameters ++ body.commands)⟩, body.used)

def functions (names : String → String) : List FunctionDecl → Nat → List Function
  | [], _ => []
  | source :: rest, used =>
    let first := function names source used
    first.1 :: functions names rest first.2

def script (names : String → String) (entryPoint : String) (program : Program) : Script :=
  let first := globals names program.globals 0
  ⟨first.commands, functions names program.functions first.used, names entryPoint⟩

end StructuredShell.Lowering
