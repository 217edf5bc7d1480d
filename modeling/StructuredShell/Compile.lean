import StructuredShell.Lowering.Program
import StructuredShell.NameTable
import StructuredShell.Syntax.Names
import StructuredShell.Syntax.Parser.Program

/-!
# Compiling programs

From a program or a source text to the text of a script, together with the shell names that the
names of the program got.
-/

set_option autoImplicit false

namespace StructuredShell

structure Options where
  shebang : String := "#!/bin/sh"
  indent : String := "    "
  /-- The source name of the function that the script calls at its end. -/
  entryPoint : String := "main"

def Options.withIndentWidth (options : Options) (width : Nat) : Options :=
  { options with indent := String.ofList (List.replicate width ' ') }

structure Compiled where
  script : String
  names : NameTable

/-- The shell names of a program: its names are translated in the order in which they occur, and
then the entry point is. -/
def Program.nameTable (program : Program) (entryPoint : String) : NameTable :=
  NameTable.empty.translateAll (program.names ++ [entryPoint])

def Program.compile (program : Program) (options : Options) : Compiled :=
  let table := program.nameTable options.entryPoint
  let script := Lowering.script table.shellName options.entryPoint program
  ⟨script.text options.shebang options.indent, table⟩

def compile (source : String) (options : Options) : Except Diagnostic Compiled :=
  match Program.parse source with
  | .error diagnostic => .error diagnostic
  | .ok program => .ok (program.compile options)

end StructuredShell
