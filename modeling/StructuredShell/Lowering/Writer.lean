import StructuredShell.Lowering.Context

/-!
# Writing a script as it is lowered

The same script, made as one text that grows while the program is walked through. The context of the
walk has the layout options and knows at which depth it writes. A body that has added nothing to the
text gets a command that does nothing.
-/

set_option autoImplicit false

namespace StructuredShell.Writer

open Shell
open Lowering (resultValue isBlock)

/-! ## Contexts -/

/-- What a walk knows and changes: the options, the names so far, the text so far, the depth at
which lines are written, the temporaries in use, whether it is in a function, and how many raw texts
are open. -/
structure Context where
  options : Options
  table : NameTable
  out : String
  depth : Nat
  used : Nat
  inFunction : Bool
  nesting : Nat

def Context.start (options : Options) : Context := ⟨options, .empty, "", 0, 0, false, 0⟩

abbrev Writing := StateM Context

/-- Write a line at the depth of the walk. -/
def line (text : String) : Writing Unit := fun context =>
  ((), { context with
    out := context.out ++ String.join (List.replicate context.depth context.options.indent) ++
      text ++ "\n" })

def blank : Writing Unit := fun context => ((), { context with out := context.out ++ "\n" })

def options : Writing Options := fun context => (context.options, context)

def inFunction : Writing Bool := fun context => (context.inFunction, context)

def setInFunction (value : Bool) : Writing Unit := fun context =>
  ((), { context with inFunction := value })

def deeper : Writing Unit := fun context => ((), { context with depth := context.depth + 1 })

def shallower : Writing Unit := fun context => ((), { context with depth := context.depth - 1 })

/-- The size of the text so far, in bytes. -/
def size : Writing Nat := fun context => (context.out.utf8ByteSize, context)

def place (shape : Line) : Writing Unit := line shape.text

def command (simple : Simple) : Writing Unit := place (.simple simple)

def commands : List Simple → Writing Unit
  | [] => return
  | first :: rest => do
    command first
    commands rest

/-- Write a body, or the command that does nothing if the body writes nothing. -/
def orNothing (body : Writing Unit) : Writing Unit := do
  let before ← size
  body
  let after ← size
  if after = before then command .nothing

def nested (body : Writing Unit) : Writing Unit := do
  deeper
  orNothing body
  shallower

/-! ## Values -/

def Context.within (context : Context) : InContext.Context :=
  ⟨context.table, context.inFunction, context.nesting, context.used, []⟩

def Context.resume (context : Context) (after : InContext.Context) : Context :=
  { context with
    table := after.table
    used := after.used
    inFunction := after.isLocal
    nesting := after.nesting }

/-- Make a value or a test, and write the commands that run ahead of it. -/
def ahead {α : Type} (pass : InContext.Pass α) : Writing α := fun context =>
  let (value, after) := pass context.within
  (value, (commands after.commands (context.resume after)).2)

def translate (name : String) : Writing String :=
  ahead (InContext.translate name)

/-- The command of a call, after the commands that its arguments need. -/
def call (name : String) (arguments : List Expr) : Writing Simple := do
  let shell ← translate name
  let given ← ahead (InContext.values arguments)
  return .call shell given

/-! ## Statements -/

def assignment (binding : Assignment) : Writing Unit := do
  let target ← translate binding.target
  let isLocal ← inFunction
  let declares := binding.declaration && isLocal
  match binding.value with
  | .call name arguments => do
    let made ← call name arguments
    command made
    command (.assign declares target resultValue)
  | source => do
    let value ← ahead (InContext.value false source)
    command (.assign declares target value)

def returnValue (source : Expr) : Writing Unit :=
  match source with
  | .call name arguments => do
    let made ← call name arguments
    command made
    command .leave
  | source => do
    let value ← ahead (InContext.value false source)
    command (.handBack value)
    command .leave

def expression (source : Expr) : Writing Unit :=
  match source with
  | .call name arguments => do
    let made ← call name arguments
    command made
  | .raw fragments => do
    let code ← ahead (InContext.rawCode fragments)
    if !code.isEmpty then command (.verbatim code)
  | source => do
    let value ← ahead (InContext.value false source)
    command (.evaluate value)

/-- A statement among others, where a block keeps its braces. -/
def among (statement : Statement) (contents : Writing Unit) : Writing Unit := do
  if isBlock statement then
    place .openGroup
    nested contents
    place .closeGroup
  else contents

mutual

/-- What a statement does, where a block needs no braces. -/
def contents : Statement → Writing Unit
  | .assignment binding => assignment binding
  | .returnValue value => returnValue value
  | .expression value => expression value
  | .block statements => sequence statements
  | .conditional condition body alternative => do
    let test ← ahead (InContext.test false condition)
    place (.ifThen test)
    nested (contents body)
    branch alternative
    place .endIf

/-- What stands between the body of a conditional and its end. -/
def branch : Alternative → Writing Unit
  | .absent => return
  | .otherwise body => do
    place .otherwise
    nested (contents body)
  | .elseIf condition body alternative => do
    if condition.hoists then
      place .otherwise
      nested do
        let test ← ahead (InContext.test false condition)
        place (.ifThen test)
        nested (contents body)
        branch alternative
        place .endIf
    else
      let test ← ahead (InContext.test false condition)
      place (.elifThen test)
      nested (contents body)
      branch alternative

def sequence : List Statement → Writing Unit
  | [] => return
  | statement :: rest => do
    among statement (contents statement)
    sequence rest

end

def statement (source : Statement) : Writing Unit :=
  among source (contents source)

/-! ## Programs -/

def globals : List Assignment → Writing Unit
  | [] => return
  | binding :: rest => do
    assignment binding
    globals rest

def parameters : Nat → List String → Writing Unit
  | _, [] => return
  | index, parameter :: rest => do
    let shell ← translate parameter
    command (.parameter shell index)
    parameters (index + 1) rest

def function (source : FunctionDecl) : Writing Unit := do
  let shell ← translate source.name
  place (.functionHead shell)
  setInFunction true
  nested do
    parameters 1 source.parameters
    sequence source.body
  setInFunction false
  place .closeGroup

/-- The functions, with an empty line between each two. -/
def functions : List FunctionDecl → Writing Unit
  | [] => return
  | [source] => function source
  | source :: rest => do
    function source
    blank
    functions rest

/-- All that follows the first line. -/
def sections (source : Program) (entryPoint : String) : Writing Unit := do
  blank
  place (.comment "global variables")
  globals source.globals
  blank
  place (.comment "functions")
  functions source.functions
  blank
  place (.comment "entry point")
  let entry ← translate entryPoint
  place (.entryPoint entry)

def program (source : Program) : Writing Unit := do
  let options ← options
  line options.shebang
  sections source options.entryPoint

end StructuredShell.Writer

namespace StructuredShell

/-- Write the script of a program, up to the context at its end. -/
def Program.write (program : Program) (options : Options) : Writer.Context :=
  ((Writer.program program).run (.start options)).2

end StructuredShell
