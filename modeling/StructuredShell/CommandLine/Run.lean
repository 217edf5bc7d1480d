import StructuredShell.CommandLine.Arguments
import StructuredShell.CommandLine.FileStore
import StructuredShell.Compile
import StructuredShell.Syntax.Interchange
import StructuredShell.Syntax.Printer

/-!
# Runs of the command line

A run reads one file and writes at most one. What it does is decided by a plan, which is computed
from the request and the input alone; carrying a plan out needs no further decision.
-/

set_option autoImplicit false

namespace StructuredShell.CommandLine

/-! ## Reports -/

/-- What a run leaves besides files: its exit status and what it printed. -/
structure Report where
  status : Nat
  stdout : String
  stderr : String
deriving DecidableEq

def note (message : String) : String :=
  programName ++ ": " ++ message ++ "\n"

/-- The stages that a run went through, if it is to report them. -/
def stages (verbose : Bool) (messages : List String) : String :=
  if verbose then String.join (messages.map note) else ""

def success (verbose : Bool) (messages : List String) (stdout : String) : Report :=
  ⟨0, stdout, stages verbose messages⟩

def failure (verbose : Bool) (messages : List String) (error : String) : Report :=
  ⟨1, "", stages verbose messages ++ note error⟩

/-- A run that is broken off by a panic. Where in the run-time library that happens is left out. -/
def panicked (verbose : Bool) (messages : List String) (reason : String) : Report :=
  ⟨101, "", stages verbose messages ++ "thread 'main' panicked: " ++ reason ++ "\n"⟩

/-! ## Plans -/

inductive Plan where
  | done (report : Report)
  /-- Report the stages so far, write a text, and go on by the outcome. -/
  | write (path text stages : String) (report : Except FileFault Unit → Report)

/-- The longest text that there can be, in bytes. -/
def maxTextSize : Nat := 9223372036854775807

namespace Invocation

def options (invocation : Invocation) : Options :=
  let chosen : Options :=
    match invocation.shebang with
    | some shebang => { shebang := shebang }
    | none => {}
  match invocation.indentWidth with
  | some width => chosen.withIndentWidth width
  | none => chosen

/-- Whether a level of indentation is not longer than a text can be. -/
def indentFits (invocation : Invocation) : Bool :=
  invocation.indentWidth.all (· ≤ maxTextSize)

/-- Where the script goes: to the given path, or beside the input. -/
def outputPath (invocation : Invocation) : String :=
  invocation.output.getD (Path.withExtension "sh" invocation.input)

def afterWrite (invocation : Invocation) (script : String) : Except FileFault Unit → Report
  | .error fault =>
    failure invocation.verbose []
      ("cannot write " ++ invocation.outputPath ++ ": " ++ fault.message)
  | .ok _ =>
    success invocation.verbose ["wrote " ++ invocation.outputPath]
      (if invocation.quiet then "" else script)

def planScript (invocation : Invocation) (messages : List String) (program : Program) : Plan :=
  let compiled := program.compile invocation.options
  let messages := messages ++ compiled.names.renamed.map fun (source, shell) =>
    "renamed " ++ source ++ " to " ++ shell
  let path := invocation.outputPath
  if Path.same path invocation.input then
    .done (failure invocation.verbose messages ("output path " ++ path ++ " is the input file"))
  else
    .write path compiled.script (stages invocation.verbose messages)
      (invocation.afterWrite compiled.script)

def planShell (invocation : Invocation) (messages : List String) (program : Program) : Plan :=
  if invocation.indentFits then invocation.planScript messages program
  else .done (panicked invocation.verbose messages "capacity overflow")

def planTokens (invocation : Invocation) (messages : List String) (source : String)
    (tokens : List Token) : Plan :=
  match invocation.emit with
  | .tokens =>
    .done (success invocation.verbose messages
      (String.join (tokens.map fun token => token.shown ++ "\n")))
  | emit =>
    match (TokenStream.ofTokens tokens).program.1 with
    | .error error =>
      .done (failure invocation.verbose messages ((Diagnostic.syntactic error).rendered source))
    | .ok program =>
      let messages := messages ++ ["parsed " ++ program.globals.length.repr ++ " globals, " ++
        program.functions.length.repr ++ " functions"]
      match emit with
      | .tree => .done (success invocation.verbose messages program.shown)
      | .json => .done (success invocation.verbose messages (program.toJson.render ++ "\n"))
      | _ => invocation.planShell messages program

def planSource (invocation : Invocation) (source : String) : Plan :=
  let read := "read " ++ source.utf8ByteSize.repr ++ " bytes from " ++ invocation.input
  match Lexer.tokens source with
  | .error error =>
    .done (failure invocation.verbose [read] ((Diagnostic.lexical error).rendered source))
  | .ok tokens =>
    invocation.planTokens [read, "lexed " ++ tokens.length.repr ++ " tokens"] source tokens

def plan (invocation : Invocation) (input : Except FileFault String) : Plan :=
  match input with
  | .error fault =>
    .done (failure invocation.verbose []
      ("cannot read " ++ invocation.input ++ ": " ++ fault.message))
  | .ok source => invocation.planSource source

end Invocation

/-! ## Runs -/

/-- How a run ends behind a write: with the stages before it and what the write put on the streams
in front of the report, and with the store that the write left. -/
def settle (stages : String) (report : Except FileFault Unit → Report)
    (written : FileStore.Written) : Report × FileStore :=
  let last := report (written.result.mapError .system)
  (⟨last.status, written.stdout ++ last.stdout, stages ++ written.stderr ++ last.stderr⟩,
    written.store)

def Plan.carryOut (plan : Plan) (store : FileStore) : Report × FileStore :=
  match plan with
  | .done report => (report, store)
  | .write path text stages report => settle stages report (store.write path text)

def Invocation.run (invocation : Invocation) (store : FileStore) : Report × FileStore :=
  (invocation.plan (store.read invocation.input)).carryOut store

def Request.run (request : Request) (store : FileStore) : Report × FileStore :=
  match request with
  | .compile invocation => invocation.run store
  | .inform text => (⟨0, text, ""⟩, store)

/-- Run the command line on a file store, if its arguments are accepted. -/
def ArgumentReader.run {ε : Type} (reader : ArgumentReader ε) (arguments : List String)
    (store : FileStore) : Except ε (Report × FileStore) :=
  match reader arguments with
  | .error rejection => .error rejection
  | .ok request => .ok (request.run store)

/-- Run the command line with the reader of this program. -/
def run (arguments : List String) (store : FileStore) : Except Rejection (Report × FileStore) :=
  Request.ofArguments.run arguments store

end StructuredShell.CommandLine
