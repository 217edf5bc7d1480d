import StructuredShell.CommandLine.Run

/-!
# The program

The command line over the files of the machine. Everything is decided by the plan of the request;
here it is only carried out.
-/

set_option autoImplicit false

namespace StructuredShell.CommandLine

def faultOf : IO.Error → FileFault
  | .noFileOrDirectory .. => .system .missing
  | .permissionDenied .. => .system .denied
  | .inappropriateType _ code _ => .system (if code = 20 then .notDirectory else .isDirectory)
  | .resourceExhausted _ code details => .system ⟨details, code.toNat⟩
  | error@(.invalidArgument _ code _) =>
    if code = 36 then .system .nameTooLong else .other (toString error)
  | error => .other (toString error)

def attempt {α : Type} (action : IO α) : IO (Except FileFault α) := do
  try
    return .ok (← action)
  catch error =>
    return .error (faultOf error)

def readText (path : String) : IO (Except FileFault String) := do
  match ← attempt (IO.FS.readBinFile path) with
  | .error fault => return .error fault
  | .ok bytes => return (Contents.ofBytes bytes.toList).asText

def Report.print (report : Report) : IO Nat := do
  IO.eprint report.stderr
  IO.print report.stdout
  return report.status

def Request.perform (request : Request) : IO Nat := do
  match request with
  | .inform text => Report.print ⟨0, text, ""⟩
  | .compile invocation =>
    match invocation.plan (← readText invocation.input) with
    | .done report => report.print
    | .write path text stages report =>
      IO.eprint stages
      (report (← attempt (IO.FS.writeFile path text))).print

end StructuredShell.CommandLine

open StructuredShell.CommandLine in
def main (arguments : List String) : IO UInt32 := do
  match Request.ofArguments arguments with
  | .error rejection =>
    IO.eprint ("error: " ++ rejection.message ++ "\n\n" ++ usage)
    return 2
  | .ok request =>
    return (← request.perform).toUInt32
