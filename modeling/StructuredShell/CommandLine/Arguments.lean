import StructuredShell.Text.Word

/-!
# Arguments of the command line

What a run is asked for is read from its arguments by an argument reader, which is not part of the
command line itself: a run takes any. The one below is a reader for the arguments of this program.
It goes from left to right, and the first argument that is wrong, or that asks for the version or
for help, decides. Options may stand before, between and after the paths; a bare `--` ends them.
-/

set_option autoImplicit false

namespace StructuredShell.CommandLine

/-! ## What is asked for -/

inductive Emit where
  | shell
  | tokens
  | tree
  | json
deriving DecidableEq

def Emit.ofName? (name : String) : Option Emit :=
  [("shell", shell), ("tokens", tokens), ("ast", tree), ("ast-json", json)].lookup name

structure Invocation where
  input : String
  output : Option String
  emit : Emit
  shebang : Option String
  indentWidth : Option Nat
  quiet : Bool
  verbose : Bool

/-- What a run is asked for: to compile, or to print a text that the argument reader has ready, such
as the version. -/
inductive Request where
  | compile (invocation : Invocation)
  | inform (text : String)

/-- A reader of arguments, which takes them or says why it does not. -/
abbrev ArgumentReader (ε : Type) := List String → Except ε Request

/-! ## The program -/

def programName : String := "punch"

def programVersion : String := "0.1.0"

def versionText : String :=
  programName ++ " " ++ programVersion ++ "\n"

def usage : String :=
  "Usage: " ++ programName ++ " [OPTIONS] <INPUT> [OUTPUT]\n\n" ++
  "      --emit <KIND>     shell, tokens, ast or ast-json\n" ++
  "      --shebang <LINE>  first line of the script\n" ++
  "      --indent <WIDTH>  spaces for each level of indentation\n" ++
  "  -q, --quiet           do not print the script\n" ++
  "  -v, --verbose         report each stage\n" ++
  "  -h, --help            print this text\n" ++
  "  -V, --version         print the version\n"

inductive Rejection where
  | unknownOption (argument : String)
  | repeatedOption (name : String)
  | missingValue (name : String)
  | unexpectedValue (name : String)
  | invalidValue (name value : String)
  | emptyPath
  | extraPath (argument : String)
  | missingInput
deriving DecidableEq

def Rejection.message : Rejection → String
  | unknownOption argument => "unexpected argument '" ++ argument ++ "'"
  | repeatedOption name => "'" ++ name ++ "' cannot be used more than once"
  | missingValue name => "'" ++ name ++ "' needs a value"
  | unexpectedValue name => "'" ++ name ++ "' takes no value"
  | invalidValue name value => "invalid value '" ++ value ++ "' for '" ++ name ++ "'"
  | emptyPath => "a path must not be empty"
  | extraPath argument => "unexpected argument '" ++ argument ++ "'"
  | missingInput => "no input file is given"

/-! ## Single arguments -/

inductive Setting where
  | emit
  | shebang
  | indent

inductive Flag where
  | quiet
  | verbose
  | version
  | help

def Setting.ofName? (name : String) : Option Setting :=
  [("--emit", emit), ("--shebang", shebang), ("--indent", indent)].lookup name

def Flag.ofName? (name : String) : Option Flag :=
  [("--quiet", quiet), ("--verbose", verbose), ("--version", version), ("--help", help)].lookup name

def Flag.ofLetter? (letter : Char) : Option Flag :=
  [('q', quiet), ('v', verbose), ('V', version), ('h', help)].lookup letter

inductive Argument where
  | divider
  /-- An option by its long name, with the value after an equals sign, if there is one. -/
  | long (name : String) (value : Option String)
  | short (letters : List Char)
  | path (text : String)

/-- Classify an argument. A bare dash is a path. -/
def Argument.ofText (text : String) : Argument :=
  match text.toList with
  | ['-', '-'] => divider
  | '-' :: '-' :: rest =>
    let name := String.ofList ('-' :: '-' :: rest.takeWhile (· != '='))
    match rest.dropWhile (· != '=') with
    | [] => long name none
    | _ :: value => long name (some (String.ofList value))
  | '-' :: letter :: rest => short (letter :: rest)
  | _ => path text

def isValue (text : String) : Bool :=
  match Argument.ofText text with
  | .path _ => true
  | _ => false

def largestWidth : Nat := 18446744073709551615

def width? (text : String) : Option Nat :=
  let digits := match text.toList with
    | '+' :: rest => rest
    | cs => cs
  let value := digits.foldl (fun value c => 10 * value + (c.toNat - '0'.toNat)) 0
  if !digits.isEmpty && digits.all Text.isDigit && value ≤ largestWidth then some value else none

/-! ## Argument lists -/

structure Draft where
  paths : List String := []
  emit : Option Emit := none
  shebang : Option String := none
  indentWidth : Option Nat := none
  quiet : Bool := false
  verbose : Bool := false

namespace Draft

def addPath (draft : Draft) (path : String) : Except Rejection Draft :=
  if draft.paths.length ≥ 2 then .error (.extraPath path)
  else if path = "" then .error .emptyPath
  else .ok { draft with paths := draft.paths ++ [path] }

def set (draft : Draft) (setting : Setting) (value : String) : Except Rejection Draft :=
  match setting with
  | .emit =>
    if draft.emit.isSome then .error (.repeatedOption "--emit")
    else
      match Emit.ofName? value with
      | some emit => .ok { draft with emit := some emit }
      | none => .error (.invalidValue "--emit" value)
  | .shebang =>
    if draft.shebang.isSome then .error (.repeatedOption "--shebang")
    else .ok { draft with shebang := some value }
  | .indent =>
    if draft.indentWidth.isSome then .error (.repeatedOption "--indent")
    else
      match width? value with
      | some width => .ok { draft with indentWidth := some width }
      | none => .error (.invalidValue "--indent" value)

def raise (draft : Draft) (flag : Flag) : Except Rejection (Draft ⊕ Request) :=
  match flag with
  | .quiet =>
    if draft.quiet then .error (.repeatedOption "--quiet")
    else .ok (.inl { draft with quiet := true })
  | .verbose =>
    if draft.verbose then .error (.repeatedOption "--verbose")
    else .ok (.inl { draft with verbose := true })
  | .version => .ok (.inr (.inform versionText))
  | .help => .ok (.inr (.inform usage))

def raiseAll (draft : Draft) : List Char → Except Rejection (Draft ⊕ Request)
  | [] => .ok (.inl draft)
  | letter :: rest =>
    match Flag.ofLetter? letter with
    | none => .error (.unknownOption (String.ofList ['-', letter]))
    | some flag =>
      match draft.raise flag with
      | .error rejection => .error rejection
      | .ok (.inr request) => .ok (.inr request)
      | .ok (.inl next) => next.raiseAll rest

def finish (draft : Draft) : Except Rejection Request :=
  match draft.paths with
  | [] => .error .missingInput
  | input :: rest =>
    .ok (.compile {
      input := input
      output := rest.head?
      emit := draft.emit.getD .shell
      shebang := draft.shebang
      indentWidth := draft.indentWidth
      quiet := draft.quiet
      verbose := draft.verbose })

def readPaths (draft : Draft) : List String → Except Rejection Request
  | [] => draft.finish
  | argument :: rest =>
    match draft.addPath argument with
    | .error rejection => .error rejection
    | .ok next => next.readPaths rest

def read (draft : Draft) : List String → Except Rejection Request
  | [] => draft.finish
  | argument :: rest =>
    match Argument.ofText argument with
    | .divider => draft.readPaths rest
    | .path text =>
      match draft.addPath text with
      | .error rejection => .error rejection
      | .ok next => next.read rest
    | .short letters =>
      match draft.raiseAll letters with
      | .error rejection => .error rejection
      | .ok (.inr request) => .ok request
      | .ok (.inl next) => next.read rest
    | .long name value =>
      match Flag.ofName? name, Setting.ofName? name with
      | some flag, _ =>
        if value.isSome then .error (.unexpectedValue name)
        else
          match draft.raise flag with
          | .error rejection => .error rejection
          | .ok (.inr request) => .ok request
          | .ok (.inl next) => next.read rest
      | none, some setting =>
        match value, rest with
        | some value, rest =>
          match draft.set setting value with
          | .error rejection => .error rejection
          | .ok next => next.read rest
        | none, [] => .error (.missingValue name)
        | none, value :: rest =>
          if isValue value then
            match draft.set setting value with
            | .error rejection => .error rejection
            | .ok next => next.read rest
          else .error (.missingValue name)
      | none, none => .error (.unknownOption name)

end Draft

def Request.ofArguments : ArgumentReader Rejection :=
  Draft.read {}

end StructuredShell.CommandLine
