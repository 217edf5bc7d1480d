import StructuredShell.Shell.Command

/-!
# The layout of scripts

A script is laid out as a list of lines, each at a depth. Only the last step, which turns lines into
text, knows how wide an indent is and what the first line of the script says.
-/

set_option autoImplicit false

namespace StructuredShell.Shell

/-! ## Lines -/

/-- A line of a script. Code that comes from the source program may break it into several lines of
text, of which only the first is indented. -/
inductive Line where
  | simple (command : Simple)
  | ifThen (test : Test)
  | elifThen (test : Test)
  | otherwise
  | endIf
  | openGroup
  | closeGroup
  | functionHead (name : String)
  | comment (text : String)
  | entryPoint (name : String)
  | blank

def localWord (isLocal : Bool) : String :=
  if isLocal then "local " else ""

/-- The expansion of a positional argument. From ten on the digits need braces. -/
def positional (index : Nat) : String :=
  if index < 10 then "$" ++ index.repr else "$\x7b" ++ index.repr ++ "\x7d"

def Simple.text : Simple → String
  | call name arguments => callText name arguments
  | save isLocal index value => localWord isLocal ++ temporaryName index ++ "=" ++ value.word
  | assign isLocal target value => localWord isLocal ++ target ++ "=" ++ value.word
  | parameter name index => localWord true ++ name ++ "=\"" ++ positional index ++ "\""
  | handBack value => resultName ++ "=" ++ value.word
  | leave => "return"
  | evaluate value => ": " ++ value.word
  | verbatim code => code
  | nothing => ":"

def Line.text : Line → String
  | simple command => command.text
  | ifThen test => "if " ++ test.text ++ "; then"
  | elifThen test => "elif " ++ test.text ++ "; then"
  | otherwise => "else"
  | endIf => "fi"
  | openGroup => "\x7b"
  | closeGroup => "\x7d"
  | functionHead name => name ++ "() \x7b"
  | comment text => "# " ++ text
  | entryPoint name => name ++ " \"$@\""
  | blank => ""

structure PlacedLine where
  depth : Nat
  line : Line

/-! ## Lines of commands -/

mutual

def Command.lines (depth : Nat) : Command → List PlacedLine
  | .simple command => [⟨depth, .simple command⟩]
  | .group body =>
    ⟨depth, .openGroup⟩ :: (Command.linesOf (depth + 1) body ++ [⟨depth, .closeGroup⟩])
  | .conditional test body alternative =>
    ⟨depth, .ifThen test⟩ :: (Command.linesOf (depth + 1) body ++ alternative.lines depth)

/-- The lines after the body of a conditional, up to and with its end. -/
def Branch.lines (depth : Nat) : Branch → List PlacedLine
  | .absent => [⟨depth, .endIf⟩]
  | .otherwise body =>
    ⟨depth, .otherwise⟩ :: (Command.linesOf (depth + 1) body ++ [⟨depth, .endIf⟩])
  | .elseIf test body alternative =>
    ⟨depth, .elifThen test⟩ :: (Command.linesOf (depth + 1) body ++ alternative.lines depth)

def Command.linesOf (depth : Nat) : List Command → List PlacedLine
  | [] => []
  | command :: rest => command.lines depth ++ Command.linesOf depth rest

end

def Function.lines (function : Function) : List PlacedLine :=
  ⟨0, .functionHead function.name⟩ :: (Command.linesOf 1 function.body ++ [⟨0, .closeGroup⟩])

def functionLines : List Function → List PlacedLine
  | [] => []
  | [function] => function.lines
  | function :: rest => function.lines ++ ⟨0, .blank⟩ :: functionLines rest

def Script.lines (script : Script) : List PlacedLine :=
  [⟨0, .blank⟩, ⟨0, .comment "global variables"⟩] ++ Command.linesOf 0 script.globals ++
    [⟨0, .blank⟩, ⟨0, .comment "functions"⟩] ++ functionLines script.functions ++
    [⟨0, .blank⟩, ⟨0, .comment "entry point"⟩, ⟨0, .entryPoint script.entry⟩]

/-! ## Text -/

def PlacedLine.text (indent : String) (placed : PlacedLine) : String :=
  String.join (List.replicate placed.depth indent) ++ placed.line.text ++ "\n"

/-- A script as a text, with a first line that names its interpreter. -/
def Script.text (interpreter indent : String) (script : Script) : String :=
  interpreter ++ "\n" ++ String.join (script.lines.map (PlacedLine.text indent))

end StructuredShell.Shell
