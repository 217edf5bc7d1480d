import StructuredShell.Shell.Test

/-!
# Shell commands

The commands of which generated code consists, as trees. Bodies are lists of commands; a body that
would be empty holds the command that does nothing, since the shell has no empty bodies.
-/

set_option autoImplicit false

namespace StructuredShell.Shell

inductive Simple where
  | call (name : String) (arguments : List Value)
  | save (isLocal : Bool) (index : Nat) (value : Value)
  | assign (isLocal : Bool) (target : String) (value : Value)
  | parameter (name : String) (index : Nat)
  | handBack (value : Value)
  | leave
  | evaluate (value : Value)
  /-- Shell code as the source program gives it, which may have several lines. -/
  | verbatim (code : String)
  | nothing

mutual

inductive Command where
  | simple (command : Simple)
  | group (body : List Command)
  | conditional (test : Test) (body : List Command) (alternative : Branch)

inductive Branch where
  | absent
  | otherwise (body : List Command)
  | elseIf (test : Test) (body : List Command) (alternative : Branch)

end

structure Function where
  name : String
  body : List Command

/-- A script: commands for the globals, then functions, then the call of the entry point. -/
structure Script where
  globals : List Command
  functions : List Function
  entry : String

def bodyOf (commands : List Command) : List Command :=
  if commands.isEmpty then [.simple .nothing] else commands

end StructuredShell.Shell
