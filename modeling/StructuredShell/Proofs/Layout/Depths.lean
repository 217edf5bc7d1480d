import StructuredShell.Shell.Layout

/-!
# Depths are numbers of bodies

The depth of every line of a script is the number of bodies that are open around it: the bodies of
functions, groups and the parts of conditionals. This is said of the lines alone. A line begins a
body, ends one, ends one and begins the next, or stands in between.
-/

set_option autoImplicit false

namespace StructuredShell.Shell

/-! ## Bodies that are open -/

/-- What a line does to the bodies around it. -/
inductive Role where
  | stands
  | begins
  | divides
  | ends

def Line.role : Line → Role
  | .functionHead _ | .openGroup | .ifThen _ => .begins
  | .elifThen _ | .otherwise => .divides
  | .endIf | .closeGroup => .ends
  | .simple _ | .comment _ | .entryPoint _ | .blank => .stands

/-- Lines that are placed at the number of bodies around them, from one number of open bodies to
another. A line that begins or ends a body is itself outside of it. -/
inductive InBodies : Nat → List PlacedLine → Nat → Prop where
  | nil {around : Nat} : InBodies around [] around
  | stands {around after : Nat} {line : Line} {rest : List PlacedLine} :
      line.role = .stands → InBodies around rest after →
      InBodies around (⟨around, line⟩ :: rest) after
  | begins {around after : Nat} {line : Line} {rest : List PlacedLine} :
      line.role = .begins → InBodies (around + 1) rest after →
      InBodies around (⟨around, line⟩ :: rest) after
  | divides {around after : Nat} {line : Line} {rest : List PlacedLine} :
      line.role = .divides → InBodies (around + 1) rest after →
      InBodies (around + 1) (⟨around, line⟩ :: rest) after
  | ends {around after : Nat} {line : Line} {rest : List PlacedLine} :
      line.role = .ends → InBodies around rest after →
      InBodies (around + 1) (⟨around, line⟩ :: rest) after

theorem InBodies.append {before middle after : Nat} {first second : List PlacedLine}
    (earlier : InBodies before first middle) (later : InBodies middle second after) :
    InBodies before (first ++ second) after := by
  induction earlier with
  | nil => exact later
  | stands role _ ih => exact .stands role (ih later)
  | begins role _ ih => exact .begins role (ih later)
  | divides role _ ih => exact .divides role (ih later)
  | ends role _ ih => exact .ends role (ih later)

/-! ## The lines of scripts -/

mutual

theorem Command.lines_inBodies (depth : Nat) (command : Command) :
    InBodies depth (command.lines depth) depth := by
  match command with
  | .simple _ => exact .stands rfl .nil
  | .group body =>
      exact .begins rfl ((Command.linesOf_inBodies (depth + 1) body).append (.ends rfl .nil))
  | .conditional _ body alternative =>
      exact .begins rfl ((Command.linesOf_inBodies (depth + 1) body).append
        (Branch.lines_inBodies depth alternative))

/-- What follows the body of a conditional begins inside of that body. -/
theorem Branch.lines_inBodies (depth : Nat) (alternative : Branch) :
    InBodies (depth + 1) (alternative.lines depth) depth := by
  match alternative with
  | .absent => exact .ends rfl .nil
  | .otherwise body =>
      exact .divides rfl ((Command.linesOf_inBodies (depth + 1) body).append (.ends rfl .nil))
  | .elseIf _ body alternative =>
      exact .divides rfl ((Command.linesOf_inBodies (depth + 1) body).append
        (Branch.lines_inBodies depth alternative))

theorem Command.linesOf_inBodies (depth : Nat) (commands : List Command) :
    InBodies depth (Command.linesOf depth commands) depth := by
  match commands with
  | [] => exact .nil
  | command :: rest =>
      exact (Command.lines_inBodies depth command).append (Command.linesOf_inBodies depth rest)

end

theorem Function.lines_inBodies (function : Function) : InBodies 0 function.lines 0 :=
  .begins rfl ((Command.linesOf_inBodies 1 function.body).append (.ends rfl .nil))

theorem functionLines_inBodies (functions : List Function) :
    InBodies 0 (functionLines functions) 0 := by
  match functions with
  | [] => exact .nil
  | [function] => exact function.lines_inBodies
  | function :: next :: rest =>
      exact function.lines_inBodies.append (.stands rfl (functionLines_inBodies (next :: rest)))

/-- The lines of a script begin and end with no body around them, and are placed accordingly in
between. -/
theorem Script.lines_inBodies (script : Script) : InBodies 0 script.lines 0 := by
  have heading (text : String) : InBodies 0 [⟨0, .blank⟩, ⟨0, .comment text⟩] 0 :=
    .stands rfl (.stands rfl .nil)
  have globals := (heading "global variables").append (Command.linesOf_inBodies 0 script.globals)
  have functions := (globals.append (heading "functions")).append
    (functionLines_inBodies script.functions)
  exact functions.append (.stands rfl (.stands rfl (.stands rfl .nil)))

end StructuredShell.Shell
