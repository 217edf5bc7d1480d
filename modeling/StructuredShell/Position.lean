/-!
# Positions in a source text

A position counts lines and columns from one, in characters. A newline starts the next line; every
other character, tabs and carriage returns included, takes one column.
-/

set_option autoImplicit false

namespace StructuredShell

structure Position where
  line : Nat
  column : Nat
deriving DecidableEq

namespace Position

def start : Position := ⟨1, 1⟩

def advance (position : Position) (c : Char) : Position :=
  if c = '\n' then ⟨position.line + 1, 1⟩ else ⟨position.line, position.column + 1⟩

def after (position : Position) (spelling : List Char) : Position :=
  spelling.foldl advance position

def before (position other : Position) : Bool :=
  position.line < other.line || (position.line = other.line && position.column < other.column)

def shown (position : Position) : String :=
  position.line.repr ++ ":" ++ position.column.repr

@[simp] theorem after_nil (position : Position) : position.after [] = position := rfl

@[simp] theorem after_cons (position : Position) (c : Char) (cs : List Char) :
    position.after (c :: cs) = (position.advance c).after cs := rfl

theorem after_append (position : Position) (first second : List Char) :
    position.after (first ++ second) = (position.after first).after second :=
  List.foldl_append

end Position

end StructuredShell
