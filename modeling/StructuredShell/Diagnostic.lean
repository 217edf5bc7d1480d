import StructuredShell.Text.Lines
import StructuredShell.Token

/-!
# Diagnostics

The two families of errors that stop a compilation, their wording, and the display of an error
under the source line it points at.
-/

set_option autoImplicit false

namespace StructuredShell

/-! ## Lexical errors -/

inductive LexFault where
  | unexpectedCharacter (character : Char)
  | unterminatedString
  | unterminatedComment
  | unterminatedRawBlock
  | unterminatedSplice
  | integerOverflow (digits : String)
deriving DecidableEq

def LexFault.message : LexFault → String
  | unexpectedCharacter character => "unexpected character '" ++ Text.shownChar character ++ "'"
  | unterminatedString => "unterminated string literal"
  | unterminatedComment => "unterminated block comment"
  | unterminatedRawBlock => "unterminated raw block"
  | unterminatedSplice => "unterminated splice, expected ']'"
  | integerOverflow digits => "integer literal " ++ digits ++ " is too large"

structure LexError where
  fault : LexFault
  position : Position
deriving DecidableEq

/-! ## Syntax errors -/

/-- A token outside the set of kinds that can stand in its place. -/
structure SyntaxError where
  found : Kind
  expected : List Kind
  position : Position
deriving DecidableEq

def SyntaxError.message (error : SyntaxError) : String :=
  match error.expected with
  | [] => "unexpected token " ++ error.found.quoted
  | [only] => "expected " ++ only.quoted ++ " but found " ++ error.found.quoted
  | kinds =>
    "expected one of " ++ String.intercalate ", " (kinds.map Kind.quoted) ++
      " but found " ++ error.found.quoted

/-! ## Diagnostics -/

inductive Diagnostic where
  | lexical (error : LexError)
  | syntactic (error : SyntaxError)
deriving DecidableEq

namespace Diagnostic

def position : Diagnostic → Position
  | lexical error => error.position
  | syntactic error => error.position

def summary : Diagnostic → String
  | lexical error => error.fault.message
  | syntactic error => error.message

def family : Diagnostic → String
  | lexical _ => "lexical"
  | syntactic _ => "syntax"

def message (diagnostic : Diagnostic) : String :=
  diagnostic.family ++ " error at " ++ diagnostic.position.shown ++ ": " ++ diagnostic.summary

/-- What stands under the first characters of a line so that a mark below lines up with it. Tabs
stay, because their width is not known here. -/
def underlay (line : String) (width : Nat) : String :=
  String.ofList ((line.toList.take width).map fun c => if c = '\t' then '\t' else ' ')

/-- The message, followed by the source line and a caret under the reported column when the source
has that line. The caret never stands further right than just past the end of the line. -/
def rendered (diagnostic : Diagnostic) (source : String) : String :=
  let place := diagnostic.position
  match (Text.lines source)[place.line - 1]? with
  | none => diagnostic.message
  | some line =>
    let gutter := place.line.repr ++ " | "
    diagnostic.message ++ "\n" ++ gutter ++ line ++ "\n" ++
      String.ofList (List.replicate gutter.length ' ') ++ underlay line (place.column - 1) ++ "^"

end Diagnostic

end StructuredShell
