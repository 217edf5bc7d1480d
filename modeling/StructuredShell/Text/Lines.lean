/-!
# Lines of a text

A newline ends a line, together with one carriage return right before it. A text that ends with a
newline has no further empty line after it.
-/

set_option autoImplicit false

namespace StructuredShell.Text

def lineChars : List Char → List (List Char)
  | [] => []
  | '\n' :: cs => [] :: lineChars cs
  | '\r' :: '\n' :: cs => [] :: lineChars cs
  | c :: cs =>
    match lineChars cs with
    | [] => [[c]]
    | line :: lines => (c :: line) :: lines

def lines (text : String) : List String :=
  (lineChars text.toList).map String.ofList

end StructuredShell.Text
