/-!
# Words

The ASCII words that name things, in source text as well as in shell code: a letter or an
underscore, then letters, digits and underscores.
-/

set_option autoImplicit false

namespace StructuredShell.Text

def isDigit (c : Char) : Bool :=
  '0' ≤ c && c ≤ '9'

def startsWord (c : Char) : Bool :=
  ('a' ≤ c && c ≤ 'z') || ('A' ≤ c && c ≤ 'Z') || c == '_'

def continuesWord (c : Char) : Bool :=
  startsWord c || isDigit c

def isWordChars : List Char → Bool
  | [] => false
  | c :: cs => startsWord c && cs.all continuesWord

def isWord (text : String) : Bool :=
  isWordChars text.toList

end StructuredShell.Text
