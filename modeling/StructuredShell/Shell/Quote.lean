/-!
# Quoted words

A text between single quotes stands for itself in shell code. A single quote cannot stand there, so
it closes the quotes, is escaped, and opens them again.
-/

set_option autoImplicit false

namespace StructuredShell.Shell

def quoteChar (c : Char) : List Char :=
  if c = '\'' then ['\'', '\\', '\'', '\''] else [c]

def singleQuote (text : String) : String :=
  "'" ++ String.ofList (text.toList.flatMap quoteChar) ++ "'"

end StructuredShell.Shell
