/-!
# Blank characters

The characters that count as white space in running text, and the removal of a blank end.
-/

set_option autoImplicit false

namespace StructuredShell.Text

/-- The closed ranges of blank code points, in increasing order. Zero-width characters are not
blank, nor are the separators from U+001C to U+001F. -/
def blankRanges : List (Nat × Nat) := [
  (0x9, 0xD), (0x20, 0x20), (0x85, 0x85), (0xA0, 0xA0), (0x1680, 0x1680), (0x2000, 0x200A),
  (0x2028, 0x2029), (0x202F, 0x202F), (0x205F, 0x205F), (0x3000, 0x3000)]

def isBlank (c : Char) : Bool :=
  blankRanges.any fun range => range.1 ≤ c.toNat && c.toNat ≤ range.2

def trimEndChars : List Char → List Char
  | [] => []
  | c :: cs =>
    match trimEndChars cs with
    | [] => if isBlank c then [] else [c]
    | kept => c :: kept

def trimEnd (text : String) : String :=
  String.ofList (trimEndChars text.toList)

end StructuredShell.Text
