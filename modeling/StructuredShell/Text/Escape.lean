import StructuredShell.Text.Hidden

/-!
# Escaped text

How a character or a text is shown inside a message so that it stays on one line: common controls,
the backslash and quotes take a backslash, other hidden characters are written by code point.
-/

set_option autoImplicit false

namespace StructuredShell.Text

def hexDigits (value : Nat) : List Char :=
  Nat.toDigits 16 value

/-- The two-character escapes: a backslash and a letter, a digit or the character itself. Quotes are
not among them, since which quotes need an escape depends on where the text is shown. -/
def shortEscape? (c : Char) : Option Char :=
  if c = '\x00' then some '0'
  else if c = '\t' then some 't'
  else if c = '\r' then some 'r'
  else if c = '\n' then some 'n'
  else if c = '\\' then some '\\'
  else none

/-- A character as it is shown in escaped text, where `quotes` are the quotes that need escaping. -/
def escapeChar (quotes : List Char) (c : Char) : List Char :=
  match shortEscape? c with
  | some mark => ['\\', mark]
  | none =>
    if quotes.contains c then ['\\', c]
    else if isHidden c then ['\\', 'u', '{'] ++ hexDigits c.toNat ++ ['}']
    else [c]

/-- A single character on show: both kinds of quote are escaped. -/
def shownChar (c : Char) : String :=
  String.ofList (escapeChar ['\'', '"'] c)

/-- A text on show, between double quotes: only the double quote is escaped. -/
def shownText (text : String) : String :=
  "\"" ++ String.ofList (text.toList.flatMap (escapeChar ['"'])) ++ "\""

end StructuredShell.Text
