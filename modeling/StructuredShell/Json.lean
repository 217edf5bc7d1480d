/-!
# JSON values

The JSON values in which programs are written, with objects as ordered lists of fields, and their
layout on several lines: two spaces for each level, one field or item on a line.
-/

set_option autoImplicit false

namespace StructuredShell

inductive Json where
  | boolean (value : Bool)
  | number (value : Int)
  | text (value : String)
  | list (items : List Json)
  | object (fields : List (String × Json))

namespace Json

/-- A character inside a JSON string. Quotes, backslashes and the controls below the space are
escaped, and all else stands for itself. -/
def escapeChar (c : Char) : List Char :=
  if c = '"' then ['\\', '"']
  else if c = '\\' then ['\\', '\\']
  else if c = '\x08' then ['\\', 'b']
  else if c = '\t' then ['\\', 't']
  else if c = '\n' then ['\\', 'n']
  else if c = '\x0c' then ['\\', 'f']
  else if c = '\r' then ['\\', 'r']
  else if c.toNat < 0x20 then
    ['\\', 'u', '0', '0', Nat.digitChar (c.toNat / 16), Nat.digitChar (c.toNat % 16)]
  else [c]

def quoted (text : String) : String :=
  "\"" ++ String.ofList (text.toList.flatMap escapeChar) ++ "\""

def margin (depth : Nat) : String :=
  String.ofList (List.replicate (2 * depth) ' ')

mutual

def layout (depth : Nat) : Json → String
  | .boolean true => "true"
  | .boolean false => "false"
  | .number value => value.repr
  | .text value => quoted value
  | .list [] => "[]"
  | .list (first :: rest) =>
    "[\n" ++ layoutItems (depth + 1) (first :: rest) ++ "\n" ++ margin depth ++ "]"
  | .object [] => "\x7b\x7d"
  | .object (first :: rest) =>
    "\x7b\n" ++ layoutFields (depth + 1) (first :: rest) ++ "\n" ++ margin depth ++ "\x7d"

def layoutItems (depth : Nat) : List Json → String
  | [] => ""
  | [item] => margin depth ++ layout depth item
  | item :: rest => margin depth ++ layout depth item ++ ",\n" ++ layoutItems depth rest

def layoutFields (depth : Nat) : List (String × Json) → String
  | [] => ""
  | [(key, value)] => margin depth ++ quoted key ++ ": " ++ layout depth value
  | (key, value) :: rest =>
    margin depth ++ quoted key ++ ": " ++ layout depth value ++ ",\n" ++ layoutFields depth rest

end

def render (json : Json) : String :=
  json.layout 0

end Json

end StructuredShell
