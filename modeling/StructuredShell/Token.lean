import StructuredShell.Position
import StructuredShell.Text.Escape

/-!
# Tokens

A token is a kind, the literal that comes with kinds such as identifiers and numbers, and the
position of its first character. Tokens made by the checked constructors carry a literal exactly
when their kind asks for one; the type itself does not require it, so that a reader of tokens must
say what it does with any other.
-/

set_option autoImplicit false

namespace StructuredShell

/-! ## Kinds -/

/-- What a token is. The names ending in `Word` are the reserved words of the language. -/
inductive Kind where
  | openParen
  | closeParen
  | openBrace
  | closeBrace
  | openBracket
  | closeBracket
  | semicolon
  | comma
  | funcWord
  | ifWord
  | elseWord
  | forWord
  | whileWord
  | varWord
  | returnWord
  | rawWord
  | trueWord
  | falseWord
  | dollar
  | plus
  | minus
  | star
  | slash
  | percent
  | assign
  | equal
  | notEqual
  | less
  | greater
  | lessEqual
  | greaterEqual
  | both
  | either
  | bang
  | ident
  | number
  | string
  | rawText
  | finish
deriving DecidableEq

namespace Kind

/-- The spelling of a kind in messages: its only spelling in source text, or the name of the class
for kinds that have many. -/
def symbol : Kind → String
  | openParen => "("
  | closeParen => ")"
  | openBrace => "\x7b"
  | closeBrace => "\x7d"
  | openBracket => "["
  | closeBracket => "]"
  | semicolon => ";"
  | comma => ","
  | funcWord => "func"
  | ifWord => "if"
  | elseWord => "else"
  | forWord => "for"
  | whileWord => "while"
  | varWord => "var"
  | returnWord => "return"
  | rawWord => "raw"
  | trueWord => "true"
  | falseWord => "false"
  | dollar => "$"
  | plus => "+"
  | minus => "-"
  | star => "*"
  | slash => "/"
  | percent => "%"
  | assign => "="
  | equal => "=="
  | notEqual => "!="
  | less => "<"
  | greater => ">"
  | lessEqual => "<="
  | greaterEqual => ">="
  | both => "&&"
  | either => "||"
  | bang => "!"
  | ident => "IDENT"
  | number => "NUMBER"
  | string => "STRING"
  | rawText => "RAWTEXT"
  | finish => "END"

def all : List Kind := [
  openParen, closeParen, openBrace, closeBrace, openBracket, closeBracket, semicolon, comma,
  funcWord, ifWord, elseWord, forWord, whileWord, varWord, returnWord, rawWord, trueWord, falseWord,
  dollar, plus, minus, star, slash, percent, assign, equal, notEqual, less, greater, lessEqual,
  greaterEqual, both, either, bang, ident, number, string, rawText, finish]

def ofSymbol? (symbol : String) : Option Kind :=
  all.find? fun kind => kind.symbol == symbol

def keywords : List (String × Kind) :=
  [funcWord, ifWord, elseWord, forWord, whileWord, varWord, returnWord, rawWord, trueWord,
    falseWord].map fun kind => (kind.symbol, kind)

def ofKeyword? (word : String) : Option Kind :=
  keywords.lookup word

def takesNumber : Kind → Bool
  | number => true
  | _ => false

def takesText : Kind → Bool
  | ident | string | rawText => true
  | _ => false

/-- A kind as messages name it: classes of tokens bare, fixed spellings between quotes. -/
def quoted (kind : Kind) : String :=
  match kind with
  | ident | number | string | rawText | finish => kind.symbol
  | _ => "'" ++ kind.symbol ++ "'"

end Kind

/-! ## Tokens and their parts -/

inductive Literal where
  | number (value : Int)
  | text (value : String)
deriving DecidableEq

structure Token where
  kind : Kind
  literal : Option Literal
  position : Position
deriving DecidableEq

inductive TokenFault where
  | literalMissing (kind : Kind)
  | noTextAllowed (kind : Kind)
deriving DecidableEq

def TokenFault.message : TokenFault → String
  | literalMissing kind => "token kind " ++ kind.symbol ++ " requires a literal"
  | noTextAllowed kind => "token kind " ++ kind.symbol ++ " does not carry text"

namespace Token

def plain (kind : Kind) (position : Position) : Except TokenFault Token :=
  if kind.takesNumber || kind.takesText then .error (.literalMissing kind)
  else .ok ⟨kind, none, position⟩

def ofNumber (value : Int) (position : Position) : Token :=
  ⟨.number, some (.number value), position⟩

/-- A token that carries a text, for a kind that asks for one. -/
def ofText (kind : Kind) (text : String) (position : Position) : Except TokenFault Token :=
  if kind.takesText then .ok ⟨kind, some (.text text), position⟩
  else .error (.noTextAllowed kind)

def numberValue? (token : Token) : Option Int :=
  match token.literal with
  | some (.number value) => some value
  | _ => none

def textValue? (token : Token) : Option String :=
  match token.literal with
  | some (.text value) => some value
  | _ => none

/-- A spelling that reads as this token. Strings get their quotes back; a number is spelled
without leading zeros. -/
def lexeme (token : Token) : String :=
  match token.literal with
  | some (.text value) => if token.kind = .string then "\"" ++ value ++ "\"" else value
  | some (.number value) => value.repr
  | none => token.kind.symbol

/-- A token on one line of a token dump: position, kind and literal. -/
def shown (token : Token) : String :=
  let heading := token.position.shown ++ " " ++ token.kind.symbol
  match token.literal with
  | some (.number value) => heading ++ " " ++ value.repr
  | some (.text value) => heading ++ " " ++ Text.shownText value
  | none => heading

end Token

end StructuredShell
