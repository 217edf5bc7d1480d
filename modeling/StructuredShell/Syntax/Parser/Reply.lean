import StructuredShell.Diagnostic

/-!
# Replies of readers

A reader takes a list of tokens and the place where the text ends, and gives a reply. Every
successful reply carries the proof that its remaining tokens are below a bound, so readers that
call each other can be defined by recursion on the number of tokens. A failed reply keeps the
tokens at which its reader stopped.

The end of the text is not in the list: a list that is used up stands for it. An end token inside
the list is a token like any other.
-/

set_option autoImplicit false

namespace StructuredShell.Parser

/-- The outcome of a reader, whose remaining tokens number less than `bound` on success. -/
inductive Reply (α : Type) (bound : Nat) where
  | ok (value : α) (rest : List Token) (shorter : rest.length < bound)
  | fail (error : SyntaxError) (stopped : List Token)

namespace Reply

variable {α β : Type}

def take (value : α) (token : Token) (rest : List Token) : Reply α (token :: rest).length :=
  ok value rest (Nat.lt_succ_self rest.length)

def keep (value : α) (tokens : List Token) : Reply α (tokens.length + 1) :=
  ok value tokens (Nat.lt_succ_self tokens.length)

def widen {small large : Nat} (bounded : small ≤ large) : Reply α small → Reply α large
  | ok value rest shorter => ok value rest (Nat.lt_of_lt_of_le shorter bounded)
  | fail error stopped => fail error stopped

def within {small large : Nat} (shorter : small < large) : Reply α small → Reply α large :=
  widen (Nat.le_of_lt shorter)

def behind {rest : List Token} (token : Token) :
    Reply α rest.length → Reply α (token :: rest).length :=
  widen (Nat.le_succ rest.length)

/-- The reply of a reader that takes a token, where none need be taken. -/
def loosen {bound : Nat} : Reply α bound → Reply α (bound + 1) :=
  widen (Nat.le_succ bound)

def map {bound : Nat} (f : α → β) : Reply α bound → Reply β bound
  | ok value rest shorter => ok (f value) rest shorter
  | fail error stopped => fail error stopped

end Reply

/-! ## Single tokens -/

def headKind : List Token → Kind
  | [] => .finish
  | token :: _ => token.kind

/-- The error that reports the token ahead, given the kinds that could stand there. -/
def unexpected (finish : Position) (expected : List Kind) : List Token → SyntaxError
  | [] => ⟨.finish, expected, finish⟩
  | token :: _ => ⟨token.kind, expected, token.position⟩

def expect (finish : Position) (kind : Kind) (tokens : List Token) : Reply Unit tokens.length :=
  match tokens with
  | [] => .fail (unexpected finish [kind] []) []
  | token :: rest =>
    if token.kind = kind then .take () token rest
    else .fail (unexpected finish [kind] (token :: rest)) (token :: rest)

/-- Take an identifier. An identifier token without a text is taken and then reported. -/
def expectIdent (finish : Position) (tokens : List Token) : Reply String tokens.length :=
  match tokens with
  | [] => .fail (unexpected finish [.ident] []) []
  | token :: rest =>
    if token.kind = .ident then
      match token.textValue? with
      | some name => .take name token rest
      | none => .fail (unexpected finish [.ident] (token :: rest)) rest
    else .fail (unexpected finish [.ident] (token :: rest)) (token :: rest)

/-- Take what follows an item of a parenthesised list: a comma, after which the list may go on, or
the closing parenthesis. The value tells whether it was a comma. -/
def expectSeparator (finish : Position) (tokens : List Token) : Reply Bool tokens.length :=
  match tokens with
  | [] => .fail (unexpected finish [.comma, .closeParen] []) []
  | token :: rest =>
    if token.kind = .comma then .take true token rest
    else if token.kind = .closeParen then .take false token rest
    else .fail (unexpected finish [.comma, .closeParen] (token :: rest)) (token :: rest)

end StructuredShell.Parser
