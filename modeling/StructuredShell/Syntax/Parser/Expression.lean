import StructuredShell.Syntax.Parser.Reply
import StructuredShell.Syntax.Tree

/-!
# Reading values

```text
expression ::= term (('+' | '-') term)*
term       ::= factor (('*' | '/' | '%') factor)*
factor     ::= NUMBER | STRING | IDENT | IDENT '(' arguments | '(' expression ')'
             | '$' '(' fragments ')'
arguments  ::= ')' | expression ')' | expression ',' arguments
fragments  ::= (RAWTEXT | '$' '[' expression ']')*
```

All operators associate to the left, and there is no unary operator.
-/

set_option autoImplicit false

namespace StructuredShell.Parser

/-! ## What a token begins -/

def factorStart : List Kind := [.number, .string, .ident, .openParen, .dollar]

inductive FactorHead where
  | number (value : Int)
  | text (value : String)
  | name (name : String)
  | group
  | environment
  | other

/-- A literal token begins a value only if its literal has the right type. -/
def FactorHead.ofToken (token : Token) : FactorHead :=
  match token.kind with
  | .number => match token.numberValue? with
    | some value => number value
    | none => other
  | .string => match token.textValue? with
    | some value => text value
    | none => other
  | .ident => match token.textValue? with
    | some value => name value
    | none => other
  | .openParen => group
  | .dollar => environment
  | _ => other

inductive FragmentHead where
  | shell (text : String)
  | splice
  | other

def FragmentHead.ofToken (token : Token) : FragmentHead :=
  match token.kind with
  | .rawText => match token.textValue? with
    | some value => shell value
    | none => other
  | .dollar => splice
  | _ => other

def sumOperator? : Kind → Option ArithOp
  | .plus => some .add
  | .minus => some .subtract
  | _ => none

def productOperator? : Kind → Option ArithOp
  | .star => some .multiply
  | .slash => some .divide
  | .percent => some .modulo
  | _ => none

/-! ## Readers -/

mutual

def expression (finish : Position) (tokens : List Token) : Reply Expr tokens.length :=
  match term finish tokens with
  | .fail error stopped => .fail error stopped
  | .ok left rest shorter => (sumTail finish left rest).widen shorter
termination_by 4 * tokens.length + 2

/-- The terms after the first one, joined to what stands left of them. -/
def sumTail (finish : Position) (left : Expr) (tokens : List Token) :
    Reply Expr (tokens.length + 1) :=
  match tokens with
  | [] => .keep left []
  | token :: rest =>
    match sumOperator? token.kind with
    | none => .keep left (token :: rest)
    | some operator =>
      match term finish rest with
      | .fail error stopped => .fail error stopped
      | .ok right rest' shorter =>
        (((sumTail finish (.binary operator left right) rest').widen shorter).behind token).loosen
termination_by 4 * tokens.length

def term (finish : Position) (tokens : List Token) : Reply Expr tokens.length :=
  match factor finish tokens with
  | .fail error stopped => .fail error stopped
  | .ok left rest shorter => (productTail finish left rest).widen shorter
termination_by 4 * tokens.length + 1

/-- The factors after the first one, joined to what stands left of them. -/
def productTail (finish : Position) (left : Expr) (tokens : List Token) :
    Reply Expr (tokens.length + 1) :=
  match tokens with
  | [] => .keep left []
  | token :: rest =>
    match productOperator? token.kind with
    | none => .keep left (token :: rest)
    | some operator =>
      match factor finish rest with
      | .fail error stopped => .fail error stopped
      | .ok right rest' shorter =>
        (((productTail finish (.binary operator left right) rest').widen shorter).behind
          token).loosen
termination_by 4 * tokens.length

def factor (finish : Position) (tokens : List Token) : Reply Expr tokens.length :=
  match tokens with
  | [] => .fail (unexpected finish factorStart []) []
  | token :: rest =>
    match FactorHead.ofToken token with
    | .number value => .take (.number value) token rest
    | .text value => .take (.text value) token rest
    | .name name =>
      match expect finish .openParen rest with
      | .fail _ _ => .take (.var name) token rest
      | .ok _ rest' shorter =>
        (((arguments finish rest').map (Expr.call name)).within shorter).behind token
    | .group =>
      match expression finish rest with
      | .fail error stopped => .fail error stopped
      | .ok inner rest' shorter =>
        (((expect finish .closeParen rest').map fun _ => inner).within shorter).behind token
    | .environment =>
      match expect finish .openParen rest with
      | .fail error stopped => .fail error stopped
      | .ok _ rest' shorter =>
        match fragments finish rest' with
        | .fail error stopped => .fail error stopped
        | .ok pieces rest'' bounded =>
          ((((expect finish .closeParen rest'').map fun _ => Expr.raw pieces).within
            bounded).widen shorter).behind token
    | .other => .fail (unexpected finish factorStart (token :: rest)) (token :: rest)
termination_by 4 * tokens.length

/-- The arguments of a call after its opening parenthesis, up to and with the closing one. A comma
may follow the last argument. -/
def arguments (finish : Position) (tokens : List Token) : Reply (List Expr) tokens.length :=
  match expect finish .closeParen tokens with
  | .ok _ rest shorter => .ok [] rest shorter
  | .fail _ _ =>
    match expression finish tokens with
    | .fail error stopped => .fail error stopped
    | .ok argument rest shorter =>
      match expectSeparator finish rest with
      | .fail error stopped => .fail error stopped
      | .ok false rest' shorter' => (Reply.ok [argument] rest' shorter').within shorter
      | .ok true rest' shorter' =>
        (((arguments finish rest').map (argument :: ·)).within shorter').within shorter
termination_by 4 * tokens.length + 3

def spliceTail (finish : Position) (tokens : List Token) : Reply Expr tokens.length :=
  match expect finish .openBracket tokens with
  | .fail error stopped => .fail error stopped
  | .ok _ rest shorter =>
    match expression finish rest with
    | .fail error stopped => .fail error stopped
    | .ok value rest' shorter' =>
      (((expect finish .closeBracket rest').map fun _ => value).within shorter').within shorter
termination_by 4 * tokens.length

/-- The fragments of a raw environment, up to the first token that begins none. -/
def fragments (finish : Position) (tokens : List Token) :
    Reply (List Fragment) (tokens.length + 1) :=
  match tokens with
  | [] => .keep [] []
  | token :: rest =>
    match FragmentHead.ofToken token with
    | .other => .keep [] (token :: rest)
    | .shell text => ((fragments finish rest).map (Fragment.shell text :: ·)).loosen
    | .splice =>
      match spliceTail finish rest with
      | .fail error stopped => .fail error stopped
      | .ok value rest' shorter =>
        ((((fragments finish rest').map (Fragment.splice value :: ·)).widen shorter).behind
          token).loosen
termination_by 4 * tokens.length

end

end StructuredShell.Parser
