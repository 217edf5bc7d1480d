import StructuredShell.Syntax.Parser.Condition

/-!
# Reading statements

```text
statement  ::= assignment | 'return' expression ';' | conditional | block
             | 'raw' '{' fragments '}' ';'? | expression ';'
assignment ::= 'var'? IDENT '=' expression ';'
conditional ::= 'if' '(' condition ')' statement ('else' statement)?
block      ::= '{' statement* '}'
```

An `else` belongs to the nearest conditional that can take it.
-/

set_option autoImplicit false

namespace StructuredShell.Parser

def statementStart : List Kind :=
  [.varWord, .ident, .returnWord, .ifWord, .openBrace, .rawWord, .number, .string, .openParen,
    .dollar]

/-- The kinds that can follow a complete value at the end of a statement. -/
def statementEnd : List Kind := [.plus, .minus, .star, .slash, .percent, .semicolon]

/-- The semicolon after a statement that ends in a value. The operators that could have carried the
value on are reported too. -/
def expectEnd (finish : Position) (tokens : List Token) : Reply Unit tokens.length :=
  match expect finish .semicolon tokens with
  | .ok _ rest shorter => .ok () rest shorter
  | .fail _ _ => .fail (unexpected finish statementEnd tokens) tokens

def expressionEnd (finish : Position) (tokens : List Token) : Reply Expr tokens.length :=
  match expression finish tokens with
  | .fail error stopped => .fail error stopped
  | .ok value rest shorter => ((expectEnd finish rest).map fun _ => value).within shorter

def assignmentTail (finish : Position) (declaration : Bool) (tokens : List Token) :
    Reply Assignment tokens.length :=
  match expectIdent finish tokens with
  | .fail error stopped => .fail error stopped
  | .ok target rest shorter =>
    match expect finish .assign rest with
    | .fail error stopped => .fail error stopped
    | .ok _ rest' shorter' =>
      (((expressionEnd finish rest').map (Assignment.mk declaration target)).within
        shorter').within shorter

def assignment (finish : Position) (tokens : List Token) : Reply Assignment tokens.length :=
  match expect finish .varWord tokens with
  | .ok _ rest shorter => (assignmentTail finish true rest).within shorter
  | .fail _ _ => assignmentTail finish false tokens

def optionalEnd (finish : Position) (tokens : List Token) : Reply Unit (tokens.length + 1) :=
  match expect finish .semicolon tokens with
  | .ok _ rest shorter => (Reply.ok () rest shorter).loosen
  | .fail _ _ => .keep () tokens

def rawTail (finish : Position) (tokens : List Token) : Reply Statement tokens.length :=
  match expect finish .openBrace tokens with
  | .fail error stopped => .fail error stopped
  | .ok _ rest shorter =>
    match fragments finish rest with
    | .fail error stopped => .fail error stopped
    | .ok pieces rest' bounded =>
      match expect finish .closeBrace rest' with
      | .fail error stopped => .fail error stopped
      | .ok _ rest'' shorter' =>
        ((((optionalEnd finish rest'').map fun _ =>
          Statement.expression (.raw pieces)).widen shorter').within bounded).widen shorter

def conditionHead (finish : Position) (tokens : List Token) : Reply Condition tokens.length :=
  match expect finish .openParen tokens with
  | .fail error stopped => .fail error stopped
  | .ok _ rest shorter => (groupTail finish rest).within shorter

inductive StatementHead where
  | assignment
  | returnValue
  | conditional
  | block
  | environment
  | value
  | other

/-- The reading that the two tokens ahead call for: a name followed by `=` is assigned to. -/
def StatementHead.ofKinds (first second : Kind) : StatementHead :=
  match first with
  | .varWord => assignment
  | .returnWord => returnValue
  | .ifWord => conditional
  | .openBrace => block
  | .rawWord => environment
  | .ident => if second = .assign then assignment else value
  | kind => if factorStart.contains kind then value else other

mutual

def statement (finish : Position) (tokens : List Token) : Reply Statement tokens.length :=
  match tokens with
  | [] => .fail (unexpected finish statementStart []) []
  | token :: rest =>
    match StatementHead.ofKinds token.kind (headKind rest) with
    | .assignment => (assignment finish (token :: rest)).map Statement.assignment
    | .returnValue => ((expressionEnd finish rest).map Statement.returnValue).behind token
    | .conditional =>
      ((conditionalTail finish rest).map fun (condition, body, alternative) =>
        Statement.conditional condition body alternative).behind token
    | .block => ((blockTail finish rest).map Statement.block).behind token
    | .environment => (rawTail finish rest).behind token
    | .value => (expressionEnd finish (token :: rest)).map Statement.expression
    | .other => .fail (unexpected finish statementStart (token :: rest)) (token :: rest)
termination_by 2 * tokens.length

def conditionalTail (finish : Position) (tokens : List Token) :
    Reply (Condition × Statement × Alternative) tokens.length :=
  match conditionHead finish tokens with
  | .fail error stopped => .fail error stopped
  | .ok test rest shorter =>
    match statement finish rest with
    | .fail error stopped => .fail error stopped
    | .ok body rest' shorter' =>
      (((alternativeTail finish rest').map fun alternative => (test, body, alternative)).widen
        shorter').within shorter
termination_by 2 * tokens.length

/-- What follows the body of a conditional. A conditional right after `else` continues the chain. -/
def alternativeTail (finish : Position) (tokens : List Token) :
    Reply Alternative (tokens.length + 1) :=
  match expect finish .elseWord tokens with
  | .fail _ _ => .keep .absent tokens
  | .ok _ rest shorter =>
    match expect finish .ifWord rest with
    | .ok _ rest' shorter' =>
      ((((conditionalTail finish rest').map fun (condition, body, alternative) =>
        Alternative.elseIf condition body alternative).within shorter').within shorter).loosen
    | .fail _ _ => (((statement finish rest).map Alternative.otherwise).within shorter).loosen
termination_by 2 * tokens.length

/-- The statements of a block after its opening brace, up to and with the closing one. -/
def blockTail (finish : Position) (tokens : List Token) : Reply (List Statement) tokens.length :=
  match expect finish .closeBrace tokens with
  | .ok _ rest shorter => .ok [] rest shorter
  | .fail error stopped =>
    if headKind tokens = .finish then .fail error stopped
    else
      match statement finish tokens with
      | .fail error stopped => .fail error stopped
      | .ok first rest shorter => ((blockTail finish rest).map (first :: ·)).within shorter
termination_by 2 * tokens.length + 1

end

def block (finish : Position) (tokens : List Token) : Reply (List Statement) tokens.length :=
  match expect finish .openBrace tokens with
  | .fail error stopped => .fail error stopped
  | .ok _ rest shorter => (blockTail finish rest).within shorter

end StructuredShell.Parser
