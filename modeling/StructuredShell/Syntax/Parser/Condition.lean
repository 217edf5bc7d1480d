import StructuredShell.Syntax.Parser.Expression

/-!
# Reading conditions

```text
condition   ::= conjunction ('||' conjunction)*
conjunction ::= atom ('&&' atom)*
atom        ::= 'true' | 'false' | '(' condition ')' | expression relation expression
```

A parenthesis at the head of an atom may group a condition or a value. The group is tried first,
and the comparison is read from the same place when the group fails.
-/

set_option autoImplicit false

namespace StructuredShell.Parser

def relationKinds : List Kind := [.less, .greater, .lessEqual, .greaterEqual, .equal, .notEqual]

def conditionStart : List Kind :=
  [.trueWord, .falseWord, .openParen, .number, .string, .ident, .dollar]

def relation? : Kind → Option RelOp
  | .less => some .less
  | .greater => some .greater
  | .lessEqual => some .lessEqual
  | .greaterEqual => some .greaterEqual
  | .equal => some .equal
  | .notEqual => some .notEqual
  | _ => none

inductive ConditionHead where
  | constant (value : Bool)
  | group
  | operand
  | other

def ConditionHead.ofKind (kind : Kind) : ConditionHead :=
  match kind with
  | .trueWord => constant true
  | .falseWord => constant false
  | .openParen => group
  | kind => if factorStart.contains kind then operand else other

def relation (finish : Position) (tokens : List Token) : Reply RelOp tokens.length :=
  match tokens with
  | [] => .fail (unexpected finish relationKinds []) []
  | token :: rest =>
    match relation? token.kind with
    | none => .fail (unexpected finish relationKinds (token :: rest)) (token :: rest)
    | some operator => .take operator token rest

def comparison (finish : Position) (tokens : List Token) : Reply Condition tokens.length :=
  match expression finish tokens with
  | .fail error stopped => .fail error stopped
  | .ok left rest shorter =>
    match relation finish rest with
    | .fail error stopped => .fail error stopped
    | .ok operator rest' shorter' =>
      (((expression finish rest').map (Condition.comparison operator left)).within
        shorter').within shorter

/-- Of the errors of two readings from one place, the one that lies further on. The first reading
keeps its error unless the second one got strictly further. -/
def furtherError (first second : SyntaxError) : SyntaxError :=
  if first.position.before second.position then second else first

mutual

def condition (finish : Position) (tokens : List Token) : Reply Condition tokens.length :=
  match conjunction finish tokens with
  | .fail error stopped => .fail error stopped
  | .ok left rest shorter => (disjunctionTail finish left rest).widen shorter
termination_by 4 * tokens.length + 2

/-- The alternatives after the first one, joined to what stands left of them. -/
def disjunctionTail (finish : Position) (left : Condition) (tokens : List Token) :
    Reply Condition (tokens.length + 1) :=
  match expect finish .either tokens with
  | .fail _ _ => .keep left tokens
  | .ok _ rest shorter =>
    match conjunction finish rest with
    | .fail error stopped => .fail error stopped
    | .ok right rest' shorter' =>
      (((disjunctionTail finish (.disjunction left right) rest').widen shorter').within
        shorter).loosen
termination_by 4 * tokens.length

def conjunction (finish : Position) (tokens : List Token) : Reply Condition tokens.length :=
  match conditionAtom finish tokens with
  | .fail error stopped => .fail error stopped
  | .ok left rest shorter => (conjunctionTail finish left rest).widen shorter
termination_by 4 * tokens.length + 1

/-- The atoms after the first one, joined to what stands left of them. -/
def conjunctionTail (finish : Position) (left : Condition) (tokens : List Token) :
    Reply Condition (tokens.length + 1) :=
  match expect finish .both tokens with
  | .fail _ _ => .keep left tokens
  | .ok _ rest shorter =>
    match conditionAtom finish rest with
    | .fail error stopped => .fail error stopped
    | .ok right rest' shorter' =>
      (((conjunctionTail finish (.conjunction left right) rest').widen shorter').within
        shorter).loosen
termination_by 4 * tokens.length

/-- A condition that no connective divides. When both readings of a parenthesis fail, the reader
stops where the second one did. -/
def conditionAtom (finish : Position) (tokens : List Token) : Reply Condition tokens.length :=
  match tokens with
  | [] => .fail (unexpected finish conditionStart []) []
  | token :: rest =>
    match ConditionHead.ofKind token.kind with
    | .constant value => .take (.constant value) token rest
    | .operand => comparison finish (token :: rest)
    | .other => .fail (unexpected finish conditionStart (token :: rest)) (token :: rest)
    | .group =>
      match groupTail finish rest with
      | .ok value rest' shorter => (Reply.ok value rest' shorter).behind token
      | .fail groupError _ =>
        match comparison finish (token :: rest) with
        | .ok value rest' shorter => .ok value rest' shorter
        | .fail error stopped => .fail (furtherError groupError error) stopped
termination_by 4 * tokens.length

/-- A grouped condition after its opening parenthesis, up to and with the closing one. -/
def groupTail (finish : Position) (tokens : List Token) : Reply Condition tokens.length :=
  match condition finish tokens with
  | .fail error stopped => .fail error stopped
  | .ok value rest shorter => ((expect finish .closeParen rest).map fun _ => value).within shorter
termination_by 4 * tokens.length + 3

end

end StructuredShell.Parser
