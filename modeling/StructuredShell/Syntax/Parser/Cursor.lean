import StructuredShell.Syntax.Parser.Program

/-!
# Reading with a cursor

The same grammar, read by readers that share one list of tokens and an index into it. They look at
tokens by their index, move the index forward, and move it back where a second reading is tried.
Nothing about the definitions says that the index stays within the list, or that the loops over
statements, arguments and fragments ever come to an end. A recursive call is written as a method of
the cursor that it starts from: `(· |>.term)`.
-/

set_option autoImplicit false

namespace StructuredShell

/-- The tokens that are read, and the index of the current one. -/
structure Cursor where
  tokens : List Token
  index : Nat

namespace Cursor

open StructuredShell.Parser (FactorHead FragmentHead ConditionHead StatementHead ItemHead
  sumOperator? productOperator? relation? furtherError)

/-- The cursor before the first token of a list. An end is added to a list that does not close with
one: at the last token, and in an empty list at the start of the text. -/
def ofTokens (tokens : List Token) : Cursor :=
  if tokens.getLast?.map Token.kind = some .finish then ⟨tokens, 0⟩
  else
    let position := (tokens.getLast?.map Token.position).getD .start
    ⟨tokens ++ [⟨.finish, none, position⟩], 0⟩

/-- An index at which the list has no token. -/
inductive Fault where
  | outside (index : Nat)
deriving DecidableEq

/-- Moves of a cursor. One that goes on forever has no outcome. -/
abbrev Moves := StateT Cursor (ExceptT Fault Option)

/-- A reading moves the cursor in failure too. -/
abbrev Reading := ExceptT SyntaxError Moves

/-! ## Single tokens -/

/-- The token some places behind the current one, or the last token. -/
def peek (offset : Nat) : Reading Token := do
  let cursor ← get
  let index := min (cursor.index + offset) (cursor.tokens.length - 1)
  match cursor.tokens[index]? with
  | some token => return token
  | none => throwThe Fault (.outside index)

def current : Reading Token := peek 0

/-- Put the cursor at an index, which has to be one of the list. -/
def moveTo (index : Nat) : Reading Unit := do
  let cursor ← get
  if index < cursor.tokens.length then set { cursor with index := index }
  else throwThe Fault (.outside index)

/-- Take the current token. The cursor stays at the last one. -/
def advance : Reading Token := do
  let token ← current
  let cursor ← get
  if cursor.index < cursor.tokens.length - 1 then
    moveTo (cursor.index + 1)
    return token
  else return token

def skip : Reading Unit := do
  let _ ← advance

def check (kind : Kind) : Reading Bool := do
  return (← current).kind == kind

/-- Take the current token if it has a given kind. -/
def accept (kind : Kind) : Reading Bool := do
  if ← check kind then
    skip
    return true
  else return false

def unexpected {α : Type} (expected : List Kind) : Reading α := do
  let token ← current
  throw ⟨token.kind, expected, token.position⟩

def expect (kind : Kind) : Reading Token := do
  if ← check kind then advance
  else unexpected [kind]

def require (kind : Kind) : Reading Unit := do
  let _ ← expect kind

def expectEnd : Reading Unit := do
  if ← accept .semicolon then return
  else unexpected Parser.statementEnd

def expectIdent : Reading String := do
  let token ← expect .ident
  match token.literal with
  | some (.text name) => return name
  | _ => throw ⟨token.kind, [.ident], token.position⟩

/-- Take what follows an item of a parenthesised list. The value tells whether it was a comma. -/
def separator : Reading Bool := do
  if ← accept .comma then return true
  else if ← check .closeParen then
    skip
    return false
  else unexpected [.comma, .closeParen]

def place : Reading Nat := do
  return (← get).index

/-! ## Values -/

mutual

def expression : Reading Expr := do
  let left ← (· |>.term)
  (· |>.sumTail left)
partial_fixpoint

def sumTail (left : Expr) : Reading Expr := do
  match sumOperator? (← current).kind with
  | none => return left
  | some operator =>
    skip
    let right ← (· |>.term)
    (· |>.sumTail (.binary operator left right))
partial_fixpoint

def term : Reading Expr := do
  let left ← (· |>.factor)
  (· |>.productTail left)
partial_fixpoint

def productTail (left : Expr) : Reading Expr := do
  match productOperator? (← current).kind with
  | none => return left
  | some operator =>
    skip
    let right ← (· |>.factor)
    (· |>.productTail (.binary operator left right))
partial_fixpoint

def factor : Reading Expr := do
  match FactorHead.ofToken (← current) with
  | .number value =>
    skip
    return .number value
  | .text value =>
    skip
    return .text value
  | .name name =>
    skip
    if ← check .openParen then
      let values ← (· |>.callArguments)
      return .call name values
    else return .var name
  | .group =>
    skip
    let inner ← (· |>.expression)
    require .closeParen
    return inner
  | .environment =>
    skip
    require .openParen
    let pieces ← (· |>.fragments)
    require .closeParen
    return .raw pieces
  | .other => unexpected Parser.factorStart
partial_fixpoint

def callArguments : Reading (List Expr) := do
  require .openParen
  (· |>.arguments)
partial_fixpoint

def arguments : Reading (List Expr) := do
  if ← accept .closeParen then return []
  else
    let argument ← (· |>.expression)
    if ← separator then
      let others ← (· |>.arguments)
      return argument :: others
    else return [argument]
partial_fixpoint

def fragments : Reading (List Fragment) := do
  match FragmentHead.ofToken (← current) with
  | .shell text =>
    skip
    let others ← (· |>.fragments)
    return .shell text :: others
  | .splice =>
    skip
    let value ← (· |>.splice)
    let others ← (· |>.fragments)
    return .splice value :: others
  | .other => return []
partial_fixpoint

def splice : Reading Expr := do
  require .openBracket
  let value ← (· |>.expression)
  require .closeBracket
  return value
partial_fixpoint

end

/-! ## Conditions -/

def relation : Reading RelOp := do
  match relation? (← current).kind with
  | none => unexpected Parser.relationKinds
  | some operator =>
    skip
    return operator

def comparison : Reading Condition := do
  let left ← expression
  let operator ← relation
  let right ← expression
  return .comparison operator left right

/-- A comparison from a given index on, wherever the cursor has gone. -/
def comparisonFrom (start : Nat) : Reading Condition := do
  moveTo start
  comparison

mutual

def condition : Reading Condition := do
  let left ← (· |>.conjunction)
  (· |>.disjunctionTail left)
partial_fixpoint

def disjunctionTail (left : Condition) : Reading Condition := do
  if ← accept .either then
    let right ← (· |>.conjunction)
    (· |>.disjunctionTail (.disjunction left right))
  else return left
partial_fixpoint

def conjunction : Reading Condition := do
  let left ← (· |>.conditionAtom)
  (· |>.conjunctionTail left)
partial_fixpoint

def conjunctionTail (left : Condition) : Reading Condition := do
  if ← accept .both then
    let right ← (· |>.conditionAtom)
    (· |>.conjunctionTail (.conjunction left right))
  else return left
partial_fixpoint

def conditionAtom : Reading Condition := do
  match ConditionHead.ofKind (← current).kind with
  | .constant value =>
    skip
    return .constant value
  | .group =>
    let start ← place
    (· |>.groupOrComparison start)
  | .operand => comparison
  | .other => unexpected Parser.conditionStart
partial_fixpoint

/-- A grouped condition or, where that fails, a comparison from a given index on. Of two errors, the
one that lies further on is reported. -/
def groupOrComparison (start : Nat) : Reading Condition := (do
  match ← ExceptT.run (· |>.group) with
  | .ok value => return .ok value
  | .error groupError =>
    match ← (comparisonFrom start).run with
    | .ok value => return .ok value
    | .error error => return .error (furtherError groupError error) :
  Moves (Except SyntaxError Condition))
partial_fixpoint

def group : Reading Condition := do
  require .openParen
  (· |>.groupTail)
partial_fixpoint

/-- A grouped condition after its opening parenthesis, up to and with the closing one. -/
def groupTail : Reading Condition := do
  let value ← (· |>.condition)
  require .closeParen
  return value
partial_fixpoint

end

/-! ## Statements -/

def valueEnd : Reading Expr := do
  let value ← expression
  expectEnd
  return value

def assignmentTail (declaration : Bool) : Reading Assignment := do
  let target ← expectIdent
  require .assign
  let value ← valueEnd
  return ⟨declaration, target, value⟩

def assignment : Reading Assignment := do
  let declaration ← accept .varWord
  assignmentTail declaration

def optionalEnd : Reading Unit := do
  let _ ← accept .semicolon

/-- What stands behind the word that announces an environment. -/
def rawTail : Reading Statement := do
  require .openBrace
  let pieces ← fragments
  require .closeBrace
  optionalEnd
  return .expression (.raw pieces)

mutual

def statement : Reading Statement := do
  let first ← current
  let second ← peek 1
  match StatementHead.ofKinds first.kind second.kind with
  | .assignment =>
    let binding ← assignment
    return .assignment binding
  | .returnValue =>
    skip
    let value ← valueEnd
    return .returnValue value
  | .conditional =>
    let (test, body, alternative) ← (· |>.conditional)
    return .conditional test body alternative
  | .block =>
    let statements ← (· |>.block)
    return .block statements
  | .environment =>
    skip
    rawTail
  | .value =>
    let value ← valueEnd
    return .expression value
  | .other => unexpected Parser.statementStart
partial_fixpoint

def conditional : Reading (Condition × Statement × Alternative) := do
  require .ifWord
  let test ← group
  let body ← (· |>.statement)
  let alternative ← (· |>.alternative)
  return (test, body, alternative)
partial_fixpoint

def alternative : Reading Alternative := do
  if ← accept .elseWord then
    if ← check .ifWord then
      let (test, body, alternative) ← (· |>.conditional)
      return .elseIf test body alternative
    else
      let body ← (· |>.statement)
      return .otherwise body
  else return .absent
partial_fixpoint

def block : Reading (List Statement) := do
  require .openBrace
  (· |>.statements)
partial_fixpoint

/-- The statements of a block after its opening brace, up to and with the closing one. -/
def statements : Reading (List Statement) := do
  let token ← current
  if token.kind = .closeBrace ∨ token.kind = .finish then
    require .closeBrace
    return []
  else
    let first ← (· |>.statement)
    let others ← (· |>.statements)
    return first :: others
partial_fixpoint

end

/-! ## Programs -/

def parameters : Reading (List String) := do
  if ← accept .closeParen then return []
  else
    let name ← expectIdent
    if ← separator then
      let others ← (· |>.parameters)
      return name :: others
    else return [name]
partial_fixpoint

def functionTail (name : String) : Reading FunctionDecl := do
  require .openParen
  let parameters ← parameters
  let body ← block
  return ⟨name, parameters, body⟩

def function : Reading FunctionDecl := do
  require .funcWord
  let name ← expectIdent
  functionTail name

def program : Reading Program := do
  match ItemHead.ofKind (← current).kind with
  | .finish => return ⟨[], []⟩
  | .function =>
    let first ← function
    let others ← (· |>.program)
    return { others with functions := first :: others.functions }
  | .assignment =>
    let first ← assignment
    let others ← (· |>.program)
    return { others with globals := first :: others.globals }
  | .other => unexpected Parser.itemStart
partial_fixpoint

def wholeExpression : Reading Expr := do
  let value ← expression
  require .finish
  return value

/-! ## Calls -/

inductive Call where
  | statement
  | program
  | expression

/-- What a call has read. -/
inductive Result where
  | statement (value : Statement)
  | program (value : Program)
  | expression (value : Expr)

def Call.reading : Call → Reading Result
  | statement => do
    let value ← Cursor.statement
    return .statement value
  | program => do
    let value ← Cursor.program
    return .program value
  | expression => do
    let value ← wholeExpression
    return .expression value

/-- Calls one after another, each from where the one before it has left the cursor. -/
def calls : List Call → Moves (List (Except SyntaxError Result))
  | [] => return []
  | call :: later => do
    let result ← call.reading.run
    let results ← calls later
    return result :: results

end Cursor

end StructuredShell
