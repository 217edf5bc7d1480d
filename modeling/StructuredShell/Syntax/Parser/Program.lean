import StructuredShell.Syntax.Parser.Statement
import StructuredShell.Token.Lexer

/-!
# Reading programs

```text
program  ::= (assignment | function)*
function ::= 'func' IDENT '(' parameters block
parameters ::= ')' | IDENT ')' | IDENT ',' parameters
```

Readers of whole texts, and a token stream that several readers can work through one after another.
-/

set_option autoImplicit false

namespace StructuredShell

namespace Parser

def itemStart : List Kind := [.funcWord, .varWord, .ident]

/-- The parameters of a function after the opening parenthesis, up to and with the closing one. A
comma may follow the last parameter. -/
def parameters (finish : Position) (tokens : List Token) : Reply (List String) tokens.length :=
  match expect finish .closeParen tokens with
  | .ok _ rest shorter => .ok [] rest shorter
  | .fail _ _ =>
    match expectIdent finish tokens with
    | .fail error stopped => .fail error stopped
    | .ok name rest shorter =>
      match expectSeparator finish rest with
      | .fail error stopped => .fail error stopped
      | .ok false rest' shorter' => (Reply.ok [name] rest' shorter').within shorter
      | .ok true rest' shorter' =>
        (((parameters finish rest').map (name :: ·)).within shorter').within shorter
termination_by tokens.length

def functionTail (finish : Position) (name : String) (tokens : List Token) :
    Reply FunctionDecl tokens.length :=
  match expect finish .openParen tokens with
  | .fail error stopped => .fail error stopped
  | .ok _ rest shorter =>
    match parameters finish rest with
    | .fail error stopped => .fail error stopped
    | .ok names rest' shorter' =>
      (((block finish rest').map (FunctionDecl.mk name names)).within shorter').within shorter

def function (finish : Position) (tokens : List Token) : Reply FunctionDecl tokens.length :=
  match expect finish .funcWord tokens with
  | .fail error stopped => .fail error stopped
  | .ok _ rest shorter =>
    match expectIdent finish rest with
    | .fail error stopped => .fail error stopped
    | .ok name rest' shorter' => ((functionTail finish name rest').within shorter').within shorter

inductive ItemHead where
  | function
  | assignment
  | finish
  | other

def ItemHead.ofKind : Kind → ItemHead
  | .funcWord => function
  | .varWord | .ident => assignment
  | .finish => finish
  | _ => other

/-- The items of a program up to the end of the text, which is not taken. -/
def program (finish : Position) (tokens : List Token) : Reply Program (tokens.length + 1) :=
  match ItemHead.ofKind (headKind tokens) with
  | .finish => .keep ⟨[], []⟩ tokens
  | .other => .fail (unexpected finish itemStart tokens) tokens
  | .function =>
    match function finish tokens with
    | .fail error stopped => .fail error stopped
    | .ok first rest shorter =>
      (((program finish rest).map fun others =>
        { others with functions := first :: others.functions }).widen shorter).loosen
  | .assignment =>
    match assignment finish tokens with
    | .fail error stopped => .fail error stopped
    | .ok first rest shorter =>
      (((program finish rest).map fun others =>
        { others with globals := first :: others.globals }).widen shorter).loosen
termination_by tokens.length

/-- The end of the text. An end token inside the list is taken; the end of the list stays. -/
def expectFinish (finish : Position) (tokens : List Token) : Reply Unit (tokens.length + 1) :=
  match tokens with
  | [] => .keep () []
  | token :: rest => (expect finish .finish (token :: rest)).loosen

def wholeExpression (finish : Position) (tokens : List Token) : Reply Expr tokens.length :=
  match expression finish tokens with
  | .fail error stopped => .fail error stopped
  | .ok value rest shorter => ((expectFinish finish rest).map fun _ => value).widen shorter

end Parser

/-! ## Token streams -/

/-- Tokens that are still to be read, and the place of the end that follows them. -/
structure TokenStream where
  ahead : List Token
  finish : Position

namespace TokenStream

/-- The stream of a token list. The last token is the end if its kind says so; otherwise the end
is placed at the last token, and in an empty list at the start of the text. -/
def ofTokens (tokens : List Token) : TokenStream :=
  match tokens.getLast? with
  | none => ⟨[], .start⟩
  | some last =>
    if last.kind = .finish then ⟨tokens.dropLast, last.position⟩ else ⟨tokens, last.position⟩

/-- Apply a reader. The stream moves to where the reader stopped, in failure too. -/
def read {α : Type} {bound : List Token → Nat}
    (reader : Position → (tokens : List Token) → Parser.Reply α (bound tokens))
    (stream : TokenStream) : Except SyntaxError α × TokenStream :=
  match reader stream.finish stream.ahead with
  | .ok value rest _ => (.ok value, { stream with ahead := rest })
  | .fail error stopped => (.error error, { stream with ahead := stopped })

def statement (stream : TokenStream) : Except SyntaxError Statement × TokenStream :=
  stream.read Parser.statement

def program (stream : TokenStream) : Except SyntaxError Program × TokenStream :=
  stream.read Parser.program

def expression (stream : TokenStream) : Except SyntaxError Expr × TokenStream :=
  stream.read Parser.wholeExpression

end TokenStream

/-! ## Source texts -/

def readSource {α : Type} (reader : TokenStream → Except SyntaxError α × TokenStream)
    (source : String) : Except Diagnostic α :=
  match Lexer.tokens source with
  | .error error => .error (.lexical error)
  | .ok tokens =>
    match (reader (.ofTokens tokens)).1 with
    | .error error => .error (.syntactic error)
    | .ok value => .ok value

def Program.parse (source : String) : Except Diagnostic Program :=
  readSource TokenStream.program source

def Expr.parse (source : String) : Except Diagnostic Expr :=
  readSource TokenStream.expression source

end StructuredShell
