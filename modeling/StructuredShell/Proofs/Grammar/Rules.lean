import StructuredShell.Syntax.Tree
import StructuredShell.Token

/-!
# The grammar

The rules of the language as relations between lists of tokens and trees. They say nothing about how
tokens are read. The rules for operators are left recursive, since all operators associate to the
left. The rules for conditionals are ambiguous, as the written grammar is; which of their trees is
meant is a property of the tree alone.
-/

set_option autoImplicit false

namespace StructuredShell.Grammar

/-! ## Signs -/

inductive SumSign : Kind → ArithOp → Prop where
  | plus : SumSign .plus .add
  | minus : SumSign .minus .subtract

inductive ProductSign : Kind → ArithOp → Prop where
  | star : ProductSign .star .multiply
  | slash : ProductSign .slash .divide
  | percent : ProductSign .percent .modulo

inductive RelationSign : Kind → RelOp → Prop where
  | less : RelationSign .less .less
  | greater : RelationSign .greater .greater
  | lessEqual : RelationSign .lessEqual .lessEqual
  | greaterEqual : RelationSign .greaterEqual .greaterEqual
  | equal : RelationSign .equal .equal
  | notEqual : RelationSign .notEqual .notEqual

structure Named (kind : Kind) (token : Token) (text : String) : Prop where
  kind_eq : token.kind = kind
  literal_eq : token.literal = some (.text text)

/-! ## Values -/

mutual

inductive Expression : List Token → Expr → Prop where
  | term {tokens : List Token} {value : Expr} : Term tokens value → Expression tokens value
  | sum {left right : List Token} {sign : Token} {operator : ArithOp} {first second : Expr} :
      Expression left first → SumSign sign.kind operator → Term right second →
      Expression (left ++ sign :: right) (.binary operator first second)

inductive Term : List Token → Expr → Prop where
  | factor {tokens : List Token} {value : Expr} : Factor tokens value → Term tokens value
  | product {left right : List Token} {sign : Token} {operator : ArithOp} {first second : Expr} :
      Term left first → ProductSign sign.kind operator → Factor right second →
      Term (left ++ sign :: right) (.binary operator first second)

inductive Factor : List Token → Expr → Prop where
  | number {token : Token} {value : Int} :
      token.kind = .number → token.literal = some (.number value) → Factor [token] (.number value)
  | text {token : Token} {value : String} :
      Named .string token value → Factor [token] (.text value)
  | var {token : Token} {name : String} : Named .ident token name → Factor [token] (.var name)
  | call {token opening : Token} {tokens : List Token} {name : String} {arguments : List Expr} :
      Named .ident token name → opening.kind = .openParen → Arguments tokens arguments →
      Factor (token :: opening :: tokens) (.call name arguments)
  | group {opening closing : Token} {tokens : List Token} {value : Expr} :
      opening.kind = .openParen → Expression tokens value → closing.kind = .closeParen →
      Factor (opening :: (tokens ++ [closing])) value
  | raw {dollar opening closing : Token} {tokens : List Token} {fragments : List Fragment} :
      dollar.kind = .dollar → opening.kind = .openParen → Environment tokens fragments →
      closing.kind = .closeParen →
      Factor (dollar :: opening :: (tokens ++ [closing])) (.raw fragments)

/-- Arguments with the parenthesis that closes them. A comma may follow the last one. -/
inductive Arguments : List Token → List Expr → Prop where
  | none {closing : Token} : closing.kind = .closeParen → Arguments [closing] []
  | last {tokens : List Token} {closing : Token} {value : Expr} :
      Expression tokens value → closing.kind = .closeParen →
      Arguments (tokens ++ [closing]) [value]
  | more {tokens rest : List Token} {comma : Token} {value : Expr} {values : List Expr} :
      Expression tokens value → comma.kind = .comma → Arguments rest values →
      Arguments (tokens ++ comma :: rest) (value :: values)

inductive Environment : List Token → List Fragment → Prop where
  | nil : Environment [] []
  | text {token : Token} {tokens : List Token} {text : String} {fragments : List Fragment} :
      Named .rawText token text → Environment tokens fragments →
      Environment (token :: tokens) (.shell text :: fragments)
  | splice {dollar opening closing : Token} {tokens rest : List Token} {value : Expr}
      {fragments : List Fragment} :
      dollar.kind = .dollar → opening.kind = .openBracket → Expression tokens value →
      closing.kind = .closeBracket → Environment rest fragments →
      Environment (dollar :: opening :: (tokens ++ closing :: rest)) (.splice value :: fragments)

end

/-! ## Conditions -/

mutual

inductive Disjunction : List Token → Condition → Prop where
  | conjunction {tokens : List Token} {condition : Condition} :
      Conjunction tokens condition → Disjunction tokens condition
  | either {left right : List Token} {sign : Token} {first second : Condition} :
      Disjunction left first → sign.kind = .either → Conjunction right second →
      Disjunction (left ++ sign :: right) (.disjunction first second)

inductive Conjunction : List Token → Condition → Prop where
  | atom {tokens : List Token} {condition : Condition} :
      Atom tokens condition → Conjunction tokens condition
  | both {left right : List Token} {sign : Token} {first second : Condition} :
      Conjunction left first → sign.kind = .both → Atom right second →
      Conjunction (left ++ sign :: right) (.conjunction first second)

inductive Atom : List Token → Condition → Prop where
  | isTrue {token : Token} : token.kind = .trueWord → Atom [token] (.constant true)
  | isFalse {token : Token} : token.kind = .falseWord → Atom [token] (.constant false)
  | group {opening closing : Token} {tokens : List Token} {condition : Condition} :
      opening.kind = .openParen → Disjunction tokens condition → closing.kind = .closeParen →
      Atom (opening :: (tokens ++ [closing])) condition
  | comparison {left right : List Token} {sign : Token} {operator : RelOp} {first second : Expr} :
      Expression left first → RelationSign sign.kind operator → Expression right second →
      Atom (left ++ sign :: right) (.comparison operator first second)

end

/-! ## Statements -/

/-- What stands after `else` as the end of a conditional: a conditional continues the chain. -/
def afterElse : StructuredShell.Statement → Alternative
  | .conditional condition body alternative => .elseIf condition body alternative
  | statement => .otherwise statement

inductive Assigns : List Token → Assignment → Prop where
  | declare {word name sign semicolon : Token} {tokens : List Token} {target : String}
      {value : Expr} :
      word.kind = .varWord → Named .ident name target → sign.kind = .assign →
      Expression tokens value → semicolon.kind = .semicolon →
      Assigns (word :: name :: sign :: (tokens ++ [semicolon])) ⟨true, target, value⟩
  | rebind {name sign semicolon : Token} {tokens : List Token} {target : String} {value : Expr} :
      Named .ident name target → sign.kind = .assign → Expression tokens value →
      semicolon.kind = .semicolon →
      Assigns (name :: sign :: (tokens ++ [semicolon])) ⟨false, target, value⟩

mutual

inductive Statement : List Token → StructuredShell.Statement → Prop where
  | assignment {tokens : List Token} {binding : Assignment} :
      Assigns tokens binding → Statement tokens (.assignment binding)
  | returnValue {word semicolon : Token} {tokens : List Token} {value : Expr} :
      word.kind = .returnWord → Expression tokens value → semicolon.kind = .semicolon →
      Statement (word :: (tokens ++ [semicolon])) (.returnValue value)
  | expression {semicolon : Token} {tokens : List Token} {value : Expr} :
      Expression tokens value → semicolon.kind = .semicolon →
      Statement (tokens ++ [semicolon]) (.expression value)
  | raw {word opening closing : Token} {tokens ending : List Token} {fragments : List Fragment} :
      word.kind = .rawWord → opening.kind = .openBrace → Environment tokens fragments →
      closing.kind = .closeBrace →
      ending = [] ∨ (∃ semicolon : Token, semicolon.kind = .semicolon ∧ ending = [semicolon]) →
      Statement (word :: opening :: (tokens ++ closing :: ending)) (.expression (.raw fragments))
  | block {opening : Token} {tokens : List Token} {statements : List StructuredShell.Statement} :
      opening.kind = .openBrace → Statements tokens statements →
      Statement (opening :: tokens) (.block statements)
  | conditional {word opening closing : Token} {head body : List Token} {condition : Condition}
      {statement : StructuredShell.Statement} :
      word.kind = .ifWord → opening.kind = .openParen → Disjunction head condition →
      closing.kind = .closeParen → Statement body statement →
      Statement (word :: opening :: (head ++ closing :: body))
        (.conditional condition statement .absent)
  | conditionalElse {word opening closing elseWord : Token} {head body other : List Token}
      {condition : Condition} {statement alternative : StructuredShell.Statement} :
      word.kind = .ifWord → opening.kind = .openParen → Disjunction head condition →
      closing.kind = .closeParen → Statement body statement → elseWord.kind = .elseWord →
      Statement other alternative →
      Statement (word :: opening :: (head ++ closing :: (body ++ elseWord :: other)))
        (.conditional condition statement (afterElse alternative))

inductive Statements : List Token → List StructuredShell.Statement → Prop where
  | nil {closing : Token} : closing.kind = .closeBrace → Statements [closing] []
  | cons {tokens rest : List Token} {statement : StructuredShell.Statement}
      {statements : List StructuredShell.Statement} :
      Statement tokens statement → Statements rest statements →
      Statements (tokens ++ rest) (statement :: statements)

end

/-! ## Programs -/

/-- Parameters with the parenthesis that closes them. A comma may follow the last one. -/
inductive Parameters : List Token → List String → Prop where
  | none {closing : Token} : closing.kind = .closeParen → Parameters [closing] []
  | last {token closing : Token} {name : String} :
      Named .ident token name → closing.kind = .closeParen → Parameters [token, closing] [name]
  | more {token comma : Token} {rest : List Token} {name : String} {names : List String} :
      Named .ident token name → comma.kind = .comma → Parameters rest names →
      Parameters (token :: comma :: rest) (name :: names)

inductive Function : List Token → FunctionDecl → Prop where
  | define {word token opening brace : Token} {head body : List Token} {name : String}
      {parameters : List String} {statements : List StructuredShell.Statement} :
      word.kind = .funcWord → Named .ident token name → opening.kind = .openParen →
      Parameters head parameters → brace.kind = .openBrace → Statements body statements →
      Function (word :: token :: opening :: (head ++ brace :: body)) ⟨name, parameters, statements⟩

inductive Program : List Token → StructuredShell.Program → Prop where
  | nil : Program [] ⟨[], []⟩
  | function {tokens rest : List Token} {function : FunctionDecl}
      {program : StructuredShell.Program} :
      Function tokens function → Program rest program →
      Program (tokens ++ rest) ⟨program.globals, function :: program.functions⟩
  | assignment {tokens rest : List Token} {binding : Assignment}
      {program : StructuredShell.Program} :
      Assigns tokens binding → Program rest program →
      Program (tokens ++ rest) ⟨binding :: program.globals, program.functions⟩

end StructuredShell.Grammar

namespace StructuredShell

/-! ## The nearest `else` -/

mutual

/-- Whether a statement ends in a conditional that could still take an `else`. -/
def Statement.endsOpen : Statement → Bool
  | .conditional _ _ alternative => alternative.endsOpen
  | _ => false

/-- Whether an alternative leaves its conditional able to take an `else`. -/
def Alternative.endsOpen : Alternative → Bool
  | .absent => true
  | .otherwise body => body.endsOpen
  | .elseIf _ _ alternative => alternative.endsOpen

end

def Alternative.isAbsent : Alternative → Bool
  | .absent => true
  | _ => false

mutual

/-- Whether every `else` in a statement belongs to the nearest conditional that can take it: no
conditional with an `else` has a body that could have taken it. -/
def Statement.elseNearest : Statement → Bool
  | .block statements => Statement.elsesNearest statements
  | .conditional _ body alternative =>
    body.elseNearest && alternative.elseNearest && (alternative.isAbsent || !body.endsOpen)
  | _ => true

def Alternative.elseNearest : Alternative → Bool
  | .absent => true
  | .otherwise body => body.elseNearest
  | .elseIf _ body alternative =>
    body.elseNearest && alternative.elseNearest && (alternative.isAbsent || !body.endsOpen)

def Statement.elsesNearest : List Statement → Bool
  | [] => true
  | statement :: rest => statement.elseNearest && Statement.elsesNearest rest

end

/-- Whether every `else` in a program belongs to the nearest conditional that can take it. -/
def Program.elseNearest (program : Program) : Bool :=
  program.functions.all fun function => Statement.elsesNearest function.body

theorem afterElse_endsOpen (statement : Statement) :
    (Grammar.afterElse statement).endsOpen = statement.endsOpen := by
  cases statement <;> simp [Grammar.afterElse, Statement.endsOpen, Alternative.endsOpen]

theorem afterElse_elseNearest (statement : Statement) :
    (Grammar.afterElse statement).elseNearest = statement.elseNearest := by
  cases statement <;> simp [Grammar.afterElse, Statement.elseNearest, Alternative.elseNearest]

theorem afterElse_isAbsent (statement : Statement) :
    (Grammar.afterElse statement).isAbsent = false := by
  cases statement <;> rfl

end StructuredShell
