import StructuredShell.Syntax.Tree

/-!
# Arithmetic formulas

A formula is a tree of arithmetic operators over atoms. Written out it has only the parentheses
that the precedence of the operators and their association to the left ask for.
-/

set_option autoImplicit false

namespace StructuredShell.Shell

inductive Formula (α : Type) where
  | atom (value : α)
  | binary (operator : ArithOp) (left right : Formula α)

def precedence : ArithOp → Nat
  | .add | .subtract => 1
  | .multiply | .divide | .modulo => 2

inductive FormulaPiece where
  | atom (text : String)
  | sign (operator : ArithOp)
  | openParen
  | closeParen

def FormulaPiece.text : FormulaPiece → String
  | atom text => text
  | sign operator => " " ++ operator.symbol ++ " "
  | openParen => "("
  | closeParen => ")"

namespace Formula

variable {α : Type}

/-- The pieces of a formula in a place where operators that bind less tightly than `level` need
parentheses. The right operand is written one level up, since operators associate to the left. -/
def pieces (render : α → String) (level : Nat) : Formula α → List FormulaPiece
  | atom value => [.atom (render value)]
  | binary operator left right =>
    let inner := left.pieces render (precedence operator) ++ .sign operator ::
      right.pieces render (precedence operator + 1)
    if precedence operator < level then .openParen :: (inner ++ [.closeParen]) else inner

def text (render : α → String) (formula : Formula α) : String :=
  String.join ((formula.pieces render 0).map FormulaPiece.text)

end Formula

end StructuredShell.Shell
