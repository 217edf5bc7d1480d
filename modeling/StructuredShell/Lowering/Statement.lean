import StructuredShell.Lowering.Condition

/-!
# Statements

A statement becomes a list of commands. A call that is a whole value needs no temporary: it runs as
a command, and what it hands back is used by the next one.
-/

set_option autoImplicit false

namespace StructuredShell.Lowering

open Shell

structure Emitted where
  commands : List Command
  used : Nat

def Lowered.emit {α : Type} (lowered : Lowered α) (finishing : α → List Simple) : Emitted :=
  ⟨(lowered.setup ++ finishing lowered.value).map Command.simple, lowered.used⟩

def resultValue : Value := .arithmetic (.atom .result)

/-! ## Statements without a body -/

/-- An assignment. A declaration inside a function is local to it. -/
def assignment (names : String → String) (isLocal : Bool) (binding : Assignment) (used : Nat) :
    Emitted :=
  let target := names binding.target
  let declares := binding.declaration && isLocal
  match binding.value with
  | .call name arguments =>
    (values names isLocal arguments used).emit fun arguments =>
      [.call (names name) arguments, .assign declares target resultValue]
  | source =>
    (value names isLocal false source used).emit fun lowered => [.assign declares target lowered]

/-- A return. What a function hands back stays in place when it is handed on at once. -/
def returnValue (names : String → String) (source : Expr) (used : Nat) : Emitted :=
  match source with
  | .call name arguments =>
    (values names true arguments used).emit fun arguments => [.call (names name) arguments, .leave]
  | source => (value names true false source used).emit fun lowered => [.handBack lowered, .leave]

/-- A value that stands as a statement. Raw text is code of its own; empty raw text is nothing. -/
def expression (names : String → String) (source : Expr) (used : Nat) : Emitted :=
  match source with
  | .call name arguments =>
    (values names true arguments used).emit fun arguments => [.call (names name) arguments]
  | .raw fragments =>
    (Lowered.ready (rawCode names fragments) used).emit fun code =>
      if code.isEmpty then [] else [.verbatim code]
  | source => (value names true false source used).emit fun lowered => [.evaluate lowered]

/-! ## Statements with bodies -/

def isBlock : Statement → Bool
  | .block _ => true
  | _ => false

mutual

/-- What a statement does. A block stands for its statements here, so that it needs no braces as the
body of a conditional. -/
def contents (names : String → String) : Statement → Nat → Emitted
  | .assignment binding, used => assignment names true binding used
  | .returnValue value, used => returnValue names value used
  | .expression value, used => expression names value used
  | .block statements, used => sequence names statements used
  | .conditional condition body alternative, used =>
    let head := test names true false condition used
    let inner := contents names body head.used
    let other := branch names alternative inner.used
    ⟨head.setup.map Command.simple ++
      [.conditional head.value (bodyOf inner.commands) other.1], other.2⟩

/-- What follows the body of a conditional. A further condition that needs commands ahead of its
test starts a conditional of its own, since those commands must run only when it is reached. -/
def branch (names : String → String) : Alternative → Nat → Branch × Nat
  | .absent, used => (.absent, used)
  | .otherwise body, used =>
    let inner := contents names body used
    (.otherwise (bodyOf inner.commands), inner.used)
  | .elseIf condition body alternative, used =>
    let head := test names true false condition used
    let inner := contents names body head.used
    let other := branch names alternative inner.used
    if condition.hoists then
      (.otherwise (head.setup.map Command.simple ++
        [.conditional head.value (bodyOf inner.commands) other.1]), other.2)
    else (.elseIf head.value (bodyOf inner.commands) other.1, other.2)

/-- Statements one after another. A block among them keeps its braces. -/
def sequence (names : String → String) : List Statement → Nat → Emitted
  | [], used => ⟨[], used⟩
  | statement :: rest, used =>
    let inner := contents names statement used
    let first := if isBlock statement then [.group (bodyOf inner.commands)] else inner.commands
    let others := sequence names rest inner.used
    ⟨first ++ others.commands, others.used⟩

end

end StructuredShell.Lowering
