import StructuredShell.Lowering.Inline
import StructuredShell.Shell.Command

/-!
# Values outside raw text

A shell function cannot hand a value to the middle of a command. A call inside a value therefore
runs as a command of its own ahead of it, and its result is saved at once into a fresh temporary
that stands for the call. Calls run in the order in which they are written, arguments before the
call that takes them. An operand that reads a variable and stands left of a call is saved too, so
that it keeps the value from before the call.
-/

set_option autoImplicit false

namespace StructuredShell

/-! ## What a value does -/

/-- Whether computing a value outside raw text runs a function of the program. -/
def Expr.containsCall : Expr → Bool
  | .call _ _ => true
  | .binary _ left right => left.containsCall || right.containsCall
  | _ => false

/-- Whether a lowered value stays the same whatever runs after its commands: it reads no variable
and runs no raw text. -/
def Expr.isStable : Expr → Bool
  | .number _ | .text _ | .call _ _ => true
  | .var _ | .raw _ => false
  | .binary _ left right => left.isStable && right.isStable

def Expr.isText : Expr → Bool
  | .text _ => true
  | _ => false

/-- Whether lowering a value puts commands ahead of it. Literal text does so as an operand of
arithmetic. -/
def Expr.hoists : Expr → Bool
  | .call _ _ => true
  | .binary _ left right => left.isText || left.hoists || right.isText || right.hoists
  | _ => false

namespace Lowering

open Shell

/-! ## Lowered values -/

/-- A lowered part of a program: the commands that run ahead of it, what it becomes, and the number
of temporaries in use after it. -/
structure Lowered (α : Type) where
  setup : List Simple
  value : α
  used : Nat

namespace Lowered

variable {α β : Type}

def ready (value : α) (used : Nat) : Lowered α := ⟨[], value, used⟩

def map (f : α → β) (lowered : Lowered α) : Lowered β :=
  ⟨lowered.setup, f lowered.value, lowered.used⟩

/-- Save a value into the next temporary, which stands for it from then on. -/
def saved (isLocal : Bool) (lowered : Lowered Value) : Lowered Operand :=
  ⟨lowered.setup ++ [.save isLocal (lowered.used + 1) lowered.value],
    .temporary (lowered.used + 1), lowered.used + 1⟩

end Lowered

/-- A value from the lowering of its formula: literal text stays as it is, and a value that could
change while a later call runs is saved. -/
def settled (isLocal laterCall : Bool) (source : Expr) (used : Nat)
    (lower : Nat → Lowered (Formula Operand)) : Lowered Value :=
  let lowered :=
    match source with
    | .text text => .ready (.text text) used
    | _ => (lower used).map Value.arithmetic
  if laterCall && !source.isStable then
    (lowered.saved isLocal).map fun operand => .arithmetic (.atom operand)
  else lowered

mutual

/-- The formula of a value. Literal text is saved first, so that it never reaches arithmetic
unquoted. A left operand that could change while a call on the right runs is saved as a whole. -/
def formula (names : String → String) (isLocal : Bool) : Expr → Nat → Lowered (Formula Operand)
  | .var name, used => .ready (.atom (.var (names name))) used
  | .number value, used => .ready (.atom (.number value)) used
  | .text value, used => ((Lowered.ready (Value.text value) used).saved isLocal).map .atom
  | .raw fragments, used => .ready (.atom (.output (rawCode names fragments))) used
  | .call name arguments, used =>
    let lowered := values names isLocal arguments used
    (Lowered.saved isLocal ⟨lowered.setup ++ [.call (names name) lowered.value],
      .arithmetic (.atom .result), lowered.used⟩).map .atom
  | .binary operator left right, used =>
    let whole := formula names isLocal left used
    let first :=
      if right.containsCall && !left.isStable then
        ((whole.map Value.arithmetic).saved isLocal).map .atom
      else whole
    let second := formula names isLocal right first.used
    ⟨first.setup ++ second.setup, .binary operator first.value second.value, second.used⟩

def values (names : String → String) (isLocal : Bool) : List Expr → Nat → Lowered (List Value)
  | [], used => .ready [] used
  | argument :: rest, used =>
    let first := settled isLocal (rest.any Expr.containsCall) argument used
      (formula names isLocal argument)
    let others := values names isLocal rest first.used
    ⟨first.setup ++ others.setup, first.value :: others.value, others.used⟩

end

/-- A value that is ready for a command, also when a later call runs before that command. -/
def value (names : String → String) (isLocal laterCall : Bool) (source : Expr) (used : Nat) :
    Lowered Value :=
  settled isLocal laterCall source used (formula names isLocal source)

end Lowering

end StructuredShell
