import StructuredShell.Lowering.Hoisted

/-!
# The meaning of values

Two evaluators. The first runs over source values: from left to right, arguments before the call
that takes them, every variable read at its own place. The second runs the commands of shell code
over a machine with temporaries and a place for the last result. Neither mentions the other, and
nothing is assumed about values, about the store of variables or about what functions do to it.
-/

set_option autoImplicit false

namespace StructuredShell

/-! ## Source values -/

/-- What source values are about: `V` are the values of a run and `S` is the store of variables. A
function may change the store in any way; raw text only reads it. -/
structure Meaning (V S : Type) where
  number : Int → V
  text : String → V
  arith : ArithOp → V → V → V
  read : String → S → V
  call : String → List V → S → S × V
  raw : List Fragment → S → V

/-- What an evaluation leaves behind: its value, the store, and the calls it made with the values of
their arguments, in order. -/
structure Outcome (V S α : Type) where
  value : α
  store : S
  calls : List (String × List V)

variable {V S : Type}

mutual

def Expr.evaluate (meaning : Meaning V S) : Expr → S → Outcome V S V
  | .var name, store => ⟨meaning.read name store, store, []⟩
  | .number value, store => ⟨meaning.number value, store, []⟩
  | .text value, store => ⟨meaning.text value, store, []⟩
  | .binary operator left right, store =>
    let first := left.evaluate meaning store
    let second := right.evaluate meaning first.store
    ⟨meaning.arith operator first.value second.value, second.store, first.calls ++ second.calls⟩
  | .call name arguments, store =>
    let given := Expr.evaluateAll meaning arguments store
    let answer := meaning.call name given.value given.store
    ⟨answer.2, answer.1, given.calls ++ [(name, given.value)]⟩
  | .raw fragments, store => ⟨meaning.raw fragments store, store, []⟩

def Expr.evaluateAll (meaning : Meaning V S) : List Expr → S → Outcome V S (List V)
  | [], store => ⟨[], store, []⟩
  | value :: rest, store =>
    let first := value.evaluate meaning store
    let others := Expr.evaluateAll meaning rest first.store
    ⟨first.value :: others.value, others.store, first.calls ++ others.calls⟩

end

theorem Expr.evaluate_store_of_no_call (meaning : Meaning V S) (expr : Expr)
    (noCall : expr.containsCall = false) (store : S) :
    (expr.evaluate meaning store).store = store := by
  match expr with
  | .var _ | .number _ | .text _ | .raw _ => simp only [Expr.evaluate]
  | .call _ _ => simp [Expr.containsCall] at noCall
  | .binary _ left right =>
      simp only [Expr.containsCall, Bool.or_eq_false_iff] at noCall
      simp only [Expr.evaluate]
      rw [left.evaluate_store_of_no_call meaning noCall.1,
        right.evaluate_store_of_no_call meaning noCall.2]

theorem Expr.evaluateAll_store_of_no_call (meaning : Meaning V S) (values : List Expr)
    (noCall : values.any Expr.containsCall = false) (store : S) :
    (Expr.evaluateAll meaning values store).store = store := by
  induction values generalizing store with
  | nil => simp only [Expr.evaluateAll]
  | cons value rest ih =>
      simp only [List.any_cons, Bool.or_eq_false_iff] at noCall
      simp only [Expr.evaluateAll]
      rw [ih noCall.2, value.evaluate_store_of_no_call meaning noCall.1]

/-! ## Shell commands -/

namespace Shell

/-- What shell code is about. Functions act on the store of variables and give back a value; they
have no access to the temporaries of their caller. The output of shell code depends on its text and
on the store. -/
structure World (V S : Type) where
  number : Int → V
  text : String → V
  arith : ArithOp → V → V → V
  read : String → S → V
  call : String → List V → S → S × V
  output : String → S → V

/-- A running script: the store, the temporaries, what the last function handed back, and the calls
made so far. -/
structure Machine (V S : Type) where
  store : S
  temporaries : Nat → V
  result : V
  calls : List (String × List V)

namespace World

variable (world : World V S)

def operand (machine : Machine V S) : Operand → V
  | .var name => world.read name machine.store
  | .number value => world.number value
  | .temporary index => machine.temporaries index
  | .result => machine.result
  | .output code => world.output code machine.store

/-- The value of a formula, each of whose operands counts as one value. -/
def formula (machine : Machine V S) : Formula Operand → V
  | .atom operand => world.operand machine operand
  | .binary operator left right =>
    world.arith operator (formula machine left) (formula machine right)

def value (machine : Machine V S) : Value → V
  | .text value => world.text value
  | .arithmetic formula => world.formula machine formula

/-- One command of a straight line of code, which calls a function or saves a value. Other commands
have no place there. -/
def step? (machine : Machine V S) : Simple → Option (Machine V S)
  | .call name arguments =>
    let given := arguments.map (world.value machine)
    let answer := world.call name given machine.store
    some { machine with
      store := answer.1, result := answer.2, calls := machine.calls ++ [(name, given)] }
  | .save _ index value =>
    some { machine with
      temporaries := fun other =>
        if other = index then world.value machine value else machine.temporaries other }
  | _ => none

def run? (machine : Machine V S) : List Simple → Option (Machine V S)
  | [] => some machine
  | command :: rest =>
    match world.step? machine command with
    | none => none
    | some next => run? next rest

/-- What source values mean in a world in which their names are written in a given way. -/
def meaning (names : String → String) : Meaning V S where
  number := world.number
  text := world.text
  arith := world.arith
  read name := world.read (names name)
  call name := world.call (names name)
  raw fragments := world.output (Lowering.rawCode names fragments)

theorem run?_append {machine middle : Machine V S} {first : List Simple}
    (ran : world.run? machine first = some middle) (second : List Simple) :
    world.run? machine (first ++ second) = world.run? middle second := by
  induction first generalizing machine with
  | nil =>
      simp only [run?, Option.some.injEq] at ran
      rw [ran, List.nil_append]
  | cons command rest ih =>
      simp only [List.cons_append, run?] at ran ⊢
      cases stepped : world.step? machine command with
      | none => simp [stepped] at ran
      | some next =>
          simp only [stepped] at ran ⊢
          exact ih ran

end World

end Shell

end StructuredShell
