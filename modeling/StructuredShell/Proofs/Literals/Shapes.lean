import StructuredShell.Proofs.Literals.Contents

/-!
# The literal texts of programs

Statements and programs are filled value by value. What is known of the literal texts of a program
is known of the list of all its values, so each kind of statement needs to be looked at once only.
-/

set_option autoImplicit false

namespace StructuredShell

/-! ## Statements -/

mutual

/-- The values that a statement works with, in the order in which they are written. -/
def Statement.values : Statement → List Expr
  | .assignment binding => [binding.value]
  | .returnValue value => [value]
  | .block statements => Statement.valuesOf statements
  | .conditional condition body alternative =>
    condition.values ++ body.values ++ alternative.values
  | .expression value => [value]

def Alternative.values : Alternative → List Expr
  | .absent => []
  | .otherwise body => body.values
  | .elseIf condition body alternative => condition.values ++ body.values ++ alternative.values

def Statement.valuesOf : List Statement → List Expr
  | [] => []
  | statement :: rest => statement.values ++ Statement.valuesOf rest

end

def Statement.literals (statement : Statement) : List String :=
  Expr.literalsOf statement.values

def Alternative.literals (alternative : Alternative) : List String :=
  Expr.literalsOf alternative.values

def Statement.literalsOf (statements : List Statement) : List String :=
  Expr.literalsOf (Statement.valuesOf statements)

theorem Expr.literalsOf_singleton (value : Expr) : Expr.literalsOf [value] = value.literals :=
  List.append_nil _

theorem Statement.literals_conditional (condition : Condition) (body : Statement)
    (alternative : Alternative) :
    (Statement.conditional condition body alternative).literals =
      condition.literals ++ body.literals ++ alternative.literals := by
  simp only [Statement.literals, Statement.values, Expr.literalsOf_append, Condition.literals,
    Alternative.literals]

theorem Alternative.literals_elseIf (condition : Condition) (body : Statement)
    (alternative : Alternative) :
    (Alternative.elseIf condition body alternative).literals =
      condition.literals ++ body.literals ++ alternative.literals := by
  simp only [Statement.literals, Alternative.values, Expr.literalsOf_append, Condition.literals,
    Alternative.literals]

theorem Statement.literalsOf_cons (statement : Statement) (rest : List Statement) :
    Statement.literalsOf (statement :: rest) =
      statement.literals ++ Statement.literalsOf rest :=
  Expr.literalsOf_append _ _

def Assignment.refill (contents : Nat → String) (first : Nat) (binding : Assignment) :
    Assignment :=
  { binding with value := binding.value.refill contents first }

mutual

def Statement.refill (contents : Nat → String) (first : Nat) : Statement → Statement
  | .assignment binding => .assignment (binding.refill contents first)
  | .returnValue value => .returnValue (value.refill contents first)
  | .block statements => .block (Statement.refillAll contents first statements)
  | .conditional condition body alternative =>
    .conditional (condition.refill contents first)
      (body.refill contents (first + condition.literals.length))
      (alternative.refill contents (first + condition.literals.length + body.literals.length))
  | .expression value => .expression (value.refill contents first)

def Alternative.refill (contents : Nat → String) (first : Nat) : Alternative → Alternative
  | .absent => .absent
  | .otherwise body => .otherwise (body.refill contents first)
  | .elseIf condition body alternative =>
    .elseIf (condition.refill contents first)
      (body.refill contents (first + condition.literals.length))
      (alternative.refill contents (first + condition.literals.length + body.literals.length))

def Statement.refillAll (contents : Nat → String) (first : Nat) :
    List Statement → List Statement
  | [] => []
  | statement :: rest =>
    statement.refill contents first ::
      Statement.refillAll contents (first + statement.literals.length) rest

end

section

variable (contents : Nat → String)

mutual

theorem Statement.values_refill (first : Nat) (statement : Statement) :
    (statement.refill contents first).values =
      Expr.refillAll contents first statement.values := by
  match statement with
  | .assignment _ => rfl
  | .returnValue _ => rfl
  | .expression _ => rfl
  | .block statements => exact Statement.valuesOf_refillAll first statements
  | .conditional condition body alternative =>
      simp only [Statement.refill, Statement.values, Condition.values_refill,
        Statement.values_refill _ body, Alternative.values_refill _ alternative,
        Expr.refillAll_append, Expr.literalsOf_append, List.length_append, Condition.literals,
        Statement.literals, Nat.add_assoc]

theorem Alternative.values_refill (first : Nat) (alternative : Alternative) :
    (alternative.refill contents first).values =
      Expr.refillAll contents first alternative.values := by
  match alternative with
  | .absent => rfl
  | .otherwise body => exact Statement.values_refill first body
  | .elseIf condition body alternative =>
      simp only [Alternative.refill, Alternative.values, Condition.values_refill,
        Statement.values_refill _ body, Alternative.values_refill _ alternative,
        Expr.refillAll_append, Expr.literalsOf_append, List.length_append, Condition.literals,
        Statement.literals, Nat.add_assoc]

theorem Statement.valuesOf_refillAll (first : Nat) (statements : List Statement) :
    Statement.valuesOf (Statement.refillAll contents first statements) =
      Expr.refillAll contents first (Statement.valuesOf statements) := by
  match statements with
  | [] => rfl
  | statement :: rest =>
      simp only [Statement.refillAll, Statement.valuesOf, Statement.values_refill first statement,
        Statement.valuesOf_refillAll _ rest, Expr.refillAll_append, Statement.literals]

end

@[simp] theorem Assignment.names_refill (first : Nat) (binding : Assignment) :
    (binding.refill contents first).names = binding.names := by
  simp only [Assignment.refill, Assignment.names, Expr.names_refill]

mutual

@[simp] theorem Statement.names_refill (first : Nat) (statement : Statement) :
    (statement.refill contents first).names = statement.names := by
  match statement with
  | .assignment binding => exact Assignment.names_refill contents first binding
  | .returnValue value => exact Expr.names_refill contents first value
  | .expression value => exact Expr.names_refill contents first value
  | .block statements => exact Statement.namesOf_refillAll first statements
  | .conditional condition body alternative =>
      simp only [Statement.refill, Statement.names, Condition.names_refill,
        Statement.names_refill _ body, Alternative.names_refill _ alternative]

@[simp] theorem Alternative.names_refill (first : Nat) (alternative : Alternative) :
    (alternative.refill contents first).names = alternative.names := by
  match alternative with
  | .absent => rfl
  | .otherwise body => exact Statement.names_refill first body
  | .elseIf condition body alternative =>
      simp only [Alternative.refill, Alternative.names, Condition.names_refill,
        Statement.names_refill _ body, Alternative.names_refill _ alternative]

@[simp] theorem Statement.namesOf_refillAll (first : Nat) (statements : List Statement) :
    Statement.namesOf (Statement.refillAll contents first statements) =
      Statement.namesOf statements := by
  match statements with
  | [] => rfl
  | statement :: rest =>
      simp only [Statement.refillAll, Statement.namesOf, Statement.names_refill first statement,
        Statement.namesOf_refillAll _ rest]

end

end

section

variable {contents : Nat → String}

mutual

theorem Statement.refill_own {first : Nat} (statement : Statement)
    (own : Gives contents first statement.literals) :
    statement.refill contents first = statement := by
  match statement with
  | .assignment binding =>
      rw [Statement.literals, Statement.values, Expr.literalsOf_singleton] at own
      rw [Statement.refill, Assignment.refill, Expr.refill_own binding.value own]
  | .returnValue value =>
      rw [Statement.literals, Statement.values, Expr.literalsOf_singleton] at own
      rw [Statement.refill, Expr.refill_own value own]
  | .expression value =>
      rw [Statement.literals, Statement.values, Expr.literalsOf_singleton] at own
      rw [Statement.refill, Expr.refill_own value own]
  | .block statements => rw [Statement.refill, Statement.refillAll_own statements own]
  | .conditional condition body alternative =>
      rw [Statement.literals_conditional, gives_append, gives_append, List.length_append,
        ← Nat.add_assoc] at own
      rw [Statement.refill, Condition.refill_own condition own.1.1,
        Statement.refill_own body own.1.2, Alternative.refill_own alternative own.2]

theorem Alternative.refill_own {first : Nat} (alternative : Alternative)
    (own : Gives contents first alternative.literals) :
    alternative.refill contents first = alternative := by
  match alternative with
  | .absent => rfl
  | .otherwise body => rw [Alternative.refill, Statement.refill_own body own]
  | .elseIf condition body alternative =>
      rw [Alternative.literals_elseIf, gives_append, gives_append, List.length_append,
        ← Nat.add_assoc] at own
      rw [Alternative.refill, Condition.refill_own condition own.1.1,
        Statement.refill_own body own.1.2, Alternative.refill_own alternative own.2]

theorem Statement.refillAll_own {first : Nat} (statements : List Statement)
    (own : Gives contents first (Statement.literalsOf statements)) :
    Statement.refillAll contents first statements = statements := by
  match statements with
  | [] => rfl
  | statement :: rest =>
      rw [Statement.literalsOf_cons, gives_append] at own
      rw [Statement.refillAll, Statement.refill_own statement own.1,
        Statement.refillAll_own rest own.2]

end

end

/-! ## Programs -/

/-- The literal texts of globals. -/
def Assignment.literalsOf (bindings : List Assignment) : List String :=
  Expr.literalsOf (bindings.map Assignment.value)

def FunctionDecl.values (function : FunctionDecl) : List Expr :=
  Statement.valuesOf function.body

def FunctionDecl.literals (function : FunctionDecl) : List String :=
  Expr.literalsOf function.values

def FunctionDecl.literalsOf (functions : List FunctionDecl) : List String :=
  Expr.literalsOf (functions.flatMap FunctionDecl.values)

def Program.values (program : Program) : List Expr :=
  program.globals.map Assignment.value ++ program.functions.flatMap FunctionDecl.values

/-- The literal texts of a program: those of the globals, then those of the functions. -/
def Program.literals (program : Program) : List String :=
  Expr.literalsOf program.values

def Program.noTextSpliced (program : Program) : Bool :=
  Expr.noneTextSpliced program.values

def Assignment.refillAll (contents : Nat → String) : Nat → List Assignment → List Assignment
  | _, [] => []
  | first, binding :: rest =>
    binding.refill contents first ::
      Assignment.refillAll contents (first + binding.value.literals.length) rest

def FunctionDecl.refill (contents : Nat → String) (first : Nat) (function : FunctionDecl) :
    FunctionDecl :=
  { function with body := Statement.refillAll contents first function.body }

def FunctionDecl.refillAll (contents : Nat → String) :
    Nat → List FunctionDecl → List FunctionDecl
  | _, [] => []
  | first, function :: rest =>
    function.refill contents first ::
      FunctionDecl.refillAll contents (first + function.literals.length) rest

/-- A program with other contents of its literal texts. -/
def Program.refill (contents : Nat → String) (program : Program) : Program :=
  ⟨Assignment.refillAll contents 0 program.globals,
    FunctionDecl.refillAll contents (Assignment.literalsOf program.globals).length
      program.functions⟩

theorem FunctionDecl.literalsOf_cons (function : FunctionDecl) (rest : List FunctionDecl) :
    FunctionDecl.literalsOf (function :: rest) =
      function.literals ++ FunctionDecl.literalsOf rest :=
  Expr.literalsOf_append _ _

theorem Program.literals_eq (program : Program) :
    program.literals =
      Assignment.literalsOf program.globals ++ FunctionDecl.literalsOf program.functions :=
  Expr.literalsOf_append _ _

section

variable (contents : Nat → String)

theorem Assignment.values_refillAll (first : Nat) (bindings : List Assignment) :
    (Assignment.refillAll contents first bindings).map Assignment.value =
      Expr.refillAll contents first (bindings.map Assignment.value) := by
  induction bindings generalizing first with
  | nil => rfl
  | cons binding rest ih =>
      simp only [Assignment.refillAll, List.map_cons, Expr.refillAll, ih, Assignment.refill]

theorem FunctionDecl.values_refillAll (first : Nat) (functions : List FunctionDecl) :
    (FunctionDecl.refillAll contents first functions).flatMap FunctionDecl.values =
      Expr.refillAll contents first (functions.flatMap FunctionDecl.values) := by
  induction functions generalizing first with
  | nil => rfl
  | cons function rest ih =>
      simp only [FunctionDecl.refillAll, List.flatMap_cons, ih, FunctionDecl.refill,
        FunctionDecl.values, Statement.valuesOf_refillAll, Expr.refillAll_append,
        FunctionDecl.literals]

theorem Program.values_refill (program : Program) :
    (program.refill contents).values = Expr.refillAll contents 0 program.values := by
  simp only [Program.refill, Program.values, Assignment.values_refillAll,
    FunctionDecl.values_refillAll, Expr.refillAll_append, Assignment.literalsOf, Nat.zero_add]

theorem Program.literals_refill (program : Program) :
    (program.refill contents).literals =
      (List.range program.literals.length).map contents := by
  rw [Program.literals, Program.values_refill, Expr.literalsOf_refillAll, List.range_eq_range']
  rfl

theorem Assignment.names_refillAll (first : Nat) (bindings : List Assignment) :
    (Assignment.refillAll contents first bindings).flatMap Assignment.names =
      bindings.flatMap Assignment.names := by
  induction bindings generalizing first with
  | nil => rfl
  | cons binding rest ih =>
      simp only [Assignment.refillAll, List.flatMap_cons, Assignment.names_refill, ih]

theorem FunctionDecl.names_refillAll (first : Nat) (functions : List FunctionDecl) :
    (FunctionDecl.refillAll contents first functions).flatMap FunctionDecl.names =
      functions.flatMap FunctionDecl.names := by
  induction functions generalizing first with
  | nil => rfl
  | cons function rest ih =>
      simp only [FunctionDecl.refillAll, List.flatMap_cons, FunctionDecl.names,
        FunctionDecl.refill, Statement.namesOf_refillAll, ih]

theorem Program.names_refill (program : Program) :
    (program.refill contents).names = program.names := by
  simp only [Program.refill, Program.names, Assignment.names_refillAll,
    FunctionDecl.names_refillAll]

end

theorem Assignment.refillAll_own {contents : Nat → String} {first : Nat}
    (bindings : List Assignment) (own : Gives contents first (Assignment.literalsOf bindings)) :
    Assignment.refillAll contents first bindings = bindings := by
  induction bindings generalizing first with
  | nil => rfl
  | cons binding rest ih =>
      obtain ⟨ownBinding, ownRest⟩ := gives_append.mp own
      rw [Assignment.refillAll, Assignment.refill, Expr.refill_own binding.value ownBinding,
        ih ownRest]

theorem FunctionDecl.refillAll_own {contents : Nat → String} {first : Nat}
    (functions : List FunctionDecl)
    (own : Gives contents first (FunctionDecl.literalsOf functions)) :
    FunctionDecl.refillAll contents first functions = functions := by
  induction functions generalizing first with
  | nil => rfl
  | cons function rest ih =>
      rw [FunctionDecl.literalsOf_cons, gives_append] at own
      rw [FunctionDecl.refillAll, FunctionDecl.refill,
        Statement.refillAll_own function.body own.1, ih own.2]

/-- A program filled with its own contents is the program. -/
theorem Program.refill_own {contents : Nat → String} (program : Program)
    (own : Gives contents 0 program.literals) : program.refill contents = program := by
  rw [Program.literals_eq, gives_append, Nat.zero_add] at own
  rw [Program.refill, Assignment.refillAll_own program.globals own.1,
    FunctionDecl.refillAll_own program.functions own.2]

end StructuredShell
