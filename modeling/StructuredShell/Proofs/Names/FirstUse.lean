import StructuredShell.Lowering.OnePass
import StructuredShell.Proofs.Names.Hygiene

/-!
# Names in the order of first use

A pass that enters names into the table as it comes to write them enters them in the order in which
a reader of the program meets them, although it writes text in another order. What it writes for a
name is never taken back: it is what the finished table says. So the pass makes the same script as
one that is given the finished table at the start.
-/

set_option autoImplicit false

namespace StructuredShell.OnePass

open Shell

variable {α β : Type}

/-! ## Passes that translate names -/

/-- A pass that translates `names` one after another and no others. Its outcome is made from them by
a spelling, which may be that of any table to which more names lead. -/
structure Translates (pass : Naming α) (names : List String) (outcome : (String → String) → α) :
    Prop where
  table : ∀ table, (pass table).2 = table.translateAll names
  value : ∀ table later,
    (pass table).1 = outcome (table.translateAll (names ++ later)).shellName

namespace Translates

variable {names more : List String} {outcome : (String → String) → α} {pass : Naming α}

theorem pure (value : α) : Translates (pure value) [] fun _ => value where
  table _ := rfl
  value _ _ := rfl

theorem bind {next : α → Naming β} {outcomes : α → (String → String) → β}
    (first : Translates pass names outcome)
    (second : ∀ value, Translates (next value) more (outcomes value)) :
    Translates (pass >>= next) (names ++ more)
      fun spelling => outcomes (outcome spelling) spelling where
  table table := by
    rw [NameTable.translateAll_append, ← first.table]
    exact (second _).table _
  value table later := by
    have isFirst := first.value table (more ++ later)
    rw [← List.append_assoc] at isFirst
    rw [← isFirst, List.append_assoc, NameTable.translateAll_append, ← first.table]
    exact (second _).value _ later

theorem map (first : Translates pass names outcome) (f : α → β) :
    Translates (do return f (← pass)) names fun spelling => f (outcome spelling) where
  table := first.table
  value table later := congrArg f (first.value table later)

end Translates

theorem translate_translates (name : String) :
    Translates (translate name) [name] fun spelling => spelling name where
  table _ := rfl
  value table later := by
    have found := NameTable.get?_translateAll_of_some (table.get?_translate_self name) later
    rw [NameTable.translateAll_append]
    exact (congrArg (Option.getD · name) found).symm

/-! ## Values -/

mutual

theorem inlineFormula_translates (source : Expr) :
    Translates (inlineFormula source) source.names
      fun spelling => Lowering.inlineFormula spelling source := by
  match source with
  | .var name => exact (translate_translates name).map _
  | .number _ => exact .pure _
  | .text _ => exact .pure _
  | .binary operator left right =>
      exact (inlineFormula_translates left).bind fun _ => (inlineFormula_translates right).map _
  | .call name arguments =>
      exact (translate_translates name).bind fun _ => (inlineValues_translates arguments).map _
  | .raw fragments => exact (inlineCode_translates fragments).map _

theorem inlineValues_translates (sources : List Expr) :
    Translates (inlineValues sources) (Expr.namesOf sources)
      fun spelling => Lowering.inlineValues spelling sources := by
  match sources with
  | [] => exact .pure _
  | value :: rest =>
      exact (inlineFormula_translates value).bind fun _ => (inlineValues_translates rest).map _

theorem inlineCode_translates (fragments : List Fragment) :
    Translates (inlineCode fragments) (Fragment.namesOf fragments)
      fun spelling => Lowering.inlineCode spelling fragments := by
  match fragments with
  | [] => exact .pure _
  | .shell text :: rest => exact (inlineCode_translates rest).map _
  | .splice value :: rest =>
      exact (inlineFormula_translates value).bind fun _ => (inlineCode_translates rest).map _

end

theorem rawCode_translates (fragments : List Fragment) :
    Translates (rawCode fragments) (Fragment.namesOf fragments)
      fun spelling => Lowering.rawCode spelling fragments :=
  (inlineCode_translates fragments).map _

theorem settled_translates (isLocal laterCall : Bool) (source : Expr) (used : Nat)
    {lower : Nat → Naming (Lowering.Lowered (Formula Operand))}
    (lowered : (String → String) → Nat → Lowering.Lowered (Formula Operand))
    (translates : Translates (lower used) source.names fun spelling => lowered spelling used) :
    Translates (settled isLocal laterCall source used lower) source.names
      fun spelling => Lowering.settled isLocal laterCall source used (lowered spelling) := by
  cases source with
  | text text => exact (Translates.pure _).map _
  | _ => exact (translates.map _).map _

mutual

theorem formula_translates (isLocal : Bool) (source : Expr) (used : Nat) :
    Translates (formula isLocal source used) source.names
      fun spelling => Lowering.formula spelling isLocal source used := by
  match source with
  | .var name => exact (translate_translates name).map _
  | .number _ => exact .pure _
  | .text _ => exact .pure _
  | .raw fragments => exact (rawCode_translates fragments).map _
  | .call name arguments =>
      exact (translate_translates name).bind fun _ =>
        (values_translates isLocal arguments used).map _
  | .binary operator left right =>
      exact (formula_translates isLocal left used).bind fun _ =>
        (formula_translates isLocal right _).map _

theorem values_translates (isLocal : Bool) (sources : List Expr) (used : Nat) :
    Translates (values isLocal sources used) (Expr.namesOf sources)
      fun spelling => Lowering.values spelling isLocal sources used := by
  match sources with
  | [] => exact .pure _
  | argument :: rest =>
      have first := settled_translates isLocal (rest.any Expr.containsCall) argument used
        (fun spelling => Lowering.formula spelling isLocal argument)
        (formula_translates isLocal argument used)
      exact first.bind fun _ => (values_translates isLocal rest _).map _

end

theorem value_translates (isLocal laterCall : Bool) (source : Expr) (used : Nat) :
    Translates (value isLocal laterCall source used) source.names
      fun spelling => Lowering.value spelling isLocal laterCall source used :=
  settled_translates isLocal laterCall source used
    (fun spelling => Lowering.formula spelling isLocal source)
    (formula_translates isLocal source used)

/-! ## Conditions and statements -/

theorem test_translates (isLocal laterCall : Bool) (condition : Condition) (used : Nat) :
    Translates (test isLocal laterCall condition used) condition.names
      fun spelling => Lowering.test spelling isLocal laterCall condition used := by
  induction condition generalizing laterCall used with
  | constant _ => exact .pure _
  | comparison _ left right =>
      exact (value_translates isLocal _ left used).bind fun _ =>
        (value_translates isLocal laterCall right _).map _
  | conjunction _ _ leftIH rightIH =>
      exact (leftIH _ used).bind fun _ => (rightIH laterCall _).map _
  | disjunction _ _ leftIH rightIH =>
      exact (leftIH _ used).bind fun _ => (rightIH laterCall _).map _

theorem assignment_translates (isLocal : Bool) (binding : Assignment) (used : Nat) :
    Translates (assignment isLocal binding used) binding.names
      fun spelling => Lowering.assignment spelling isLocal binding used := by
  obtain ⟨declaration, target, source⟩ := binding
  have first := translate_translates target
  cases source with
  | call name arguments =>
      exact first.bind fun _ => (translate_translates name).bind fun _ =>
        (values_translates isLocal arguments used).map _
  | _ => exact first.bind fun _ => (value_translates isLocal false _ used).map _

theorem returnValue_translates (source : Expr) (used : Nat) :
    Translates (returnValue source used) source.names
      fun spelling => Lowering.returnValue spelling source used := by
  cases source with
  | call name arguments =>
      exact (translate_translates name).bind fun _ => (values_translates true arguments used).map _
  | _ => exact (value_translates true false _ used).map _

theorem expression_translates (source : Expr) (used : Nat) :
    Translates (expression source used) source.names
      fun spelling => Lowering.expression spelling source used := by
  cases source with
  | call name arguments =>
      exact (translate_translates name).bind fun _ => (values_translates true arguments used).map _
  | raw fragments => exact (rawCode_translates fragments).map _
  | _ => exact (value_translates true false _ used).map _

mutual

theorem contents_translates (statement : Statement) (used : Nat) :
    Translates (contents statement used) statement.names
      fun spelling => Lowering.contents spelling statement used := by
  match statement with
  | .assignment binding => exact assignment_translates true binding used
  | .returnValue value => exact returnValue_translates value used
  | .expression value => exact expression_translates value used
  | .block statements => exact sequence_translates statements used
  | .conditional condition body alternative =>
      rw [Statement.names, List.append_assoc]
      exact (test_translates true false condition used).bind fun _ =>
        (contents_translates body _).bind fun _ => (branch_translates alternative _).map _

theorem branch_translates (alternative : Alternative) (used : Nat) :
    Translates (branch alternative used) alternative.names
      fun spelling => Lowering.branch spelling alternative used := by
  match alternative with
  | .absent => exact .pure _
  | .otherwise body => exact (contents_translates body used).map _
  | .elseIf condition body alternative =>
      rw [Alternative.names, List.append_assoc]
      exact (test_translates true false condition used).bind fun _ =>
        (contents_translates body _).bind fun _ => (branch_translates alternative _).map _

theorem sequence_translates (statements : List Statement) (used : Nat) :
    Translates (sequence statements used) (Statement.namesOf statements)
      fun spelling => Lowering.sequence spelling statements used := by
  match statements with
  | [] => exact .pure _
  | statement :: rest =>
      exact (contents_translates statement used).bind fun _ => (sequence_translates rest _).map _

end

/-! ## Programs -/

theorem globals_translates (bindings : List Assignment) (used : Nat) :
    Translates (globals bindings used) (bindings.flatMap Assignment.names)
      fun spelling => Lowering.globals spelling bindings used := by
  induction bindings generalizing used with
  | nil => exact .pure _
  | cons binding rest ih =>
      exact (assignment_translates false binding used).bind fun _ => (ih _).map _

theorem parameters_translates (index : Nat) (names : List String) :
    Translates (parameters index names) names
      fun spelling => Lowering.parameters spelling index names := by
  induction names generalizing index with
  | nil => exact .pure _
  | cons name rest ih => exact (translate_translates name).bind fun _ => (ih (index + 1)).map _

theorem function_translates (source : FunctionDecl) (used : Nat) :
    Translates (function source used) source.names
      fun spelling => Lowering.function spelling source used :=
  (translate_translates source.name).bind fun _ =>
    (parameters_translates 1 source.parameters).bind fun _ =>
      (sequence_translates source.body used).map _

theorem functions_translates (sources : List FunctionDecl) (used : Nat) :
    Translates (functions sources used) (sources.flatMap FunctionDecl.names)
      fun spelling => Lowering.functions spelling sources used := by
  induction sources generalizing used with
  | nil => exact .pure _
  | cons source rest ih => exact (function_translates source used).bind fun _ => (ih _).map _

theorem script_translates (entryPoint : String) (program : Program) :
    Translates (script entryPoint program) (program.names ++ [entryPoint])
      fun spelling => Lowering.script spelling entryPoint program := by
  rw [Program.names, List.append_assoc]
  exact (globals_translates program.globals 0).bind fun _ =>
    (functions_translates program.functions _).bind fun _ => (translate_translates entryPoint).map _

theorem script_eq (entryPoint : String) (program : Program) :
    script entryPoint program .empty =
      (Lowering.script (program.nameTable entryPoint).shellName entryPoint program,
        program.nameTable entryPoint) := by
  have translates := script_translates entryPoint program
  have isScript := translates.value .empty []
  rw [List.append_nil] at isScript
  exact Prod.ext isScript (translates.table .empty)

end StructuredShell.OnePass

namespace StructuredShell

theorem Program.compileInOnePass_eq (program : Program) (options : Options) :
    program.compileInOnePass options = program.compile options := by
  rw [compileInOnePass, StateT.run, OnePass.script_eq, compile]

/-- The source names of the finished table: the names of the program at their first use, and then
the entry point unless it is one of them. -/
theorem Program.nameTable_sources (program : Program) (entryPoint : String) :
    (program.nameTable entryPoint).entries.map Prod.fst =
      program.names.eraseDups ++ if entryPoint ∈ program.names then [] else [entryPoint] := by
  have step : program.nameTable entryPoint =
      ((NameTable.empty.translateAll program.names).translate entryPoint).2 :=
    NameTable.translateAll_append _ program.names [entryPoint]
  rw [step, NameTable.sources_translate, NameTable.sources_translateAll]
  simp only [List.mem_eraseDups]

/-- What a translation hands out in the middle of a run is what the finished table says. -/
theorem NameTable.get?_translateAll_of_split (table : NameTable) {names before after : List String}
    {name : String} (split : names = before ++ name :: after) :
    (table.translateAll names).get? name =
      some ((table.translateAll before).translate name).1 := by
  rw [split, translateAll_append]
  exact get?_translateAll_of_some (get?_translate_self _ name) after

/-- Names come into the table in the order of first use. A pass that enters each name when it first
has to write it makes the same script and the same table as the pass that is given all names. The
source names of that table are the names of the program in the order in which a reader meets them,
each at its first use, and then the entry point. Wherever in the pass a name is translated, what it
gets is its entry in the finished table, and so the script is that of the finished table. -/
theorem Program.compileInOnePass_enters_in_order (program : Program) (options : Options) :
    let table := (program.compileInOnePass options).names
    program.compileInOnePass options = program.compile options ∧
    table.entries.map Prod.fst =
      program.names.eraseDups ++
        (if options.entryPoint ∈ program.names then [] else [options.entryPoint]) ∧
    (∀ before name after, program.names ++ [options.entryPoint] = before ++ name :: after →
      table.get? name = some ((NameTable.empty.translateAll before).translate name).1) ∧
    (OnePass.script options.entryPoint program .empty).1 =
      Lowering.script table.shellName options.entryPoint program := by
  intro table
  have same := program.compileInOnePass_eq options
  have isTable : table = program.nameTable options.entryPoint := congrArg Compiled.names same
  rw [isTable]
  refine ⟨same, program.nameTable_sources options.entryPoint, ?_, ?_⟩
  · intro before name after split
    exact NameTable.get?_translateAll_of_split .empty split
  · rw [OnePass.script_eq]

end StructuredShell
