import StructuredShell.Proofs.ControlFlow.Execution
import StructuredShell.Proofs.Evaluation.Setup
import StructuredShell.Proofs.Temporaries.Sources

/-!
# Runs of statements

The lines of a script fall into runs. A run is what one statement needs before the next line of
another statement or of a body: the commands ahead of its value and the command that uses the value,
or the commands ahead of a test and the line with the test. All other lines are runs of their own,
which neither save nor read a temporary.
-/

set_option autoImplicit false

namespace StructuredShell

open Shell Lowering

namespace Shell

/-! ## Runs -/

/-- Lines at one depth. -/
structure Run where
  depth : Nat
  lines : List Line

def Run.placed (run : Run) : List PlacedLine := run.lines.map (PlacedLine.mk run.depth)

/-- A line that computes nothing: it begins or ends something, sets something apart, names a
positional argument, or does nothing. -/
def Line.isFrame : Line → Bool
  | simple (.parameter _ _) | simple .nothing => true
  | simple _ | ifThen _ | elifThen _ => false
  | otherwise | endIf | openGroup | closeGroup => true
  | functionHead _ | comment _ | entryPoint _ | blank => true

/-- A line that only runs a command, so that the line after it is the next one to run. -/
def Line.isStraight : Line → Bool
  | simple _ => true
  | _ => false

end Shell

/-- `StatementRun names supply isLocal used lines last`: lines are the run of one statement, or of
the condition of one, of a program with the given supply, where `used` temporaries are in use before
it and `last` after it. -/
inductive StatementRun (names : String → String) (supply : Supply) :
    Bool → Nat → List Line → Nat → Prop where
  | assignment {binding : Assignment} (has : supply.Has binding.names [binding.value])
      (isLocal : Bool) (used : Nat) :
      StatementRun names supply isLocal used
        ((assignment names isLocal binding used).lines.map .simple)
        (assignment names isLocal binding used).used
  | returnValue {value : Expr} (has : supply.Has value.names [value]) (used : Nat) :
      StatementRun names supply true used ((returnValue names value used).lines.map .simple)
        (returnValue names value used).used
  | expression {value : Expr} (has : supply.Has value.names [value]) (used : Nat) :
      StatementRun names supply true used ((expression names value used).lines.map .simple)
        (expression names value used).used
  | test {condition : Condition} (has : supply.Has condition.names condition.values) (used : Nat) :
      StatementRun names supply true used
        ((test names true false condition used).setup.map .simple ++
          [.ifThen (test names true false condition used).value])
        (test names true false condition used).used
  | furtherTest {condition : Condition} (has : supply.Has condition.names condition.values)
      (noSetup : condition.hoists = false) (used : Nat) :
      StatementRun names supply true used [.elifThen (test names true false condition used).value]
        (test names true false condition used).used
  | frame {line : Line} (isFrame : line.isFrame = true)
      (named : line.names ⊆ supply.names.map names) (isLocal : Bool) (used : Nat) :
      StatementRun names supply isLocal used [line] used

/-! ## Runs are in order -/

@[simp] theorem Lowering.used_emit {α : Type} (lowered : Lowered α) (finishing : α → List Simple) :
    (lowered.emit finishing).used = lowered.used := rfl

section

variable {isLocal : Bool} {used : Nat}

/-- A command that uses a lowered value. -/
theorem Lowering.Lowered.Disciplined.usedBy {lowered : Lowered Value}
    (disciplined : lowered.Disciplined isLocal used Value.operands) (command : Simple)
    (reads : command.operands = lowered.value.operands)
    (plain : (Line.simple command).saved? = none) :
    Shell.Disciplined isLocal used ((lowered.setup ++ [command]).map .simple) [] lowered.used := by
  have line : (Line.simple command).operands = lowered.value.operands := reads
  have used := disciplined.reading (.simple command) (by rw [line]) plain
    fun isRead => absurd (line ▸ isRead) disciplined.settled
  simpa using used

/-- A call with lowered arguments. -/
theorem Lowering.Lowered.Disciplined.calls {lowered : Lowered (List Value)}
    (disciplined : lowered.Disciplined isLocal used fun values => values.flatMap Value.operands)
    (name : String) :
    Shell.Disciplined isLocal used
      ((lowered.setup ++ [Simple.call name lowered.value]).map .simple) [] lowered.used := by
  have called := disciplined.reading (.simple (.call name lowered.value)) rfl rfl
    fun isRead => absurd isRead disciplined.settled
  simpa using called

end

theorem assignment_disciplined (names : String → String) (isLocal : Bool)
    (binding : Assignment) (used : Nat) :
    Disciplined isLocal used ((assignment names isLocal binding used).lines.map .simple) []
      (assignment names isLocal binding used).used := by
  unfold Lowering.assignment
  split
  · next name arguments _ =>
      have called := (values_disciplined names isLocal arguments used).calls (names name)
      have assigned := called.reading (.simple (.assign (binding.declaration && isLocal)
        (names binding.target) resultValue)) rfl rfl
        fun _ => ⟨(values names isLocal arguments used).setup.map .simple, names name,
          (values names isLocal arguments used).value, by simp⟩
      simpa using assigned
  · rw [lines_emit]
    exact (value_disciplined names isLocal false _ used).usedBy _ rfl rfl

theorem returnValue_disciplined (names : String → String) (value : Expr) (used : Nat) :
    Disciplined true used ((returnValue names value used).lines.map .simple) []
      (returnValue names value used).used := by
  unfold Lowering.returnValue
  split
  · next name arguments =>
      have called := (values_disciplined names true arguments used).calls (names name)
      have left := called.silent (.simple .leave) rfl rfl
      simpa using left
  · have handed := (value_disciplined names true false value used).usedBy (.handBack _) rfl rfl
    have left := handed.silent (.simple .leave) rfl rfl
    simpa using left

theorem expression_disciplined (names : String → String) (value : Expr) (used : Nat) :
    Disciplined true used ((expression names value used).lines.map .simple) []
      (expression names value used).used := by
  unfold Lowering.expression
  split
  · next name arguments =>
      rw [lines_emit]
      exact (values_disciplined names true arguments used).calls (names name)
  · next fragments =>
      have nothing : Disciplined true used [] [] used := .ready rfl List.not_mem_nil used
      have code := nothing.silent (.simple (.verbatim (rawCode names fragments))) rfl rfl
      rw [lines_emit]
      by_cases isEmpty : (rawCode names fragments).isEmpty = true
      · simpa [Lowered.ready, isEmpty] using nothing
      · simpa [Lowered.ready, isEmpty] using code
  · rw [lines_emit]
    exact (value_disciplined names true false value used).usedBy _ rfl rfl

/-! ## Runs take their texts from the program -/

section

variable {names : String → String} {supply : Supply}

theorem assignment_from {binding : Assignment}
    (has : supply.Has binding.names [binding.value]) (isLocal : Bool) (used : Nat) :
    ∀ command ∈ (assignment names isLocal binding used).lines,
      (Line.simple command).From names supply := by
  obtain ⟨isTarget, areNames⟩ := List.cons_subset.mp has.names
  have hasValue : supply.Has binding.value.names [binding.value] := ⟨areNames, has.environments⟩
  have target : [names binding.target] ⊆ supply.names.map names :=
    List.cons_subset.mpr ⟨List.mem_map_of_mem isTarget, List.nil_subset _⟩
  unfold Lowering.assignment
  split
  · next name arguments isCall =>
      rw [isCall] at hasValue
      obtain ⟨isName, hasArguments⟩ := hasValue.arguments
      have lowered := values_from names isLocal arguments hasArguments used
      have assigned : (Line.simple (.assign (binding.declaration && isLocal)
          (names binding.target) resultValue)).From names supply :=
        .of_operands target rfl (by simp [Line.operands, Simple.operands, resultValue,
          Value.operands, Formula.operands, Operand.From])
      rw [lines_emit]
      exact List.forall_mem_append.mpr
        ⟨lowered.setup, by simpa using ⟨lowered.call isName, assigned⟩⟩
  · have lowered := value_from names isLocal false hasValue used
    have assigned : (Line.simple (.assign (binding.declaration && isLocal) (names binding.target)
        (value names isLocal false binding.value used).value)).From names supply :=
      .of_operands target rfl lowered.value
    rw [lines_emit]
    exact List.forall_mem_append.mpr ⟨lowered.setup, by simpa using assigned⟩

theorem returnValue_from {value : Expr} (has : supply.Has value.names [value]) (used : Nat) :
    ∀ command ∈ (returnValue names value used).lines,
      (Line.simple command).From names supply := by
  have left : (Line.simple .leave).From names supply :=
    .of_operands (List.nil_subset _) rfl (List.forall_mem_nil _)
  unfold Lowering.returnValue
  split
  · next name arguments =>
      obtain ⟨isName, hasArguments⟩ := has.arguments
      have lowered := values_from names true arguments hasArguments used
      rw [lines_emit]
      exact List.forall_mem_append.mpr
        ⟨lowered.setup, by simpa using ⟨lowered.call isName, left⟩⟩
  · have lowered := value_from names true false has used
    have handed : (Line.simple (.handBack
        (Lowering.value names true false value used).value)).From names supply :=
      .of_operands (List.nil_subset _) rfl lowered.value
    rw [lines_emit]
    exact List.forall_mem_append.mpr ⟨lowered.setup, by simpa using ⟨handed, left⟩⟩

theorem expression_from {value : Expr} (has : supply.Has value.names [value]) (used : Nat) :
    ∀ command ∈ (expression names value used).lines,
      (Line.simple command).From names supply := by
  unfold Lowering.expression
  split
  · next name arguments =>
      obtain ⟨isName, hasArguments⟩ := has.arguments
      have lowered := values_from names true arguments hasArguments used
      rw [lines_emit]
      exact List.forall_mem_append.mpr ⟨lowered.setup, by simpa using lowered.call isName⟩
  · next fragments =>
      have isEnvironment : fragments ∈ supply.environments := has.environments (.head _)
      have code : (Line.simple (.verbatim (rawCode names fragments))).From names supply := by
        refine ⟨List.nil_subset _, ?_, List.forall_mem_nil _⟩
        intro code isCode
        cases isCode
        exact List.mem_map_of_mem isEnvironment
      rw [lines_emit]
      by_cases isEmpty : (rawCode names fragments).isEmpty = true
      · simp [Lowered.ready, isEmpty]
      · simpa [Lowered.ready, isEmpty] using code
  · have lowered := value_from names true false has used
    have evaluated : (Line.simple (.evaluate
        (Lowering.value names true false value used).value)).From names supply :=
      .of_operands (List.nil_subset _) rfl lowered.value
    rw [lines_emit]
    exact List.forall_mem_append.mpr ⟨lowered.setup, by simpa using evaluated⟩

end

theorem Shell.Line.isFrame_apart {line : Line} (isFrame : line.isFrame = true) :
    line.operands = [] ∧ line.saved? = none ∧ line.code? = none := by
  cases line with
  | simple command =>
      cases command with
      | parameter | nothing => exact ⟨rfl, rfl, rfl⟩
      | _ => cases isFrame
  | ifThen test | elifThen test => cases isFrame
  | _ => exact ⟨rfl, rfl, rfl⟩

namespace StatementRun

variable {names : String → String} {supply : Supply} {isLocal : Bool} {used last : Nat}
  {lines : List Line}

theorem disciplined (run : StatementRun names supply isLocal used lines last) :
    Disciplined isLocal used lines [] last := by
  cases run with
  | assignment has => exact assignment_disciplined names isLocal _ used
  | returnValue has => exact returnValue_disciplined names _ used
  | expression has => exact expression_disciplined names _ used
  | @test condition has =>
      have tested := test_disciplined names true false condition used
      exact tested.reading (.ifThen _) rfl rfl fun reads => absurd reads tested.settled
  | @furtherTest condition has noSetup =>
      have tested := test_disciplined names true false condition used
      have alone := (test_setup_eq_nil_iff names true condition used).mpr noSetup
      have read := tested.reading (.elifThen _) rfl rfl fun reads => absurd reads tested.settled
      rwa [alone] at read
  | frame isFrame named =>
      obtain ⟨noOperands, noSave, -⟩ := Line.isFrame_apart isFrame
      have nothing : Disciplined isLocal used [] [] used := .ready rfl List.not_mem_nil used
      exact nothing.silent _ noOperands noSave

/-- In a run no line stands between a temporary and its reader but commands. -/
theorem straight (run : StatementRun names supply isLocal used lines last) :
    ∀ line ∈ lines.dropLast, line.isStraight = true := by
  have commands (simples : List Simple) : ∀ line ∈ simples.map Line.simple,
      line.isStraight = true := by
    intro line isLine
    obtain ⟨command, -, rfl⟩ := List.mem_map.mp isLine
    rfl
  intro line isLine
  cases run with
  | assignment has | returnValue has | expression has =>
      exact commands _ line (List.mem_of_mem_dropLast isLine)
  | test has =>
      rw [List.dropLast_concat] at isLine
      exact commands _ line isLine
  | furtherTest | frame => cases isLine

/-- A run takes its names and its raw code from the program. -/
theorem isFrom (run : StatementRun names supply isLocal used lines last) :
    ∀ line ∈ lines, line.From names supply := by
  cases run with
  | assignment has => exact List.forall_mem_map.mpr (assignment_from has isLocal used)
  | returnValue has => exact List.forall_mem_map.mpr (returnValue_from has used)
  | expression has => exact List.forall_mem_map.mpr (expression_from has used)
  | test has =>
      have tested := test_from names true false has used
      have line : (Line.ifThen _).From names supply :=
        .of_operands (List.nil_subset _) rfl tested.value
      exact List.forall_mem_append.mpr
        ⟨List.forall_mem_map.mpr tested.setup, by simpa using line⟩
  | furtherTest has =>
      have tested := test_from names true false has used
      have line : (Line.elifThen _).From names supply :=
        .of_operands (List.nil_subset _) rfl tested.value
      simpa using line
  | @frame line isFrame named =>
      obtain ⟨noOperands, -, noCode⟩ := Line.isFrame_apart isFrame
      have isFrom : line.From names supply := .of_operands named noCode (by simp [noOperands])
      simpa using isFrom

end StatementRun

end StructuredShell
