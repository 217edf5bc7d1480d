import StructuredShell.Proofs.Conditions.Truth
import StructuredShell.Proofs.ControlFlow.Execution
import StructuredShell.Proofs.ControlFlow.Nesting
import StructuredShell.Proofs.Evaluation.Setup

/-!
# Lowering keeps the order of events

The lines of a lowered function form one nest without empty bodies, and a shell that runs this nest
goes through the events of the source walk, whatever the tests answer. The lines ahead of the test
of an `else if` run only where the walk reaches that test. Where the link becomes `elif` there are
no such lines, since the prediction that chooses between the two forms is exact.
-/

set_option autoImplicit false

namespace StructuredShell

open Shell

namespace Lowering

variable {names : String → String} {outcome : List Event → Test → Bool}

/-! ## Lines that do not return -/

/-- A world in which nothing happens. What lowering puts ahead of a value runs there as anywhere, so
it holds calls and saves only. -/
def stillWorld : World Unit Unit where
  number _ := ()
  text _ := ()
  arith _ _ _ := ()
  read _ _ := ()
  call _ _ _ := ((), ())
  output _ _ := ()

def stillMachine : Machine Unit Unit := ⟨(), fun _ => (), (), []⟩

theorem value_setup_stays (isLocal laterCall : Bool) (source : Expr) (used : Nat) :
    ∀ line ∈ (value names isLocal laterCall source used).setup, line.leaves = false := by
  obtain ⟨_, kept⟩ :=
    value_keeps stillWorld names isLocal laterCall source used stillMachine
  exact stillWorld.stay_of_run? kept.ran

theorem values_setup_stays (isLocal : Bool) (sources : List Expr) (used : Nat) :
    ∀ line ∈ (values names isLocal sources used).setup, line.leaves = false := by
  obtain ⟨_, kept⟩ := values_keeps stillWorld names isLocal sources used stillMachine
  exact stillWorld.stay_of_run? kept.ran

theorem test_setup_stays (isLocal laterCall : Bool) (condition : Condition) (used : Nat) :
    ∀ line ∈ (test names isLocal laterCall condition used).setup, line.leaves = false := by
  obtain ⟨_, kept⟩ := test_keeps stillWorld (⟨fun _ => 0, fun _ => 0⟩ : Comparing Unit Int) names
    isLocal laterCall condition used stillMachine
  exact stillWorld.stay_of_run? kept.ran

/-! ## Statements without bodies -/

theorem execute_emit {α : Type} {lowered : Lowered α} {finishing : α → List Simple}
    (stays : ∀ line ∈ lowered.setup, line.leaves = false)
    (ends : ∀ line ∈ finishing lowered.value, line.leaves = false) (progress : Progress) :
    Command.executeAll outcome (lowered.emit finishing).commands progress =
      progress.ran (lowered.emit finishing).lines := by
  rw [lines_emit]
  apply Command.executeAll_simple
  intro line isLine
  rcases List.mem_append.mp isLine with isSetup | isEnd
  · exact stays line isSetup
  · exact ends line isEnd

theorem execute_emit_leave {α : Type} {lowered : Lowered α} {finishing : α → Simple}
    (stays : ∀ line ∈ lowered.setup, line.leaves = false)
    (ends : (finishing lowered.value).leaves = false) (progress : Progress) :
    let emitted := lowered.emit fun value => [finishing value, .leave]
    Command.executeAll outcome emitted.commands progress = (progress.ran emitted.lines).stop := by
  intro emitted
  have staysAll : ∀ line ∈ lowered.setup ++ [finishing lowered.value], line.leaves = false := by
    intro line isLine
    rcases List.mem_append.mp isLine with isSetup | isEnd
    · exact stays line isSetup
    · rwa [List.mem_singleton.mp isEnd]
  have splits : lowered.setup ++ [finishing lowered.value, .leave] =
      (lowered.setup ++ [finishing lowered.value]) ++ [.leave] := by simp
  rw [lines_emit, splits, Progress.ran_append, ← Command.executeAll_simple staysAll]
  simp only [emitted, Lowered.emit, splits, List.map_append, Command.executeAll_append]
  rfl

theorem execute_assignment (binding : Assignment) (used : Nat) (progress : Progress) :
    Command.executeAll outcome (assignment names true binding used).commands progress =
      progress.ran (assignment names true binding used).lines := by
  unfold assignment
  split
  · exact execute_emit (values_setup_stays true _ used) (by simp [Simple.leaves]) progress
  · exact execute_emit (value_setup_stays true false _ used) (by simp [Simple.leaves]) progress

theorem execute_returnValue (source : Expr) (used : Nat) (progress : Progress) :
    Command.executeAll outcome (returnValue names source used).commands progress =
      (progress.ran (returnValue names source used).lines).stop := by
  unfold returnValue
  split
  · exact execute_emit_leave (values_setup_stays true _ used) rfl progress
  · exact execute_emit_leave (value_setup_stays true false _ used) rfl progress

theorem execute_expression (source : Expr) (used : Nat) (progress : Progress) :
    Command.executeAll outcome (expression names source used).commands progress =
      progress.ran (expression names source used).lines := by
  unfold expression
  split
  · exact execute_emit (values_setup_stays true _ used) (by simp [Simple.leaves]) progress
  · refine execute_emit (by simp [Lowered.ready]) ?_ progress
    intro line isLine
    split at isLine
    · cases isLine
    · rw [List.mem_singleton.mp isLine]
      rfl
  · exact execute_emit (value_setup_stays true false _ used) (by simp [Simple.leaves]) progress

/-! ## Which statements have no lines -/

theorem contents_isEmpty {statement : Statement} (single : isBlock statement = false) (used : Nat) :
    (contents names statement used).commands.isEmpty = statement.isSilent names := by
  match statement with
  | .assignment binding =>
      unfold contents assignment
      split <;> simp [Lowered.emit, Statement.isSilent]
  | .returnValue source =>
      unfold contents returnValue
      split <;> simp [Lowered.emit, Statement.isSilent]
  | .expression source =>
      unfold contents expression
      split
      · simp [Lowered.emit, Statement.isSilent]
      · next fragments =>
        cases empty : (rawCode names fragments).isEmpty <;>
          simp [Lowered.emit, Lowered.ready, Statement.isSilent, empty]
      · next notCall notRaw =>
        have noisy : (Statement.expression source).isSilent names = false := by
          cases source <;> first | rfl | exact absurd rfl (notRaw _)
        simp [Lowered.emit, noisy]
  | .conditional _ _ _ => simp [contents, Statement.isSilent]

theorem isSilent_block {statement : Statement} (block : isBlock statement = true) :
    statement.isSilent names = false := by
  cases statement <;> first | rfl | cases block

theorem sequence_isEmpty (statements : List Statement) (used : Nat) :
    (sequence names statements used).commands.isEmpty =
      statements.all (Statement.isSilent names) := by
  induction statements generalizing used with
  | nil => rfl
  | cons statement rest ih =>
      rw [List.all_cons, ← ih (contents names statement used).used, Bool.eq_iff_iff]
      cases single : isBlock statement with
      | false => simp [sequence, single, ← contents_isEmpty single used]
      | true => simp [sequence, single, isSilent_block single]

theorem execute_bodyOf (commands : List Command) (progress : Progress) :
    Command.executeAll outcome (bodyOf commands) progress =
      progress.filled commands.isEmpty (Command.executeAll outcome commands) := by
  unfold bodyOf Progress.filled
  split <;> rfl

/-! ## Statements with bodies -/

/-- The lines ahead of a test run first, then the test selects. -/
theorem execute_conditional {setup : List Simple} (stays : ∀ line ∈ setup, line.leaves = false)
    (test : Test) (body : List Command) (alternative : Branch) (progress : Progress) :
    Command.executeAll outcome
        (setup.map Command.simple ++ [.conditional test body alternative]) progress =
      (progress.ran setup).choose outcome test (Command.executeAll outcome body)
        (alternative.execute outcome) := by
  rw [Command.executeAll_append, Command.executeAll_simple stays]
  rfl

mutual

/-- A statement other than a block, placed among others. -/
theorem execute_contents (statement : Statement) (single : isBlock statement = false) (used : Nat) :
    Command.executeAll outcome (contents names statement used).commands =
      statement.walk names outcome used := by
  funext progress
  match statement with
  | .assignment binding => exact execute_assignment binding used progress
  | .returnValue source => exact execute_returnValue source used progress
  | .expression source => exact execute_expression source used progress
  | .conditional condition body alternative =>
      simp only [contents, Statement.walk]
      rw [execute_conditional (test_setup_stays true false condition used),
        execute_body body, execute_branch alternative]
termination_by (sizeOf statement, 0)

/-- A statement as the body of a conditional. -/
theorem execute_body (statement : Statement) (used : Nat) :
    Command.executeAll outcome (bodyOf (contents names statement used).commands) =
      .filled (statement.isSilent names) (statement.walk names outcome used) := by
  funext progress
  rw [execute_bodyOf]
  cases single : isBlock statement with
  | false => rw [contents_isEmpty single, execute_contents statement single]
  | true =>
      match statement with
      | .block statements =>
          simp only [contents, sequence_isEmpty, execute_sequence statements]
          rfl
termination_by (sizeOf statement, 1)

theorem execute_branch (alternative : Alternative) (used : Nat) :
    (branch names alternative used).1.execute outcome =
      alternative.walk names outcome used := by
  funext progress
  match alternative with
  | .absent => rfl
  | .otherwise body => exact congrFun (execute_body body used) progress
  | .elseIf condition body alternative =>
      simp only [branch, Alternative.walk]
      cases hoists : condition.hoists with
      | true =>
          simp only [if_true, Branch.execute]
          rw [execute_conditional (test_setup_stays true false condition used),
            execute_body body, execute_branch alternative]
      | false =>
          -- The link becomes `elif`, which drops the lines ahead of its test: there are none.
          have noSetup := (test_setup_eq_nil_iff names true condition used).mpr hoists
          simp only [Bool.false_eq_true, if_false, Branch.execute]
          rw [noSetup, Progress.ran_nil, execute_body body, execute_branch alternative]
termination_by (sizeOf alternative, 0)

theorem execute_sequence (statements : List Statement) (used : Nat) :
    Command.executeAll outcome (sequence names statements used).commands =
      Statement.walkAll names outcome statements used := by
  funext progress
  match statements with
  | [] => rfl
  | statement :: rest =>
      simp only [sequence, Command.executeAll_append, execute_sequence rest, Statement.walkAll]
      congr 1
      cases single : isBlock statement with
      | false =>
          simp only [Bool.false_eq_true, if_false]
          rw [execute_contents statement single]
      | true =>
          have ran := congrFun (execute_body statement used) progress
          rw [isSilent_block single] at ran
          exact ran
termination_by (sizeOf statements, 0)

end

/-! ## No body is empty -/

theorem emit_full {α : Type} (lowered : Lowered α) (finishing : α → List Simple) :
    Command.AllFull (lowered.emit finishing).commands :=
  Command.allFull_simple _

theorem conditional_full (setup : List Simple) {test : Test} {body : List Command}
    {alternative : Branch} (full : Command.AllFull body) (fullEnd : alternative.Full) :
    Command.AllFull
      (setup.map Command.simple ++ [.conditional test (bodyOf body) alternative]) := by
  refine (Command.allFull_simple setup).append ⟨?_, trivial⟩
  exact ⟨bodyOf_ne_nil body, bodyOf_full full, fullEnd⟩

mutual

theorem contents_full (statement : Statement) (used : Nat) :
    Command.AllFull (contents names statement used).commands := by
  match statement with
  | .assignment _ =>
      unfold contents assignment
      split <;> exact emit_full _ _
  | .returnValue _ =>
      unfold contents returnValue
      split <;> exact emit_full _ _
  | .expression _ =>
      unfold contents expression
      split <;> exact emit_full _ _
  | .block statements => exact sequence_full statements used
  | .conditional _ body alternative =>
      exact conditional_full _ (contents_full body _) (branch_full alternative _)

theorem branch_full (alternative : Alternative) (used : Nat) :
    (branch names alternative used).1.Full := by
  match alternative with
  | .absent => trivial
  | .otherwise body => exact ⟨bodyOf_ne_nil _, bodyOf_full (contents_full body used)⟩
  | .elseIf _ body alternative =>
      unfold branch
      split
      · exact ⟨by simp, conditional_full _ (contents_full body _) (branch_full alternative _)⟩
      · exact ⟨bodyOf_ne_nil _, bodyOf_full (contents_full body _), branch_full alternative _⟩

theorem sequence_full (statements : List Statement) (used : Nat) :
    Command.AllFull (sequence names statements used).commands := by
  match statements with
  | [] => trivial
  | statement :: rest =>
      refine Command.AllFull.append ?_ (sequence_full rest _)
      have full := contents_full statement used
      split
      · exact ⟨⟨bodyOf_ne_nil _, bodyOf_full full⟩, trivial⟩
      · exact full

end

/-! ## Functions -/

theorem parameters_eq (index : Nat) (sources : List String) :
    parameters names index sources = (parameterLines names index sources).map Command.simple := by
  induction sources generalizing index with
  | nil => rfl
  | cons parameter rest ih =>
      rw [parameters, ih]
      rfl

theorem function_full (source : FunctionDecl) (used : Nat) :
    Command.AllFull (function names source used).1.body := by
  refine bodyOf_full (Command.AllFull.append ?_ (sequence_full source.body used))
  rw [parameters_eq]
  exact Command.allFull_simple _

theorem execute_function (source : FunctionDecl) (used : Nat) (progress : Progress) :
    Command.executeAll outcome (function names source used).1.body progress =
      source.walk names outcome used progress := by
  have stays : ∀ line ∈ parameterLines names 1 source.parameters, line.leaves = false := by
    intro line isLine
    obtain ⟨_, _, rfl⟩ := List.mem_map.mp isLine
    rfl
  have isEmpty : (parameters names 1 source.parameters ++
        (sequence names source.body used).commands).isEmpty =
      (source.parameters.isEmpty && source.body.all (Statement.isSilent names)) := by
    rw [← sequence_isEmpty source.body used, Bool.eq_iff_iff]
    simp [parameters_eq, parameterLines]
  have executes : Command.executeAll outcome (parameters names 1 source.parameters ++
        (sequence names source.body used).commands) = fun entered =>
      Statement.walkAll names outcome source.body used
        (entered.ran (parameterLines names 1 source.parameters)) := by
    funext entered
    rw [Command.executeAll_append, execute_sequence, parameters_eq, Command.executeAll_simple stays]
  unfold function FunctionDecl.walk
  rw [execute_bodyOf, isEmpty, executes]

/-- The lines of a lowered function form one nest, in which every body has a line, and running the
nest goes through the events of the source. The same holds of every `else if` on its own: what runs
ahead of its test runs after all tests of the chain before it have failed, in either form. The lines
are spelled as the shell asks for them. -/
theorem function_runs_as_source (names : String → String) (source : FunctionDecl)
    (used depth : Nat) :
    let commands := (function names source used).1.body
    let lines := Command.plainLines depth commands
    lines ≠ [] ∧ (∀ line ∈ lines, ∀ text, line.SpelledAs text ↔ text = line.text) ∧
      (∀ nest, Nested lines nest ↔ nest = commands) ∧
      ∀ (outcome : List Event → Test → Bool) (progress : Progress),
        Command.executeAll outcome commands progress = source.walk names outcome used progress ∧
        ∀ (alternative : Alternative) (reached : Nat),
          (branch names alternative reached).1.execute outcome progress =
            alternative.walk names outcome reached progress := by
  intro commands lines
  have full : Command.AllFull commands := function_full source used
  have nested := Command.nested_plainLines depth commands full
  refine ⟨nested.ne_nil (bodyOf_ne_nil _), fun line _ => line.spelledAs_iff,
    Command.nested_plainLines_iff depth full, ?_⟩
  intro outcome progress
  refine ⟨execute_function source used progress, ?_⟩
  intro alternative reached
  exact congrFun (execute_branch alternative reached) progress

end Lowering

end StructuredShell
