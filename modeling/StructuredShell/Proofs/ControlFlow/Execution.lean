import StructuredShell.Lowering.Program
import StructuredShell.Proofs.Evaluation.Meaning

/-!
# The order of events

What happens when lowered statements run: lines that do something, and tests. Two walks tell the
order of these events. One runs commands as a shell does. The other follows the source statements:
for a conditional the lines ahead of its test, then the test, then the branch that the test selects,
until a return. The outcome of a test may depend on all events before it, so nothing is assumed
about the tests.
-/

set_option autoImplicit false

namespace StructuredShell

open Shell

/-! ## Events -/

inductive Event where
  | ran (line : Simple)
  | tested (test : Test) (outcome : Bool)

/-- How far a run has come: the events so far, and whether it has returned. -/
structure Progress where
  events : List Event
  stopped : Bool

namespace Progress

def ran (progress : Progress) (lines : List Simple) : Progress :=
  if progress.stopped then progress
  else { progress with events := progress.events ++ lines.map .ran }

def stop (progress : Progress) : Progress := { progress with stopped := true }

/-- Go on as a test decides. -/
def choose (outcome : List Event → Test → Bool) (test : Test) (yes no : Progress → Progress)
    (progress : Progress) : Progress :=
  if progress.stopped then progress
  else if outcome progress.events test then yes ⟨progress.events ++ [.tested test true], false⟩
  else no ⟨progress.events ++ [.tested test false], false⟩

theorem ran_nil (progress : Progress) : progress.ran [] = progress := by
  simp [ran]

theorem ran_append (progress : Progress) (first second : List Simple) :
    progress.ran (first ++ second) = (progress.ran first).ran second := by
  unfold ran
  split <;> simp_all

end Progress

/-! ## Commands -/

namespace Shell

def Simple.leaves : Simple → Bool
  | .leave => true
  | _ => false

def Simple.execute (line : Simple) (progress : Progress) : Progress :=
  if line.leaves then (progress.ran [line]).stop else progress.ran [line]

mutual

def Command.execute (outcome : List Event → Test → Bool) : Command → Progress → Progress
  | .simple line => line.execute
  | .group body => Command.executeAll outcome body
  | .conditional test body alternative =>
    .choose outcome test (Command.executeAll outcome body) (alternative.execute outcome)

def Branch.execute (outcome : List Event → Test → Bool) : Branch → Progress → Progress
  | .absent => id
  | .otherwise body => Command.executeAll outcome body
  | .elseIf test body alternative =>
    .choose outcome test (Command.executeAll outcome body) (alternative.execute outcome)

def Command.executeAll (outcome : List Event → Test → Bool) : List Command → Progress → Progress
  | [] => id
  | command :: rest => Command.executeAll outcome rest ∘ command.execute outcome

end

variable {outcome : List Event → Test → Bool}

theorem Command.executeAll_append (first second : List Command) (progress : Progress) :
    Command.executeAll outcome (first ++ second) progress =
      Command.executeAll outcome second (Command.executeAll outcome first progress) := by
  induction first generalizing progress with
  | nil => rfl
  | cons command rest ih => exact ih _

theorem Command.executeAll_simple {lines : List Simple}
    (stay : ∀ line ∈ lines, line.leaves = false) (progress : Progress) :
    Command.executeAll outcome (lines.map Command.simple) progress = progress.ran lines := by
  induction lines generalizing progress with
  | nil => exact progress.ran_nil.symm
  | cons line rest ih =>
      have stays := stay line (.head _)
      rw [← List.singleton_append, progress.ran_append]
      refine Eq.trans ?_ (ih (fun line isLater => stay line (.tail _ isLater)) _)
      simp [Command.executeAll, Command.execute, Simple.execute, stays]

/-- Lines that run as a straight line of calls and saves do not return. -/
theorem World.stay_of_run? {V S : Type} (world : World V S) {machine final : Machine V S}
    {lines : List Simple} (ran : world.run? machine lines = some final) :
    ∀ line ∈ lines, line.leaves = false := by
  induction lines generalizing machine with
  | nil => simp
  | cons command rest ih =>
      intro line isLine
      rw [World.run?] at ran
      cases stepped : world.step? machine command with
      | none => simp [stepped] at ran
      | some next =>
          rw [stepped] at ran
          rcases List.mem_cons.mp isLine with rfl | isLater
          · cases line <;> first | rfl | cases stepped
          · exact ih ran line isLater

end Shell

/-! ## Statements -/

namespace Lowering

/-- The lines of a statement without bodies. -/
def Emitted.lines (emitted : Emitted) : List Simple :=
  emitted.commands.filterMap fun
    | .simple line => some line
    | _ => none

@[simp] theorem lines_emit {α : Type} (lowered : Lowered α) (finishing : α → List Simple) :
    (lowered.emit finishing).lines = lowered.setup ++ finishing lowered.value := by
  rw [Emitted.lines, Lowered.emit, List.filterMap_map]
  exact List.filterMap_some

end Lowering

open Lowering

/-- Whether a statement has no lines: it is raw text of which nothing is left. -/
def Statement.isSilent (names : String → String) : Statement → Bool
  | .expression (.raw fragments) => (rawCode names fragments).isEmpty
  | _ => false

/-- A body in which nothing stands does the command that does nothing. -/
def Progress.filled (silent : Bool) (walk : Progress → Progress) (progress : Progress) :
    Progress :=
  if silent then progress.ran [.nothing] else walk progress

mutual

/-- Follow a statement whose lines use temporaries from a given number on. -/
def Statement.walk (names : String → String) (outcome : List Event → Test → Bool) :
    Statement → Nat → Progress → Progress
  | .assignment binding, used, progress =>
    progress.ran (assignment names true binding used).lines
  | .returnValue value, used, progress => (progress.ran (returnValue names value used).lines).stop
  | .expression value, used, progress => progress.ran (expression names value used).lines
  | .block statements, used, progress =>
    progress.filled (statements.all (Statement.isSilent names))
      (Statement.walkAll names outcome statements used)
  | .conditional condition body alternative, used, progress =>
    let head := test names true false condition used
    (progress.ran head.setup).choose outcome head.value
      (.filled (body.isSilent names) (body.walk names outcome head.used))
      (alternative.walk names outcome (contents names body head.used).used)

def Alternative.walk (names : String → String) (outcome : List Event → Test → Bool) :
    Alternative → Nat → Progress → Progress
  | .absent, _, progress => progress
  | .otherwise body, used, progress =>
    progress.filled (body.isSilent names) (body.walk names outcome used)
  | .elseIf condition body alternative, used, progress =>
    let head := test names true false condition used
    (progress.ran head.setup).choose outcome head.value
      (.filled (body.isSilent names) (body.walk names outcome head.used))
      (alternative.walk names outcome (contents names body head.used).used)

def Statement.walkAll (names : String → String) (outcome : List Event → Test → Bool) :
    List Statement → Nat → Progress → Progress
  | [], _, progress => progress
  | statement :: rest, used, progress =>
    Statement.walkAll names outcome rest (contents names statement used).used
      (statement.walk names outcome used progress)

end

/-- The lines that name the positional arguments of a function. -/
def parameterLines (names : String → String) (index : Nat) (parameters : List String) :
    List Simple :=
  (parameters.zipIdx index).map fun (parameter, position) => .parameter (names parameter) position

/-- Follow a function from its entry: its parameters first, then its statements. -/
def FunctionDecl.walk (names : String → String) (outcome : List Event → Test → Bool)
    (source : FunctionDecl) (used : Nat) (progress : Progress) : Progress :=
  progress.filled (source.parameters.isEmpty && source.body.all (Statement.isSilent names))
    fun entered => Statement.walkAll names outcome source.body used
      (entered.ran (parameterLines names 1 source.parameters))

end StructuredShell
