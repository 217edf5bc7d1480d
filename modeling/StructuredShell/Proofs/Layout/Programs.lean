import StructuredShell.Proofs.Layout.Depths
import StructuredShell.Proofs.Layout.Lines
import StructuredShell.Proofs.Layout.Restoring

/-!
# Layout options change nothing but the layout

One list of placed lines gives the script of a program for all first lines and all indents. The text
that grows during the walk is the text of these lines, and so is the text that is laid out at the
end of compiling.
-/

set_option autoImplicit false

namespace StructuredShell.Writer

open Shell
open Lowering (Emitted)
open OnePass (Naming)

/-! ## Globals and functions -/

theorem blank_writes (isLocal : Bool) :
    Writes isLocal blank fun _ used => return ⟨[⟨0, .blank⟩], (), used⟩ :=
  fun _ _ _ => rfl

theorem globals_emits (bindings : List Assignment) :
    Emits false (globals bindings) (OnePass.globals bindings) := by
  induction bindings with
  | nil => exact .pure ()
  | cons binding rest ih =>
      refine ((assignment_emits false binding).bind fun _ => ih).congr fun depth used table => ?_
      simp [chained, OnePass.globals, Command.linesOf_append]

theorem parameters_emits (index : Nat) (names : List String) :
    Emits true (parameters index names) fun used => do
      return ⟨← OnePass.parameters index names, used⟩ := by
  induction names generalizing index with
  | nil => exact .pure ()
  | cons name rest ih =>
      refine ((Writes.translate name).bind fun _ => (Writes.place _).bind fun _ =>
        ih (index + 1)).congr fun depth used table => ?_
      simp [chained, OnePass.parameters, Command.linesOf, Command.lines]

/-- A part of the walk between entering a function and leaving it. -/
theorem Writes.inside {body : Writing Unit} {lay : Nat → Nat → Naming (Written Unit)}
    (writes : Writes true body lay) :
    Writes false (do setInFunction true; body; setInFunction false) lay := by
  intro context outside scope
  have within := writes { context with inFunction := true } outside rfl
  have unchanged : { context with inFunction := false } = context := by rw [← scope]
  refine (congrArg (fun after : Unit × Context => setInFunction false after.2) within).trans ?_
  exact congrArg (Context.behind · (lay context.depth context.used context.table)) unchanged

def linesAt (depth : Nat) (function : Function) : List PlacedLine :=
  ⟨depth, .functionHead function.name⟩ ::
    (Command.linesOf (depth + 1) function.body ++ [⟨depth, .closeGroup⟩])

theorem function_writes (source : FunctionDecl) :
    Writes false (function source) fun depth used => do
      let made ← OnePass.function source used
      return ⟨linesAt depth made.1, (), made.2⟩ := by
  have body : Emits true (do parameters 1 source.parameters; sequence source.body) fun used => do
      let given ← OnePass.parameters 1 source.parameters
      let inner ← OnePass.sequence source.body used
      return ⟨given ++ inner.commands, inner.used⟩ := by
    refine ((parameters_emits 1 source.parameters).bind fun _ =>
      sequence_emits source.body).congr fun depth used table => ?_
    simp [chained, Command.linesOf_append]
  refine ((Writes.translate source.name).bind fun shell =>
    (Writes.place (.functionHead shell)).bind fun _ =>
      body.nested.inside.bind fun _ => .place .closeGroup).congr fun depth used table => ?_
  simp [chained, OnePass.function, linesAt]

/-- The functions in a row, and the temporaries in use after them. -/
def functionsFrom : List FunctionDecl → Nat → Naming (List Function × Nat)
  | [], used => return ([], used)
  | source :: rest, used => do
    let first ← OnePass.function source used
    let others ← functionsFrom rest first.2
    return (first.1 :: others.1, others.2)

theorem functionsFrom_functions (sources : List FunctionDecl) (used : Nat) :
    (do return (← functionsFrom sources used).1) = OnePass.functions sources used := by
  induction sources generalizing used with
  | nil => simp [functionsFrom, OnePass.functions]
  | cons source rest ih => simp [functionsFrom, OnePass.functions, ← ih]

def linesOfAll (depth : Nat) : List Function → List PlacedLine
  | [] => []
  | [function] => linesAt depth function
  | function :: rest => linesAt depth function ++ ⟨0, .blank⟩ :: linesOfAll depth rest

theorem functions_writes (sources : List FunctionDecl) :
    Writes false (functions sources) fun depth used => do
      let made ← functionsFrom sources used
      return ⟨linesOfAll depth made.1, (), made.2⟩ := by
  match sources with
  | [] => exact .pure ()
  | [source] =>
      refine (function_writes source).congr fun depth used table => ?_
      simp [functionsFrom, linesOfAll]
  | source :: next :: rest =>
      have others := functions_writes (next :: rest)
      refine ((function_writes source).bind fun _ => (blank_writes false).bind fun _ =>
        others).congr fun depth used table => ?_
      simp [chained, functionsFrom, linesOfAll]

theorem linesOfAll_zero (functions : List Function) :
    linesOfAll 0 functions = functionLines functions := by
  match functions with
  | [] => rfl
  | [_] => rfl
  | function :: next :: rest =>
      rw [linesOfAll, functionLines, linesOfAll_zero (next :: rest)]
      · rfl
      · simp
      · simp

/-! ## Programs -/

theorem sections_writes (source : Program) (entryPoint : String) :
    Writes false (sections source entryPoint) fun depth used => do
      let first ← OnePass.globals source.globals used
      let second ← functionsFrom source.functions first.used
      let entry ← OnePass.translate entryPoint
      return ⟨[⟨0, .blank⟩, ⟨depth, .comment "global variables"⟩] ++
        Command.linesOf depth first.commands ++ [⟨0, .blank⟩, ⟨depth, .comment "functions"⟩] ++
        linesOfAll depth second.1 ++ [⟨0, .blank⟩, ⟨depth, .comment "entry point"⟩,
          ⟨depth, .entryPoint entry⟩], (), second.2⟩ := by
  refine ((blank_writes false).bind fun _ => (Writes.place _).bind fun _ =>
    (globals_emits source.globals).bind fun _ => (blank_writes false).bind fun _ =>
      (Writes.place _).bind fun _ => (functions_writes source.functions).bind fun _ =>
        (blank_writes false).bind fun _ => (Writes.place _).bind fun _ =>
          (Writes.translate entryPoint).bind fun _ => .place _).congr fun depth used table => ?_
  simp [chained]

/-- From the start of a script on, the sections of a program are the lines of its script, and leave
the names of the program behind. -/
theorem sections_start (source : Program) (entryPoint : String) :
    ∃ used, ∀ options out,
      sections source entryPoint ⟨options, .empty, out, 0, 0, false, 0⟩ =
        Context.behind ⟨options, .empty, out, 0, 0, false, 0⟩
          (⟨(Lowering.script (source.nameTable entryPoint).shellName entryPoint source).lines, (),
            used⟩, source.nameTable entryPoint) := by
  let first := OnePass.globals source.globals 0 .empty
  let second := functionsFrom source.functions first.1.used first.2
  let entry := OnePass.translate entryPoint second.2
  -- The walk counts temporaries through the functions, which the lowering does not report.
  have made : OnePass.script entryPoint source .empty =
      (⟨first.1.commands, second.1.1, entry.1⟩, entry.2) := by
    rw [OnePass.script]
    simp only [← functionsFrom_functions]
    rfl
  rw [OnePass.script_eq, Prod.mk.injEq] at made
  refine ⟨second.1.2, fun options out => ?_⟩
  rw [made.1, made.2, Script.lines, ← linesOfAll_zero]
  exact sections_writes source entryPoint ⟨options, .empty, out, 0, 0, false, 0⟩ rfl rfl

end StructuredShell.Writer

namespace StructuredShell

open Shell

theorem Program.write_eq (program : Program) (options : Options) :
    program.write options = (Writer.sections program options.entryPoint
      ⟨options, .empty, options.shebang ++ "\n", 0, 0, false, 0⟩).2 := by
  rw [Program.write, StateT.run, Writer.program, Writer.bind_apply, Writer.bind_apply]
  simp [Writer.options, Writer.line, Writer.Context.start]

/-- Layout options are presentational. The lines of the script of a program are each placed at the
number of bodies around them, and for every first line and every indent the script is that first
line and then these lines, each behind as many indents as its depth says. That holds of the text
that grows during the walk as well as of the compiled script. The names and the number of
temporaries are the same for all first lines and indents. After every statement and every assignment
the walk is at the depth at which it was before, as deep in raw texts, and in a function if it was;
after a function too, outside of it. -/
theorem Program.write_presentational (program : Program) (entryPoint : String) :
    let names := program.nameTable entryPoint
    let lines := (Lowering.script names.shellName entryPoint program).lines
    InBodies 0 lines 0 ∧
    (∃ used, ∀ shebang indent,
      let options : Options := ⟨shebang, indent, entryPoint⟩
      let script := shebang ++ "\n" ++ String.join (lines.map fun placed =>
        String.join (List.replicate placed.depth indent) ++ placed.line.text ++ "\n")
      program.write options = ⟨options, names, script, 0, used, false, 0⟩ ∧
      program.compile options = ⟨script, names⟩) ∧
    ∀ context : Writer.Context,
      (∀ statement, context.SamePlace (Writer.statement statement context).2) ∧
      (∀ binding, context.SamePlace (Writer.assignment binding context).2) ∧
      ∀ function, Writer.Context.SamePlace { context with inFunction := false }
        (Writer.function function context).2 := by
  intro names lines
  obtain ⟨used, sections⟩ := Writer.sections_start program entryPoint
  refine ⟨Script.lines_inBodies _, ⟨used, ?_⟩, fun context => ⟨?_, ?_, ?_⟩⟩
  · intro shebang indent options script
    refine ⟨?_, rfl⟩
    rw [Program.write_eq, sections]
    rfl
  · intro statement
    exact Writer.statement_restores statement context
  · intro binding
    exact Writer.assignment_restores binding context
  · intro function
    exact Writer.function_restores function context

end StructuredShell
