import StructuredShell.Proofs.Definitions.Calls

/-!
# Which functions exist when they run

A script defines its functions between the commands for the globals and the call of the entry point.
So the entry point finds every function, and a call in the value of a global finds none: the shell
meets it ahead of all definitions. A program is safe from this exactly when no global needs a
function of the program.
-/

set_option autoImplicit false

namespace StructuredShell

open Shell Lowering

/-! ## Lines that run a function -/

/-- Lines that run a function, with the code of given raw environments: a command or the call of the
entry point does so by name, and code does so when a splice in it calls the function. What raw text
itself runs is not looked at. -/
inductive Shell.Line.Runs (names : String → String) (environments : List (List Fragment))
    (function : String) : Line → Prop where
  | call (arguments : List Value) :
      Runs names environments function (.simple (.call (names function) arguments))
  | entryPoint : Runs names environments function (.entryPoint (names function))
  | spliced {line : Line} {fragments : List Fragment} (isEnvironment : fragments ∈ environments)
      (isCalled : function ∈ Fragment.invokedOf fragments)
      (isWritten : .output (rawCode names fragments) ∈ line.operands) :
      Runs names environments function line

/-- Whether each function stands ahead of all lines that run it outside functions. These lines are
the ones at no depth, since bodies are indented. -/
def Program.DefinesBeforeRunning (program : Program) (options : Options) : Prop :=
  let names := (program.compile options).names.shellName
  let script := Lowering.script names options.entryPoint program
  let environments := Expr.environmentsOf (program.globals.map Assignment.value)
  ∀ function ∈ program.functions, ∀ before placed after,
    script.lines = before ++ placed :: after → placed.depth = 0 →
    placed.line.Runs names environments function.name →
    ⟨0, .functionHead (names function.name)⟩ ∈ before

/-! ## Depths -/

mutual

theorem Shell.Command.le_depth (depth : Nat) (command : Command) :
    ∀ placed ∈ command.lines depth, depth ≤ placed.depth := by
  match command with
  | .simple command => simp [Command.lines]
  | .group body =>
      have inner := Command.le_depthOf (depth + 1) body
      simp only [Command.lines, List.forall_mem_cons, List.forall_mem_append]
      exact ⟨Nat.le_refl depth, fun placed isInner => Nat.le_of_succ_le (inner placed isInner),
        by simp⟩
  | .conditional test body alternative =>
      have inner := Command.le_depthOf (depth + 1) body
      simp only [Command.lines, List.forall_mem_cons, List.forall_mem_append]
      exact ⟨Nat.le_refl depth, fun placed isInner => Nat.le_of_succ_le (inner placed isInner),
        Branch.le_depth depth alternative⟩

theorem Shell.Branch.le_depth (depth : Nat) (branch : Branch) :
    ∀ placed ∈ branch.lines depth, depth ≤ placed.depth := by
  match branch with
  | .absent => simp [Branch.lines]
  | .otherwise body =>
      have inner := Command.le_depthOf (depth + 1) body
      simp only [Branch.lines, List.forall_mem_cons, List.forall_mem_append]
      exact ⟨Nat.le_refl depth, fun placed isInner => Nat.le_of_succ_le (inner placed isInner),
        by simp⟩
  | .elseIf test body alternative =>
      have inner := Command.le_depthOf (depth + 1) body
      simp only [Branch.lines, List.forall_mem_cons, List.forall_mem_append]
      exact ⟨Nat.le_refl depth, fun placed isInner => Nat.le_of_succ_le (inner placed isInner),
        Branch.le_depth depth alternative⟩

theorem Shell.Command.le_depthOf (depth : Nat) (commands : List Command) :
    ∀ placed ∈ Command.linesOf depth commands, depth ≤ placed.depth := by
  match commands with
  | [] => simp [Command.linesOf]
  | command :: rest =>
      rw [Command.linesOf]
      exact List.forall_mem_append.mpr
        ⟨Command.le_depth depth command, Command.le_depthOf depth rest⟩

end

/-! ## The section of the functions -/

section

variable {names : String → String} {environments : List (List Fragment)} {function : String}

theorem Shell.Line.not_runs {line : Line} (noOperands : line.operands = [])
    (noNames : line.names = []) : ¬line.Runs names environments function := by
  intro runs
  cases runs with
  | call | entryPoint => cases noNames
  | spliced _ _ isWritten => simp [noOperands] at isWritten

theorem heading_not_runs {text : String} {placed : PlacedLine}
    (isHeading : placed ∈ [⟨0, .blank⟩, ⟨0, .comment text⟩]) :
    ¬placed.line.Runs names environments function := by
  simp only [List.mem_cons, List.not_mem_nil, or_false] at isHeading
  rcases isHeading with rfl | rfl
  · exact Line.not_runs rfl rfl
  · exact Line.not_runs rfl rfl

/-- Outside the bodies, the lines of a function run nothing. -/
theorem Shell.Function.not_runs (definition : Function) :
    ∀ placed ∈ definition.lines, placed.depth = 0 →
      ¬placed.line.Runs names environments function := by
  have inner := Command.le_depthOf 1 definition.body
  simp only [Function.lines, List.forall_mem_cons, List.forall_mem_append]
  refine ⟨fun _ => ?_, fun placed isInner atTop => ?_, fun _ => Line.not_runs rfl rfl, by simp⟩
  · intro runs
    cases runs with
    | spliced _ _ isWritten => cases isWritten
  · have deep := inner placed isInner
    omega

theorem functionLines_not_runs (definitions : List Function) :
    ∀ placed ∈ functionLines definitions, placed.depth = 0 →
      ¬placed.line.Runs names environments function := by
  match definitions with
  | [] => simp [functionLines]
  | [definition] => exact definition.not_runs
  | definition :: second :: rest =>
      rw [functionLines]
      · refine List.forall_mem_append.mpr ⟨definition.not_runs, List.forall_mem_cons.mpr ⟨?_, ?_⟩⟩
        · exact fun _ => Line.not_runs rfl rfl
        · exact functionLines_not_runs (second :: rest)
      · simp

theorem head_mem_functionLines {definitions : List Function} {definition : Function}
    (isDefinition : definition ∈ definitions) :
    ⟨0, .functionHead definition.name⟩ ∈ functionLines definitions := by
  match definitions with
  | [only] =>
      cases List.mem_singleton.mp isDefinition
      exact .head _
  | first :: second :: rest =>
      rw [functionLines]
      · rcases List.mem_cons.mp isDefinition with rfl | isLater
        · exact List.mem_append_left _ (.head _)
        · exact List.mem_append_right _ (.tail _ (head_mem_functionLines isLater))
      · simp

theorem functions_names (names : String → String) (sources : List FunctionDecl) (used : Nat) :
    (functions names sources used).map Function.name =
      sources.map fun source => names source.name := by
  induction sources generalizing used with
  | nil => rfl
  | cons source rest ih => exact congrArg _ (ih _)

theorem head_mem_functionLines_of_source (names : String → String) {sources : List FunctionDecl}
    {source : FunctionDecl} (isSource : source ∈ sources) (used : Nat) :
    ⟨0, .functionHead (names source.name)⟩ ∈ functionLines (functions names sources used) := by
  have isName : names source.name ∈ (functions names sources used).map Function.name := by
    rw [functions_names]
    exact List.mem_map.mpr ⟨source, isSource, rfl⟩
  obtain ⟨definition, isDefinition, same⟩ := List.mem_map.mp isName
  rw [← same]
  exact head_mem_functionLines isDefinition

end

/-! ## The section of the globals -/

/-- The commands for the globals run the functions that the values of the globals call. -/
theorem lines_run_iff {names : String → String} {bindings : List Assignment} {function : String}
    (apart : ∀ other ∈ Expr.callsOf (bindings.map Assignment.value),
      names other = names function → other = function) (used : Nat) :
    (∃ command ∈ (globals names bindings used).lines,
      (Line.simple command).Runs names
        (Expr.environmentsOf (bindings.map Assignment.value)) function) ↔
    function ∈ Expr.invokedOf (bindings.map Assignment.value) := by
  obtain ⟨calls, codes⟩ := globals_runs names bindings used
  rw [Expr.mem_invokedOf_iff]
  constructor
  · rintro ⟨command, isCommand, runs⟩
    cases runs with
    | call arguments =>
        have isCalled : names function ∈ (globals names bindings used).lines.filterMap
            Simple.called? := List.mem_filterMap.mpr ⟨_, isCommand, rfl⟩
        rw [calls] at isCalled
        obtain ⟨other, isOther, same⟩ := List.mem_map.mp isCalled
        exact .inl (apart other isOther same ▸ isOther)
    | spliced isEnvironment isCalled _ => exact .inr ⟨_, isEnvironment, isCalled⟩
  · rintro (isCall | ⟨fragments, isEnvironment, isCalled⟩)
    · have isCalled : names function ∈ (globals names bindings used).lines.filterMap
          Simple.called? := by
        rw [calls]
        exact List.mem_map_of_mem isCall
      obtain ⟨command, isCommand, named⟩ := List.mem_filterMap.mp isCalled
      obtain ⟨arguments, rfl⟩ := Simple.called?_eq_some named
      exact ⟨_, isCommand, .call arguments⟩
    · obtain ⟨command, isCommand, isWritten⟩ :=
        List.mem_flatMap.mp (codes fragments isEnvironment)
      exact ⟨command, isCommand, .spliced isEnvironment isCalled isWritten⟩

/-- The names of a program keep functions apart in the shell. -/
theorem Program.shellName_injective (program : Program) (entryPoint : String)
    {first second : String} (isFirst : first ∈ (program.supply entryPoint).names)
    (isSecond : second ∈ (program.supply entryPoint).names)
    (same : (program.nameTable entryPoint).shellName first =
      (program.nameTable entryPoint).shellName second) : first = second := by
  have hygienic : (program.nameTable entryPoint).Hygienic :=
    NameTable.empty_hygienic.translateAll _
  have found := program.get?_nameTable entryPoint isFirst
  rw [same] at found
  exact hygienic.get?_injective found (program.get?_nameTable entryPoint isSecond)

theorem globals_simple (names : String → String) (bindings : List Assignment) (used : Nat) :
    Command.linesOf 0 (globals names bindings used).commands =
      (globals names bindings used).lines.map fun command => ⟨0, .simple command⟩ := by
  rw [globals_commands, Command.linesOf_simple]
  simp [Run.placed]

/-! ## Scripts -/

section

variable (program : Program) (options : Options) {function : FunctionDecl}

theorem Program.globals_run_iff (isFunction : function ∈ program.functions) :
    let names := (program.compile options).names.shellName
    (∃ command ∈ (Lowering.globals names program.globals 0).lines, (Line.simple command).Runs names
      (Expr.environmentsOf (program.globals.map Assignment.value)) function.name) ↔
    ∃ binding ∈ program.globals, function.name ∈ binding.value.invoked := by
  intro names
  have isName : function.name ∈ (program.supply options.entryPoint).names := by
    refine List.mem_append_left _ (List.mem_append_right _ ?_)
    exact List.mem_flatMap.mpr ⟨function, isFunction, .head _⟩
  have apart : ∀ other ∈ Expr.callsOf (program.globals.map Assignment.value),
      names other = names function.name → other = function.name := by
    intro other isCalled same
    have isOther : other ∈ (program.supply options.entryPoint).names :=
      List.mem_append_left _
        (List.mem_append_left _ (Assignment.callsOf_subset_names _ isCalled))
    exact program.shellName_injective options.entryPoint isOther isName same
  rw [lines_run_iff apart, Expr.invokedOf_eq_flatMap]
  simp

/-- A call in the value of a global runs ahead of every definition. -/
theorem Program.not_definesBeforeRunning (isFunction : function ∈ program.functions)
    {binding : Assignment} (isBinding : binding ∈ program.globals)
    (isInvoked : function.name ∈ binding.value.invoked) :
    ¬program.DefinesBeforeRunning options := by
  intro defines
  obtain ⟨command, isCommand, runs⟩ :=
    (program.globals_run_iff options isFunction).mpr ⟨binding, isBinding, isInvoked⟩
  obtain ⟨earlier, later, isLines⟩ := List.append_of_mem isCommand
  have same := globals_simple (program.compile options).names.shellName program.globals 0
  rw [isLines, List.map_append, List.map_cons] at same
  have isHead := defines function isFunction
    ([⟨0, .blank⟩, ⟨0, .comment "global variables"⟩] ++
      earlier.map fun command => ⟨0, .simple command⟩) ⟨0, .simple command⟩ _
    (by
      rw [Script.lines, script, same]
      simp only [List.append_assoc, List.cons_append]
      rfl) rfl runs
  simp at isHead

end

/-- The functions of a program are defined ahead of what runs them outside functions exactly when no
value of a global calls one of them, be it as an operand or an argument at any depth or in a splice
of raw text. -/
theorem Program.definesBeforeRunning_iff (program : Program) (options : Options) :
    program.DefinesBeforeRunning options ↔
      ∀ binding ∈ program.globals, ∀ function ∈ program.functions,
        function.name ∉ binding.value.invoked := by
  constructor
  · intro defines binding isBinding function isFunction isInvoked
    exact program.not_definesBeforeRunning options isFunction isBinding isInvoked defines
  · intro quiet function isFunction before placed after same atTop runs
    rw [Script.lines] at same
    rcases split_append same with ⟨rest, isFirst, -⟩ | ⟨earlier, rfl, -⟩
    · -- Ahead of the entry point nothing outside functions runs one of them.
      have isMember := isFirst ▸ List.mem_append_right before (.head rest)
      simp only [List.mem_append, or_assoc] at isMember
      rcases isMember with isHeading | isGlobal | isHeading | isInner
      · exact absurd runs (heading_not_runs isHeading)
      · rw [script, globals_simple] at isGlobal
        obtain ⟨command, isCommand, rfl⟩ := List.mem_map.mp isGlobal
        obtain ⟨binding, isBinding, isInvoked⟩ :=
          (program.globals_run_iff options isFunction).mp ⟨command, isCommand, runs⟩
        exact absurd isInvoked (quiet binding isBinding function isFunction)
      · exact absurd runs (heading_not_runs isHeading)
      · exact absurd runs (functionLines_not_runs _ placed isInner atTop)
    · have isHead := head_mem_functionLines_of_source
        (program.compile options).names.shellName isFunction
        (Lowering.globals (program.compile options).names.shellName program.globals 0).used
      exact List.mem_append_left _ (List.mem_append_right _ isHead)

/-- A program whose global is the result of one of its functions. -/
def resultAsGlobal : Program where
  globals := [⟨true, "x", .call "f" []⟩]
  functions := [⟨"f", [], [.returnValue (.number 1)]⟩]

/-- The call stands ahead of the definition. -/
theorem Program.resultAsGlobal_not_defined_first :
    Program.parse "func f() \x7b return 1; \x7d\nvar x = f();" = .ok resultAsGlobal ∧
    (resultAsGlobal.compile {}).script =
      "#!/bin/sh\n\n# global variables\nf\nx=\"$__ret\"\n\n" ++
        "# functions\nf() \x7b\n    __ret=1\n    return\n\x7d\n\n# entry point\nmain \"$@\"\n" ∧
    ¬resultAsGlobal.DefinesBeforeRunning {} := by
  refine ⟨by cbv, by cbv, ?_⟩
  exact resultAsGlobal.not_definesBeforeRunning {} (.head _) (.head _) (.head _)

end StructuredShell
