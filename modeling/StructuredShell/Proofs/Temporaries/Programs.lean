import StructuredShell.Compile
import StructuredShell.Proofs.Names.Hygiene
import StructuredShell.Proofs.Temporaries.Layout
import StructuredShell.Shell.Spelling

/-!
# Temporaries in scripts

Statements, functions and whole programs are lowered to runs in a row, so the script of a program
keeps the discipline of its runs.
-/

set_option autoImplicit false

namespace StructuredShell

open Shell Lowering

variable {supply : Supply}

/-! ## Statements -/

theorem Lowering.emit_commands {α : Type} (lowered : Lowered α) (finishing : α → List Simple) :
    (lowered.emit finishing).commands = (lowered.emit finishing).lines.map .simple := by
  rw [lines_emit]
  rfl

theorem Lowering.assignment_commands (names : String → String) (isLocal : Bool)
    (binding : Assignment) (used : Nat) :
    (assignment names isLocal binding used).commands =
      (assignment names isLocal binding used).lines.map .simple := by
  unfold Lowering.assignment
  split <;> exact emit_commands _ _

theorem assignment_laidOut (names : String → String) (isLocal : Bool) {binding : Assignment}
    (has : supply.Has binding.names [binding.value]) (depth used : Nat) :
    LaidOut names supply {isLocal} used
      (Command.linesOf depth (assignment names isLocal binding used).commands)
      (assignment names isLocal binding used).used := by
  rw [assignment_commands, Command.linesOf_simple]
  exact .run (Set.mem_singleton isLocal) (.assignment has isLocal used) depth

theorem returnValue_laidOut (names : String → String) {value : Expr}
    (has : supply.Has value.names [value]) (depth used : Nat) :
    LaidOut names supply {true} used
      (Command.linesOf depth (returnValue names value used).commands)
      (returnValue names value used).used := by
  have flat : (returnValue names value used).commands =
      (returnValue names value used).lines.map .simple := by
    unfold Lowering.returnValue
    split <;> exact emit_commands _ _
  rw [flat, Command.linesOf_simple]
  exact .run (Set.mem_singleton true) (.returnValue has used) depth

theorem expression_laidOut (names : String → String) {value : Expr}
    (has : supply.Has value.names [value]) (depth used : Nat) :
    LaidOut names supply {true} used
      (Command.linesOf depth (expression names value used).commands)
      (expression names value used).used := by
  have flat : (expression names value used).commands =
      (expression names value used).lines.map .simple := by
    unfold Lowering.expression
    split <;> exact emit_commands _ _
  rw [flat, Command.linesOf_simple]
  exact .run (Set.mem_singleton true) (.expression has used) depth

mutual

theorem contents_laidOut (names : String → String) (statement : Statement)
    (has : supply.Has statement.names statement.values) (depth used : Nat) :
    LaidOut names supply {true} used
      (Command.linesOf depth (contents names statement used).commands)
      (contents names statement used).used := by
  match statement with
  | .assignment binding =>
      rw [contents]
      exact assignment_laidOut names true has depth used
  | .returnValue value =>
      rw [contents]
      exact returnValue_laidOut names has depth used
  | .expression value =>
      rw [contents]
      exact expression_laidOut names has depth used
  | .block statements =>
      rw [contents]
      exact sequence_laidOut names statements has depth used
  | .conditional condition body alternative =>
      rw [Statement.names, Statement.values] at has
      obtain ⟨hasHead, hasAlternative⟩ := has.split
      obtain ⟨hasCondition, hasBody⟩ := hasHead.split
      rw [contents]
      exact .conditional hasCondition (contents_laidOut names body hasBody _ _)
        (branch_laidOut names alternative hasAlternative depth _)

theorem branch_laidOut (names : String → String) (alternative : Alternative)
    (has : supply.Has alternative.names alternative.values) (depth used : Nat) :
    LaidOut names supply {true} used ((branch names alternative used).1.lines depth)
      (branch names alternative used).2 := by
  match alternative with
  | .absent =>
      rw [branch]
      exact (LaidOut.nil used).framed (Set.mem_singleton true) rfl (List.nil_subset _) depth
  | .otherwise body =>
      have inner := (contents_laidOut names body has (depth + 1) used).body
      rw [branch, Branch.lines]
      exact inner.bracketed rfl rfl (List.nil_subset _) rfl depth
  | .elseIf condition body rest =>
      rw [Alternative.names, Alternative.values] at has
      obtain ⟨hasHead, hasRest⟩ := has.split
      obtain ⟨hasCondition, hasBody⟩ := hasHead.split
      have inner (depth : Nat) := contents_laidOut names body hasBody depth
        (test names true false condition used).used
      have other (depth : Nat) := branch_laidOut names rest hasRest depth
        (contents names body (test names true false condition used).used).used
      rw [branch]
      by_cases hoists : condition.hoists = true
      · -- The commands ahead of the test stand in the `else` part, one level deeper.
        have nested := LaidOut.conditional hasCondition (inner (depth + 2)) (other (depth + 1))
        simp only [hoists, if_true, Branch.lines]
        exact nested.bracketed rfl rfl (List.nil_subset _) rfl depth
      · have noSetup : condition.hoists = false := Bool.eq_false_iff.mpr hoists
        rw [if_neg hoists]
        exact (LaidOut.run (Set.mem_singleton true) (.furtherTest hasCondition noSetup used)
          depth).append ((inner (depth + 1)).body.append (other depth))

theorem sequence_laidOut (names : String → String) (statements : List Statement)
    (has : supply.Has (Statement.namesOf statements) (Statement.valuesOf statements))
    (depth used : Nat) :
    LaidOut names supply {true} used
      (Command.linesOf depth (sequence names statements used).commands)
      (sequence names statements used).used := by
  match statements with
  | [] =>
      rw [Lowering.sequence]
      exact .nil used
  | statement :: rest =>
      rw [Statement.namesOf, Statement.valuesOf] at has
      obtain ⟨hasFirst, hasRest⟩ := has.split
      have inner (depth : Nat) := contents_laidOut names statement hasFirst depth used
      have others := sequence_laidOut names rest hasRest depth
        (contents names statement used).used
      rw [Lowering.sequence, Command.linesOf_append]
      refine LaidOut.append ?_ others
      by_cases isBlock : isBlock statement = true
      · simp only [isBlock, if_true, Command.linesOf, Command.lines, List.append_nil]
        exact (inner (depth + 1)).body.bracketed rfl rfl (List.nil_subset _) rfl depth
      · simpa [isBlock] using inner depth

end

/-! ## Programs -/

theorem globals_laidOut (names : String → String) (bindings : List Assignment)
    (has : supply.Has (bindings.flatMap Assignment.names) (bindings.map Assignment.value))
    (used : Nat) :
    LaidOut names supply {false} used (Command.linesOf 0 (globals names bindings used).commands)
      (globals names bindings used).used := by
  induction bindings generalizing used with
  | nil => exact .nil used
  | cons binding rest ih =>
      have together : supply.Has (binding.names ++ rest.flatMap Assignment.names)
          ([binding.value] ++ rest.map Assignment.value) := has
      obtain ⟨hasFirst, hasRest⟩ := together.split
      rw [globals, Command.linesOf_append]
      exact (assignment_laidOut names false hasFirst 0 used).append (ih hasRest _)

theorem parameters_laidOut (names : String → String) (declared : List String)
    (known : declared ⊆ supply.names) (depth index used : Nat) :
    LaidOut names supply {true} used (Command.linesOf depth (parameters names index declared))
      used := by
  induction declared generalizing index with
  | nil => exact .nil used
  | cons parameter rest ih =>
      obtain ⟨isKnown, areKnown⟩ := List.cons_subset.mp known
      refine .framed (Set.mem_singleton true) rfl ?_ depth (ih areKnown (index + 1))
      exact List.cons_subset.mpr ⟨List.mem_map_of_mem isKnown, List.nil_subset _⟩

theorem function_laidOut (names : String → String) (source : FunctionDecl)
    (has : supply.Has source.names source.values) (used : Nat) :
    LaidOut names supply {true} used (function names source used).1.lines
      (function names source used).2 := by
  obtain ⟨isName, areNames⟩ := List.cons_subset.mp has.names
  obtain ⟨areParameters, areInner⟩ := List.append_subset.mp areNames
  have named := parameters_laidOut names source.parameters areParameters 1 1 used
  have inner := sequence_laidOut names source.body ⟨areInner, has.environments⟩ 1 used
  have body := named.append inner
  rw [← Command.linesOf_append] at body
  refine body.body.bracketed rfl rfl ?_ rfl 0
  exact List.cons_subset.mpr ⟨List.mem_map_of_mem isName, List.nil_subset _⟩

theorem functions_laidOut (names : String → String) (sources : List FunctionDecl)
    (has : supply.Has (sources.flatMap FunctionDecl.names) (sources.flatMap FunctionDecl.values))
    (used : Nat) :
    ∃ last, LaidOut names supply {true} used (functionLines (functions names sources used))
      last := by
  induction sources generalizing used with
  | nil => exact ⟨used, .nil used⟩
  | cons source rest ih =>
      rw [List.flatMap_cons, List.flatMap_cons] at has
      obtain ⟨hasFirst, hasRest⟩ := has.split
      have first := function_laidOut names source hasFirst used
      obtain ⟨last, others⟩ := ih hasRest (function names source used).2
      cases rest with
      | nil => exact ⟨_, first⟩
      | cons second further =>
          exact ⟨last, first.append
            (others.framed (Set.mem_singleton true) rfl (List.nil_subset _) 0)⟩

theorem sections_laidOut (names : String → String) (entryPoint : String) (program : Program) :
    ∃ middle last,
      LaidOut names (program.supply entryPoint) {false} 0
        (Command.linesOf 0 (script names entryPoint program).globals) middle ∧
      LaidOut names (program.supply entryPoint) {true} middle
        (functionLines (script names entryPoint program).functions) last := by
  have whole : (program.supply entryPoint).Has (program.names ++ [entryPoint])
      (program.values ++ []) := ⟨fun _ isName => isName, by simp [Program.supply]⟩
  obtain ⟨hasGlobals, hasFunctions⟩ := whole.split.1.split
  have first := globals_laidOut names program.globals hasGlobals 0
  obtain ⟨last, second⟩ := functions_laidOut names program.functions hasFunctions _
  exact ⟨_, last, first, second⟩

/-- The sections of a script with their headings and the call of the entry point. -/
theorem script_laidOut {names : String → String} {script : Script}
    (isEntry : script.entry ∈ supply.names.map names) {middle last : Nat}
    (first : LaidOut names supply {false} 0 (Command.linesOf 0 script.globals) middle)
    (second : LaidOut names supply {true} middle (functionLines script.functions) last) :
    LaidOut names supply Set.univ 0 script.lines last := by
  have frame (line : Line) (isFrame : line.isFrame = true)
      (named : line.names ⊆ supply.names.map names) {used last : Nat} {lines : List PlacedLine}
      (laidOut : LaidOut names supply Set.univ used lines last) :
      LaidOut names supply Set.univ used (⟨0, line⟩ :: lines) last :=
    laidOut.framed (Set.mem_univ true) isFrame named 0
  have heading (text : String) (used : Nat) :
      LaidOut names supply Set.univ used [⟨0, .blank⟩, ⟨0, .comment text⟩] used :=
    frame .blank rfl (List.nil_subset _)
      (frame (.comment text) rfl (List.nil_subset _) (.nil used))
  have entry : LaidOut names supply Set.univ last [⟨0, .entryPoint script.entry⟩] last :=
    frame (.entryPoint script.entry) rfl
      (List.cons_subset.mpr ⟨isEntry, List.nil_subset _⟩) (.nil last)
  have globals := (heading "global variables" 0).append (first.weaken (Set.subset_univ _))
  have functions := (heading "functions" middle).append (second.weaken (Set.subset_univ _))
  have whole := (globals.append functions).append ((heading "entry point" last).append entry)
  simpa [Script.lines] using whole

/-! ## Scripts in order -/

/-- What a script does with its temporaries, and with what calls hand back. -/
structure Shell.Script.InOrder (names : String → String) (supply : Supply) (script : Script) :
    Prop where
  /-- Temporaries are saved in the order of their numbers, from one on. -/
  numbered : savedIn (script.lines.map PlacedLine.line) =
    List.range' 1 (savedIn (script.lines.map PlacedLine.line)).length
  /-- Each is read once. -/
  once : (readIn (script.lines.map PlacedLine.line)).Perm
    (savedIn (script.lines.map PlacedLine.line))
  /-- It is read in the run that saves it, behind the save. Only commands of the same statement
  stand in between, at the same depth. -/
  runs : ∃ runs : List Run, script.lines = runs.flatMap Run.placed ∧
    ∀ run ∈ runs,
      (∃ isLocal used last, StatementRun names supply isLocal used run.lines last) ∧
      (∀ line ∈ run.lines.dropLast, line.isStraight = true) ∧
      ∀ before after flag index value,
        run.lines = before ++ .simple (.save flag index value) :: after → index ∈ readIn after
  globals : ∀ depth flag index value,
    ⟨depth, .simple (.save flag index value)⟩ ∈ Command.linesOf 0 script.globals → flag = false
  functions : ∀ depth flag index value,
    ⟨depth, .simple (.save flag index value)⟩ ∈ functionLines script.functions → flag = true
  /-- What a call hands back is read right after the call. -/
  results : ∀ before placed after, script.lines = before ++ placed :: after →
    .result ∈ placed.line.operands → ∃ earlier name arguments,
      before = earlier ++ [⟨placed.depth, .simple (.call name arguments)⟩]
  /-- Every other text in a line is a name or a raw environment of the program. -/
  sources : ∀ placed ∈ script.lines, placed.line.From names supply

namespace LaidOut

variable {names : String → String} {allowed : Set Bool} {used last : Nat}
  {lines : List PlacedLine}

/-- A temporary is local where the runs are. -/
theorem flags (laidOut : LaidOut names supply allowed used lines last) (depth : Nat) (flag : Bool)
    (index : Nat) (value : Value) (isSave : ⟨depth, .simple (.save flag index value)⟩ ∈ lines) :
    flag ∈ allowed := by
  obtain ⟨runs, laid, rfl⟩ := laidOut
  obtain ⟨run, isRun, isPlaced⟩ := List.mem_flatMap.mp isSave
  obtain ⟨line, isLine, isSame⟩ := List.mem_map.mp isPlaced
  cases isSame
  obtain ⟨isLocal, before, after, isAllowed, statement⟩ := laid.isRun_of_mem run isRun
  obtain ⟨earlier, later, isLines⟩ := List.append_of_mem isLine
  rwa [(statement.disciplined.later _ _ _ _ _ isLines).1]

end LaidOut

theorem script_inOrder (names : String → String) (entryPoint : String) (program : Program) :
    (script names entryPoint program).InOrder names (program.supply entryPoint) := by
  obtain ⟨middle, last, first, second⟩ := sections_laidOut names entryPoint program
  have isEntry : names entryPoint ∈ (program.supply entryPoint).names.map names :=
    List.mem_map_of_mem (by simp [Program.supply])
  obtain ⟨runs, laid, isLines⟩ := script_laidOut isEntry first second
  have lines : (script names entryPoint program).lines.map PlacedLine.line =
      runs.flatMap Run.lines := by
    rw [isLines, List.map_flatMap]
    simp [Run.placed, Function.comp_def]
  constructor
  case numbered => rw [lines, laid.saved.2, List.length_range']
  case once =>
    rw [lines]
    exact laid.once
  case runs =>
    refine ⟨runs, isLines, ?_⟩
    intro run isRun
    obtain ⟨isLocal, used, last, -, statement⟩ := laid.isRun_of_mem run isRun
    refine ⟨⟨isLocal, used, last, statement⟩, statement.straight, ?_⟩
    intro before after flag index value isSave
    simpa using (statement.disciplined.later _ _ _ _ _ isSave).2
  case globals => exact first.flags
  case functions => exact second.flags
  case results =>
    intro before placed after same reads
    exact laid.results (isLines.symm.trans same) reads
  case sources =>
    intro placed isPlaced
    rw [isLines] at isPlaced
    obtain ⟨run, isRun, isLine⟩ := List.mem_flatMap.mp isPlaced
    obtain ⟨line, isMember, rfl⟩ := List.mem_map.mp isLine
    obtain ⟨isLocal, used, last, -, statement⟩ := laid.isRun_of_mem run isRun
    exact statement.isFrom line isMember

theorem Program.get?_nameTable (program : Program) (entryPoint : String) {name : String}
    (isName : name ∈ (program.supply entryPoint).names) :
    (program.nameTable entryPoint).get? name =
      some ((program.nameTable entryPoint).shellName name) := by
  cases found : (program.nameTable entryPoint).get? name with
  | none =>
      have missing := NameTable.get?_eq_none_iff.mp found
      rw [Program.nameTable, NameTable.sources_translateAll, List.mem_eraseDups] at missing
      exact absurd isName missing
  | some shell => simp [NameTable.shellName, found]

/-- The shell names of a program are none of those that generated code keeps for itself. -/
theorem Program.shellName_apart (program : Program) (entryPoint : String) {name : String}
    (isName : name ∈ (program.supply entryPoint).names) :
    (program.nameTable entryPoint).shellName name ≠ resultName ∧
      ∀ index, (program.nameTable entryPoint).shellName name ≠ temporaryName index := by
  have hygienic : (program.nameTable entryPoint).Hygienic :=
    NameTable.empty_hygienic.translateAll _
  have isEntry := NameTable.mem_of_get? (program.get?_nameTable entryPoint isName)
  have definable := hygienic.definable _ (List.mem_map.mpr ⟨_, isEntry, rfl⟩)
  simp only [isDefinable, Bool.and_eq_true, Bool.not_eq_true'] at definable
  exact ⟨NameTable.ne_resultName_of_not_internal definable.2,
    NameTable.ne_temporaryName_of_not_internal definable.2⟩

/-- A compiled program is the text of a script in order. Its names are not those of temporaries, nor
the one under which calls hand back, and no value that is put into raw text reads either: there a
call is code whose output is used. So temporaries and results are read in lines only where the tree
of the script says so. There a temporary is saved and read under one name, which is that of no other
temporary. -/
theorem Program.compile_temporaries_in_order (program : Program) (options : Options) :
    let names := (program.compile options).names.shellName
    let supply := program.supply options.entryPoint
    let script := Lowering.script names options.entryPoint program
    (program.compile options).script = script.text options.shebang options.indent ∧
    script.InOrder names supply ∧
    (∀ name ∈ supply.names, names name ≠ resultName ∧ ∀ index, names name ≠ temporaryName index) ∧
    (∀ value, ∀ operand ∈ (inlineFormula names value).operands,
      operand.temporary? = none ∧ operand ≠ .result) ∧
    Function.Injective temporaryName ∧
    (∀ isLocal index (value : Value), (Simple.save isLocal index value).text =
      (if isLocal then "local " else "") ++ ("__t" ++ index.repr) ++ "=" ++ value.word) ∧
    (∀ index, (Operand.temporary index).expansion = "$__t" ++ index.repr) ∧
    Operand.result.expansion = "$__ret" := by
  intro names supply script
  exact ⟨rfl, script_inOrder names options.entryPoint program,
    fun name isName => program.shellName_apart options.entryPoint isName,
    inlineFormula_apart names, temporaryName_injective, Simple.text_save,
    Operand.expansion_temporary, Operand.expansion_result⟩

end StructuredShell
