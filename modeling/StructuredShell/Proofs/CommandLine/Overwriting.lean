import StructuredShell.Proofs.CommandLine.Runs
import StructuredShell.Proofs.CommandLine.Spellings

/-!
# Output paths that name the input

A run refuses to write when its output path is the same path as its input. Spellings that lead to
one file are the same path but for a dot in front, so this is when the refusal fails: given the
input with the dot and the output without it, or the other way round, a run writes over its input.
-/

set_option autoImplicit false

namespace StructuredShell.CommandLine

/-! ## Runs -/

variable {invocation : Invocation} {store : FileStore} {source : String} {program : Program}

/-- A run that refuses to write over its input: it fails, says so, and touches no file. -/
structure Refuses (invocation : Invocation) (store : FileStore) (ran : Report × FileStore) :
    Prop where
  fails : Fails store ran
  message : ∃ stages, ran.1.stderr =
    stages ++ note ("output path " ++ invocation.outputPath ++ " is the input file")

/-- A run that is to write a script to the path of its input leaves what the input holds and
refuses, whatever the spelling of the path, if it comes so far as to have a script. -/
structure SparesInput (invocation : Invocation) (store : FileStore) (ran : Report × FileStore) :
    Prop where
  unchanged (place : Location) :
    store.locate invocation.input = .ok place → ran.2.file? place = store.file? place
  refuses (source : String) (program : Program) :
    store.read invocation.input = .ok source → Program.parse source = .ok program →
      Refuses invocation store ran

theorem getLast?_append_text {text : String} {c : Char} (ends : text.toList.getLast? = some c)
    (before : String) : (before ++ text).toList.getLast? = some c := by
  rw [String.toList_append, List.getLast?_append, ends, Option.some_or]

theorem getLast?_of_note_eq {stages others first second : String} {c d : Char}
    (same : stages ++ note first = others ++ note second)
    (firstEnd : first.toList.getLast? = some c) (secondEnd : second.toList.getLast? = some d) :
    c = d := by
  obtain ⟨firstInit, firstSplit⟩ := List.getLast?_eq_some_iff.mp firstEnd
  obtain ⟨secondInit, secondSplit⟩ := List.getLast?_eq_some_iff.mp secondEnd
  have reversed := congrArg (fun text => text.toList.reverse) same
  simp only [note, String.toList_append, firstSplit, secondSplit, List.reverse_append] at reversed
  exact (by simpa using reversed : c = d ∧ _).1

theorem Invocation.plan_of_parsed (shell : invocation.emit = .shell)
    (parsed : Program.parse source = .ok program) :
    ∃ messages, invocation.plan (.ok source) = invocation.planShell messages program := by
  rw [Invocation.plan, Invocation.planSource]
  cases lexed : Lexer.tokens source with
  | error error => cases parsed.symm.trans (parse_of_lexical lexed)
  | ok tokens =>
      have parse := parse_of_tokens lexed
      rw [parsed] at parse
      simp only [Invocation.planTokens, shell]
      cases found : (TokenStream.ofTokens tokens).program.1 with
      | error error => simp [found, Except.mapError] at parse
      | ok other =>
          obtain rfl : program = other := by simpa [found, Except.mapError] using parse
          exact ⟨_, rfl⟩

theorem Invocation.run_of_same (shell : invocation.emit = .shell)
    (fits : invocation.indentFits = true)
    (same : Path.same invocation.outputPath invocation.input = true)
    (read : store.read invocation.input = .ok source)
    (parsed : Program.parse source = .ok program) :
    Refuses invocation store (invocation.run store) := by
  obtain ⟨messages, planned⟩ := plan_of_parsed shell parsed
  rw [Invocation.run, read, planned]
  simp only [Invocation.planShell, Invocation.planScript, fits, same, if_true, Plan.carryOut]
  exact ⟨failure_fails .., _, rfl⟩

theorem getLast?_message (fault : SystemFault) :
    fault.message.toList.getLast? = some ')' := by
  simp only [SystemFault.message, String.toList_append, List.getLast?_append]
  rfl

/-- A run whose paths are not the same does not refuse: it comes to an end by its write, and the
message about a write that failed is a different one. -/
theorem Invocation.not_refuses_of_apart (shell : invocation.emit = .shell)
    (fits : invocation.indentFits = true)
    (apart : Path.same invocation.outputPath invocation.input = false)
    (read : store.read invocation.input = .ok source)
    (parsed : Program.parse source = .ok program) :
    ¬Refuses invocation store (invocation.run store) := by
  rintro ⟨fails, others, refused⟩
  obtain ⟨messages, ran⟩ := run_of_parsed read shell fits apart parsed
  rw [ran] at fails refused
  cases result : (store.write invocation.outputPath
      (program.compile invocation.options).script).result with
  | ok =>
      have failed := fails.status_eq
      simp [settle, result, Except.mapError, afterWrite, success] at failed
  | error fault =>
      obtain ⟨-, -, stages, failed⟩ := settle_unwritten messages result
      have ends := getLast?_of_note_eq (c := 'e') (d := ')') (refused.symm.trans failed)
        (getLast?_append_text rfl _) (getLast?_append_text (getLast?_message fault) _)
      exact absurd ends (by decide)

/-- Neither does a run that is broken off. -/
theorem Invocation.not_refuses_of_overflowing (shell : invocation.emit = .shell)
    (overflows : invocation.indentFits = false)
    (read : store.read invocation.input = .ok source)
    (parsed : Program.parse source = .ok program) :
    ¬Refuses invocation store (invocation.run store) := by
  rintro ⟨fails, -⟩
  obtain ⟨messages, planned⟩ := plan_of_parsed shell parsed
  rw [Invocation.run, read, planned] at fails
  have failed := fails.status_eq
  simp [Invocation.planShell, overflows, Plan.carryOut, panicked] at failed

/-- A script that is written goes to where the input lies, under another spelling. -/
theorem Invocation.run_of_writable {place : Location} (shell : invocation.emit = .shell)
    (fits : invocation.indentFits = true)
    (alike : Path.SameWithoutDots invocation.outputPath invocation.input)
    (different : Path.same invocation.outputPath invocation.input = false)
    (read : store.read invocation.input = .ok source)
    (parsed : Program.parse source = .ok program)
    (target : store.target invocation.outputPath = .ok place) :
    store.locate invocation.input = .ok place ∧
      (invocation.run store).2 =
        (store.writeAt place (program.compile invocation.options).script).store ∧
      (store.isDevice place = false →
        (store.writeAt place (program.compile invocation.options).script).result = .ok () →
          (invocation.run store).1.status = 0 ∧
          (invocation.run store).2.file? place =
            some (.text (program.compile invocation.options).script)) := by
  obtain ⟨messages, ran⟩ := run_of_parsed read shell fits different parsed
  rw [FileStore.write_of_target target] at ran
  refine ⟨store.locate_eq_of_target alike read target, by rw [ran, settle], ?_⟩
  intro isFile succeeds
  obtain ⟨status, -, left⟩ :=
    settle_written messages (store.writeAt_writes place _) succeeds
  rw [if_neg (by simp [isFile])] at left
  rw [ran]
  exact ⟨status, left⟩

/-- A run that is stopped by something else than its refusal ends differently, so only a run that
compares its paths as the same one, and comes so far as to compare them, can spare its input. -/
theorem Invocation.same_of_sparesInput (shell : invocation.emit = .shell)
    (spares : SparesInput invocation store (invocation.run store))
    (read : store.read invocation.input = .ok source)
    (parsed : Program.parse source = .ok program) :
    invocation.indentFits = true ∧
      Path.same invocation.outputPath invocation.input = true := by
  have refuses := spares.refuses source program read parsed
  have fits : invocation.indentFits = true := by
    by_contra overflows
    exact Invocation.not_refuses_of_overflowing shell (Bool.eq_false_of_not_eq_true overflows) read
      parsed refuses
  refine ⟨fits, ?_⟩
  by_contra apart
  exact Invocation.not_refuses_of_apart shell fits (Bool.eq_false_of_not_eq_true apart) read parsed
    refuses

theorem Invocation.sparesInput_of_same (shell : invocation.emit = .shell)
    (same : ∀ source program, store.read invocation.input = .ok source →
      Program.parse source = .ok program →
      invocation.indentFits = true ∧
        Path.same invocation.outputPath invocation.input = true) :
    SparesInput invocation store (invocation.run store) := by
  have course := plan_course invocation (store.read invocation.input)
  have fails : Fails store (invocation.run store) := by
    rw [Invocation.run]
    cases read : store.read invocation.input with
    | error fault =>
        rw [read] at course
        exact course.fails_of_unreadable
    | ok source =>
        rw [read] at course
        cases parsed : Program.parse source with
        | error diagnostic =>
            exact (course.fails_of_unparsable (by simp [shell]) parsed).1
        | ok program =>
            obtain ⟨fits, same⟩ := same source program read parsed
            exact course.fails_of_overwriting shell fits same
  refine ⟨fun place _ => by rw [fails.unchanged], fun source program read parsed => ?_⟩
  obtain ⟨fits, same⟩ := same source program read parsed
  exact run_of_same shell fits same read parsed

/-- The input is spared exactly when both paths agree about a dot in front, as they do when no
output path is given, and the indentation can be built. When they do not agree, the script is
written to the place of the input and replaces it if it can be written there. -/
theorem run_sparesInput_iff (invocation : Invocation) (store : FileStore)
    (shell : invocation.emit = .shell)
    (alike : Path.SameWithoutDots invocation.outputPath invocation.input) :
    (SparesInput invocation store (invocation.run store) ↔
      ∀ source program, store.read invocation.input = .ok source →
        Program.parse source = .ok program →
        invocation.indentFits = true ∧
          Path.startsWithDot invocation.outputPath = Path.startsWithDot invocation.input) ∧
    (Path.startsWithDot invocation.outputPath ≠ Path.startsWithDot invocation.input →
      invocation.indentFits = true →
      ∀ source program place, store.read invocation.input = .ok source →
        Program.parse source = .ok program → store.target invocation.outputPath = .ok place →
          store.locate invocation.input = .ok place ∧
          (invocation.run store).2 =
            (store.writeAt place (program.compile invocation.options).script).store ∧
          (store.isDevice place = false →
            (store.writeAt place (program.compile invocation.options).script).result = .ok () →
              (invocation.run store).1.status = 0 ∧
              (invocation.run store).2.file? place =
                some (.text (program.compile invocation.options).script))) ∧
    (invocation.output = none →
      Path.startsWithDot invocation.outputPath = Path.startsWithDot invocation.input) := by
  have same_iff : Path.same invocation.outputPath invocation.input = true ↔
      Path.startsWithDot invocation.outputPath = Path.startsWithDot invocation.input := by
    rw [Path.same_iff, and_iff_right alike]
  refine ⟨⟨?_, ?_⟩, ?_, ?_⟩
  · intro spares source program read parsed
    exact (Invocation.same_of_sparesInput shell spares read parsed).imp_right same_iff.mp
  · intro agree
    exact Invocation.sparesInput_of_same shell fun source program read parsed =>
      (agree source program read parsed).imp_right same_iff.mpr
  · intro apart fits source program place read parsed target
    have different := Bool.eq_false_of_not_eq_true (mt same_iff.mp apart)
    exact Invocation.run_of_writable shell fits alike different read parsed target
  · intro notGiven
    rw [Invocation.outputPath, notGiven]
    exact Path.startsWithDot_withExtension "sh" invocation.input

/-- The command line that compiles `a.punch`, with an output path that is spelled differently. -/
def otherSpelling (output : String) : Invocation :=
  ⟨"a.punch", some output, .shell, none, none, false, false⟩

theorem oneVariable_parse :
    Program.parse "var x = 1;" = .ok ⟨[⟨true, "x", .number 1⟩], []⟩ := by cbv

theorem run_sparesInput_iff_slashes :
    Path.SameWithoutDots "a.punch/." "a.punch" ∧
      SparesInput (otherSpelling "a.punch/.") oneVariable
        ((otherSpelling "a.punch/.").run oneVariable) ∧
      Refuses (otherSpelling "a.punch/.") oneVariable
        ((otherSpelling "a.punch/.").run oneVariable) := by
  have alike : Path.SameWithoutDots "a.punch/." "a.punch" := ⟨by decide, by decide⟩
  have dots : Path.startsWithDot "a.punch/." = Path.startsWithDot "a.punch" := by decide
  have spares := (run_sparesInput_iff (otherSpelling "a.punch/.") oneVariable rfl alike).1.mpr
    fun _ _ _ _ => ⟨rfl, dots⟩
  exact ⟨alike, spares, spares.refuses _ _ oneVariable_read oneVariable_parse⟩

/-- The same file is written over when its path is spelled with a dot in front. -/
theorem not_sparesInput_dotInFront :
    Request.ofArguments ["a.punch", "./a.punch"] = .ok (.compile (otherSpelling "./a.punch")) ∧
      Path.SameWithoutDots "./a.punch" "a.punch" ∧
      oneVariable.locate "a.punch" = .ok ⟨.above 0, ["a.punch"]⟩ ∧
      ((otherSpelling "./a.punch").run oneVariable).1.status = 0 ∧
      ((otherSpelling "./a.punch").run oneVariable).2.file? ⟨.above 0, ["a.punch"]⟩ =
        some (.text oneVariableScript) ∧
      ¬SparesInput (otherSpelling "./a.punch") oneVariable
        ((otherSpelling "./a.punch").run oneVariable) := by
  have alike : Path.SameWithoutDots "./a.punch" "a.punch" := ⟨by decide, by decide⟩
  have target : oneVariable.target "./a.punch" = .ok ⟨.above 0, ["a.punch"]⟩ := rfl
  have script : (Program.compile ⟨[⟨true, "x", .number 1⟩], []⟩ {}).script = oneVariableScript := by
    cbv
  have shell : (otherSpelling "./a.punch").emit = .shell := rfl
  obtain ⟨located, -, written⟩ := Invocation.run_of_writable shell rfl alike (by decide)
    oneVariable_read oneVariable_parse target
  obtain ⟨succeeds, replaced⟩ := written rfl rfl
  refine ⟨rfl, alike, located, succeeds,
    replaced.trans (congrArg (some <| Contents.text ·) script), ?_⟩
  intro spares
  have refused := spares.refuses _ _ oneVariable_read oneVariable_parse
  simp [refused.fails.status_eq] at succeeds

end StructuredShell.CommandLine
