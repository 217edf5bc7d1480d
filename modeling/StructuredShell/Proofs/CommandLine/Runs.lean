import Mathlib
import StructuredShell.Proofs.CommandLine.Flags
import StructuredShell.Proofs.CommandLine.Writes

/-!
# What a run leaves behind

A run touches no file but the output file, and that one only after every stage before has
succeeded; then it holds what the library compiles, unless the write fails when it has begun. A run
that fails says why and prints nothing else. The flags that ask for more or for fewer messages
change one stream each and nothing besides.
-/

set_option autoImplicit false

namespace StructuredShell.CommandLine

/-! ## Runs that fail -/

structure Fails (store : FileStore) (ran : Report × FileStore) : Prop where
  status_eq : ran.1.status = 1
  stdout_eq : ran.1.stdout = ""
  unchanged : ran.2 = store

theorem failure_fails (store : FileStore) (verbose : Bool) (messages : List String)
    (error : String) : Fails store (failure verbose messages error, store) :=
  ⟨rfl, rfl, rfl⟩

namespace Course

variable {invocation : Invocation} {store : FileStore} {plan : Plan} {source : String}

theorem fails_of_unreadable {fault : FileFault} (course : Course invocation (.error fault) plan) :
    Fails store (plan.carryOut store) := by
  cases course with
  | unreadable => exact failure_fails ..
  | rejected read | shown read | overflowing read | overwriting read | writing read => cases read

theorem fails_of_unparsable {diagnostic : Diagnostic}
    (course : Course invocation (.ok source) plan)
    (stops : invocation.emit = .tokens → ∃ error, Lexer.tokens source = .error error)
    (unparsable : Program.parse source = .error diagnostic) :
    Fails store (plan.carryOut store) ∧
      ∃ stages, (plan.carryOut store).1.stderr = stages ++ note (diagnostic.rendered source) := by
  cases course with
  | unreadable read => cases read
  | rejected read parsed =>
      cases read
      cases unparsable.symm.trans parsed
      exact ⟨failure_fails .., _, rfl⟩
  | shown read lexed _ parses =>
      cases read
      by_cases tokens : invocation.emit = .tokens
      · obtain ⟨error, unlexable⟩ := stops tokens
        cases lexed.symm.trans unlexable
      · obtain ⟨program, parsed⟩ := parses tokens
        cases unparsable.symm.trans parsed
  | overflowing read parsed | overwriting read parsed | writing read parsed =>
      cases read
      cases unparsable.symm.trans parsed

/-- Where a script is asked for and the source parses, a plan panics, refuses or writes. -/
theorem scripted {program : Program} (course : Course invocation (.ok source) plan)
    (shell : invocation.emit = .shell) (parses : Program.parse source = .ok program) :
    (invocation.indentFits = false ∧
      ∃ messages reason, plan = .done (panicked invocation.verbose messages reason)) ∨
    (invocation.indentFits = true ∧
      Path.same invocation.outputPath invocation.input = true) ∨
    (invocation.indentFits = true ∧
      ∃ messages, plan = .write invocation.outputPath (program.compile invocation.options).script
        (stages invocation.verbose messages)
        (invocation.afterWrite (program.compile invocation.options).script)) := by
  cases course with
  | unreadable read => cases read
  | rejected read unparsable =>
      cases read
      cases parses.symm.trans unparsable
  | shown _ _ other => exact absurd shell other
  | overflowing _ _ _ overflows => exact .inl ⟨overflows, _, _, rfl⟩
  | overwriting _ _ _ fits same => exact .inr (.inl ⟨fits, same⟩)
  | writing read parsed _ fits =>
      cases read
      cases parses.symm.trans parsed
      exact .inr (.inr ⟨fits, _, rfl⟩)

/-- A run that has a script to write goes by how the write ends. -/
theorem carryOut_of_parsed {program : Program} (course : Course invocation (.ok source) plan)
    (shell : invocation.emit = .shell) (fits : invocation.indentFits = true)
    (apart : Path.same invocation.outputPath invocation.input = false)
    (parses : Program.parse source = .ok program) :
    ∃ messages, plan.carryOut store =
      settle (stages invocation.verbose messages)
        (invocation.afterWrite (program.compile invocation.options).script)
        (store.write invocation.outputPath (program.compile invocation.options).script) := by
  obtain ⟨overflows, -⟩ | ⟨-, same⟩ | ⟨-, messages, rfl⟩ := course.scripted shell parses
  · cases fits.symm.trans overflows
  · cases apart.symm.trans same
  · exact ⟨messages, rfl⟩

theorem panics_of_overflowing {program : Program} (course : Course invocation (.ok source) plan)
    (shell : invocation.emit = .shell) (overflows : invocation.indentFits = false)
    (parses : Program.parse source = .ok program) :
    (plan.carryOut store).1.status = 101 ∧ (plan.carryOut store).1.stdout = "" ∧
      (plan.carryOut store).2 = store := by
  obtain ⟨-, messages, reason, rfl⟩ | ⟨fits, -⟩ | ⟨fits, -⟩ := course.scripted shell parses
  · exact ⟨rfl, rfl, rfl⟩
  · cases fits.symm.trans overflows
  · cases fits.symm.trans overflows

theorem fails_of_overwriting {input : Except FileFault String}
    (course : Course invocation input plan) (shell : invocation.emit = .shell)
    (fits : invocation.indentFits = true)
    (same : Path.same invocation.outputPath invocation.input = true) :
    Fails store (plan.carryOut store) := by
  cases course with
  | unreadable | rejected | overwriting => exact failure_fails ..
  | shown _ _ other => exact absurd shell other
  | overflowing _ _ _ overflows => cases fits.symm.trans overflows
  | writing _ _ _ _ apart => cases apart.symm.trans same

theorem fails_of_not_opens {input : Except FileFault String}
    (course : Course invocation input plan) (shell : invocation.emit = .shell)
    (fits : invocation.indentFits = true) (refuses : store.opens invocation.outputPath = false) :
    Fails store (plan.carryOut store) := by
  cases course with
  | unreadable | rejected | overwriting => exact failure_fails ..
  | shown _ _ other => exact absurd shell other
  | overflowing _ _ _ overflows => cases fits.symm.trans overflows
  | @writing _ program =>
      obtain ⟨fault, refused⟩ :=
        store.write_of_not_opens (program.compile invocation.options).script refuses
      rw [Plan.carryOut, refused]
      exact ⟨rfl, rfl, rfl⟩

theorem unchanged {input : Except FileFault String} (course : Course invocation input plan)
    (other : invocation.emit ≠ .shell) : (plan.carryOut store).2 = store := by
  cases course with
  | unreadable | rejected | shown | overflowing | overwriting => rfl
  | writing _ _ shell => exact absurd shell other

/-- A run that changes a file has come through every stage, and the file is the output file. -/
theorem changed {input : Except FileFault String} {location : Location}
    (course : Course invocation input plan)
    (change : (plan.carryOut store).2.file? location ≠ store.file? location) :
    store.target invocation.outputPath = .ok location ∧ invocation.emit = .shell ∧
      Path.same invocation.outputPath invocation.input = false ∧
      ∃ source program, input = .ok source ∧ Program.parse source = .ok program := by
  cases course with
  | unreadable | rejected | shown | overflowing | overwriting => exact absurd rfl change
  | @writing source program _ read parsed shell _ apart =>
      exact ⟨FileStore.target_of_write_ne change, shell, apart, source, program, read, parsed⟩

end Course

/-! ## Flags -/

/-- Setting the flags of an invocation gives the same run, but for one stream. -/
theorem Hides.run {stream : Stream} {invocation : Invocation} {quiet verbose : Bool}
    (hides : Hides stream invocation quiet verbose) (store : FileStore) :
    ((invocation.flagged quiet verbose).run store).1.without stream =
        (invocation.run store).1.without stream ∧
      ((invocation.flagged quiet verbose).run store).2 = (invocation.run store).2 :=
  (hides.plan (store.read invocation.input)).carryOut store

theorem Report.eq_up_to_stderr {report other : Report}
    (same : other.without .error = report.without .error) :
    other = { report with stderr := other.stderr } := by
  cases report
  cases other
  simpa [without] using same

theorem Report.eq_up_to_stdout {report other : Report}
    (same : other.without .output = report.without .output) :
    other = { report with stdout := other.stdout } := by
  cases report
  cases other
  simpa [without] using same

theorem Invocation.run_verbose (invocation : Invocation) (verbose : Bool) (store : FileStore) :
    ∃ stderr, (invocation.flagged invocation.quiet verbose).run store =
      ({ (invocation.run store).1 with stderr := stderr }, (invocation.run store).2) := by
  have hides : Hides .error invocation invocation.quiet verbose := ⟨.inr rfl, .inl rfl⟩
  obtain ⟨report, after⟩ := hides.run store
  exact ⟨_, Prod.ext (Report.eq_up_to_stderr report) after⟩

theorem Invocation.run_quiet (invocation : Invocation) (quiet : Bool) (store : FileStore) :
    ∃ stdout, (invocation.flagged quiet invocation.verbose).run store =
      ({ (invocation.run store).1 with stdout := stdout }, (invocation.run store).2) := by
  have hides : Hides .output invocation quiet invocation.verbose := ⟨.inl rfl, .inr rfl⟩
  obtain ⟨report, after⟩ := hides.run store
  exact ⟨_, Prod.ext (Report.eq_up_to_stdout report) after⟩

/-! ## Runs -/

/-- What holds of every run for an invocation, by the report that it ends in and the store that it
leaves. Arguments are read by any reader. -/
structure Faithful {ε : Type} (reader : ArgumentReader ε) (invocation : Invocation)
    (store : FileStore) (report : Report) (after : FileStore) : Prop where
  /-- Only the output file changes, and only after every stage has succeeded. -/
  changed (location : Location) :
    after.file? location ≠ store.file? location →
      store.target invocation.outputPath = .ok location ∧ invocation.emit = .shell ∧
      Path.same invocation.outputPath invocation.input = false ∧
      ∃ source program, store.read invocation.input = .ok source ∧
        Program.parse source = .ok program
  /-- When they have, and writing succeeds, it is the library's script that was written. It is
  printed behind what a device has put on the output stream. -/
  written (source : String) (compiled : Compiled) (location : Location) :
    store.read invocation.input = .ok source → invocation.emit = .shell →
    invocation.indentFits = true → Path.same invocation.outputPath invocation.input = false →
    compile source invocation.options = .ok compiled →
    store.target invocation.outputPath = .ok location →
    (store.writeAt location compiled.script).result = .ok () →
      report.status = 0 ∧
      report.stdout =
        (if store.sink? location = some .stdout then compiled.script else "") ++
          (if invocation.quiet then "" else compiled.script) ∧
      if store.isDevice location then after = store
      else after.file? location = some (.text compiled.script)
  /-- When writing fails, the output file is as it was or holds a beginning of the script. -/
  unwritten (source : String) (compiled : Compiled) (fault : SystemFault) :
    store.read invocation.input = .ok source → invocation.emit = .shell →
    invocation.indentFits = true → Path.same invocation.outputPath invocation.input = false →
    compile source invocation.options = .ok compiled →
    (store.write invocation.outputPath compiled.script).result = .error fault →
      report.status = 1 ∧ report.stdout = "" ∧
      (∃ stages, report.stderr =
        stages ++ note ("cannot write " ++ invocation.outputPath ++ ": " ++ fault.message)) ∧
      (after = store ∨ ∃ location contents, store.target invocation.outputPath = .ok location ∧
        store.isDevice location = false ∧ after = store.put location contents ∧
        FileStore.IsBeginning contents compiled.script)
  /-- An output path that cannot be opened leaves everything as it was. -/
  unopened :
    invocation.emit = .shell → invocation.indentFits = true →
    store.opens invocation.outputPath = false →
      Fails store (report, after)
  unreadable (fault : FileFault) :
    store.read invocation.input = .error fault → Fails store (report, after)
  unlexable (source : String) (error : LexError) :
    store.read invocation.input = .ok source → Lexer.tokens source = .error error →
      Fails store (report, after) ∧
      ∃ stages, report.stderr = stages ++ note ((Diagnostic.lexical error).rendered source)
  unparsable (source : String) (diagnostic : Diagnostic) :
    store.read invocation.input = .ok source → invocation.emit ≠ .tokens →
    Program.parse source = .error diagnostic →
      Fails store (report, after) ∧
      ∃ stages, report.stderr = stages ++ note (diagnostic.rendered source)
  overwriting :
    invocation.emit = .shell → invocation.indentFits = true →
    Path.same invocation.outputPath invocation.input = true →
      Fails store (report, after)
  /-- A level of indentation that no text can hold breaks the run off before anything is written. -/
  overflowing (source : String) (program : Program) :
    store.read invocation.input = .ok source → Program.parse source = .ok program →
    invocation.emit = .shell → invocation.indentFits = false →
      report.status = 101 ∧ report.stdout = "" ∧ after = store
  shown : invocation.emit ≠ .shell → after = store
  /-- Other arguments that differ in being verbose change what goes to the error stream only. -/
  verbose (others : List String) (verbose : Bool) :
    reader others = .ok (.compile { invocation with verbose := verbose }) →
      ∃ stderr, reader.run others store = .ok ({ report with stderr := stderr }, after)
  /-- Other arguments that differ in being quiet change what goes to the output stream only. -/
  quiet (others : List String) (quiet : Bool) :
    reader others = .ok (.compile { invocation with quiet := quiet }) →
      ∃ stdout, reader.run others store = .ok ({ report with stdout := stdout }, after)

section

variable {ε : Type} {reader : ArgumentReader ε} {invocation : Invocation} {store : FileStore}
  {source script : String} {compiled : Compiled}

theorem run_accepted {arguments : List String} {request : Request} (store : FileStore)
    (accepted : reader arguments = .ok request) :
    reader.run arguments store = .ok (request.run store) := by
  rw [ArgumentReader.run, accepted]

theorem Invocation.run_of_parsed {program : Program}
    (read : store.read invocation.input = .ok source) (shell : invocation.emit = .shell)
    (fits : invocation.indentFits = true)
    (apart : Path.same invocation.outputPath invocation.input = false)
    (parsed : Program.parse source = .ok program) :
    ∃ messages, invocation.run store =
      settle (stages invocation.verbose messages)
        (invocation.afterWrite (program.compile invocation.options).script)
        (store.write invocation.outputPath (program.compile invocation.options).script) := by
  have course := plan_course invocation (store.read invocation.input)
  rw [Invocation.run]
  rw [read] at course ⊢
  exact course.carryOut_of_parsed shell fits apart parsed

/-- How a run ends behind a write that succeeds. -/
theorem Invocation.settle_written {location : Location} {written : FileStore.Written}
    (messages : List String) (writes : store.Writes location script written)
    (succeeds : written.result = .ok ()) :
    let ran := settle (stages invocation.verbose messages) (invocation.afterWrite script) written
    ran.1.status = 0 ∧
      ran.1.stdout = (if store.sink? location = some .stdout then script else "") ++
        (if invocation.quiet then "" else script) ∧
      if store.isDevice location then ran.2 = store
      else ran.2.file? location = some (.text script) := by
  cases writes with
  | replaced isFile =>
      have noStream : store.sink? location ≠ some .stdout := by
        intro stream
        simp [FileStore.isDevice, stream, Sink.isDevice] at isFile
      simp [Except.mapError, settle, afterWrite, success, isFile, noStream, FileStore.file?_put]
  | passed isDevice => simp [Except.mapError, settle, afterWrite, success, isDevice]
  | refused | cutOff => cases succeeds

theorem Invocation.settle_unwritten {fault : SystemFault} (messages : List String)
    (fails : (store.write invocation.outputPath script).result = .error fault) :
    let ran := settle (stages invocation.verbose messages) (invocation.afterWrite script)
      (store.write invocation.outputPath script)
    ran.1.status = 1 ∧ ran.1.stdout = "" ∧ ∃ stages, ran.1.stderr =
      stages ++ note ("cannot write " ++ invocation.outputPath ++ ": " ++ fault.message) := by
  obtain ⟨stdout, stderr, -⟩ := FileStore.write_of_error fails
  simp only [settle, fails, Except.mapError, afterWrite, failure, stdout, stderr]
  exact ⟨trivial, rfl, stages invocation.verbose messages, by simp [stages, FileFault.message]⟩

theorem Invocation.faithful (invocation : Invocation) (store : FileStore) :
    Faithful reader invocation store (invocation.run store).1 (invocation.run store).2 := by
  have course := plan_course invocation (store.read invocation.input)
  constructor
  case changed =>
    intro location change
    exact course.changed change
  case written =>
    intro source compiled location read shell fits apart compiles target succeeds
    obtain ⟨program, parsed, rfl⟩ := parse_of_compile compiles
    obtain ⟨messages, ran⟩ := run_of_parsed read shell fits apart parsed
    rw [ran, FileStore.write_of_target target]
    exact settle_written messages (store.writeAt_writes location _) succeeds
  case unwritten =>
    intro source compiled fault read shell fits apart compiles fails
    obtain ⟨program, parsed, rfl⟩ := parse_of_compile compiles
    obtain ⟨messages, ran⟩ := run_of_parsed read shell fits apart parsed
    obtain ⟨status, stdout, stderr⟩ := settle_unwritten messages fails
    rw [ran]
    exact ⟨status, stdout, stderr, (FileStore.write_of_error fails).2.2⟩
  case unopened =>
    intro shell fits refuses
    exact course.fails_of_not_opens shell fits refuses
  case unreadable =>
    intro fault unreadable
    rw [Invocation.run]
    rw [unreadable] at course ⊢
    exact course.fails_of_unreadable
  case unlexable =>
    intro source error read unlexable
    rw [Invocation.run]
    rw [read] at course ⊢
    exact course.fails_of_unparsable (fun _ => ⟨error, unlexable⟩) (parse_of_lexical unlexable)
  case unparsable =>
    intro source diagnostic read parsing unparsable
    rw [Invocation.run]
    rw [read] at course ⊢
    exact course.fails_of_unparsable (fun tokens => absurd tokens parsing) unparsable
  case overwriting =>
    intro shell fits same
    exact course.fails_of_overwriting shell fits same
  case overflowing =>
    intro source program read parses shell overflows
    rw [Invocation.run]
    rw [read] at course ⊢
    exact course.panics_of_overflowing shell overflows parses
  case shown =>
    intro other
    exact course.unchanged other
  case verbose =>
    intro others verbose accepted
    obtain ⟨stderr, ran⟩ := invocation.run_verbose verbose store
    exact ⟨stderr, (run_accepted store accepted).trans (congrArg _ ran)⟩
  case quiet =>
    intro others quiet accepted
    obtain ⟨stdout, ran⟩ := invocation.run_quiet quiet store
    exact ⟨stdout, (run_accepted store accepted).trans (congrArg _ ran)⟩

end

def oneVariable : FileStore :=
  .ofFiles [(⟨.above 0, ["a.punch"]⟩, .text "var x = 1;")]

def oneVariableScript : String :=
  "#!/bin/sh\n\n# global variables\nx=1\n\n# functions\n\n# entry point\nmain \"$@\"\n"

theorem oneVariable_read : oneVariable.read "a.punch" = .ok "var x = 1;" := rfl

end StructuredShell.CommandLine
