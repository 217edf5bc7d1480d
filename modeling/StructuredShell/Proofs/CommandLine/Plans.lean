import StructuredShell.CommandLine.Run

/-!
# What a run plans

A plan is made stage by stage: the input is read and cut into tokens, the tokens are parsed, the
program is shown or compiled. Which of these stages fails, if any, decides what the plan is. The
courses below say so in terms of the library alone, and every plan takes one of them.

The flags that ask for more or for fewer messages have no part in that. When two invocations differ
in one of them only, their plans are the same up to what goes to one of the streams.
-/

set_option autoImplicit false

namespace StructuredShell.CommandLine

/-! ## Courses -/

/-- The ways in which a plan can come about from what was read of the input. -/
inductive Course (invocation : Invocation) (input : Except FileFault String) : Plan → Prop where
  | unreadable {fault : FileFault} {error : String} :
      input = .error fault →
      Course invocation input (.done (failure invocation.verbose [] error))
  | rejected {source : String} {diagnostic : Diagnostic} {messages : List String} :
      input = .ok source → Program.parse source = .error diagnostic →
      Course invocation input
        (.done (failure invocation.verbose messages (diagnostic.rendered source)))
  /-- The tokens or the program are shown. Tokens are shown whether or not they can be parsed. -/
  | shown {source stdout : String} {tokens : List Token} {messages : List String} :
      input = .ok source → Lexer.tokens source = .ok tokens → invocation.emit ≠ .shell →
      (invocation.emit ≠ .tokens → ∃ program, Program.parse source = .ok program) →
      Course invocation input (.done (success invocation.verbose messages stdout))
  /-- A level of indentation is longer than any text. -/
  | overflowing {source reason : String} {program : Program} {messages : List String} :
      input = .ok source → Program.parse source = .ok program → invocation.emit = .shell →
      invocation.indentFits = false →
      Course invocation input (.done (panicked invocation.verbose messages reason))
  | overwriting {source error : String} {program : Program} {messages : List String} :
      input = .ok source → Program.parse source = .ok program → invocation.emit = .shell →
      invocation.indentFits = true → Path.same invocation.outputPath invocation.input = true →
      Course invocation input (.done (failure invocation.verbose messages error))
  | writing {source : String} {program : Program} {messages : List String} :
      input = .ok source → Program.parse source = .ok program → invocation.emit = .shell →
      invocation.indentFits = true → Path.same invocation.outputPath invocation.input = false →
      Course invocation input
        (.write invocation.outputPath (program.compile invocation.options).script
          (stages invocation.verbose messages)
          (invocation.afterWrite (program.compile invocation.options).script))

theorem parse_of_lexical {source : String} {error : LexError}
    (lexed : Lexer.tokens source = .error error) :
    Program.parse source = .error (.lexical error) := by
  rw [Program.parse, readSource, lexed]

theorem parse_of_tokens {source : String} {tokens : List Token}
    (lexed : Lexer.tokens source = .ok tokens) :
    Program.parse source = (TokenStream.ofTokens tokens).program.1.mapError .syntactic := by
  rw [Program.parse, readSource, lexed]
  dsimp only
  cases (TokenStream.ofTokens tokens).program.1 <;> rfl

theorem parse_of_compile {source : String} {options : Options} {compiled : Compiled}
    (compiles : compile source options = .ok compiled) :
    ∃ program, Program.parse source = .ok program ∧ program.compile options = compiled := by
  rw [compile] at compiles
  cases parsed : Program.parse source with
  | error diagnostic => rw [parsed] at compiles; cases compiles
  | ok program => rw [parsed] at compiles; cases compiles; exact ⟨program, rfl, rfl⟩

section

variable {invocation : Invocation} {source : String} {program : Program}

theorem planScript_course (messages : List String) (shell : invocation.emit = .shell)
    (fits : invocation.indentFits = true) (parsed : Program.parse source = .ok program) :
    Course invocation (.ok source) (invocation.planScript messages program) := by
  cases overwrites : Path.same invocation.outputPath invocation.input with
  | true =>
      simp only [Invocation.planScript, overwrites, if_true]
      exact .overwriting rfl parsed shell fits overwrites
  | false =>
      simp only [Invocation.planScript, overwrites, Bool.false_eq_true, if_false]
      exact .writing rfl parsed shell fits overwrites

theorem planShell_course (messages : List String) (shell : invocation.emit = .shell)
    (parsed : Program.parse source = .ok program) :
    Course invocation (.ok source) (invocation.planShell messages program) := by
  rw [Invocation.planShell]
  split
  · rename_i fits
    exact planScript_course messages shell fits parsed
  · rename_i overflows
    exact .overflowing rfl parsed shell (Bool.eq_false_iff.mpr overflows)

theorem planTokens_course {tokens : List Token} (messages : List String)
    (lexed : Lexer.tokens source = .ok tokens) :
    Course invocation (.ok source) (invocation.planTokens messages source tokens) := by
  rw [Invocation.planTokens]
  have parse := parse_of_tokens lexed
  cases emitted : invocation.emit with
  | tokens => exact .shown rfl lexed (by simp [emitted]) fun other => absurd emitted other
  | shell | tree | json =>
      cases read : (TokenStream.ofTokens tokens).program.1 with
      | error error =>
          rw [read] at parse
          exact .rejected rfl parse
      | ok program =>
          rw [read] at parse
          first
            | exact planShell_course _ emitted parse
            | exact .shown rfl lexed (by simp [emitted]) fun _ => ⟨program, parse⟩

end

/-- Every plan takes one of the courses. -/
theorem plan_course (invocation : Invocation) (input : Except FileFault String) :
    Course invocation input (invocation.plan input) := by
  cases input with
  | error fault => exact .unreadable rfl
  | ok source =>
      rw [Invocation.plan, Invocation.planSource]
      cases lexed : Lexer.tokens source with
      | error error => exact .rejected rfl (parse_of_lexical lexed)
      | ok tokens => exact planTokens_course _ lexed

/-! ## Flags -/

/-- The streams that a run prints to. -/
inductive Stream where
  | output
  | error

/-- A report with one of its streams left out. -/
def Report.without (stream : Stream) (report : Report) : Report :=
  match stream with
  | .output => { report with stdout := "" }
  | .error => { report with stderr := "" }

/-- Plans that do the same and report the same, but for one stream. -/
inductive Plan.SameBut (stream : Stream) : Plan → Plan → Prop where
  | done {report other : Report} :
      report.without stream = other.without stream → SameBut stream (.done report) (.done other)
  | write {path text stages others : String} {report other : Except FileFault Unit → Report} :
      stages = others ∨ stream = .error →
      (∀ outcome, (report outcome).without stream = (other outcome).without stream) →
      SameBut stream (.write path text stages report) (.write path text others other)

theorem settle_without {stream : Stream} {stages others : String}
    {report other : Except FileFault Unit → Report} (sameStages : stages = others ∨ stream = .error)
    (same : ∀ outcome, (report outcome).without stream = (other outcome).without stream)
    (written : FileStore.Written) :
    (settle stages report written).1.without stream =
        (settle others other written).1.without stream := by
  have same := same (written.result.mapError .system)
  cases stream with
  | output =>
      simp only [Report.without, Report.mk.injEq, true_and] at same
      obtain rfl := sameStages.resolve_right Stream.noConfusion
      simp [Report.without, settle, same]
  | error =>
      simp only [Report.without, Report.mk.injEq, and_true] at same
      simp [Report.without, settle, same]

theorem Plan.SameBut.carryOut {stream : Stream} {plan other : Plan}
    (same : SameBut stream plan other) (store : FileStore) :
    (plan.carryOut store).1.without stream = (other.carryOut store).1.without stream ∧
      (plan.carryOut store).2 = (other.carryOut store).2 := by
  cases same with
  | done same => exact ⟨same, rfl⟩
  | write sameStages same => exact ⟨settle_without sameStages same _, rfl⟩

def Invocation.flagged (invocation : Invocation) (quiet verbose : Bool) : Invocation :=
  { invocation with quiet := quiet, verbose := verbose }

@[simp] theorem Invocation.flagged_emit (invocation : Invocation) (quiet verbose : Bool) :
    (invocation.flagged quiet verbose).emit = invocation.emit := rfl

@[simp] theorem Invocation.flagged_indentFits (invocation : Invocation) (quiet verbose : Bool) :
    (invocation.flagged quiet verbose).indentFits = invocation.indentFits := rfl

/-- Setting the flags of an invocation changes nothing but a stream: being verbose is about the
error stream, being quiet about the output stream. -/
structure Hides (stream : Stream) (invocation : Invocation) (quiet verbose : Bool) : Prop where
  verbose : verbose = invocation.verbose ∨ stream = .error
  quiet : quiet = invocation.quiet ∨ stream = .output

namespace Hides

variable {stream : Stream} {invocation : Invocation} {quiet verbose : Bool}

theorem stages (hides : Hides stream invocation quiet verbose) (messages : List String) :
    stages verbose messages = stages invocation.verbose messages ∨ stream = .error :=
  hides.verbose.imp_left fun same => by rw [same]

theorem report (hides : Hides stream invocation quiet verbose) (messages : List String)
    (status : Nat) (stdout error : String) :
    (⟨status, stdout, CommandLine.stages verbose messages ++ error⟩ : Report).without stream =
      (⟨status, stdout, CommandLine.stages invocation.verbose messages ++ error⟩ :
        Report).without stream := by
  rcases hides.stages messages with same | rfl
  · rw [same]
  · rfl

theorem failure (hides : Hides stream invocation quiet verbose) (messages : List String)
    (error : String) :
    (failure verbose messages error).without stream =
      (failure invocation.verbose messages error).without stream :=
  hides.report messages 1 "" (note error)

theorem success (hides : Hides stream invocation quiet verbose) (messages : List String)
    (stdout : String) :
    (success verbose messages stdout).without stream =
      (success invocation.verbose messages stdout).without stream := by
  simpa [CommandLine.success] using hides.report messages 0 stdout ""

theorem panicked (hides : Hides stream invocation quiet verbose) (messages : List String)
    (reason : String) :
    (panicked verbose messages reason).without stream =
      (panicked invocation.verbose messages reason).without stream := by
  simpa [CommandLine.panicked, String.append_assoc] using
    hides.report messages 101 "" ("thread 'main' panicked: " ++ reason ++ "\n")

theorem echo (hides : Hides stream invocation quiet verbose) (messages : List String)
    (script : String) :
    (CommandLine.success verbose messages (if quiet then "" else script)).without stream =
      (CommandLine.success invocation.verbose messages
        (if invocation.quiet then "" else script)).without stream := by
  rw [hides.success]
  rcases hides.quiet with same | rfl
  · rw [same]
  · rfl

theorem planScript (hides : Hides stream invocation quiet verbose) (messages : List String)
    (program : Program) :
    ((invocation.flagged quiet verbose).planScript messages program).SameBut stream
      (invocation.planScript messages program) := by
  have samePath : Path.same (invocation.flagged quiet verbose).outputPath
      (invocation.flagged quiet verbose).input =
        Path.same invocation.outputPath invocation.input := rfl
  rw [Invocation.planScript, Invocation.planScript]
  dsimp only
  by_cases overwrites : Path.same invocation.outputPath invocation.input = true
  · rw [if_pos (samePath.trans overwrites), if_pos overwrites]
    exact .done (hides.failure _ _)
  · rw [if_neg (samePath ▸ overwrites), if_neg overwrites]
    refine .write (hides.stages _) fun outcome => ?_
    cases outcome with
    | error fault => exact hides.failure _ _
    | ok => exact hides.echo _ _

theorem planShell (hides : Hides stream invocation quiet verbose) (messages : List String)
    (program : Program) :
    ((invocation.flagged quiet verbose).planShell messages program).SameBut stream
      (invocation.planShell messages program) := by
  rw [Invocation.planShell, Invocation.planShell, Invocation.flagged_indentFits]
  split
  · exact hides.planScript messages program
  · exact .done (hides.panicked _ _)

theorem planTokens (hides : Hides stream invocation quiet verbose) (messages : List String)
    (source : String) (tokens : List Token) :
    ((invocation.flagged quiet verbose).planTokens messages source tokens).SameBut stream
      (invocation.planTokens messages source tokens) := by
  rw [Invocation.planTokens, Invocation.planTokens]
  cases emitted : invocation.emit with
  | tokens =>
      simp only [Invocation.flagged_emit, emitted]
      exact .done (hides.success _ _)
  | shell | tree | json =>
      simp only [Invocation.flagged_emit, emitted]
      cases (TokenStream.ofTokens tokens).program.1 with
      | error error => exact .done (hides.failure _ _)
      | ok program =>
          first
            | exact hides.planShell _ program
            | exact .done (hides.success _ _)

/-- Setting the flags changes nothing else of a plan. -/
theorem plan (hides : Hides stream invocation quiet verbose) (input : Except FileFault String) :
    ((invocation.flagged quiet verbose).plan input).SameBut stream (invocation.plan input) := by
  cases input with
  | error fault => exact .done (hides.failure _ _)
  | ok source =>
      rw [Invocation.plan, Invocation.plan, Invocation.planSource, Invocation.planSource]
      cases Lexer.tokens source with
      | error error => exact .done (hides.failure _ _)
      | ok tokens => exact hides.planTokens _ source tokens

end Hides

end StructuredShell.CommandLine
