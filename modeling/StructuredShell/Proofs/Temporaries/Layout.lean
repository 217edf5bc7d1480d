import StructuredShell.Proofs.Temporaries.Statements

/-!
# Scripts as runs

The lines of a script are the runs of its statements, one after another, with the temporaries
numbered through all of them. What holds of one run holds of all of them then: no temporary is read
outside the run that saves it, so the runs do not interfere.
-/

set_option autoImplicit false

namespace StructuredShell

open Shell Lowering

/-! ## Runs one after another -/

/-- Runs of statements in a row. Which of them may stand in functions is left to `allowed`. -/
inductive Laid (names : String → String) (supply : Supply) (allowed : Set Bool) :
    Nat → List Run → Nat → Prop where
  | nil (used : Nat) : Laid names supply allowed used [] used
  | cons {isLocal : Bool} {used middle last : Nat} {run : Run} {rest : List Run}
      (isAllowed : isLocal ∈ allowed)
      (isRun : StatementRun names supply isLocal used run.lines middle)
      (others : Laid names supply allowed middle rest last) :
      Laid names supply allowed used (run :: rest) last

section

variable {names : String → String} {supply : Supply} {allowed : Set Bool}
  {used middle last : Nat}

namespace Laid

variable {runs more : List Run}

theorem append (first : Laid names supply allowed used runs middle)
    (second : Laid names supply allowed middle more last) :
    Laid names supply allowed used (runs ++ more) last := by
  induction first with
  | nil => exact second
  | cons isAllowed isRun _ ih => exact .cons isAllowed isRun (ih second)

theorem weaken {permitted : Set Bool} (laid : Laid names supply allowed used runs last)
    (included : allowed ⊆ permitted) :
    Laid names supply permitted used runs last := by
  induction laid with
  | nil used => exact .nil used
  | cons isAllowed isRun _ ih => exact .cons (included isAllowed) isRun ih

theorem isRun_of_mem (laid : Laid names supply allowed used runs last) :
    ∀ run ∈ runs, ∃ isLocal before after, isLocal ∈ allowed ∧
      StatementRun names supply isLocal before run.lines after := by
  induction laid with
  | nil => simp
  | cons isAllowed isRun _ ih =>
      intro run isMember
      rcases List.mem_cons.mp isMember with rfl | isLater
      · exact ⟨_, _, _, isAllowed, isRun⟩
      · exact ih run isLater

/-- The temporaries of all runs are those in between, each saved in its turn. -/
theorem saved (laid : Laid names supply allowed used runs last) :
    used ≤ last ∧ savedIn (runs.flatMap Run.lines) = List.range' (used + 1) (last - used) := by
  induction laid with
  | nil => simp
  | cons _ isRun _ ih =>
      have first := isRun.disciplined
      refine ⟨first.used_le.trans ih.1, ?_⟩
      rw [List.flatMap_cons, savedIn_append, first.saved, ih.2,
        range'_append_range' first.used_le ih.1]

theorem once (laid : Laid names supply allowed used runs last) :
    (readIn (runs.flatMap Run.lines)).Perm (savedIn (runs.flatMap Run.lines)) := by
  induction laid with
  | nil => exact .nil
  | cons _ isRun _ ih =>
      have first := isRun.disciplined.once
      rw [references_nil, List.append_nil] at first
      rw [List.flatMap_cons, readIn_append, savedIn_append]
      exact first.append ih

/-- What a call hands back is read in the line after the call only. -/
theorem results (laid : Laid names supply allowed used runs last) {before after : List PlacedLine}
    {placed : PlacedLine} (same : runs.flatMap Run.placed = before ++ placed :: after)
    (reads : .result ∈ placed.line.operands) :
    ∃ earlier name arguments,
      before = earlier ++ [⟨placed.depth, .simple (.call name arguments)⟩] := by
  induction laid generalizing before with
  | nil => simp at same
  | @cons _ _ _ _ run rest _ isRun _ ih =>
      rw [List.flatMap_cons] at same
      rcases split_append same with ⟨later, isFirst, -⟩ | ⟨between, rfl, isRest⟩
      · obtain ⟨front, back, isRunLines, rfl, isBack⟩ := List.map_eq_append_iff.mp isFirst
        obtain ⟨line, further, rfl, rfl, -⟩ := List.map_eq_cons_iff.mp isBack
        obtain ⟨earlier, name, arguments, rfl⟩ :=
          isRun.disciplined.results _ _ _ isRunLines reads
        exact ⟨earlier.map (PlacedLine.mk run.depth), name, arguments, by simp⟩
      · obtain ⟨earlier, name, arguments, rfl⟩ := ih isRest
        exact ⟨run.placed ++ earlier, name, arguments, (List.append_assoc _ _ _).symm⟩

end Laid

/-! ## Lines that are runs in a row -/

def LaidOut (names : String → String) (supply : Supply) (allowed : Set Bool) (used : Nat)
    (lines : List PlacedLine) (last : Nat) : Prop :=
  ∃ runs, Laid names supply allowed used runs last ∧ lines = runs.flatMap Run.placed

namespace LaidOut

variable {lines more : List PlacedLine}

theorem nil (used : Nat) : LaidOut names supply allowed used [] used := ⟨[], .nil used, rfl⟩

theorem append (first : LaidOut names supply allowed used lines middle)
    (second : LaidOut names supply allowed middle more last) :
    LaidOut names supply allowed used (lines ++ more) last := by
  obtain ⟨runs, laid, rfl⟩ := first
  obtain ⟨others, laidOthers, rfl⟩ := second
  exact ⟨runs ++ others, laid.append laidOthers, List.flatMap_append.symm⟩

theorem weaken {permitted : Set Bool} (laidOut : LaidOut names supply allowed used lines last)
    (included : allowed ⊆ permitted) :
    LaidOut names supply permitted used lines last := by
  obtain ⟨runs, laid, isLines⟩ := laidOut
  exact ⟨runs, laid.weaken included, isLines⟩

theorem run {isLocal : Bool} {statement : List Line} (isAllowed : isLocal ∈ allowed)
    (isRun : StatementRun names supply isLocal used statement last) (depth : Nat) :
    LaidOut names supply allowed used (Run.placed ⟨depth, statement⟩) last :=
  ⟨[⟨depth, statement⟩], .cons isAllowed isRun (.nil last), by simp⟩

/-- A line that begins or ends something, ahead of other lines. -/
theorem framed {isLocal : Bool} (isAllowed : isLocal ∈ allowed) {line : Line}
    (isFrame : line.isFrame = true) (named : line.names ⊆ supply.names.map names) (depth : Nat)
    (laidOut : LaidOut names supply allowed used lines last) :
    LaidOut names supply allowed used (⟨depth, line⟩ :: lines) last :=
  (LaidOut.run isAllowed (.frame isFrame named isLocal used) depth).append laidOut

end LaidOut

end

/-! ## Commands -/

theorem Shell.Command.linesOf_append (depth : Nat) (first second : List Command) :
    Command.linesOf depth (first ++ second) =
      Command.linesOf depth first ++ Command.linesOf depth second := by
  induction first with
  | nil => rfl
  | cons command rest ih => simp [Command.linesOf, ih]

theorem Shell.Command.linesOf_simple (depth : Nat) (commands : List Simple) :
    Command.linesOf depth (commands.map Command.simple) =
      Run.placed ⟨depth, commands.map Line.simple⟩ := by
  induction commands with
  | nil => rfl
  | cons command rest ih => simpa [Command.linesOf, Command.lines, Run.placed] using ih

theorem Shell.Command.linesOf_conditional (depth : Nat) (setup : List Simple) (test : Test)
    (body : List Command) (alternative : Branch) :
    Command.linesOf depth (setup.map Command.simple ++ [.conditional test body alternative]) =
      Run.placed ⟨depth, setup.map Line.simple ++ [.ifThen test]⟩ ++
        (Command.linesOf (depth + 1) body ++ alternative.lines depth) := by
  simp [Command.linesOf_append, Command.linesOf_simple, Command.linesOf, Command.lines, Run.placed]

theorem LaidOut.body {names : String → String} {supply : Supply} {used last depth : Nat}
    {commands : List Command}
    (laidOut : LaidOut names supply {true} used (Command.linesOf depth commands) last) :
    LaidOut names supply {true} used (Command.linesOf depth (bodyOf commands)) last := by
  unfold bodyOf
  split
  · next isEmpty =>
      rw [List.isEmpty_iff.mp isEmpty] at laidOut
      exact laidOut.framed (Set.mem_singleton true) rfl (List.nil_subset _) depth
  · exact laidOut

/-- A body between the lines that begin and end it. -/
theorem LaidOut.bracketed {names : String → String} {supply : Supply} {used last : Nat}
    {lines : List PlacedLine} (inner : LaidOut names supply {true} used lines last)
    {opening closing : Line} (opens : opening.isFrame = true) (closes : closing.isFrame = true)
    (named : opening.names ⊆ supply.names.map names) (nameless : closing.names = [])
    (depth : Nat) :
    LaidOut names supply {true} used (⟨depth, opening⟩ :: (lines ++ [⟨depth, closing⟩])) last := by
  have closed : LaidOut names supply {true} last [⟨depth, closing⟩] last :=
    (LaidOut.nil last).framed (Set.mem_singleton true) closes (by simp [nameless]) depth
  exact (inner.append closed).framed (Set.mem_singleton true) opens named depth

/-- A conditional is the run of its test, then its body, then what follows. -/
theorem LaidOut.conditional {names : String → String} {supply : Supply} {condition : Condition}
    (has : supply.Has condition.names condition.values) {used middle last depth : Nat}
    {commands : List Command} {alternative : Branch}
    (inner : LaidOut names supply {true} (test names true false condition used).used
      (Command.linesOf (depth + 1) commands) middle)
    (other : LaidOut names supply {true} middle (alternative.lines depth) last) :
    LaidOut names supply {true} used
      (Command.linesOf depth ((test names true false condition used).setup.map Command.simple ++
        [.conditional (test names true false condition used).value (bodyOf commands)
          alternative])) last := by
  rw [Command.linesOf_conditional]
  exact (LaidOut.run (Set.mem_singleton true) (.test has used) depth).append
    (inner.body.append other)

end StructuredShell
