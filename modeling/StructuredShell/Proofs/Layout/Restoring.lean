import StructuredShell.Lowering.Writer

/-!
# Writing comes back to where it started

Whatever is written for a statement, the walk is afterwards at the depth at which it began, as deep
in raw texts, and inside or outside a function as before. Each step that moves is undone by another
one, so it is enough to look at the constructs one by one.
-/

set_option autoImplicit false

namespace StructuredShell.InContext

open Shell

variable {α β : Type} {pass : Pass α}

/-! ## Values and tests -/

/-- A pass that leaves the number of open raw texts and the scope of the temporaries as they
were. -/
def Keeps (pass : Pass α) : Prop :=
  ∀ context, (pass context).2.nesting = context.nesting ∧
    (pass context).2.isLocal = context.isLocal

namespace Keeps

theorem pure (value : α) : Keeps (pure value) := fun _ => ⟨rfl, rfl⟩

theorem translate (name : String) : Keeps (translate name) := fun _ => ⟨rfl, rfl⟩

theorem insideRawText : Keeps insideRawText := fun _ => ⟨rfl, rfl⟩

theorem write (command : Simple) : Keeps (write command) := fun _ => ⟨rfl, rfl⟩

theorem save (value : Value) : Keeps (save value) := fun _ => ⟨rfl, rfl⟩

theorem bind {next : α → Pass β} (first : Keeps pass) (second : ∀ value, Keeps (next value)) :
    Keeps (pass >>= next) := by
  intro context
  obtain ⟨nesting, isLocal⟩ := first context
  obtain ⟨nesting', isLocal'⟩ := second (pass context).1 (pass context).2
  exact ⟨nesting'.trans nesting, isLocal'.trans isLocal⟩

theorem ite {asked : Bool} {other : Pass α} (first : Keeps pass) (second : Keeps other) :
    Keeps (if asked then pass else other) := by
  split
  · exact first
  · exact second

theorem kept (asked : Bool) (value : Value) (already : α) (afterwards : Operand → α) :
    Keeps (kept asked value already afterwards) :=
  insideRawText.bind fun _ => .ite ((save value).bind fun _ => .pure _) (.pure _)

theorem textOperand (text : String) : Keeps (textOperand text) :=
  insideRawText.bind fun _ => .ite (.pure _) (save _)

theorem callOperand (shell : String) (given : List Value) : Keeps (callOperand shell given) :=
  insideRawText.bind fun _ => .ite (.pure _) ((write _).bind fun _ => save _)

/-- A raw text is left again behind its code. -/
theorem enclosed {lower : Pass String} (inner : Keeps lower) : Keeps (enclosed lower) := by
  intro context
  obtain ⟨nesting, isLocal⟩ := inner { context with nesting := context.nesting + 1 }
  constructor
  · exact congrArg (· - 1) nesting
  · exact isLocal

theorem settled {lower : Pass (Formula Operand)} (laterCall : Bool) (source : Expr)
    (lowered : Keeps lower) : Keeps (settled laterCall source lower) := by
  have unsettled : Keeps (unsettled source lower) := by
    cases source with
    | text text => exact .pure _
    | _ => exact lowered.bind fun _ => .pure _
  exact unsettled.bind fun value => kept _ value value _

end Keeps

mutual

theorem formula_keeps (source : Expr) : Keeps (formula source) := by
  match source with
  | .var name => exact (Keeps.translate name).bind fun _ => .pure _
  | .number _ => exact .pure _
  | .text text => exact (Keeps.textOperand text).bind fun _ => .pure _
  | .raw fragments => exact (code_keeps fragments).enclosed.bind fun _ => .pure _
  | .call name arguments =>
      exact (Keeps.translate name).bind fun shell =>
        (values_keeps arguments).bind fun given =>
          (Keeps.callOperand shell given).bind fun _ => .pure _
  | .binary _ left right =>
      exact (formula_keeps left).bind fun whole =>
        (Keeps.kept _ (.arithmetic whole) whole .atom).bind fun _ =>
          (formula_keeps right).bind fun _ => .pure _

theorem values_keeps (sources : List Expr) : Keeps (values sources) := by
  match sources with
  | [] => exact .pure _
  | argument :: rest =>
      have first := (formula_keeps argument).settled (rest.any Expr.containsCall) argument
      exact first.bind fun _ => (values_keeps rest).bind fun _ => .pure _

theorem code_keeps (fragments : List Fragment) : Keeps (code fragments) := by
  match fragments with
  | [] => exact .pure _
  | .shell _ :: rest => exact (code_keeps rest).bind fun _ => .pure _
  | .splice value :: rest =>
      have first := (formula_keeps value).settled false value
      exact first.bind fun _ => (code_keeps rest).bind fun _ => .pure _

end

theorem value_keeps (laterCall : Bool) (source : Expr) : Keeps (value laterCall source) :=
  (formula_keeps source).settled laterCall source

theorem rawCode_keeps (fragments : List Fragment) : Keeps (rawCode fragments) :=
  (code_keeps fragments).enclosed

theorem test_keeps (laterCall : Bool) (condition : Condition) :
    Keeps (test laterCall condition) := by
  induction condition generalizing laterCall with
  | constant value => exact .pure _
  | comparison operator left right =>
      exact (value_keeps _ left).bind fun _ => (value_keeps _ right).bind fun _ => .pure _
  | conjunction left right leftIH rightIH =>
      exact (leftIH _).bind fun _ => (rightIH _).bind fun _ => .pure _
  | disjunction left right leftIH rightIH =>
      exact (leftIH _).bind fun _ => (rightIH _).bind fun _ => .pure _

end StructuredShell.InContext

namespace StructuredShell.Writer

open Shell

variable {α β : Type} {writing : Writing α}

/-! ## Statements -/

/-- Whether a walk is at the same place in two contexts: at one depth, as deep in raw texts, and in
a function in both or in neither. -/
structure Context.SamePlace (before after : Context) : Prop where
  depth : after.depth = before.depth
  nesting : after.nesting = before.nesting
  inFunction : after.inFunction = before.inFunction

theorem Context.SamePlace.trans {first second third : Context} (earlier : first.SamePlace second)
    (later : second.SamePlace third) : first.SamePlace third where
  depth := later.depth.trans earlier.depth
  nesting := later.nesting.trans earlier.nesting
  inFunction := later.inFunction.trans earlier.inFunction

/-- A part of a walk that ends at the place at which it starts. -/
def Restores (writing : Writing α) : Prop :=
  ∀ context : Context, context.SamePlace (writing context).2

namespace Restores

theorem pure (value : α) : Restores (pure value) := fun _ => ⟨rfl, rfl, rfl⟩

theorem line (text : String) : Restores (line text) := fun _ => ⟨rfl, rfl, rfl⟩

theorem inFunction : Restores inFunction := fun _ => ⟨rfl, rfl, rfl⟩

theorem size : Restores size := fun _ => ⟨rfl, rfl, rfl⟩

theorem place (shape : Line) : Restores (place shape) := line _

theorem command (simple : Simple) : Restores (command simple) := place _

theorem bind {next : α → Writing β} (first : Restores writing)
    (second : ∀ value, Restores (next value)) : Restores (writing >>= next) :=
  fun context => (first context).trans (second _ _)

theorem ite {asked : Prop} [Decidable asked] {other : Writing α} (first : Restores writing)
    (second : Restores other) : Restores (if asked then writing else other) := by
  split
  · exact first
  · exact second

theorem commands (simples : List Simple) : Restores (commands simples) := by
  induction simples with
  | nil => exact .pure _
  | cons simple rest ih => exact (command simple).bind fun _ => ih

theorem ahead {pass : InContext.Pass α} (keeps : InContext.Keeps pass) :
    Restores (ahead pass) := by
  intro context
  obtain ⟨nesting, isLocal⟩ := keeps context.within
  have written := commands (pass context.within).2.commands
    (context.resume (pass context.within).2)
  exact ⟨written.depth, written.nesting.trans nesting, written.inFunction.trans isLocal⟩

theorem translate (name : String) : Restores (translate name) := ahead (.translate name)

theorem call (name : String) (arguments : List Expr) : Restores (call name arguments) :=
  (translate name).bind fun _ =>
    (ahead (InContext.values_keeps arguments)).bind fun _ => .pure _

theorem value (source : Expr) : Restores (Writer.ahead (InContext.value false source)) :=
  ahead (InContext.value_keeps false source)

theorem test (condition : Condition) :
    Restores (Writer.ahead (InContext.test false condition)) :=
  ahead (InContext.test_keeps false condition)

theorem orNothing {body : Writing Unit} (inner : Restores body) : Restores (orNothing body) :=
  size.bind fun _ => inner.bind fun _ => size.bind fun _ => .ite (command _) (.pure _)

/-- The depth that a body adds is taken away behind it. -/
theorem nested {body : Writing Unit} (inner : Restores body) : Restores (nested body) := by
  intro context
  have within := inner.orNothing { context with depth := context.depth + 1 }
  exact ⟨congrArg (· - 1) within.depth, within.nesting, within.inFunction⟩

theorem among (source : Statement) {contents : Writing Unit} (inner : Restores contents) :
    Restores (among source contents) :=
  .ite ((place _).bind fun _ => inner.nested.bind fun _ => place _) inner

end Restores

theorem assignment_restores (binding : Assignment) : Restores (assignment binding) := by
  obtain ⟨declaration, target, value⟩ := binding
  refine (Restores.translate target).bind fun _ => Restores.inFunction.bind fun _ => ?_
  cases value with
  | call name arguments =>
      exact (Restores.call name arguments).bind fun _ =>
        (Restores.command _).bind fun _ => .command _
  | _ => exact (Restores.value _).bind fun _ => .command _

theorem returnValue_restores (source : Expr) : Restores (returnValue source) := by
  cases source with
  | call name arguments =>
      exact (Restores.call name arguments).bind fun _ =>
        (Restores.command _).bind fun _ => .command _
  | _ => exact (Restores.value _).bind fun _ => (Restores.command _).bind fun _ => .command _

theorem expression_restores (source : Expr) : Restores (expression source) := by
  cases source with
  | call name arguments => exact (Restores.call name arguments).bind fun _ => .command _
  | raw fragments =>
      exact (Restores.ahead (InContext.rawCode_keeps fragments)).bind fun _ =>
        .ite (.command _) (.pure _)
  | _ => exact (Restores.value _).bind fun _ => .command _

mutual

theorem contents_restores (source : Statement) : Restores (contents source) := by
  match source with
  | .assignment binding => exact assignment_restores binding
  | .returnValue value => exact returnValue_restores value
  | .expression value => exact expression_restores value
  | .block statements => exact sequence_restores statements
  | .conditional condition body alternative =>
      exact (Restores.test condition).bind fun _ =>
        (Restores.place _).bind fun _ =>
          (contents_restores body).nested.bind fun _ =>
            (branch_restores alternative).bind fun _ => .place _

theorem branch_restores (alternative : Alternative) : Restores (branch alternative) := by
  match alternative with
  | .absent => exact .pure _
  | .otherwise body =>
      exact (Restores.place _).bind fun _ => (contents_restores body).nested
  | .elseIf condition body alternative =>
      have inner : Restores (nested (contents body)) := (contents_restores body).nested
      have further := branch_restores alternative
      have chained : Restores _ := (Restores.test condition).bind fun test =>
        (Restores.place (.ifThen test)).bind fun _ =>
          inner.bind fun _ => further.bind fun _ => .place .endIf
      exact .ite ((Restores.place _).bind fun _ => chained.nested)
        ((Restores.test condition).bind fun _ =>
          (Restores.place _).bind fun _ => inner.bind fun _ => further)

theorem sequence_restores (statements : List Statement) : Restores (sequence statements) := by
  match statements with
  | [] => exact .pure _
  | source :: rest =>
      exact ((contents_restores source).among source).bind fun _ => sequence_restores rest

end

theorem statement_restores (source : Statement) : Restores (statement source) :=
  (contents_restores source).among source

theorem parameters_restores (index : Nat) (names : List String) :
    Restores (parameters index names) := by
  induction names generalizing index with
  | nil => exact .pure _
  | cons name rest ih =>
      exact (Restores.translate name).bind fun _ => (Restores.command _).bind fun _ => ih _

/-- A function is left at its end, whether or not it was written inside another one. -/
theorem function_restores (source : FunctionDecl) (context : Context) :
    Context.SamePlace { context with inFunction := false } (function source context).2 := by
  let written : Writing Unit := do
    let shell ← translate source.name
    place (.functionHead shell)
  have head : Restores written := (Restores.translate source.name).bind fun _ => .place _
  have body := ((parameters_restores 1 source.parameters).bind fun _ =>
    sequence_restores source.body).nested
  have within := body { (written context).2 with inFunction := true }
  exact ⟨within.depth.trans (head context).depth, within.nesting.trans (head context).nesting, rfl⟩

end StructuredShell.Writer
