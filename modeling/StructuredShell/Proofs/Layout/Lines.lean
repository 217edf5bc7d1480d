import StructuredShell.Lowering.Writer
import StructuredShell.Proofs.Evaluation.Prediction
import StructuredShell.Proofs.Literals.Uniform
import StructuredShell.Proofs.Temporaries.Layout

/-!
# What is written is a list of placed lines

The text that the walk adds for a part of a program is the text of lines that the lowering gives,
each at the depth at which it is nested. Which lines these are has nothing to do with the options,
and neither have the names and the temporaries. That a body has written nothing shows in the size of
the text, because a line of any text at any depth takes up at least one byte.
-/

set_option autoImplicit false

namespace StructuredShell.Writer

open Shell
open Lowering (Lowered Emitted)
open OnePass (Naming)
open PlacedLine (textOf textOf_append)

variable {α β : Type} {isLocal : Bool}

/-! ## The text of lines -/

/-- The size of a text tells whether lines have been added to it, whatever the indent is. -/
theorem size_append_textOf (out indent : String) (lines : List PlacedLine) :
    (out ++ textOf indent lines).utf8ByteSize = out.utf8ByteSize ↔ lines = [] := by
  cases lines with
  | nil => simp [textOf]
  | cons placed rest => simp [textOf, PlacedLine.text]

theorem linesOf_eq_nil_iff (depth : Nat) (commands : List Command) :
    Command.linesOf depth commands = [] ↔ commands = [] := by
  match commands with
  | [] => simp [Command.linesOf]
  | .simple _ :: _ | .group _ :: _ | .conditional _ _ _ :: _ =>
      simp [Command.linesOf, Command.lines]

/-! ## Parts of the walk -/

theorem bind_apply (writing : Writing α) (next : α → Writing β) (context : Context) :
    (writing >>= next) context = next (writing context).1 (writing context).2 := rfl

/-- A part that has been written: its lines, what it becomes, and the number of temporaries in use
after it. -/
structure Written (α : Type) where
  lines : List PlacedLine
  value : α
  used : Nat

/-- What a part leaves behind when its lines are written. -/
def Context.behind (context : Context) (part : Written α × NameTable) : α × Context :=
  (part.1.value, { context with
    table := part.2, used := part.1.used
    out := context.out ++ textOf context.options.indent part.1.lines })

theorem Context.behind_nothing (context : Context) (value : α) :
    context.behind (⟨[], value, context.used⟩, context.table) = (value, context) := by
  simp [Context.behind, textOf]

theorem Context.behind_behind (context : Context) (part : Written α × NameTable)
    (further : Written β × NameTable) :
    (context.behind part).2.behind further =
      context.behind (⟨part.1.lines ++ further.1.lines, further.1.value, further.1.used⟩,
        further.2) := by
  simp only [Context.behind, textOf_append, String.append_assoc]

/-- A part of the walk that outside raw text writes given lines, which depend on the depth, the
temporaries in use and the names so far. -/
def Writes (isLocal : Bool) (writing : Writing α) (lay : Nat → Nat → Naming (Written α)) : Prop :=
  ∀ context : Context, context.nesting = 0 → context.inFunction = isLocal →
    writing context = context.behind (lay context.depth context.used context.table)

/-- Write one part and then another. -/
def chained (first : Nat → Nat → Naming (Written α))
    (second : α → Nat → Nat → Naming (Written β)) (depth used : Nat) : Naming (Written β) := do
  let written ← first depth used
  let further ← second written.value depth written.used
  return ⟨written.lines ++ further.lines, further.value, further.used⟩

namespace Writes

variable {writing : Writing α} {lay other : Nat → Nat → Naming (Written α)}

theorem congr (writes : Writes isLocal writing lay)
    (same : ∀ depth used table, lay depth used table = other depth used table) :
    Writes isLocal writing other := by
  intro context outside scope
  rw [← same]
  exact writes context outside scope

theorem pure (value : α) : Writes isLocal (pure value) fun _ used => return ⟨[], value, used⟩ :=
  fun context _ _ => (context.behind_nothing value).symm

theorem inFunction : Writes isLocal inFunction fun _ used => return ⟨[], isLocal, used⟩ := by
  rintro context _ rfl
  exact (context.behind_nothing context.inFunction).symm

theorem place (shape : Line) :
    Writes isLocal (place shape) fun depth used => return ⟨[⟨depth, shape⟩], (), used⟩ := by
  intro context _ _
  let indent := context.options.indent
  have text : context.out ++ String.join (List.replicate context.depth indent) ++ shape.text ++
      "\n" = context.out ++ textOf indent [⟨context.depth, shape⟩] := by
    simp [textOf, PlacedLine.text, String.append_assoc]
  exact congrArg (fun out => ((), { context with out := out })) text

theorem bind {next : α → Writing β} {lays : α → Nat → Nat → Naming (Written β)}
    (first : Writes isLocal writing lay)
    (second : ∀ value, Writes isLocal (next value) (lays value)) :
    Writes isLocal (writing >>= next) (chained lay lays) := by
  intro context outside scope
  let part := lay context.depth context.used context.table
  rw [bind_apply, first context outside scope]
  have further := second part.1.value (context.behind part).2 outside scope
  exact further.trans (context.behind_behind part _)

theorem commands (simples : List Simple) :
    Writes isLocal (commands simples) fun depth used =>
      return ⟨Run.placed ⟨depth, simples.map Line.simple⟩, (), used⟩ := by
  induction simples with
  | nil => exact .pure ()
  | cons simple rest ih => exact (place (.simple simple)).bind fun _ => ih

/-- The commands that a value or a test needs are written at the depth of the walk. -/
theorem ahead {pass : InContext.Pass α} {lower : Bool → Nat → Naming (Lowered α)}
    (runs : InContext.Outside pass lower) :
    Writes isLocal (ahead pass) fun depth used => do
      let lowered ← lower isLocal used
      return ⟨Run.placed ⟨depth, lowered.setup.map Line.simple⟩, lowered.value, lowered.used⟩ := by
  rintro context outside rfl
  let part := lower context.inFunction context.used context.table
  have ran : pass context.within = context.within.behind part := runs context.within outside
  have written := commands part.1.setup (context.resume (context.within.behind part).2) outside rfl
  rw [Writer.ahead, ran]
  exact congrArg (fun after => (part.1.value, after.2)) written

theorem translate (name : String) :
    Writes isLocal (translate name) fun _ used => do
      return ⟨[], ← OnePass.translate name, used⟩ :=
  ahead (InContext.Outside.translate name)

theorem call (name : String) (arguments : List Expr) :
    Writes isLocal (call name arguments) fun depth used => do
      let shell ← OnePass.translate name
      let lowered ← OnePass.values isLocal arguments used
      return ⟨Run.placed ⟨depth, lowered.setup.map Line.simple⟩, .call shell lowered.value,
        lowered.used⟩ := by
  refine ((translate name).bind fun shell =>
    (ahead (InContext.values_outside arguments)).bind fun given =>
      .pure (Simple.call shell given)).congr ?_
  intro depth used table
  simp [chained]

end Writes

/-! ## Statements without a body -/

/-- A part of the walk that writes the lines of commands. -/
def Emits (isLocal : Bool) (writing : Writing Unit) (emit : Nat → Naming Emitted) : Prop :=
  Writes isLocal writing fun depth used => do
    let emitted ← emit used
    return ⟨Command.linesOf depth emitted.commands, (), emitted.used⟩

theorem linesOf_emit (depth : Nat) (lowered : Lowered α) (finishing : α → List Simple) :
    Command.linesOf depth (lowered.emit finishing).commands =
      Run.placed ⟨depth, lowered.setup.map Line.simple⟩ ++
        (finishing lowered.value).map fun simple => ⟨depth, .simple simple⟩ := by
  rw [Lowered.emit, Command.linesOf_simple]
  simp [Run.placed]

theorem assignment_emits (isLocal : Bool) (binding : Assignment) :
    Emits isLocal (assignment binding) (OnePass.assignment isLocal binding) := by
  obtain ⟨declaration, target, value⟩ := binding
  cases value with
  | call name arguments =>
      refine ((Writes.translate target).bind fun _ => Writes.inFunction.bind fun _ =>
        (Writes.call name arguments).bind fun _ => (Writes.place _).bind fun _ => .place _).congr ?_
      intro depth used table
      simp [chained, OnePass.assignment, linesOf_emit]
  | _ =>
      refine ((Writes.translate target).bind fun _ => Writes.inFunction.bind fun _ =>
        (Writes.ahead (InContext.value_outside false _)).bind fun _ => .place _).congr ?_
      intro depth used table
      simp [chained, OnePass.assignment, linesOf_emit]

theorem returnValue_emits (source : Expr) :
    Emits true (returnValue source) (OnePass.returnValue source) := by
  cases source with
  | call name arguments =>
      refine ((Writes.call name arguments).bind fun _ => (Writes.place _).bind fun _ =>
        .place _).congr ?_
      intro depth used table
      simp [chained, OnePass.returnValue, linesOf_emit]
  | _ =>
      refine ((Writes.ahead (InContext.value_outside false _)).bind fun _ =>
        (Writes.place _).bind fun _ => .place _).congr ?_
      intro depth used table
      simp [chained, OnePass.returnValue, linesOf_emit]

theorem expression_emits (source : Expr) :
    Emits true (expression source) (OnePass.expression source) := by
  cases source with
  | call name arguments =>
      refine ((Writes.call name arguments).bind fun _ => .place _).congr ?_
      intro depth used table
      simp [chained, OnePass.expression, linesOf_emit]
  | raw fragments =>
      have written (code : String) :
          Writes true (if !code.isEmpty then command (.verbatim code) else pure ())
            fun depth used => return ⟨if code.isEmpty then [] else
              [⟨depth, .simple (.verbatim code)⟩], (), used⟩ := by
        cases code.isEmpty with
        | true => exact .pure ()
        | false => exact .place _
      refine ((Writes.ahead (.naming (InContext.rawCode_apply fragments))).bind written).congr ?_
      intro depth used table
      simp [chained, OnePass.expression, linesOf_emit, Lowered.ready, apply_ite (List.map _)]
  | _ =>
      refine ((Writes.ahead (InContext.value_outside false _)).bind fun _ => .place _).congr ?_
      intro depth used table
      simp [chained, OnePass.expression, linesOf_emit]

/-! ## Bodies -/

theorem orNothing_apply (body : Writing Unit) (context : Context) :
    orNothing body context =
      if (body context).2.out.utf8ByteSize = context.out.utf8ByteSize then
        command .nothing (body context).2
      else ((), (body context).2) := by
  exact ite_apply _ _ _ _

theorem Emits.orNothing {body : Writing Unit} {emit : Nat → Naming Emitted}
    (emits : Emits isLocal body emit) :
    Emits isLocal (orNothing body) fun used => do
      let inner ← emit used
      return ⟨bodyOf inner.commands, inner.used⟩ := by
  intro context outside scope
  let part := emit context.used context.table
  let lines := Command.linesOf context.depth part.1.commands
  have ran : body context = context.behind (⟨lines, (), part.1.used⟩, part.2) :=
    emits context outside scope
  -- The walk compares sizes of texts; the lowering asks whether there are commands.
  have unchanged : (body context).2.out.utf8ByteSize = context.out.utf8ByteSize ↔
      part.1.commands = [] := by
    rw [ran]
    exact (size_append_textOf ..).trans (linesOf_eq_nil_iff ..)
  rw [orNothing_apply]
  by_cases empty : part.1.commands = []
  · have filled : lines ++ [⟨context.depth, .simple .nothing⟩] =
        Command.linesOf context.depth (bodyOf part.1.commands) := by
      simp [lines, bodyOf, empty, Command.linesOf, Command.lines]
    have written : Writes isLocal (command .nothing) _ := .place (.simple .nothing)
    rw [if_pos (unchanged.mpr empty), ran]
    refine (written (context.behind _).2 outside scope).trans ?_
    refine (context.behind_behind _ _).trans ?_
    exact congrArg (fun lines => context.behind (⟨lines, (), part.1.used⟩, part.2)) filled
  · have kept : lines = Command.linesOf context.depth (bodyOf part.1.commands) := by
      simp [lines, bodyOf, empty]
    rw [if_neg (mt unchanged.mp empty), ran]
    exact congrArg (fun lines => context.behind (⟨lines, (), part.1.used⟩, part.2)) kept

theorem Emits.nested {body : Writing Unit} {emit : Nat → Naming Emitted}
    (emits : Emits isLocal body emit) :
    Writes isLocal (nested body) fun depth used => do
      let inner ← emit used
      return ⟨Command.linesOf (depth + 1) (bodyOf inner.commands), (), inner.used⟩ := by
  intro context outside scope
  have within := emits.orNothing { context with depth := context.depth + 1 } outside scope
  exact congrArg (fun after : Unit × Context => ((), { after.2 with depth := after.2.depth - 1 }))
    within

/-! ## Statements -/

theorem Emits.among {source : Statement}
    (emits : Emits true (contents source) (OnePass.contents source)) :
    Emits true (among source (contents source)) fun used => do
      let inner ← OnePass.contents source used
      return ⟨if Lowering.isBlock source then [.group (bodyOf inner.commands)] else inner.commands,
        inner.used⟩ := by
  unfold Writer.among
  cases Lowering.isBlock source with
  | true =>
      refine ((Writes.place .openGroup).bind fun _ => emits.nested.bind fun _ =>
        .place .closeGroup).congr ?_
      intro depth used table
      simp [chained, Command.linesOf, Command.lines]
  | false => exact emits

/-- What stands between the body of a conditional and its end, with that end. -/
def branchEnd (alternative : Alternative) : Writing Unit := do
  branch alternative
  place .endIf

def conditional (condition : Condition) (body : Statement) (alternative : Alternative) :
    Writing Unit := do
  let test ← ahead (InContext.test false condition)
  place (.ifThen test)
  nested (contents body)
  branchEnd alternative

/-- What follows the body of a conditional is written as the branch that it is lowered to. -/
def EndsWith (alternative : Alternative) : Prop :=
  Writes true (branchEnd alternative) fun depth used => do
    let other ← OnePass.branch alternative used
    return ⟨other.1.lines depth, (), other.2⟩

/-- A further condition is part of the chain, or a conditional of its own if commands run ahead of
it. -/
theorem branchEnd_elseIf (condition : Condition) (body : Statement) (alternative : Alternative) :
    branchEnd (.elseIf condition body alternative) =
      if condition.hoists then (do
        place .otherwise
        nested (conditional condition body alternative)
        place .endIf)
      else (do
        let test ← ahead (InContext.test false condition)
        place (.elifThen test)
        nested (contents body)
        branchEnd alternative) := by
  rw [branchEnd, branch]
  split
  · rfl
  · rfl

theorem conditional_emits (condition : Condition) {body : Statement} {alternative : Alternative}
    (inner : Emits true (contents body) (OnePass.contents body)) (ends : EndsWith alternative) :
    Emits true (conditional condition body alternative)
      (OnePass.contents (.conditional condition body alternative)) := by
  refine ((Writes.ahead (InContext.test_outside false condition)).bind fun test =>
    (Writes.place (.ifThen test)).bind fun _ => inner.nested.bind fun _ => ends).congr ?_
  intro depth used table
  simp [chained, OnePass.contents, Command.linesOf_conditional, Run.placed]

/-- Nothing is written ahead of a test that does not hoist. -/
theorem Writes.unhoisted_test {condition : Condition} (unhoisted : condition.hoists = false) :
    Writes true (Writer.ahead (InContext.test false condition)) fun _ used => do
      let lowered ← OnePass.test true false condition used
      return ⟨[], lowered.value, lowered.used⟩ := by
  refine (Writes.ahead (InContext.test_outside false condition)).congr fun depth used table => ?_
  have isLowered := (OnePass.test_translates true false condition used).value table []
  have noSetup : (OnePass.test true false condition used table).1.setup = [] := by
    rw [isLowered, Lowering.test_setup_eq_nil_iff]
    exact unhoisted
  exact congrArg (fun setup => (Written.mk (Run.placed ⟨depth, setup.map Line.simple⟩) _ _, _))
    noSetup

mutual

theorem contents_emits (source : Statement) :
    Emits true (contents source) (OnePass.contents source) := by
  match source with
  | .assignment binding => exact assignment_emits true binding
  | .returnValue value => exact returnValue_emits value
  | .expression value => exact expression_emits value
  | .block statements => exact sequence_emits statements
  | .conditional condition body alternative =>
      exact conditional_emits condition (contents_emits body) (branch_ends alternative)

theorem branch_ends (alternative : Alternative) : EndsWith alternative := by
  match alternative with
  | .absent => exact .place .endIf
  | .otherwise body =>
      refine ((Writes.place .otherwise).bind fun _ => (contents_emits body).nested.bind fun _ =>
        .place .endIf).congr ?_
      intro depth used table
      simp [chained, OnePass.branch, Branch.lines]
  | .elseIf condition body alternative =>
      have inner := contents_emits body
      have ends := branch_ends alternative
      unfold EndsWith
      rw [branchEnd_elseIf]
      cases hoists : condition.hoists with
      | true =>
          -- What runs ahead of the test stands behind `else`, ahead of a conditional of its own.
          have own := (conditional_emits condition inner ends).nested
          refine ((Writes.place .otherwise).bind fun _ => own.bind fun _ => .place .endIf).congr ?_
          intro depth used table
          simp [chained, OnePass.branch, OnePass.contents, hoists, Branch.lines, bodyOf]
      | false =>
          refine ((Writes.unhoisted_test hoists).bind fun test =>
            (Writes.place (.elifThen test)).bind fun _ => inner.nested.bind fun _ => ends).congr ?_
          intro depth used table
          simp [chained, OnePass.branch, hoists, Branch.lines]

theorem sequence_emits (statements : List Statement) :
    Emits true (sequence statements) (OnePass.sequence statements) := by
  match statements with
  | [] => exact .pure ()
  | source :: rest =>
      have inner := contents_emits source
      have others := sequence_emits rest
      refine (inner.among.bind fun _ => others).congr ?_
      intro depth used table
      simp [chained, OnePass.sequence, Command.linesOf_append]

end

end StructuredShell.Writer
