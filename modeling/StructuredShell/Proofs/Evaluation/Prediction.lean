import StructuredShell.Lowering.Context
import StructuredShell.Proofs.Evaluation.Setup
import StructuredShell.Proofs.Names.FirstUse

/-!
# Which commands run ahead is known beforehand

The pass through one context asks, each time it matters, whether it is inside raw text. Inside it
does what the lowering inside raw text does, and outside what the lowering outside does, however
deep the two are nested in each other. So nothing is written ahead from inside raw text, and whether
anything is written ahead from outside can be told from the source alone.
-/

set_option autoImplicit false

namespace StructuredShell.InContext

open Shell
open Lowering (Lowered)
open OnePass (Naming)

variable {α β : Type}

theorem bind_apply (pass : Pass α) (next : α → Pass β) (context : Context) :
    (pass >>= next) context = next (pass context).1 (pass context).2 := rfl

/-! ## Inside raw text -/

/-- A pass that inside raw text does nothing to its context but enter names. -/
def Inside (pass : Pass α) (naming : Naming α) : Prop :=
  ∀ context : Context, 0 < context.nesting →
    pass context = ((naming context.table).1, { context with table := (naming context.table).2 })

namespace Inside

theorem pure (value : α) : Inside (pure value) (pure value) := fun _ _ => rfl

theorem translate (name : String) : Inside (translate name) (OnePass.translate name) :=
  fun _ _ => rfl

theorem bind {pass : Pass α} {naming : Naming α} {next : α → Pass β} {namings : α → Naming β}
    (first : Inside pass naming) (second : ∀ value, Inside (next value) (namings value)) :
    Inside (pass >>= next) (naming >>= namings) := by
  intro context inside
  rw [bind_apply, first context inside]
  exact second _ _ inside

/-- A pass that asks where it is gets to know that it is inside. -/
theorem ask {next : Bool → Pass α} {naming : Naming α} (answered : Inside (next true) naming) :
    Inside (insideRawText >>= next) naming := by
  intro context inside
  rw [bind_apply, insideRawText, decide_eq_true inside]
  exact answered context inside

/-- Nothing is saved. -/
theorem kept (asked : Bool) (value : Value) (already : α) (afterwards : Operand → α) :
    Inside (kept asked value already afterwards) (Pure.pure already) := by
  apply ask
  rw [Bool.not_true, Bool.and_false]
  exact .pure already

theorem settle {source : Expr} {lower : Pass (Formula Operand)} (laterCall : Bool)
    (lowered : Inside lower (OnePass.inlineFormula source)) :
    Inside (settled laterCall source lower)
      (do return Lowering.valueOf source (← OnePass.inlineFormula source)) := by
  have unsaved : Inside (unsettled source lower)
      (do return Lowering.valueOf source (← OnePass.inlineFormula source)) := by
    cases source with
    | text text => exact .pure _
    | _ => exact lowered.bind fun _ => .pure _
  exact unsaved.bind fun value => kept _ value value _

theorem textOperand (text : String) :
    Inside (textOperand text) (Pure.pure (.output (Lowering.textCode text))) :=
  .ask (.pure _)

theorem callOperand (shell : String) (given : List Value) :
    Inside (callOperand shell given) (Pure.pure (.output (Lowering.callCode shell given))) :=
  .ask (.pure _)

end Inside

/-- The code of a raw environment takes a pass inside raw text, wherever it starts, and leaves it
where it started. -/
theorem enclosed_apply {lower : Pass String} {naming : Naming String} (inner : Inside lower naming)
    (context : Context) :
    enclosed lower context =
      (Text.trimEnd (naming context.table).1,
        { context with table := (naming context.table).2 }) := by
  have ran : enclosed lower context =
      let inner := lower { context with nesting := context.nesting + 1 }
      (Text.trimEnd inner.1, { inner.2 with nesting := inner.2.nesting - 1 }) := rfl
  rw [ran, inner _ (Nat.succ_pos _)]
  rfl

mutual

theorem formula_inside (source : Expr) :
    Inside (formula source) (OnePass.inlineFormula source) := by
  match source with
  | .var name => exact (Inside.translate name).bind fun _ => .pure _
  | .number _ => exact .pure _
  | .text text => exact (Inside.textOperand text).bind fun _ => .pure _
  | .raw fragments =>
      have enclosedInside : Inside (enclosed (code fragments)) (OnePass.rawCode fragments) :=
        fun context _ => enclosed_apply (code_inside fragments) context
      exact enclosedInside.bind fun _ => .pure _
  | .call name arguments =>
      exact (Inside.translate name).bind fun shell =>
        (values_inside arguments).bind fun given =>
          (Inside.callOperand shell given).bind fun _ => .pure _
  | .binary operator left right =>
      exact (formula_inside left).bind fun whole =>
        (Inside.kept _ (.arithmetic whole) whole .atom).bind fun _ =>
          (formula_inside right).bind fun _ => .pure _

theorem values_inside (sources : List Expr) :
    Inside (values sources) (OnePass.inlineValues sources) := by
  match sources with
  | [] => exact .pure _
  | argument :: rest =>
      have first := Inside.settle (rest.any Expr.containsCall) (formula_inside argument)
      exact first.bind fun _ => (values_inside rest).bind fun _ => .pure _

theorem code_inside (fragments : List Fragment) :
    Inside (code fragments) (OnePass.inlineCode fragments) := by
  match fragments with
  | [] => exact .pure _
  | .shell _ :: rest => exact (code_inside rest).bind fun _ => .pure _
  | .splice value :: rest =>
      have first := Inside.settle false (formula_inside value)
      exact first.bind fun _ => (code_inside rest).bind fun _ => .pure _

end

theorem rawCode_apply (fragments : List Fragment) (context : Context) :
    rawCode fragments context =
      ((OnePass.rawCode fragments context.table).1,
        { context with table := (OnePass.rawCode fragments context.table).2 }) :=
  enclosed_apply (code_inside fragments) context

/-! ## Outside raw text -/

/-- Lower one part and then another, of which the commands run one after the other. -/
def chained (first : Bool → Nat → Naming (Lowered α))
    (second : α → Bool → Nat → Naming (Lowered β)) (isLocal : Bool) (used : Nat) :
    Naming (Lowered β) := do
  let lowered ← first isLocal used
  let further ← second lowered.value isLocal lowered.used
  return ⟨lowered.setup ++ further.setup, further.value, further.used⟩

/-- What a part leaves behind when its commands are written ahead. -/
def Context.behind (context : Context) (part : Lowered α × NameTable) : α × Context :=
  (part.1.value, { context with
    table := part.2, used := part.1.used, commands := context.commands ++ part.1.setup })

/-- A pass that outside raw text writes ahead the commands of a part that is lowered. -/
def Outside (pass : Pass α) (lower : Bool → Nat → Naming (Lowered α)) : Prop :=
  ∀ context : Context, context.nesting = 0 →
    pass context = context.behind (lower context.isLocal context.used context.table)

theorem behind_ready (context : Context) (value : α) (table : NameTable) :
    context.behind (.ready value context.used, table) =
      (value, { context with table := table }) := by
  simp [Context.behind, Lowered.ready]

namespace Outside

variable {pass : Pass α} {lower other : Bool → Nat → Naming (Lowered α)}

theorem congr (outside : Outside pass lower)
    (same : ∀ isLocal used table, lower isLocal used table = other isLocal used table) :
    Outside pass other := by
  intro context isOutside
  rw [← same]
  exact outside context isOutside

theorem pure (value : α) : Outside (pure value) fun _ used => pure (.ready value used) :=
  fun context _ => (behind_ready context value context.table).symm

theorem naming {naming : Naming α}
    (ran : ∀ context, pass context =
      ((naming context.table).1, { context with table := (naming context.table).2 })) :
    Outside pass fun _ used => do return .ready (← naming) used := by
  intro context _
  rw [ran]
  exact (behind_ready context _ _).symm

theorem translate (name : String) :
    Outside (translate name) fun _ used => do return .ready (← OnePass.translate name) used :=
  .naming fun _ => rfl

theorem write (command : Simple) :
    Outside (write command) fun _ used => return ⟨[command], (), used⟩ :=
  fun _ _ => rfl

theorem save (value : Value) :
    Outside (save value) fun isLocal used => return (Lowered.ready value used).saved isLocal :=
  fun _ _ => rfl

theorem bind {next : α → Pass β} {lowers : α → Bool → Nat → Naming (Lowered β)}
    (first : Outside pass lower) (second : ∀ value, Outside (next value) (lowers value)) :
    Outside (pass >>= next) (chained lower lowers) := by
  intro context outside
  let part := lower context.isLocal context.used context.table
  have further := second part.1.value (context.behind part).2 outside
  rw [bind_apply, first context outside]
  refine further.trans ?_
  simp only [Context.behind, List.append_assoc]
  rfl

/-- A pass that asks where it is gets to know that it is outside. -/
theorem ask {next : Bool → Pass α} (answered : Outside (next false) lower) :
    Outside (insideRawText >>= next) lower := by
  intro context outside
  have notInside : ¬0 < context.nesting := by omega
  rw [bind_apply, insideRawText, decide_eq_false notInside]
  exact answered context outside

theorem map (first : Outside pass lower) (f : α → β) :
    Outside (do return f (← pass)) fun isLocal used => do
      return (← lower isLocal used).map f := by
  refine (first.bind fun value => .pure (f value)).congr fun isLocal used table => ?_
  simp [chained, Lowered.ready, Lowered.map]

/-- A value is saved as the lowering says. -/
theorem kept (asked : Bool) (value : Value) (already : α) (afterwards : Operand → α) :
    Outside (kept asked value already afterwards) fun isLocal used =>
      return if asked then ((Lowered.ready value used).saved isLocal).map afterwards
        else .ready already used := by
  apply ask
  rw [Bool.not_false, Bool.and_true]
  split
  · exact (save value).map afterwards
  · exact pure already

theorem settle {source : Expr} {lower : Pass (Formula Operand)} (laterCall : Bool)
    (lowered : Outside lower fun isLocal used => OnePass.formula isLocal source used) :
    Outside (settled laterCall source lower) fun isLocal used =>
      OnePass.value isLocal laterCall source used := by
  have unsaved : Outside (unsettled source lower) fun isLocal used =>
      OnePass.unsettled source used (OnePass.formula isLocal source) := by
    cases source with
    | text text => exact .pure _
    | _ => exact lowered.map Value.arithmetic
  refine (unsaved.bind fun value => kept _ value value _).congr fun isLocal used table => ?_
  simp only [chained, OnePass.value, OnePass.settled]
  split
  · simp [Lowered.ready, Lowered.saved, Lowered.map]
  · simp [Lowered.ready]

theorem textOperand (text : String) :
    Outside (textOperand text) fun isLocal used =>
      return (Lowered.ready (.text text) used).saved isLocal :=
  .ask (save (.text text))

theorem callOperand (shell : String) (given : List Value) :
    Outside (callOperand shell given) fun isLocal used =>
      return Lowered.saved isLocal ⟨[.call shell given], Lowering.resultValue, used⟩ :=
  .ask ((write (.call shell given)).bind fun _ => save Lowering.resultValue)

end Outside

mutual

theorem formula_outside (source : Expr) :
    Outside (formula source) fun isLocal used => OnePass.formula isLocal source used := by
  match source with
  | .var name => exact (Outside.translate name).map fun shell => Formula.atom (Operand.var shell)
  | .number _ => exact .pure _
  | .text text => exact (Outside.textOperand text).map Formula.atom
  | .raw fragments =>
      exact (Outside.naming (rawCode_apply fragments)).map fun code =>
        Formula.atom (Operand.output code)
  | .call name arguments =>
      refine ((Outside.translate name).bind fun shell =>
        (values_outside arguments).bind fun given =>
          (Outside.callOperand shell given).map Formula.atom).congr ?_
      intro isLocal used table
      simp [chained, OnePass.formula, Lowered.ready, Lowered.saved, Lowered.map,
        Lowering.resultValue]
  | .binary operator left right =>
      refine ((formula_outside left).bind fun whole =>
        (Outside.kept _ (.arithmetic whole) whole .atom).bind fun first =>
          (formula_outside right).map fun second => Formula.binary operator first second).congr ?_
      intro isLocal used table
      simp only [chained, OnePass.formula]
      split
      · simp [Lowered.ready, Lowered.saved, Lowered.map]
      · simp [Lowered.ready, Lowered.map]

theorem values_outside (sources : List Expr) :
    Outside (values sources) fun isLocal used => OnePass.values isLocal sources used := by
  match sources with
  | [] => exact .pure _
  | argument :: rest =>
      have first := Outside.settle (rest.any Expr.containsCall) (formula_outside argument)
      refine (first.bind fun value => (values_outside rest).map (value :: ·)).congr ?_
      intro isLocal used table
      rfl

end

theorem value_outside (laterCall : Bool) (source : Expr) :
    Outside (value laterCall source) fun isLocal used =>
      OnePass.value isLocal laterCall source used :=
  .settle laterCall (formula_outside source)

theorem test_outside (laterCall : Bool) (condition : Condition) :
    Outside (test laterCall condition) fun isLocal used =>
      OnePass.test isLocal laterCall condition used := by
  induction condition generalizing laterCall with
  | constant value => exact .pure _
  | comparison operator left right =>
      exact (value_outside _ left).bind fun first =>
        (value_outside laterCall right).map (Lowering.comparisonTest operator left right first)
  | conjunction left right leftIH rightIH =>
      exact (leftIH _).bind fun first => (rightIH laterCall).map (Test.conjunction first)
  | disjunction left right leftIH rightIH =>
      exact (leftIH _).bind fun first => (rightIH laterCall).map (Test.disjunction first)

/-! ## Predictions -/

/-- How names are written once some more have been entered. -/
def Context.spelling (context : Context) (names : List String) : String → String :=
  (context.table.translateAll names).shellName

/-- A pass that makes a value and leaves the commands, the temporaries and the nesting as they
were. -/
structure Context.WritesNothing (before : Context) (outcome : α × Context) (made : α) : Prop where
  value : outcome.1 = made
  commands : outcome.2.commands = before.commands
  used : outcome.2.used = before.used
  nesting : outcome.2.nesting = before.nesting

/-- A pass that makes what a part is lowered to and writes its commands ahead, of which there is one
at least exactly when that was foretold. -/
structure Context.WritesAhead (before : Context) (outcome : α × Context) (lowered : Lowered α)
    (foretold : Bool) : Prop where
  value : outcome.1 = lowered.value
  commands : outcome.2.commands = before.commands ++ lowered.setup
  some_command : lowered.setup ≠ [] ↔ foretold = true
  used : outcome.2.used = lowered.used
  nesting : outcome.2.nesting = before.nesting

section

variable {pass : Pass α} {names : List String} {context : Context}

theorem Inside.writesNothing {naming : Naming α} {made : (String → String) → α}
    (runs : Inside pass naming) (translates : OnePass.Translates naming names made)
    (inside : 0 < context.nesting) (later : List String) :
    context.WritesNothing (pass context) (made (context.spelling (names ++ later))) := by
  rw [runs context inside]
  exact ⟨translates.value context.table later, rfl, rfl, rfl⟩

theorem Outside.writesAhead {lower : Bool → Nat → Naming (Lowered α)}
    {lowered : (String → String) → Lowered α} {foretold : Bool} (runs : Outside pass lower)
    (translates : OnePass.Translates (lower context.isLocal context.used) names lowered)
    (outside : context.nesting = 0)
    (empty : ∀ spelling, (lowered spelling).setup = [] ↔ foretold = false) (later : List String) :
    context.WritesAhead (pass context) (lowered (context.spelling (names ++ later))) foretold := by
  have isLowered := translates.value context.table later
  rw [runs context outside, Context.behind, isLowered]
  refine ⟨rfl, rfl, ?_, rfl, rfl⟩
  rw [ne_eq, empty, Bool.not_eq_false]

end

theorem value_inside (laterCall : Bool) (source : Expr) :
    Inside (value laterCall source)
      (do return Lowering.valueOf source (← OnePass.inlineFormula source)) :=
  .settle laterCall (formula_inside source)

/-- Which commands run ahead is known beforehand. Outside raw text some command is written ahead of
a value, or of a test, exactly when `hoists` says so of the source; the commands and the value are
those of the lowering. Inside raw text a value is made without writing a command or taking a
temporary, and the pass is as deep in raw text afterwards as it was before. The same holds of a raw
environment, wherever it stands. -/
theorem commands_foretold (context : Context) (later : List String) :
    (context.nesting = 0 →
      (∀ source : Expr, context.WritesAhead (value false source context)
        (Lowering.value (context.spelling (source.names ++ later)) context.isLocal false source
          context.used) source.hoists) ∧
      ∀ condition : Condition, context.WritesAhead (test false condition context)
        (Lowering.test (context.spelling (condition.names ++ later)) context.isLocal false condition
          context.used) condition.hoists) ∧
    (0 < context.nesting → ∀ source : Expr,
      let inside := Lowering.inlineFormula (context.spelling (source.names ++ later)) source
      context.WritesNothing (formula source context) inside ∧
      ∀ laterCall, context.WritesNothing (value laterCall source context)
        (Lowering.valueOf source inside)) ∧
    ∀ fragments : List Fragment, context.WritesNothing (rawCode fragments context)
      (Lowering.rawCode (context.spelling (Fragment.namesOf fragments ++ later)) fragments) := by
  refine ⟨fun outside => ⟨fun source => ?_, fun condition => ?_⟩, fun inside source => ⟨?_, ?_⟩, ?_⟩
  · exact (value_outside false source).writesAhead
      (OnePass.value_translates context.isLocal false source context.used) outside
      (fun spelling => Lowering.value_setup_eq_nil_iff spelling _ source _) later
  · exact (test_outside false condition).writesAhead
      (OnePass.test_translates context.isLocal false condition context.used) outside
      (fun spelling => Lowering.test_setup_eq_nil_iff spelling _ condition _) later
  · exact (formula_inside source).writesNothing (OnePass.inlineFormula_translates source) inside
      later
  · intro laterCall
    exact (value_inside laterCall source).writesNothing
      ((OnePass.inlineFormula_translates source).map (Lowering.valueOf source)) inside later
  · intro fragments
    rw [rawCode_apply]
    exact ⟨(OnePass.rawCode_translates fragments).value context.table later, rfl, rfl, rfl⟩

/-- A sum of a variable and literal text, times a call. The call is handed the output of raw text in
which another call is spliced. -/
def productWithCalls : Expr :=
  .binary .multiply (.binary .add (.var "x") (.text "1"))
    (.call "f" [.raw [.shell "echo ", .splice (.call "g" [])]])

theorem commands_foretold_product :
    productWithCalls.hoists = true ∧
    (value false productWithCalls ⟨.empty, true, 0, 7, []⟩).2.commands ≠ [] ∧
    (value false productWithCalls ⟨.empty, true, 2, 7, []⟩).2.commands = [] ∧
    (value false productWithCalls ⟨.empty, true, 2, 7, []⟩).2.used = 7 ∧
    (value false productWithCalls ⟨.empty, true, 2, 7, []⟩).2.nesting = 2 := by
  have outside := ((commands_foretold ⟨.empty, true, 0, 7, []⟩ []).1 rfl).1 productWithCalls
  have inside :=
    ((commands_foretold ⟨.empty, true, 2, 7, []⟩ []).2.1 (by decide) productWithCalls).2 false
  refine ⟨rfl, ?_, inside.commands, inside.used, inside.nesting⟩
  rw [outside.commands]
  exact outside.some_command.mpr rfl

end StructuredShell.InContext
