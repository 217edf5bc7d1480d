import StructuredShell.Proofs.Literals.Shapes
import StructuredShell.Proofs.Temporaries.Runs

/-!
# Where the texts in lines come from

A line holds three kinds of text that lowering does not make up: shell names of the program, literal
texts, and the code of raw environments. Everything else in it stands in the tree of the line. So a
temporary can be meant only where the tree says so, as long as the names keep clear of its name and
raw code is put together without temporaries.
-/

set_option autoImplicit false

namespace StructuredShell

open Shell Lowering

/-! ## Raw environments -/

mutual

/-- The raw environments of a value that stand in no other one. -/
def Expr.environments : Expr → List (List Fragment)
  | .var _ | .number _ | .text _ => []
  | .binary _ left right => left.environments ++ right.environments
  | .call _ arguments => Expr.environmentsOf arguments
  | .raw fragments => [fragments]

def Expr.environmentsOf : List Expr → List (List Fragment)
  | [] => []
  | value :: rest => value.environments ++ Expr.environmentsOf rest

end

theorem Expr.environmentsOf_append (values others : List Expr) :
    Expr.environmentsOf (values ++ others) =
      Expr.environmentsOf values ++ Expr.environmentsOf others := by
  induction values with
  | nil => rfl
  | cons value rest ih =>
      rw [List.cons_append, Expr.environmentsOf, Expr.environmentsOf, ih, List.append_assoc]

/-- What lowering may take from a program: its names and its raw environments. -/
structure Supply where
  names : List String
  environments : List (List Fragment)

def Program.supply (program : Program) (entryPoint : String) : Supply :=
  ⟨program.names ++ [entryPoint], Expr.environmentsOf program.values⟩

/-- Whether a part of a program, with its names and its values, is within a supply. -/
structure Supply.Has (supply : Supply) (names : List String) (values : List Expr) : Prop where
  names : names ⊆ supply.names
  environments : Expr.environmentsOf values ⊆ supply.environments

namespace Supply.Has

variable {supply : Supply} {names others : List String} {values rest : List Expr}

theorem split (has : supply.Has (names ++ others) (values ++ rest)) :
    supply.Has names values ∧ supply.Has others rest := by
  obtain ⟨hasNames, hasEnvironments⟩ := has
  rw [Expr.environmentsOf_append] at hasEnvironments
  rw [List.append_subset] at hasNames hasEnvironments
  exact ⟨⟨hasNames.1, hasEnvironments.1⟩, ⟨hasNames.2, hasEnvironments.2⟩⟩

/-- The first of some values and the others. -/
theorem first {value : Expr} (has : supply.Has (value.names ++ others) (value :: rest)) :
    supply.Has value.names [value] ∧ supply.Has others rest := by
  have together : supply.Has (value.names ++ others) ([value] ++ rest) := has
  exact together.split

theorem operands {operator : ArithOp} {left right : Expr}
    (has : supply.Has (Expr.binary operator left right).names [.binary operator left right]) :
    supply.Has left.names [left] ∧ supply.Has right.names [right] := by
  refine Supply.Has.split ⟨has.names, ?_⟩
  simpa [Expr.environmentsOf, Expr.environments] using has.environments

theorem arguments {name : String} {arguments : List Expr}
    (has : supply.Has (Expr.call name arguments).names [.call name arguments]) :
    name ∈ supply.names ∧ supply.Has (Expr.namesOf arguments) arguments := by
  obtain ⟨isName, areNames⟩ := List.cons_subset.mp has.names
  refine ⟨isName, areNames, ?_⟩
  simpa [Expr.environmentsOf, Expr.environments] using has.environments

end Supply.Has

/-! ## Texts in lines -/

/-- Whether the text in an operand is a name of the program or the code of a raw environment. -/
def Shell.Operand.From (names : String → String) (supply : Supply) : Operand → Prop
  | var name => name ∈ supply.names.map names
  | output code => code ∈ supply.environments.map (rawCode names)
  | number _ | temporary _ | result => True

/-- The names that a line sets, defines or runs. -/
def Shell.Line.names : Line → List String
  | simple (.call name _) | simple (.assign _ name _) | simple (.parameter name _) => [name]
  | functionHead name | entryPoint name => [name]
  | _ => []

/-- Code that is a line by itself. -/
def Shell.Line.code? : Line → Option String
  | simple (.verbatim code) => some code
  | _ => none

structure Shell.Line.From (names : String → String) (supply : Supply) (line : Line) : Prop where
  named : line.names ⊆ supply.names.map names
  code : ∀ code ∈ line.code?, code ∈ supply.environments.map (rawCode names)
  operands : ∀ operand ∈ line.operands, operand.From names supply

/-- A line without code of its own. -/
theorem Shell.Line.From.of_operands {names : String → String} {supply : Supply} {line : Line}
    (named : line.names ⊆ supply.names.map names) (noCode : line.code? = none)
    (operands : ∀ operand ∈ line.operands, operand.From names supply) : line.From names supply :=
  ⟨named, by simp [noCode], operands⟩

namespace Lowering

/-! ## Lowered parts -/

/-- A lowered part whose texts are those of the program. -/
structure Lowered.From {α : Type} (names : String → String) (supply : Supply)
    (operands : α → List Operand) (lowered : Lowered α) : Prop where
  setup : ∀ command ∈ lowered.setup, (Line.simple command).From names supply
  value : ∀ operand ∈ operands lowered.value, operand.From names supply

namespace Lowered.From

variable {α β γ : Type} {names : String → String} {supply : Supply}

theorem ready {operands : α → List Operand} {value : α}
    (isFrom : ∀ operand ∈ operands value, operand.From names supply) (used : Nat) :
    (Lowered.ready value used).From names supply operands :=
  ⟨List.forall_mem_nil _, isFrom⟩

theorem saved {lowered : Lowered Value} (isFrom : lowered.From names supply Value.operands)
    (isLocal : Bool) :
    (lowered.saved isLocal).From names supply fun operand => [operand] where
  setup := by
    have save : (Line.simple (.save isLocal (lowered.used + 1) lowered.value)).From names supply :=
      .of_operands (List.nil_subset _) rfl isFrom.value
    exact List.forall_mem_append.mpr ⟨isFrom.setup, by simpa using save⟩
  value := by simp [Lowered.saved, Operand.From]

theorem call {lowered : Lowered (List Value)}
    (isFrom : lowered.From names supply fun values => values.flatMap Value.operands)
    {name : String} (isName : name ∈ supply.names) :
    (Line.simple (.call (names name) lowered.value)).From names supply :=
  .of_operands (List.cons_subset.mpr ⟨List.mem_map_of_mem isName, List.nil_subset _⟩) rfl
    isFrom.value

theorem called {lowered : Lowered (List Value)}
    (isFrom : lowered.From names supply fun values => values.flatMap Value.operands)
    {name : String} (isName : name ∈ supply.names) :
    (Lowered.mk (lowered.setup ++ [.call (names name) lowered.value])
      (.arithmetic (.atom .result)) lowered.used).From names supply Value.operands where
  setup := List.forall_mem_append.mpr ⟨isFrom.setup, by simpa using isFrom.call isName⟩
  value := by simp [Value.operands, Formula.operands, Operand.From]

theorem both {first : Lowered α} {second : Lowered β} {operandsFirst : α → List Operand}
    {operandsSecond : β → List Operand} {operands : γ → List Operand} {join : α → β → γ}
    (fromFirst : first.From names supply operandsFirst)
    (fromSecond : second.From names supply operandsSecond)
    (joined : operands (join first.value second.value) =
      operandsFirst first.value ++ operandsSecond second.value) :
    (Lowered.mk (first.setup ++ second.setup) (join first.value second.value)
      second.used).From names supply operands where
  setup := List.forall_mem_append.mpr ⟨fromFirst.setup, fromSecond.setup⟩
  value := by
    dsimp only
    rw [joined]
    exact List.forall_mem_append.mpr ⟨fromFirst.value, fromSecond.value⟩

end Lowered.From

variable {supply : Supply}

theorem settled_from {names : String → String} (isLocal laterCall : Bool) (source : Expr)
    {used : Nat} {lower : Nat → Lowered (Formula Operand)}
    (isFrom : (lower used).From names supply Formula.operands) :
    (settled isLocal laterCall source used lower).From names supply Value.operands := by
  refine settled_cases isLocal laterCall source used lower ?_ ⟨isFrom.setup, isFrom.value⟩ ?_
  · intro text _
    exact .ready (List.forall_mem_nil _) used
  · intro lowered unsaved
    obtain ⟨setup, value⟩ := unsaved.saved isLocal
    exact ⟨setup, value⟩

mutual

theorem formula_from (names : String → String) (isLocal : Bool) (source : Expr)
    (has : supply.Has source.names [source]) (used : Nat) :
    (formula names isLocal source used).From names supply Formula.operands := by
  match source with
  | .var name =>
      have isName : name ∈ supply.names := has.names (.head _)
      rw [formula]
      refine .ready ?_ used
      simpa [Formula.operands, Operand.From] using ⟨name, isName, rfl⟩
  | .number _ =>
      rw [formula]
      exact .ready (by simp [Formula.operands, Operand.From]) used
  | .raw fragments =>
      have isEnvironment : fragments ∈ supply.environments := has.environments (.head _)
      rw [formula]
      refine .ready ?_ used
      simpa [Formula.operands, Operand.From] using ⟨fragments, isEnvironment, rfl⟩
  | .text text =>
      have unsaved : (Lowered.ready (Value.text text) used).From names supply Value.operands :=
        .ready (List.forall_mem_nil _) used
      obtain ⟨setup, value⟩ := unsaved.saved isLocal
      rw [formula]
      exact ⟨setup, value⟩
  | .call name arguments =>
      obtain ⟨isName, hasArguments⟩ := has.arguments
      have called := (values_from names isLocal arguments hasArguments used).called isName
      obtain ⟨setup, value⟩ := called.saved isLocal
      rw [formula]
      exact ⟨setup, value⟩
  | .binary operator left right =>
      obtain ⟨hasLeft, hasRight⟩ := has.operands
      have whole := formula_from names isLocal left hasLeft used
      have second := formula_from names isLocal right hasRight
      rw [formula]
      by_cases saves : (right.containsCall && !left.isStable) = true
      · have asValue : ((formula names isLocal left used).map Value.arithmetic).From names supply
            Value.operands := ⟨whole.setup, whole.value⟩
        have first : Lowered.From names supply Formula.operands
            ((((formula names isLocal left used).map Value.arithmetic).saved isLocal).map
              .atom) := ⟨(asValue.saved isLocal).setup, (asValue.saved isLocal).value⟩
        simp only [saves, if_true]
        exact first.both (second _) rfl
      · simp only [saves]
        exact whole.both (second _) rfl

theorem values_from (names : String → String) (isLocal : Bool) (sources : List Expr)
    (has : supply.Has (Expr.namesOf sources) sources) (used : Nat) :
    (values names isLocal sources used).From names supply
      fun values => values.flatMap Value.operands := by
  match sources with
  | [] =>
      rw [values]
      exact .ready (List.forall_mem_nil _) used
  | argument :: rest =>
      obtain ⟨hasFirst, hasRest⟩ := has.first
      have first := settled_from isLocal (rest.any Expr.containsCall) argument
        (formula_from names isLocal argument hasFirst used)
      rw [values]
      exact first.both (values_from names isLocal rest hasRest _) List.flatMap_cons

end

theorem value_from (names : String → String) (isLocal laterCall : Bool) {source : Expr}
    (has : supply.Has source.names [source]) (used : Nat) :
    (value names isLocal laterCall source used).From names supply Value.operands :=
  settled_from isLocal laterCall source (formula_from names isLocal source has used)

theorem test_from (names : String → String) (isLocal laterCall : Bool) {condition : Condition}
    (has : supply.Has condition.names condition.values) (used : Nat) :
    (test names isLocal laterCall condition used).From names supply Test.operands := by
  induction condition generalizing laterCall used with
  | constant value =>
      rw [test]
      exact .ready (List.forall_mem_nil _) used
  | comparison operator left right =>
      obtain ⟨hasLeft, hasRight⟩ := has.first
      rw [test]
      exact (value_from names isLocal _ hasLeft used).both
        (value_from names isLocal laterCall hasRight _) (operands_comparisonTest _ _ _ _ _)
  | conjunction left right leftIH rightIH =>
      obtain ⟨hasLeft, hasRight⟩ := has.split
      rw [test]
      exact (leftIH _ hasLeft used).both (rightIH laterCall hasRight _) rfl
  | disjunction left right leftIH rightIH =>
      obtain ⟨hasLeft, hasRight⟩ := has.split
      rw [test]
      exact (leftIH _ hasLeft used).both (rightIH laterCall hasRight _) rfl

/-! ## Values inside raw text -/

/-- No value inside raw text reads a temporary, or what a call hands back. -/
theorem inlineFormula_apart (names : String → String) (source : Expr) :
    ∀ operand ∈ (inlineFormula names source).operands,
      operand.temporary? = none ∧ operand ≠ .result := by
  match source with
  | .var _ | .number _ | .text _ | .call _ _ | .raw _ =>
      rw [inlineFormula]
      simp [Formula.operands, Operand.temporary?]
  | .binary operator left right =>
      rw [inlineFormula]
      exact List.forall_mem_append.mpr
        ⟨inlineFormula_apart names left, inlineFormula_apart names right⟩

end Lowering

end StructuredShell
