import StructuredShell.Proofs.Temporaries.Programs

/-!
# The calls of lowered values

Outside raw text every call of a value becomes one command, and these commands stand in the order in
which the calls run. Every raw environment of the value becomes the code of one operand. So lowering
drops nothing that a value runs, and adds nothing to it.
-/

set_option autoImplicit false

namespace StructuredShell

open Shell Lowering

/-! ## What a value runs -/

mutual

/-- The functions that a value calls outside raw text, in the order in which the calls run:
arguments before the call that takes them. -/
def Expr.calls : Expr → List String
  | .var _ | .number _ | .text _ | .raw _ => []
  | .binary _ left right => left.calls ++ right.calls
  | .call name arguments => Expr.callsOf arguments ++ [name]

def Expr.callsOf : List Expr → List String
  | [] => []
  | value :: rest => value.calls ++ Expr.callsOf rest

end

mutual

/-- The functions that a value calls anywhere, also inside the splices of raw text. -/
def Expr.invoked : Expr → List String
  | .var _ | .number _ | .text _ => []
  | .binary _ left right => left.invoked ++ right.invoked
  | .call name arguments => name :: Expr.invokedOf arguments
  | .raw fragments => Fragment.invokedOf fragments

def Expr.invokedOf : List Expr → List String
  | [] => []
  | value :: rest => value.invoked ++ Expr.invokedOf rest

def Fragment.invokedOf : List Fragment → List String
  | [] => []
  | .shell _ :: rest => Fragment.invokedOf rest
  | .splice value :: rest => value.invoked ++ Fragment.invokedOf rest

end

mutual

/-- A function is called outside raw text or in one of the raw environments. -/
theorem Expr.mem_invoked_iff (name : String) (value : Expr) :
    name ∈ value.invoked ↔
      name ∈ value.calls ∨
        ∃ fragments ∈ value.environments, name ∈ Fragment.invokedOf fragments := by
  match value with
  | .var _ | .number _ | .text _ => simp [Expr.invoked, Expr.calls, Expr.environments]
  | .raw fragments => simp [Expr.invoked, Expr.calls, Expr.environments]
  | .binary operator left right =>
      simp only [Expr.invoked, Expr.calls, Expr.environments, List.mem_append,
        Expr.mem_invoked_iff name left, Expr.mem_invoked_iff name right]
      grind
  | .call function arguments =>
      simp only [Expr.invoked, Expr.calls, Expr.environments, List.mem_cons, List.mem_append,
        Expr.mem_invokedOf_iff name arguments]
      grind

theorem Expr.mem_invokedOf_iff (name : String) (values : List Expr) :
    name ∈ Expr.invokedOf values ↔
      name ∈ Expr.callsOf values ∨
        ∃ fragments ∈ Expr.environmentsOf values, name ∈ Fragment.invokedOf fragments := by
  match values with
  | [] => simp [Expr.invokedOf, Expr.callsOf, Expr.environmentsOf]
  | value :: rest =>
      simp only [Expr.invokedOf, Expr.callsOf, Expr.environmentsOf, List.mem_append,
        Expr.mem_invoked_iff name value, Expr.mem_invokedOf_iff name rest]
      grind

end

theorem Expr.invokedOf_eq_flatMap (values : List Expr) :
    Expr.invokedOf values = values.flatMap Expr.invoked := by
  induction values with
  | nil => rfl
  | cons value rest ih => rw [Expr.invokedOf, ih, List.flatMap_cons]

mutual

theorem Expr.calls_subset_names (value : Expr) : value.calls ⊆ value.names := by
  match value with
  | .var _ | .number _ | .text _ | .raw _ => simp [Expr.calls]
  | .binary operator left right =>
      rw [Expr.calls, Expr.names]
      exact List.append_subset.mpr
        ⟨List.subset_append_of_subset_left _ left.calls_subset_names,
          List.subset_append_of_subset_right _ right.calls_subset_names⟩
  | .call name arguments =>
      rw [Expr.calls, Expr.names]
      exact List.append_subset.mpr
        ⟨List.subset_cons_of_subset _ (Expr.callsOf_subset_namesOf arguments), by simp⟩

theorem Expr.callsOf_subset_namesOf (values : List Expr) :
    Expr.callsOf values ⊆ Expr.namesOf values := by
  match values with
  | [] => simp [Expr.callsOf]
  | value :: rest =>
      rw [Expr.callsOf, Expr.namesOf]
      exact List.append_subset.mpr
        ⟨List.subset_append_of_subset_left _ value.calls_subset_names,
          List.subset_append_of_subset_right _ (Expr.callsOf_subset_namesOf rest)⟩

end

theorem Assignment.callsOf_subset_names (bindings : List Assignment) :
    Expr.callsOf (bindings.map Assignment.value) ⊆ bindings.flatMap Assignment.names := by
  induction bindings with
  | nil => simp [Expr.callsOf]
  | cons binding rest ih =>
      have first : binding.value.calls ⊆ binding.names :=
        List.subset_cons_of_subset _ binding.value.calls_subset_names
      rw [List.map_cons, Expr.callsOf, List.flatMap_cons]
      exact List.append_subset.mpr
        ⟨List.subset_append_of_subset_left _ first, List.subset_append_of_subset_right _ ih⟩

/-! ## What lowered parts run -/

def Shell.Simple.called? : Simple → Option String
  | call name _ => some name
  | _ => none

theorem Shell.Simple.called?_eq_some {command : Simple} {name : String}
    (isCall : command.called? = some name) : ∃ arguments, command = .call name arguments := by
  cases command with
  | call called arguments =>
      cases isCall
      exact ⟨arguments, rfl⟩
  | _ => cases isCall

namespace Lowering

/-- A lowered part with the given calls, each as a command, and the given raw environments. -/
structure Lowered.Runs {α : Type} (names : String → String) (calls : List String)
    (environments : List (List Fragment)) (operands : α → List Operand) (lowered : Lowered α) :
    Prop where
  calls : lowered.setup.filterMap Simple.called? = calls.map names
  codes : ∀ fragments ∈ environments, .output (rawCode names fragments) ∈
    lowered.setup.flatMap Simple.operands ++ operands lowered.value

namespace Lowered.Runs

variable {α β γ : Type} {names : String → String} {calls others : List String}
  {environments more : List (List Fragment)}

theorem ready (operands : α → List Operand) (value : α) (used : Nat) :
    (Lowered.ready value used).Runs names [] [] operands :=
  ⟨rfl, List.forall_mem_nil _⟩

theorem saved {lowered : Lowered Value}
    (runs : lowered.Runs names calls environments Value.operands) (isLocal : Bool) :
    (lowered.saved isLocal).Runs names calls environments fun operand => [operand] where
  calls := by simpa [Lowered.saved, Simple.called?, List.filterMap_cons] using runs.calls
  codes := by
    intro fragments isEnvironment
    have isWritten := runs.codes fragments isEnvironment
    simp only [Lowered.saved, List.flatMap_append, List.flatMap_singleton, Simple.operands]
    exact List.mem_append_left _ isWritten

theorem called {lowered : Lowered (List Value)}
    (runs : lowered.Runs names calls environments fun values => values.flatMap Value.operands)
    (name : String) :
    (Lowered.mk (lowered.setup ++ [.call (names name) lowered.value])
      (.arithmetic (.atom .result)) lowered.used).Runs names (calls ++ [name]) environments
        Value.operands where
  calls := by simp [runs.calls, Simple.called?]
  codes := by
    intro fragments isEnvironment
    have isWritten := runs.codes fragments isEnvironment
    simp only [List.flatMap_append, List.flatMap_singleton, Simple.operands]
    exact List.mem_append_left _ isWritten

theorem both {first : Lowered α} {second : Lowered β} {operandsFirst : α → List Operand}
    {operandsSecond : β → List Operand} {operands : γ → List Operand} {join : α → β → γ}
    (runsFirst : first.Runs names calls environments operandsFirst)
    (runsSecond : second.Runs names others more operandsSecond)
    (joined : operands (join first.value second.value) =
      operandsFirst first.value ++ operandsSecond second.value) :
    (Lowered.mk (first.setup ++ second.setup) (join first.value second.value)
      second.used).Runs names (calls ++ others) (environments ++ more) operands where
  calls := by simp [runsFirst.calls, runsSecond.calls]
  codes := by
    intro fragments isEnvironment
    simp only [joined, List.flatMap_append, List.mem_append]
    rcases List.mem_append.mp isEnvironment with isFirst | isSecond
    · have isWritten := runsFirst.codes fragments isFirst
      rw [List.mem_append] at isWritten
      exact isWritten.imp .inl .inl
    · have isWritten := runsSecond.codes fragments isSecond
      rw [List.mem_append] at isWritten
      exact isWritten.imp .inr .inr

end Lowered.Runs

theorem settled_runs {names : String → String} (isLocal laterCall : Bool) (source : Expr)
    {used : Nat} {lower : Nat → Lowered (Formula Operand)}
    (runs : (lower used).Runs names source.calls source.environments Formula.operands) :
    (settled isLocal laterCall source used lower).Runs names source.calls source.environments
      Value.operands := by
  refine settled_cases isLocal laterCall source used lower ?_ ⟨runs.calls, runs.codes⟩ ?_
  · rintro text rfl
    exact .ready Value.operands _ used
  · intro lowered unsaved
    obtain ⟨calls, codes⟩ := unsaved.saved isLocal
    exact ⟨calls, codes⟩

mutual

theorem formula_runs (names : String → String) (isLocal : Bool) (source : Expr) (used : Nat) :
    (formula names isLocal source used).Runs names source.calls source.environments
      Formula.operands := by
  match source with
  | .var _ | .number _ =>
      rw [formula]
      exact .ready Formula.operands _ used
  | .raw fragments =>
      rw [formula]
      refine ⟨rfl, ?_⟩
      simp [Expr.environments, Lowered.ready, Formula.operands]
  | .text text =>
      have unsaved : (Lowered.ready (Value.text text) used).Runs names [] [] Value.operands :=
        .ready Value.operands _ used
      obtain ⟨calls, codes⟩ := unsaved.saved isLocal
      rw [formula]
      exact ⟨calls, codes⟩
  | .call name arguments =>
      have called := (values_runs names isLocal arguments used).called name
      obtain ⟨calls, codes⟩ := called.saved isLocal
      rw [formula]
      exact ⟨calls, codes⟩
  | .binary operator left right =>
      have whole := formula_runs names isLocal left used
      have second := formula_runs names isLocal right
      rw [formula]
      by_cases saves : (right.containsCall && !left.isStable) = true
      · have asValue : ((formula names isLocal left used).map Value.arithmetic).Runs names
            left.calls left.environments Value.operands := ⟨whole.calls, whole.codes⟩
        have first : Lowered.Runs names left.calls left.environments Formula.operands
            ((((formula names isLocal left used).map Value.arithmetic).saved isLocal).map
              .atom) := ⟨(asValue.saved isLocal).calls, (asValue.saved isLocal).codes⟩
        simp only [saves, if_true]
        exact first.both (second _) rfl
      · simp only [saves]
        exact whole.both (second _) rfl

theorem values_runs (names : String → String) (isLocal : Bool) (sources : List Expr)
    (used : Nat) :
    (values names isLocal sources used).Runs names (Expr.callsOf sources)
      (Expr.environmentsOf sources) fun values => values.flatMap Value.operands := by
  match sources with
  | [] =>
      rw [values]
      exact .ready _ _ used
  | argument :: rest =>
      have first := settled_runs isLocal (rest.any Expr.containsCall) argument
        (formula_runs names isLocal argument used)
      rw [values]
      exact first.both (values_runs names isLocal rest _) List.flatMap_cons

end

theorem value_runs (names : String → String) (isLocal laterCall : Bool) (source : Expr)
    (used : Nat) :
    (value names isLocal laterCall source used).Runs names source.calls source.environments
      Value.operands :=
  settled_runs isLocal laterCall source (formula_runs names isLocal source used)

/-! ## What globals run -/

theorem assignment_runs (names : String → String) (isLocal : Bool) (binding : Assignment)
    (used : Nat) :
    (assignment names isLocal binding used).lines.filterMap Simple.called? =
        binding.value.calls.map names ∧
      ∀ fragments ∈ binding.value.environments, .output (rawCode names fragments) ∈
        (assignment names isLocal binding used).lines.flatMap Simple.operands := by
  unfold assignment
  split
  · next name arguments isCall =>
      have runs := values_runs names isLocal arguments used
      rw [lines_emit, isCall]
      refine ⟨by simp [runs.calls, Simple.called?, Expr.calls], ?_⟩
      intro fragments isEnvironment
      have isWritten := runs.codes fragments isEnvironment
      simp only [List.mem_append] at isWritten
      simp only [List.flatMap_append, List.flatMap_cons, Simple.operands, List.mem_append]
      exact isWritten.imp_right .inl
  · have runs := value_runs names isLocal false binding.value used
    rw [lines_emit]
    refine ⟨by simpa [Simple.called?, List.filterMap_cons] using runs.calls, ?_⟩
    intro fragments isEnvironment
    simpa [Simple.operands] using runs.codes fragments isEnvironment

theorem globals_commands (names : String → String) (bindings : List Assignment) (used : Nat) :
    (globals names bindings used).commands = (globals names bindings used).lines.map .simple := by
  induction bindings generalizing used with
  | nil => rfl
  | cons binding rest ih =>
      have first := assignment_commands names false binding used
      have others := ih (assignment names false binding used).used
      simp only [globals, Emitted.lines, List.filterMap_append, List.map_append] at first others ⊢
      rw [← first, ← others]

theorem globals_runs (names : String → String) (bindings : List Assignment) (used : Nat) :
    (globals names bindings used).lines.filterMap Simple.called? =
        (Expr.callsOf (bindings.map Assignment.value)).map names ∧
      ∀ fragments ∈ Expr.environmentsOf (bindings.map Assignment.value),
        .output (rawCode names fragments) ∈
          (globals names bindings used).lines.flatMap Simple.operands := by
  induction bindings generalizing used with
  | nil => exact ⟨rfl, List.forall_mem_nil _⟩
  | cons binding rest ih =>
      obtain ⟨calls, codes⟩ := assignment_runs names false binding used
      obtain ⟨otherCalls, otherCodes⟩ := ih (assignment names false binding used).used
      have lines : (globals names (binding :: rest) used).lines =
          (assignment names false binding used).lines ++
            (globals names rest (assignment names false binding used).used).lines := by
        simp only [globals, Emitted.lines, List.filterMap_append]
      rw [lines, List.filterMap_append, List.flatMap_append, calls, otherCalls]
      refine ⟨by simp [Expr.callsOf], ?_⟩
      intro fragments isEnvironment
      rw [List.map_cons, Expr.environmentsOf, List.mem_append] at isEnvironment
      exact List.mem_append.mpr
        (isEnvironment.imp (codes fragments) (otherCodes fragments))

end Lowering

end StructuredShell
