import Mathlib
import StructuredShell.Lowering.Condition
import StructuredShell.Shell.Layout

/-!
# Temporaries in straight-line code

The commands that lowering puts ahead of a value save temporaries, and these commands and the value
read them. What keeps a temporary from being read in the wrong place is one invariant of straight
lines, with the operands that are still to be used: temporaries are saved in the order of their
numbers, each is read once, and after the line that saves it; and what a call hands back is read in
the line after the call or not at all.
-/

set_option autoImplicit false

namespace StructuredShell.Shell

open scoped List

/-! ## What lines read and save -/

def Formula.operands {α : Type} : Formula α → List α
  | atom value => [value]
  | binary _ left right => left.operands ++ right.operands

def Value.operands : Value → List Operand
  | text _ => []
  | arithmetic formula => formula.operands

def Test.operands : Test → List Operand
  | constant _ => []
  | numeric _ left right => left.operands ++ right.operands
  | textual _ left right => left.operands ++ right.operands
  | conjunction left right => left.operands ++ right.operands
  | disjunction left right => left.operands ++ right.operands

def Simple.operands : Simple → List Operand
  | call _ arguments => arguments.flatMap Value.operands
  | save _ _ value => value.operands
  | assign _ _ value => value.operands
  | handBack value => value.operands
  | evaluate value => value.operands
  | parameter _ _ | leave | verbatim _ | nothing => []

def Line.operands : Line → List Operand
  | simple command => command.operands
  | ifThen test | elifThen test => test.operands
  | _ => []

/-- The temporary that a line saves. -/
def Line.saved? : Line → Option Nat
  | simple (.save _ index _) => some index
  | _ => none

/-- The temporary that an operand reads. -/
def Operand.temporary? : Operand → Option Nat
  | temporary index => some index
  | _ => none

/-- The temporaries that operands read, once for each time. -/
def references (operands : List Operand) : List Nat := operands.filterMap Operand.temporary?

def readIn (lines : List Line) : List Nat := references (lines.flatMap Line.operands)

def savedIn (lines : List Line) : List Nat := lines.filterMap Line.saved?

@[simp] theorem references_nil : references [] = [] := rfl

@[simp] theorem references_append (first second : List Operand) :
    references (first ++ second) = references first ++ references second := List.filterMap_append

@[simp] theorem readIn_nil : readIn [] = [] := rfl

@[simp] theorem readIn_append (first second : List Line) :
    readIn (first ++ second) = readIn first ++ readIn second := by
  simp [readIn]

@[simp] theorem readIn_singleton (line : Line) : readIn [line] = references line.operands := by
  simp [readIn]

@[simp] theorem savedIn_nil : savedIn [] = [] := rfl

@[simp] theorem savedIn_append (first second : List Line) :
    savedIn (first ++ second) = savedIn first ++ savedIn second := List.filterMap_append

/-! ## Lines in order -/

/-- Whether the last of some lines runs a function. -/
def EndsWithCall (lines : List Line) : Prop :=
  ∃ earlier name arguments, lines = earlier ++ [.simple (.call name arguments)]

/-- Straight lines that save the temporaries after `used` up to `last`, with the operands `held`
that are to be read after them. -/
structure Disciplined (isLocal : Bool) (used : Nat) (lines : List Line) (held : List Operand)
    (last : Nat) : Prop where
  used_le : used ≤ last
  saved : savedIn lines = List.range' (used + 1) (last - used)
  once : (readIn lines ++ references held).Perm (savedIn lines)
  later : ∀ before after flag index value,
    lines = before ++ .simple (.save flag index value) :: after →
      flag = isLocal ∧ index ∈ readIn after ++ references held
  results : ∀ before line after, lines = before ++ line :: after → .result ∈ line.operands →
    EndsWithCall before
  settled : .result ∉ held

theorem range'_append_range' {used middle last : Nat} (first : used ≤ middle)
    (second : middle ≤ last) :
    List.range' (used + 1) (middle - used) ++ List.range' (middle + 1) (last - middle) =
      List.range' (used + 1) (last - used) := by
  have next : middle + 1 = used + 1 + 1 * (middle - used) := by omega
  have whole : last - used = (middle - used) + (last - middle) := by omega
  rw [next, whole, List.range'_append]

/-- A member of two lists one after the other stands in the first one or in the second one. -/
theorem split_append {α : Type} {first second before after : List α} {member : α}
    (same : first ++ second = before ++ member :: after) :
    (∃ rest, first = before ++ member :: rest ∧ after = rest ++ second) ∨
      ∃ earlier, before = first ++ earlier ∧ second = earlier ++ member :: after := by
  rcases List.append_eq_append_iff.mp same with ⟨earlier, isBefore, isSecond⟩ |
    ⟨between, isFirst, isRest⟩
  · exact .inr ⟨earlier, isBefore, isSecond⟩
  · rcases List.cons_eq_append_iff.mp isRest with ⟨rfl, isSecond⟩ | ⟨rest, rfl, isAfter⟩
    · exact .inr ⟨[], by simpa using isFirst.symm, isSecond⟩
    · exact .inl ⟨rest, isFirst, isAfter⟩

theorem EndsWithCall.behind {lines : List Line} (ends : EndsWithCall lines) (first : List Line) :
    EndsWithCall (first ++ lines) := by
  obtain ⟨earlier, name, arguments, rfl⟩ := ends
  exact ⟨first ++ earlier, name, arguments, (List.append_assoc _ _ _).symm⟩

namespace Disciplined

variable {isLocal : Bool} {used middle last : Nat} {lines more : List Line}
  {held others : List Operand}

/-- Operands that read no temporary need no lines. -/
theorem ready (quiet : references held = []) (settled : .result ∉ held) (used : Nat) :
    Disciplined isLocal used [] held used where
  used_le := Nat.le_refl used
  saved := by simp
  once := by simp [quiet]
  later := by simp
  results := by simp
  settled := settled

theorem append (first : Disciplined isLocal used lines held middle)
    (second : Disciplined isLocal middle more others last) :
    Disciplined isLocal used (lines ++ more) (held ++ others) last where
  used_le := first.used_le.trans second.used_le
  saved := by
    rw [savedIn_append, first.saved, second.saved,
      range'_append_range' first.used_le second.used_le]
  once := by
    rw [readIn_append, references_append, savedIn_append]
    calc readIn lines ++ readIn more ++ (references held ++ references others)
      _ = readIn lines ++ (readIn more ++ references held) ++ references others := by
          simp only [List.append_assoc]
      _ ~ readIn lines ++ (references held ++ readIn more) ++ references others :=
          (List.perm_append_comm.append_left _).append_right _
      _ = (readIn lines ++ references held) ++ (readIn more ++ references others) := by
          simp only [List.append_assoc]
      _ ~ savedIn lines ++ savedIn more := first.once.append second.once
  later := by
    intro before after flag index value same
    rcases split_append same with ⟨rest, isFirst, rfl⟩ | ⟨earlier, rfl, isSecond⟩
    · obtain ⟨isFlag, isRead⟩ := first.later _ _ _ _ _ isFirst
      refine ⟨isFlag, ?_⟩
      rw [readIn_append, references_append]
      rcases List.mem_append.mp isRead with inRest | isHeld <;> simp [*]
    · obtain ⟨isFlag, isRead⟩ := second.later _ _ _ _ _ isSecond
      refine ⟨isFlag, ?_⟩
      rw [references_append]
      rcases List.mem_append.mp isRead with inAfter | isOther <;> simp [*]
  results := by
    intro before line after same reads
    rcases split_append same with ⟨rest, isFirst, rfl⟩ | ⟨earlier, rfl, isSecond⟩
    · exact first.results _ _ _ isFirst reads
    · exact (second.results _ _ _ isSecond reads).behind lines
  settled := by simp [first.settled, second.settled]

/-- A line that reads what is held. -/
theorem reading (disciplined : Disciplined isLocal used lines held last) (line : Line)
    (same : references line.operands = references held) (plain : line.saved? = none)
    (result : .result ∈ line.operands → EndsWithCall lines) :
    Disciplined isLocal used (lines ++ [line]) [] last where
  used_le := disciplined.used_le
  saved := by simpa [savedIn, plain] using disciplined.saved
  once := by simpa [same, savedIn, plain] using disciplined.once
  later := by
    intro before after flag index value isSave
    rcases split_append isSave with ⟨rest, isLines, rfl⟩ | ⟨earlier, rfl, isLast⟩
    · simpa [same] using disciplined.later _ _ _ _ _ isLines
    · rcases List.singleton_eq_append_iff.mp isLast with ⟨-, isLine⟩ | ⟨-, nothing⟩
      · cases isLine
        cases plain
      · cases nothing
  results := by
    intro before other after isOther reads
    rcases split_append isOther with ⟨rest, isLines, rfl⟩ | ⟨earlier, rfl, isLast⟩
    · exact disciplined.results _ _ _ isLines reads
    · rcases List.singleton_eq_append_iff.mp isLast with ⟨rfl, isLine⟩ | ⟨-, nothing⟩
      · cases isLine
        simpa using result reads
      · cases nothing
  settled := List.not_mem_nil

/-- A line that reads nothing and saves nothing. -/
theorem silent (disciplined : Disciplined isLocal used lines [] last) (line : Line)
    (noOperands : line.operands = []) (plain : line.saved? = none) :
    Disciplined isLocal used (lines ++ [line]) [] last :=
  disciplined.reading line (by rw [noOperands]) plain (by simp [noOperands])

/-- A line that saves what is held, so that only its temporary remains to be read. -/
theorem saving (disciplined : Disciplined isLocal used lines held last) (value : Value)
    (same : references value.operands = references held)
    (result : .result ∈ value.operands → EndsWithCall lines) :
    Disciplined isLocal used (lines ++ [.simple (.save isLocal (last + 1) value)])
      [.temporary (last + 1)] (last + 1) where
  used_le := Nat.le_succ_of_le disciplined.used_le
  saved := by
    have := disciplined.used_le
    have count : last + 1 - used = (last - used) + 1 := by omega
    have number : last + 1 = used + 1 + 1 * (last - used) := by omega
    rw [savedIn_append, disciplined.saved, count, List.range'_concat, ← number]
    rfl
  once := by
    rw [readIn_append, readIn_singleton, savedIn_append]
    refine List.Perm.append_right [last + 1] ?_
    simpa [Line.operands, Simple.operands, same] using disciplined.once
  later := by
    intro before after flag index saved isSave
    rcases split_append isSave with ⟨rest, isLines, rfl⟩ | ⟨earlier, rfl, isLast⟩
    · obtain ⟨isFlag, isRead⟩ := disciplined.later _ _ _ _ _ isLines
      refine ⟨isFlag, List.mem_append_left _ ?_⟩
      rw [readIn_append, readIn_singleton]
      simpa [Line.operands, Simple.operands, same] using isRead
    · rcases List.singleton_eq_append_iff.mp isLast with ⟨-, isLine⟩ | ⟨-, nothing⟩
      · cases isLine
        exact ⟨rfl, by simp [references, Operand.temporary?]⟩
      · cases nothing
  results := by
    intro before other after isOther reads
    rcases split_append isOther with ⟨rest, isLines, rfl⟩ | ⟨earlier, rfl, isLast⟩
    · exact disciplined.results _ _ _ isLines reads
    · rcases List.singleton_eq_append_iff.mp isLast with ⟨rfl, isLine⟩ | ⟨-, nothing⟩
      · cases isLine
        simpa using result reads
      · cases nothing
  settled := by simp

end Disciplined

end StructuredShell.Shell

namespace StructuredShell.Lowering

open Shell

/-! ## Lowered parts -/

/-- A lowered part whose commands and operands are in order. -/
def Lowered.Disciplined {α : Type} (isLocal : Bool) (used : Nat) (operands : α → List Operand)
    (lowered : Lowered α) : Prop :=
  Shell.Disciplined isLocal used (lowered.setup.map Line.simple) (operands lowered.value)
    lowered.used

namespace Lowered.Disciplined

variable {α β γ : Type} {isLocal : Bool} {used : Nat}

theorem saved {lowered : Lowered Value}
    (disciplined : lowered.Disciplined isLocal used Value.operands) :
    (lowered.saved isLocal).Disciplined isLocal used fun operand => [operand] := by
  have saved := disciplined.saving lowered.value rfl
    fun reads => absurd reads disciplined.settled
  simpa [Lowered.Disciplined, Lowered.saved] using saved

theorem called {lowered : Lowered (List Value)}
    (disciplined : lowered.Disciplined isLocal used fun values => values.flatMap Value.operands)
    (name : String) :
    (Lowered.saved isLocal ⟨lowered.setup ++ [.call name lowered.value],
      .arithmetic (.atom .result), lowered.used⟩).Disciplined isLocal used
        fun operand => [operand] := by
  have called := disciplined.reading (.simple (.call name lowered.value)) rfl rfl
    fun reads => absurd reads disciplined.settled
  have saved := called.saving (.arithmetic (.atom .result)) rfl
    fun _ => ⟨_, name, lowered.value, rfl⟩
  simpa [Lowered.Disciplined, Lowered.saved] using saved

theorem both {first : Lowered α} {second : Lowered β} {operandsFirst : α → List Operand}
    {operandsSecond : β → List Operand} {operands : γ → List Operand} {join : α → β → γ}
    (disciplinedFirst : first.Disciplined isLocal used operandsFirst)
    (disciplinedSecond : second.Disciplined isLocal first.used operandsSecond)
    (joined : operands (join first.value second.value) =
      operandsFirst first.value ++ operandsSecond second.value) :
    (Lowered.mk (first.setup ++ second.setup) (join first.value second.value)
      second.used).Disciplined isLocal used operands := by
  have together := disciplinedFirst.append disciplinedSecond
  simpa [Lowered.Disciplined, joined] using together

end Lowered.Disciplined

/-- What holds of literal text and of a formula, and stays when a value is saved, holds of a value
that is ready for a command. -/
@[elab_as_elim]
theorem settled_cases {motive : Lowered Value → Prop} (isLocal laterCall : Bool) (source : Expr)
    (used : Nat) (lower : Nat → Lowered (Formula Operand))
    (literal : ∀ text, source = .text text → motive (.ready (.text text) used))
    (computed : motive ((lower used).map Value.arithmetic))
    (saved : ∀ lowered, motive lowered →
      motive ((lowered.saved isLocal).map fun operand => .arithmetic (.atom operand))) :
    motive (settled isLocal laterCall source used lower) := by
  have kept (saves : Bool) {lowered : Lowered Value} (unsaved : motive lowered) :
      motive (if saves then (lowered.saved isLocal).map fun operand => .arithmetic (.atom operand)
        else lowered) := by
    split
    · exact saved lowered unsaved
    · exact unsaved
  unfold settled
  apply kept
  cases source with
  | text text => exact literal text rfl
  | _ => exact computed

theorem settled_disciplined (isLocal laterCall : Bool) (source : Expr) {used : Nat}
    {lower : Nat → Lowered (Formula Operand)}
    (disciplined : (lower used).Disciplined isLocal used Formula.operands) :
    (settled isLocal laterCall source used lower).Disciplined isLocal used Value.operands := by
  refine settled_cases isLocal laterCall source used lower ?_ disciplined ?_
  · intro text _
    exact .ready rfl List.not_mem_nil used
  · intro lowered unsaved
    exact Lowered.Disciplined.saved unsaved

mutual

theorem formula_disciplined (names : String → String) (isLocal : Bool) (source : Expr)
    (used : Nat) :
    (formula names isLocal source used).Disciplined isLocal used Formula.operands := by
  match source with
  | .var _ | .number _ | .raw _ =>
      rw [formula]
      exact .ready rfl (by simp [Lowered.ready, Formula.operands]) used
  | .text text =>
      have unsaved : (Lowered.ready (Value.text text) used).Disciplined isLocal used
          Value.operands := .ready rfl List.not_mem_nil used
      rw [formula]
      exact unsaved.saved
  | .call name arguments =>
      rw [formula]
      exact (values_disciplined names isLocal arguments used).called (names name)
  | .binary operator left right =>
      have whole := formula_disciplined names isLocal left used
      have second := formula_disciplined names isLocal right
      rw [formula]
      by_cases saves : (right.containsCall && !left.isStable) = true
      · have first : Lowered.Disciplined isLocal used Formula.operands
            ((((formula names isLocal left used).map Value.arithmetic).saved isLocal).map
              .atom) := Lowered.Disciplined.saved whole
        simp only [saves, if_true]
        exact first.both (second _) rfl
      · simp only [saves]
        exact whole.both (second _) rfl

theorem values_disciplined (names : String → String) (isLocal : Bool) (sources : List Expr)
    (used : Nat) :
    (values names isLocal sources used).Disciplined isLocal used
      fun values => values.flatMap Value.operands := by
  match sources with
  | [] =>
      rw [values]
      exact .ready rfl List.not_mem_nil used
  | argument :: rest =>
      have first := settled_disciplined isLocal (rest.any Expr.containsCall) argument
        (formula_disciplined names isLocal argument used)
      rw [values]
      exact first.both (values_disciplined names isLocal rest _) List.flatMap_cons

end

theorem value_disciplined (names : String → String) (isLocal laterCall : Bool) (source : Expr)
    (used : Nat) :
    (value names isLocal laterCall source used).Disciplined isLocal used Value.operands :=
  settled_disciplined isLocal laterCall source (formula_disciplined names isLocal source used)

theorem operands_comparisonTest (operator : RelOp) (left right : Expr) (first second : Value) :
    (comparisonTest operator left right first second).operands =
      first.operands ++ second.operands := by
  unfold comparisonTest
  split <;> rfl

theorem test_disciplined (names : String → String) (isLocal laterCall : Bool)
    (condition : Condition) (used : Nat) :
    (test names isLocal laterCall condition used).Disciplined isLocal used Test.operands := by
  induction condition generalizing laterCall used with
  | constant value =>
      rw [test]
      exact .ready rfl List.not_mem_nil used
  | comparison operator left right =>
      rw [test]
      exact (value_disciplined names isLocal _ left used).both
        (value_disciplined names isLocal laterCall right _) (operands_comparisonTest _ _ _ _ _)
  | conjunction left right leftIH rightIH =>
      rw [test]
      exact (leftIH _ used).both (rightIH laterCall _) rfl
  | disjunction left right leftIH rightIH =>
      rw [test]
      exact (leftIH _ used).both (rightIH laterCall _) rfl

end StructuredShell.Lowering
