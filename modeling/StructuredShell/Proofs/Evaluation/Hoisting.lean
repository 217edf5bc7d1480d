import StructuredShell.Lowering.Statement
import StructuredShell.Proofs.Evaluation.Meaning
import StructuredShell.Shell.Spelling

/-!
# Hoisting keeps evaluation

Running the commands that lowering puts ahead of a value, and then reading the lowered value, makes
the calls of direct evaluation in their order, with the same arguments, and ends with the same store
and the same value.

The induction needs to know what may happen between a lowered part and its use. A part keeps its
value while the temporaries it knows keep theirs, and while the store does not change unless the
part is stable.
-/

set_option autoImplicit false

namespace StructuredShell.Lowering

open Shell

variable {V S : Type}

/-! ## Lowered parts that keep an evaluation -/

def SameTemporaries (used : Nat) (machine other : Machine V S) : Prop :=
  ∀ index ≤ used, other.temporaries index = machine.temporaries index

theorem SameTemporaries.trans {used larger : Nat} {first second third : Machine V S}
    (left : SameTemporaries used first second) (right : SameTemporaries larger second third)
    (bounded : used ≤ larger) : SameTemporaries used first third :=
  fun index small => (right index (Nat.le_trans small bounded)).trans (left index small)

/-- A call of the source program as shell code makes it. -/
def shellCall (names : String → String) (call : String × List V) : String × List V :=
  (names call.1, call.2)

/-- Running the commands of a lowered part leads from one machine to another with the effects of an
evaluation, and the part then reads as the value of that evaluation. The reading may be put off:
temporaries that are taken later do not disturb it, and if the part is stable, a change of the store
does not either. -/
structure Keeps {α β : Type} (world : World V S) (names : String → String)
    (read : Machine V S → α → β) (stable : Bool) (machine : Machine V S) (used : Nat)
    (direct : Outcome V S β) (lowered : Lowered α) (final : Machine V S) : Prop where
  ran : world.run? machine lowered.setup = some final
  store : final.store = direct.store
  calls : final.calls = machine.calls ++ direct.calls.map (shellCall names)
  used_le : used ≤ lowered.used
  earlier : SameTemporaries used machine final
  reads : ∀ later : Machine V S, SameTemporaries lowered.used final later →
    (stable = false → later.store = final.store) → read later lowered.value = direct.value

namespace Keeps

variable {α β γ : Type} {world : World V S} {names : String → String} {stable : Bool}
  {machine middle final : Machine V S} {used : Nat}

theorem reads_now {read : Machine V S → α → β} {direct : Outcome V S β} {lowered : Lowered α}
    (kept : Keeps world names read stable machine used direct lowered final) :
    read final lowered.value = direct.value :=
  kept.reads final (fun _ _ => rfl) (fun _ => rfl)

/-- A part that needs no command keeps an evaluation without effects. -/
theorem ready {read : Machine V S → α → β} {value : α} {direct : β}
    (reads : ∀ later : Machine V S,
      (stable = false → later.store = machine.store) → read later value = direct) :
    Keeps world names read stable machine used ⟨direct, machine.store, []⟩
      (.ready value used) machine where
  ran := rfl
  store := rfl
  calls := by simp
  used_le := Nat.le_refl used
  earlier := fun _ _ => rfl
  reads := fun later _ sameStore => reads later sameStore

/-- What is read from a part may be read from another form of it. -/
theorem map {read : Machine V S → α → β} {read' : Machine V S → γ → β} {f : α → γ}
    {direct : Outcome V S β} {lowered : Lowered α}
    (kept : Keeps world names read stable machine used direct lowered final)
    (same : ∀ (later : Machine V S) (value : α), read' later (f value) = read later value) :
    Keeps world names read' stable machine used direct (lowered.map f) final where
  ran := kept.ran
  store := kept.store
  calls := kept.calls
  used_le := kept.used_le
  earlier := kept.earlier
  reads := fun later agrees sameStore =>
    (same later lowered.value).trans (kept.reads later agrees sameStore)

theorem saved {direct : Outcome V S V} {lowered : Lowered Value} (isLocal : Bool)
    (kept : Keeps world names world.value stable machine used direct lowered final) :
    ∃ after, Keeps world names world.operand true machine used direct
      (lowered.saved isLocal) after := by
  refine ⟨{ final with temporaries := fun other =>
    if other = lowered.used + 1 then world.value final lowered.value
    else final.temporaries other }, ?_, kept.store, kept.calls, ?_, ?_, ?_⟩
  · exact world.run?_append kept.ran _
  · exact Nat.le_succ_of_le kept.used_le
  · intro index small
    have older : index ≠ lowered.used + 1 := by
      have := kept.used_le
      omega
    simp only [older, if_false]
    exact kept.earlier index small
  · intro later agrees _
    have taken := agrees (lowered.used + 1) (Nat.le_refl _)
    simp only [if_true] at taken
    exact taken.trans kept.reads_now

/-- Two parts one after the other. The first one must be stable unless the second one leaves the
store alone, since it is read only after the commands of both. -/
theorem both {δ ε ζ : Type} {readFirst : Machine V S → α → β} {readSecond : Machine V S → γ → δ}
    {read : Machine V S → ε → ζ} {join : α → γ → ε} {combine : β → δ → ζ}
    {stableFirst stableSecond : Bool} {directFirst : Outcome V S β}
    {directSecond : Outcome V S δ} {first : Lowered α} {second : Lowered γ}
    (keptFirst : Keeps world names readFirst stableFirst machine used directFirst first middle)
    (keptSecond : Keeps world names readSecond stableSecond middle first.used directSecond second
      final)
    (quiet : stableFirst = false → directSecond.store = directFirst.store)
    (unstableFirst : stableFirst = false → stable = false)
    (unstableSecond : stableSecond = false → stable = false)
    (same : ∀ (later : Machine V S) (left : α) (right : γ),
      read later (join left right) = combine (readFirst later left) (readSecond later right)) :
    Keeps world names read stable machine used
      ⟨combine directFirst.value directSecond.value, directSecond.store,
        directFirst.calls ++ directSecond.calls⟩
      ⟨first.setup ++ second.setup, join first.value second.value, second.used⟩ final where
  ran := (world.run?_append keptFirst.ran second.setup).trans keptSecond.ran
  store := keptSecond.store
  calls := by
    rw [keptSecond.calls, keptFirst.calls, List.map_append, List.append_assoc]
  used_le := Nat.le_trans keptFirst.used_le keptSecond.used_le
  earlier := keptFirst.earlier.trans keptSecond.earlier keptFirst.used_le
  reads := by
    intro later agrees sameStore
    have sameFirst : readFirst later first.value = directFirst.value := by
      apply keptFirst.reads later (keptSecond.earlier.trans agrees keptSecond.used_le)
      intro unstable
      calc later.store
        _ = final.store := sameStore (unstableFirst unstable)
        _ = directSecond.store := keptSecond.store
        _ = directFirst.store := quiet unstable
        _ = middle.store := keptFirst.store.symm
    have sameSecond : readSecond later second.value = directSecond.value :=
      keptSecond.reads later agrees (fun unstable => sameStore (unstableSecond unstable))
    rw [same, sameFirst, sameSecond]

end Keeps

/-! ## Lowered values -/

section

variable {world : World V S} {names : String → String} {machine final : Machine V S} {used : Nat}

/-- The arguments of a call read as a list of values. -/
def argumentValues (world : World V S) (machine : Machine V S) (arguments : List Value) : List V :=
  arguments.map (world.value machine)

/-- A call after the commands of its arguments runs the function on the values of the arguments and
leaves the temporaries alone. -/
theorem Keeps.run_call {stable : Bool} {given : Outcome V S (List V)}
    {lowered : Lowered (List Value)}
    (kept : Keeps world names (argumentValues world) stable machine used given lowered final)
    (name : String) :
    world.run? machine (lowered.setup ++ [.call (names name) lowered.value]) = some
      { final with
        store := (world.call (names name) given.value given.store).1
        result := (world.call (names name) given.value given.store).2
        calls := machine.calls ++
          (given.calls ++ [(name, given.value)]).map (shellCall names) } := by
  have arguments : lowered.value.map (world.value final) = given.value := kept.reads_now
  rw [world.run?_append kept.ran]
  simp only [World.run?, World.step?, arguments, kept.store, kept.calls, List.map_append,
    List.append_assoc]
  rfl

theorem Keeps.call {stable : Bool} {given : Outcome V S (List V)} {lowered : Lowered (List Value)}
    (kept : Keeps world names (argumentValues world) stable machine used given lowered final)
    (isLocal : Bool) (name : String) :
    ∃ after, Keeps world names world.operand true machine used
      ⟨(world.call (names name) given.value given.store).2,
        (world.call (names name) given.value given.store).1,
        given.calls ++ [(name, given.value)]⟩
      (Lowered.saved isLocal ⟨lowered.setup ++ [.call (names name) lowered.value], resultValue,
        lowered.used⟩) after := by
  have called := kept.run_call name
  refine ⟨_, world.run?_append called _, rfl, rfl, ?_, ?_, ?_⟩
  · exact Nat.le_succ_of_le kept.used_le
  · intro index small
    have older : index ≠ lowered.used + 1 := by
      have := kept.used_le
      omega
    simp only [older, if_false]
    exact kept.earlier index small
  · intro later agrees _
    have taken := agrees (lowered.used + 1) (Nat.le_refl _)
    simp only [if_true] at taken
    exact taken

/-- A part that is saved when a later call could change it is stable from then on. -/
theorem Keeps.saved_if_changing {α : Type} {read : Machine V S → α → V} {stable : Bool}
    {direct : Outcome V S V} {lowered : Lowered α}
    (kept : Keeps world names read stable machine used direct lowered final)
    (isLocal laterCall : Bool) (toValue : α → Value) (ofOperand : Operand → α)
    (sameValue : ∀ (later : Machine V S) (part : α), world.value later (toValue part) =
      read later part)
    (sameOperand : ∀ (later : Machine V S) (operand : Operand), read later (ofOperand operand) =
      world.operand later operand) :
    ∃ after, Keeps world names read (stable || laterCall) machine used direct
      (if laterCall && !stable then ((lowered.map toValue).saved isLocal).map ofOperand
        else lowered) after := by
  split
  next changes =>
    obtain ⟨after, keptSaved⟩ := (kept.map sameValue).saved isLocal
    simp only [Bool.and_eq_true] at changes
    rw [changes.1, Bool.or_true]
    exact ⟨after, keptSaved.map sameOperand⟩
  next lasts =>
    have flag : (stable || laterCall) = stable := by
      cases laterCall <;> simp_all
    rw [flag]
    exact ⟨final, kept⟩

/-- Settling keeps what the formula keeps. Literal text is a value without being a formula first. -/
theorem settled_keeps {source : Expr} {isLocal : Bool}
    (kept : Keeps world names world.formula source.isStable machine used
      (source.evaluate (world.meaning names) machine.store) (formula names isLocal source used)
      final)
    (laterCall : Bool) :
    ∃ after, Keeps world names world.value (source.isStable || laterCall) machine used
      (source.evaluate (world.meaning names) machine.store)
      (settled isLocal laterCall source used (formula names isLocal source)) after := by
  -- Literal text is its own value, so its formula plays no part.
  cases source with
  | text text =>
      have keptText : Keeps world names world.value true machine used _ (.ready (.text text) used)
          machine := .ready fun _ _ => rfl
      exact keptText.saved_if_changing isLocal laterCall id
        (fun operand => .arithmetic (.atom operand)) (fun _ _ => rfl) (fun _ _ => rfl)
  | _ =>
      have sameValue (later : Machine V S) (whole : Formula Operand) :
          world.value later (.arithmetic whole) = world.formula later whole := rfl
      exact (kept.map sameValue).saved_if_changing isLocal laterCall id
        (fun operand => .arithmetic (.atom operand)) (fun _ _ => rfl) (fun _ _ => rfl)

end

mutual

theorem formula_keeps (world : World V S) (names : String → String) (isLocal : Bool)
    (source : Expr) (used : Nat) (machine : Machine V S) :
    ∃ final, Keeps world names world.formula source.isStable machine used
      (source.evaluate (world.meaning names) machine.store) (formula names isLocal source used)
      final := by
  match source with
  | .var name =>
      exact ⟨machine, .ready fun later same => congrArg (world.read (names name)) (same rfl)⟩
  | .number value => exact ⟨machine, .ready fun _ _ => rfl⟩
  | .text value =>
      have kept : Keeps world names world.value true machine used _ (.ready (.text value) used)
          machine := .ready fun _ _ => rfl
      obtain ⟨final, keptSaved⟩ := kept.saved isLocal
      exact ⟨final, keptSaved.map fun _ _ => rfl⟩
  | .raw fragments =>
      exact ⟨machine, .ready fun later same =>
        congrArg (world.output (rawCode names fragments)) (same rfl)⟩
  | .call name arguments =>
      obtain ⟨middle, kept⟩ := values_keeps world names isLocal arguments used machine
      obtain ⟨final, keptCall⟩ := kept.call isLocal name
      exact ⟨final, keptCall.map fun _ _ => rfl⟩
  | .binary operator left right =>
      obtain ⟨start, keptWhole⟩ := formula_keeps world names isLocal left used machine
      obtain ⟨middle, keptFirst⟩ := keptWhole.saved_if_changing isLocal right.containsCall
        Value.arithmetic Formula.atom (fun _ _ => rfl) (fun _ _ => rfl)
      obtain ⟨final, keptSecond⟩ := formula_keeps world names isLocal right _ middle
      rw [keptFirst.store] at keptSecond
      refine ⟨final, keptFirst.both keptSecond ?_ ?_ ?_ fun _ _ _ => rfl⟩
      -- The left operand is read after the commands of the right one. If it is not stable by then,
      -- the right one contains no call.
      · intro unstable
        simp only [Bool.or_eq_false_iff] at unstable
        exact right.evaluate_store_of_no_call _ unstable.2 _
      · intro unstable
        simp only [Bool.or_eq_false_iff] at unstable
        simp [Expr.isStable, unstable.1]
      · intro unstable
        simp [Expr.isStable, unstable]

theorem values_keeps (world : World V S) (names : String → String) (isLocal : Bool)
    (sources : List Expr) (used : Nat) (machine : Machine V S) :
    ∃ final, Keeps world names (argumentValues world) false machine used
      (Expr.evaluateAll (world.meaning names) sources machine.store)
      (values names isLocal sources used) final := by
  match sources with
  | [] => exact ⟨machine, .ready fun _ _ => rfl⟩
  | source :: rest =>
      obtain ⟨start, keptFormula⟩ := formula_keeps world names isLocal source used machine
      obtain ⟨middle, keptFirst⟩ :=
        settled_keeps keptFormula (rest.any Expr.containsCall)
      obtain ⟨final, keptOthers⟩ := values_keeps world names isLocal rest _ middle
      rw [keptFirst.store] at keptOthers
      refine ⟨final, keptFirst.both keptOthers ?_ (fun _ => rfl) (fun _ => rfl) fun _ _ _ => rfl⟩
      intro unstable
      simp only [Bool.or_eq_false_iff] at unstable
      exact Expr.evaluateAll_store_of_no_call _ rest unstable.2 _

end

/-- Hoisting keeps evaluation. From every machine, the commands ahead of a lowered value run as a
straight line of calls and saves. They make the calls that direct evaluation makes, in order and on
the same values, they leave the store that it leaves, and the value that follows them is its value.
A call that is a whole value of a statement keeps its result in place instead of saving it, and the
same holds of it. All commands and values are spelled as the shell asks for them, and temporaries
with different numbers are different variables. -/
theorem value_keeps_evaluation (world : World V S) (names : String → String)
    (isLocal laterCall : Bool) (source : Expr) (used : Nat) (machine : Machine V S) :
    let direct := source.evaluate (world.meaning names) machine.store
    let calls := machine.calls ++ direct.calls.map (shellCall names)
    (∃ final, world.run? machine (value names isLocal laterCall source used).setup = some final ∧
      final.store = direct.store ∧ final.calls = calls ∧
      world.value final (value names isLocal laterCall source used).value = direct.value) ∧
    (∀ name arguments, source = .call name arguments →
      let lowered := values names isLocal arguments used
      ∃ final, world.run? machine (lowered.setup ++ [.call (names name) lowered.value]) =
          some final ∧
        final.store = direct.store ∧ final.calls = calls ∧
        world.value final resultValue = direct.value) ∧
    (∀ (command : Simple) text, command.SpelledAs text ↔ text = command.text) ∧
    (∀ (value : Value) text, value.SpelledAs text ↔ text = value.word) ∧
    Function.Injective temporaryName := by
  intro direct calls
  refine ⟨?_, ?_, Simple.spelledAs_iff, Value.spelledAs_iff, temporaryName_injective⟩
  · obtain ⟨_, keptFormula⟩ := formula_keeps world names isLocal source used machine
    obtain ⟨final, kept⟩ := settled_keeps keptFormula laterCall
    exact ⟨final, kept.ran, kept.store, kept.calls, kept.reads_now⟩
  · rintro name arguments rfl
    obtain ⟨_, kept⟩ := values_keeps world names isLocal arguments used machine
    exact ⟨_, kept.run_call name, rfl, rfl, rfl⟩

end StructuredShell.Lowering
