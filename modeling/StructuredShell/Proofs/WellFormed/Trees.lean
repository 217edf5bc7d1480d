import StructuredShell.Proofs.Grammar.Rules
import StructuredShell.Proofs.Lexing.Items

/-!
# Well-formed trees

What the names, numbers, texts and environments of a tree must be like for some source text to have
the tree. The conditions are on the tree alone and mention no way of writing or reading it.
-/

set_option autoImplicit false

namespace StructuredShell

open Lexer (Delimiter Stops isSpacing)

/-! ## Names and environments -/

/-- Whether a text can name something: a word that is not reserved. -/
def IsName (name : String) : Prop :=
  Text.isWord name = true ∧ Kind.ofKeyword? name = none

/-- Whether the delimiters in a text balance: none closes more than was opened before it, and all
that are opened are closed. -/
def Lexer.Delimiter.Balanced (delimiter : Delimiter) (text : List Char) : Prop :=
  (∀ initial, initial <+: text →
    initial.count delimiter.closer ≤ initial.count delimiter.opener) ∧
  text.count delimiter.closer = text.count delimiter.opener

namespace Fragment

def shellText : List Fragment → List Char
  | [] => []
  | .shell text :: rest => text.toList ++ shellText rest
  | .splice _ :: rest => shellText rest

/-- Whether fragments can stand between given delimiters. Texts are not empty, do not open splices
and are told apart by splices; a blank at the beginning would not be part of the first text; and the
delimiters balance over all texts together, whatever the splices hold. -/
structure Fit (delimiter : Delimiter) (fragments : List Fragment) : Prop where
  nonempty : ∀ text, .shell text ∈ fragments → text ≠ ""
  apart : ∀ first second, ¬[.shell first, .shell second] <:+: fragments
  noSplice : ∀ text, .shell text ∈ fragments → ¬['$', '['] <:+: text.toList
  unblank : ∀ text rest, fragments = .shell text :: rest → Stops isSpacing text.toList
  balanced : delimiter.Balanced (shellText fragments)

end Fragment

/-! ## Values and conditions -/

mutual

def Expr.WellFormed : Expr → Prop
  | .var name => IsName name
  | .number value => 0 ≤ value ∧ value ≤ 2 ^ 63 - 1
  | .text value => '"' ∉ value.toList
  | .binary _ left right => left.WellFormed ∧ right.WellFormed
  | .call name arguments => IsName name ∧ Expr.AllWellFormed arguments
  | .raw fragments => Fragment.Fit .parentheses fragments ∧ Fragment.AllWellFormed fragments

def Expr.AllWellFormed : List Expr → Prop
  | [] => True
  | value :: rest => value.WellFormed ∧ Expr.AllWellFormed rest

/-- Whether the values in the splices of an environment are well-formed. -/
def Fragment.AllWellFormed : List Fragment → Prop
  | [] => True
  | .shell _ :: rest => Fragment.AllWellFormed rest
  | .splice value :: rest => value.WellFormed ∧ Fragment.AllWellFormed rest

end

/-- Whether a value that is itself a statement is well-formed. An environment can stand in braces
there. -/
def Expr.WellFormedAlone : Expr → Prop
  | .raw fragments =>
    (Fragment.Fit .braces fragments ∨ Fragment.Fit .parentheses fragments) ∧
      Fragment.AllWellFormed fragments
  | value => value.WellFormed

def Condition.WellFormed : Condition → Prop
  | .constant _ => True
  | .comparison _ left right => left.WellFormed ∧ right.WellFormed
  | .conjunction left right => left.WellFormed ∧ right.WellFormed
  | .disjunction left right => left.WellFormed ∧ right.WellFormed

/-! ## Statements and programs -/

def Assignment.WellFormed (binding : Assignment) : Prop :=
  IsName binding.target ∧ binding.value.WellFormed

def Statement.isConditional : Statement → Bool
  | .conditional _ _ _ => true
  | _ => false

mutual

/-- Whether a statement is well-formed. The body of a conditional with an `else` does not end in a
conditional that lacks one. -/
def Statement.WellFormed : Statement → Prop
  | .assignment binding => binding.WellFormed
  | .returnValue value => value.WellFormed
  | .block statements => Statement.AllWellFormed statements
  | .conditional condition body alternative =>
    condition.WellFormed ∧ body.WellFormed ∧ alternative.WellFormed ∧
      (alternative.isAbsent = true ∨ body.endsOpen = false)
  | .expression value => value.WellFormedAlone

/-- Whether what follows the body of a conditional is well-formed. A conditional after `else` is
part of the chain and not a body. -/
def Alternative.WellFormed : Alternative → Prop
  | .absent => True
  | .otherwise body => body.WellFormed ∧ body.isConditional = false
  | .elseIf condition body alternative =>
    condition.WellFormed ∧ body.WellFormed ∧ alternative.WellFormed ∧
      (alternative.isAbsent = true ∨ body.endsOpen = false)

def Statement.AllWellFormed : List Statement → Prop
  | [] => True
  | statement :: rest => statement.WellFormed ∧ Statement.AllWellFormed rest

end

def FunctionDecl.WellFormed (function : FunctionDecl) : Prop :=
  IsName function.name ∧ (∀ parameter ∈ function.parameters, IsName parameter) ∧
    Statement.AllWellFormed function.body

def Program.WellFormed (program : Program) : Prop :=
  (∀ binding ∈ program.globals, binding.WellFormed) ∧
    ∀ function ∈ program.functions, function.WellFormed

/-! ## Environments fragment by fragment -/

namespace Fragment

def startsShell : List Fragment → Bool
  | .shell _ :: _ => true
  | _ => false

/-- Fragments that lead from one number of waiting delimiters to another. -/
inductive Runs (delimiter : Delimiter) : Nat → List Fragment → Nat → Prop where
  | nil {pending : Nat} : Runs delimiter pending [] pending
  | shell {pending next left : Nat} {text : String} {rest : List Fragment} :
      text ≠ "" → ¬['$', '['] <:+: text.toList → delimiter.level? pending text.toList = some next →
      startsShell rest = false → Runs delimiter next rest left →
      Runs delimiter pending (.shell text :: rest) left
  | splice {pending left : Nat} {value : Expr} {rest : List Fragment} :
      Runs delimiter pending rest left → Runs delimiter pending (.splice value :: rest) left

variable {delimiter : Delimiter} {pending left : Nat} {fragments : List Fragment}

theorem startsShell_eq_true_iff :
    startsShell fragments = true ↔ ∃ text rest, fragments = .shell text :: rest := by
  constructor
  · intro starts
    match fragments, starts with
    | .shell text :: rest, _ => exact ⟨text, rest, rfl⟩
  · intro found
    obtain ⟨text, rest, rfl⟩ := found
    rfl

theorem Runs.texts (runs : Runs delimiter pending fragments left) :
    ∀ text, .shell text ∈ fragments → text ≠ "" ∧ ¬['$', '['] <:+: text.toList := by
  induction runs with
  | nil => simp
  | shell nonempty noSplice _ _ _ ih =>
      intro text isFragment
      rcases List.mem_cons.mp isFragment with same | isLater
      · cases same
        exact ⟨nonempty, noSplice⟩
      · exact ih text isLater
  | splice _ ih =>
      intro text isFragment
      exact ih text (by simpa using isFragment)

theorem Runs.apart (runs : Runs delimiter pending fragments left) :
    ∀ first second, ¬[.shell first, .shell second] <:+: fragments := by
  induction runs with
  | nil => simp
  | shell _ _ _ unshelled _ ih =>
      intro first second together
      rcases List.infix_cons_iff.mp together with ⟨tail, isTail⟩ | later
      · cases isTail
        cases unshelled
      · exact ih first second later
  | splice _ ih =>
      intro first second together
      rcases List.infix_cons_iff.mp together with ⟨tail, isTail⟩ | later
      · cases isTail
      · exact ih first second later

theorem Runs.level (runs : Runs delimiter pending fragments left) :
    delimiter.level? pending (shellText fragments) = some left := by
  induction runs with
  | nil => rfl
  | shell _ _ level _ _ ih => rw [shellText, Delimiter.level?_append, level, Option.bind_some, ih]
  | splice _ ih => rw [shellText, ih]

theorem Runs.of_fit (nonempty : ∀ text, .shell text ∈ fragments → text ≠ "")
    (apart : ∀ first second, ¬[.shell first, .shell second] <:+: fragments)
    (noSplice : ∀ text, .shell text ∈ fragments → ¬['$', '['] <:+: text.toList)
    (level : delimiter.level? pending (shellText fragments) = some left) :
    Runs delimiter pending fragments left := by
  induction fragments generalizing pending with
  | nil =>
      cases level
      exact .nil
  | cons fragment rest ih =>
      have apartLater : ∀ first second, ¬[.shell first, .shell second] <:+: rest := by
        intro first second later
        exact apart first second (List.infix_cons_iff.mpr (.inr later))
      have runs {next : Nat} (level : delimiter.level? next (shellText rest) = some left) :
          Runs delimiter next rest left :=
        ih (fun text isLater => nonempty text (.tail _ isLater)) apartLater
          (fun text isLater => noSplice text (.tail _ isLater)) level
      cases fragment with
      | splice value => exact .splice (runs level)
      | shell text =>
          rw [shellText, Delimiter.level?_append, Option.bind_eq_some_iff] at level
          obtain ⟨next, levelText, levelRest⟩ := level
          refine .shell (nonempty text (.head _)) (noSplice text (.head _)) levelText ?_
            (runs levelRest)
          rw [Bool.eq_false_iff, ne_eq, startsShell_eq_true_iff]
          intro found
          obtain ⟨second, tail, rfl⟩ := found
          exact apart text second ⟨[], tail, rfl⟩

theorem balanced_iff_level (delimiter : Delimiter) (text : List Char) :
    delimiter.Balanced text ↔ delimiter.level? 0 text = some 0 := by
  simp [Delimiter.level?_eq_some_iff, Delimiter.Balanced]

theorem fit_iff_runs :
    Fit delimiter fragments ↔ Runs delimiter 0 fragments 0 ∧
      ∀ text rest, fragments = .shell text :: rest → Stops isSpacing text.toList := by
  constructor
  · intro fit
    exact ⟨.of_fit fit.nonempty fit.apart fit.noSplice
      ((balanced_iff_level delimiter _).mp fit.balanced), fit.unblank⟩
  · intro found
    obtain ⟨runs, unblank⟩ := found
    exact ⟨fun text isText => (runs.texts text isText).1, runs.apart,
      fun text isText => (runs.texts text isText).2, unblank,
      (balanced_iff_level delimiter _).mpr runs.level⟩

end Fragment

end StructuredShell
