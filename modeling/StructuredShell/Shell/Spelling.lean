import Mathlib
import StructuredShell.Shell.Layout

/-!
# The spelling of shell code

What the parts of shell code look like as a text, sign by sign and word by word, as the shell asks
for it. Every part is spelled in one way, and that is the text it is printed as.
-/

set_option autoImplicit false

namespace StructuredShell.Shell

theorem forall₂_iff_eq_map {α : Type} {spelledAs : α → String → Prop} {text : α → String}
    (spelled : ∀ part word, spelledAs part word ↔ word = text part) (parts : List α)
    (words : List String) : List.Forall₂ spelledAs parts words ↔ words = parts.map text := by
  induction parts generalizing words with
  | nil => simp
  | cons part parts ih => cases words <;> simp [spelled, ih]

/-- A part is spelled as its text if that is the only way it could be, and there is one. -/
theorem spelledAs_iff_of_exists {α : Type} {spelledAs : α → String → Prop} {text : α → String}
    (unique : ∀ part word, spelledAs part word → word = text part)
    (spelled : ∀ part, ∃ word, spelledAs part word) (part : α) (word : String) :
    spelledAs part word ↔ word = text part := by
  constructor
  · exact unique part word
  · rintro rfl
    obtain ⟨word, isSpelled⟩ := spelled part
    exact unique part word isSpelled ▸ isSpelled

/-! ## Values -/

inductive FormulaPiece.SpelledAs : FormulaPiece → String → Prop where
  | atom {text : String} : SpelledAs (.atom text) text
  | add : SpelledAs (.sign .add) " + "
  | subtract : SpelledAs (.sign .subtract) " - "
  | multiply : SpelledAs (.sign .multiply) " * "
  | divide : SpelledAs (.sign .divide) " / "
  | modulo : SpelledAs (.sign .modulo) " % "
  | openParen : SpelledAs .openParen "("
  | closeParen : SpelledAs .closeParen ")"

theorem FormulaPiece.spelledAs_iff (piece : FormulaPiece) (text : String) :
    piece.SpelledAs text ↔ text = piece.text := by
  refine spelledAs_iff_of_exists (fun piece text spelled => ?_) (fun piece => ?_) piece text
  · cases spelled <;> rfl
  · cases piece with
    | sign operator => cases operator <;> exact ⟨_, by constructor⟩
    | atom | openParen | closeParen => exact ⟨_, by constructor⟩

theorem FormulaPiece.forall₂_spelledAs_iff (pieces : List FormulaPiece) (texts : List String) :
    List.Forall₂ SpelledAs pieces texts ↔ texts = pieces.map FormulaPiece.text :=
  forall₂_iff_eq_map spelledAs_iff pieces texts

inductive Operand.SpelledAs : Operand → String → Prop where
  | var {name : String} : SpelledAs (.var name) ("$" ++ name)
  | number {value : Int} : SpelledAs (.number value) value.repr
  | temporary {index : Nat} : SpelledAs (.temporary index) ("$__t" ++ index.repr)
  | result : SpelledAs .result "$__ret"
  | output {code : String} : SpelledAs (.output code) ("$(" ++ code ++ ")")

theorem Operand.spelledAs_iff (operand : Operand) (text : String) :
    operand.SpelledAs text ↔ text = operand.expansion := by
  refine spelledAs_iff_of_exists (fun operand text spelled => ?_) (fun operand => ?_) operand text
  · cases spelled with
    | temporary => simp [expansion, temporaryName, ← String.append_assoc]
    | var | number | result | output => rfl
  · cases operand <;> exact ⟨_, by constructor⟩

/-- Temporaries with different numbers have different names. -/
theorem temporaryName_injective : Function.Injective temporaryName := by
  intro first second same
  exact Nat.repr_injective (by simpa [temporaryName] using same)

/-- A temporary is read under the name that it is saved under. -/
theorem Operand.expansion_temporary (index : Nat) :
    (temporary index).expansion = "$__t" ++ index.repr :=
  ((spelledAs_iff _ _).mp .temporary).symm

theorem Operand.expansion_result : result.expansion = "$__ret" :=
  ((spelledAs_iff _ _).mp .result).symm

/-- A value as a word of a command. Numbers and arithmetic need no quotes. -/
inductive Value.SpelledAs : Value → String → Prop where
  | text {value : String} : SpelledAs (.text value) (singleQuote value)
  | number {value : Int} : SpelledAs (.arithmetic (.atom (.number value))) value.repr
  | quoted {operand : Operand} {expansion : String} :
      (∀ value, operand ≠ .number value) → operand.SpelledAs expansion →
      SpelledAs (.arithmetic (.atom operand)) ("\"" ++ expansion ++ "\"")
  | binary {operator : ArithOp} {left right : Formula Operand} {texts : List String} :
      List.Forall₂ FormulaPiece.SpelledAs
        ((Formula.binary operator left right).pieces Operand.expansion 0) texts →
      SpelledAs (.arithmetic (.binary operator left right)) ("$((" ++ String.join texts ++ "))")

theorem Operand.word_of_not_number {operand : Operand}
    (notNumber : ∀ value, operand ≠ .number value) :
    operand.word = "\"" ++ operand.expansion ++ "\"" := by
  cases operand with
  | number value => exact absurd rfl (notNumber value)
  | var | temporary | result | output => rfl

theorem Value.spelledAs_iff (value : Value) (text : String) :
    value.SpelledAs text ↔ text = value.word := by
  refine spelledAs_iff_of_exists (fun value text spelled => ?_) (fun value => ?_) value text
  · cases spelled with
    | text | number => rfl
    | quoted notNumber spelled =>
        rw [(Operand.spelledAs_iff _ _).mp spelled, word, Operand.word_of_not_number notNumber]
    | binary spelled =>
        obtain rfl := (FormulaPiece.forall₂_spelledAs_iff _ _).mp spelled
        rfl
  · have expansion (operand : Operand) := (operand.spelledAs_iff operand.expansion).mpr rfl
    match value with
    | .text value => exact ⟨_, .text⟩
    | .arithmetic (.binary operator left right) =>
        exact ⟨_, .binary ((FormulaPiece.forall₂_spelledAs_iff _ _).mpr rfl)⟩
    | .arithmetic (.atom (.number value)) => exact ⟨_, .number⟩
    | .arithmetic (.atom (.var _)) | .arithmetic (.atom (.temporary _))
    | .arithmetic (.atom .result) | .arithmetic (.atom (.output _)) =>
        exact ⟨_, .quoted (by simp) (expansion _)⟩

/-! ## Tests -/

inductive TestPiece.SpelledAs : TestPiece → String → Prop where
  | command {text : String} : SpelledAs (.command text) text
  | both : SpelledAs .both " && "
  | either : SpelledAs .either " || "
  | openGroup : SpelledAs .openGroup "\x7b "
  | closeGroup : SpelledAs .closeGroup "; \x7d"

theorem TestPiece.spelledAs_iff (piece : TestPiece) (text : String) :
    piece.SpelledAs text ↔ text = piece.text := by
  refine spelledAs_iff_of_exists (fun piece text spelled => ?_) (fun piece => ?_) piece text
  · cases spelled <;> rfl
  · cases piece <;> exact ⟨_, by constructor⟩

theorem TestPiece.forall₂_spelledAs_iff (pieces : List TestPiece) (texts : List String) :
    List.Forall₂ SpelledAs pieces texts ↔ texts = pieces.map TestPiece.text :=
  forall₂_iff_eq_map spelledAs_iff pieces texts

def Test.SpelledAs (test : Test) (text : String) : Prop :=
  ∃ texts, List.Forall₂ TestPiece.SpelledAs test.pieces texts ∧ text = String.join texts

theorem Test.spelledAs_iff (test : Test) (text : String) :
    test.SpelledAs text ↔ text = test.text := by
  constructor
  · rintro ⟨texts, spelled, rfl⟩
    rw [(TestPiece.forall₂_spelledAs_iff _ _).mp spelled, Test.text]
  · rintro rfl
    exact ⟨_, (TestPiece.forall₂_spelledAs_iff _ _).mpr rfl, rfl⟩

/-! ## Lines -/

theorem intercalate_cons (first : String) (words : List String) :
    String.intercalate " " (first :: words) = first ++ String.join (words.map (" " ++ ·)) := by
  induction words generalizing first with
  | nil => simp
  | cons word words ih => simp [String.intercalate_cons_cons, ih, String.append_assoc]

inductive Simple.SpelledAs : Simple → String → Prop where
  /-- A function and the words that it is called with, set off by blanks. -/
  | call {name : String} {arguments : List Value} {words : List String} :
      List.Forall₂ Value.SpelledAs arguments words →
      SpelledAs (.call name arguments) (String.intercalate " " (name :: words))
  | save {index : Nat} {value : Value} {word : String} :
      value.SpelledAs word →
      SpelledAs (.save false index value) ("__t" ++ index.repr ++ "=" ++ word)
  | saveLocal {index : Nat} {value : Value} {word : String} :
      value.SpelledAs word →
      SpelledAs (.save true index value) ("local " ++ ("__t" ++ index.repr) ++ "=" ++ word)
  | assign {target : String} {value : Value} {word : String} :
      value.SpelledAs word → SpelledAs (.assign false target value) (target ++ "=" ++ word)
  | assignLocal {target : String} {value : Value} {word : String} :
      value.SpelledAs word →
      SpelledAs (.assign true target value) ("local " ++ target ++ "=" ++ word)
  | parameter {name : String} {index : Nat} :
      index < 10 →
      SpelledAs (.parameter name index)
        ("local " ++ name ++ "=\"" ++ ("$" ++ index.repr) ++ "\"")
  | bracedParameter {name : String} {index : Nat} :
      10 ≤ index →
      SpelledAs (.parameter name index)
        ("local " ++ name ++ "=\"" ++ ("$\x7b" ++ index.repr ++ "\x7d") ++ "\"")
  | handBack {value : Value} {word : String} :
      value.SpelledAs word → SpelledAs (.handBack value) ("__ret=" ++ word)
  | leave : SpelledAs .leave "return"
  | evaluate {value : Value} {word : String} :
      value.SpelledAs word → SpelledAs (.evaluate value) (": " ++ word)
  | verbatim {code : String} : SpelledAs (.verbatim code) code
  | nothing : SpelledAs .nothing ":"

theorem Simple.spelledAs_iff (command : Simple) (text : String) :
    command.SpelledAs text ↔ text = command.text := by
  have words := Value.spelledAs_iff
  refine spelledAs_iff_of_exists (fun command text spelled => ?_) (fun command => ?_) command text
  · cases spelled with
    | call spelled =>
        obtain rfl := (forall₂_iff_eq_map words _ _).mp spelled
        rw [intercalate_cons, List.map_map]
        rfl
    | save spelled | saveLocal spelled | assign spelled | assignLocal spelled | handBack spelled
    | evaluate spelled =>
        obtain rfl := (words _ _).mp spelled
        simp [Simple.text, localWord, temporaryName, resultName, String.append_assoc]
    | parameter small => simp [Simple.text, localWord, positional, small, String.append_assoc]
    | bracedParameter large =>
        simp [Simple.text, localWord, positional, Nat.not_lt.mpr large, String.append_assoc]
    | leave | verbatim | nothing => rfl
  · have word (value : Value) := (words value value.word).mpr rfl
    cases command with
    | call name arguments => exact ⟨_, .call ((forall₂_iff_eq_map words arguments _).mpr rfl)⟩
    | save isLocal index value =>
        cases isLocal with
        | true => exact ⟨_, .saveLocal (word value)⟩
        | false => exact ⟨_, .save (word value)⟩
    | assign isLocal target value =>
        cases isLocal with
        | true => exact ⟨_, .assignLocal (word value)⟩
        | false => exact ⟨_, .assign (word value)⟩
    | parameter name index =>
        rcases Nat.lt_or_ge index 10 with small | large
        · exact ⟨_, .parameter small⟩
        · exact ⟨_, .bracedParameter large⟩
    | handBack value => exact ⟨_, .handBack (word value)⟩
    | evaluate value => exact ⟨_, .evaluate (word value)⟩
    | leave => exact ⟨_, .leave⟩
    | verbatim code => exact ⟨_, .verbatim⟩
    | nothing => exact ⟨_, .nothing⟩

theorem Simple.text_save (isLocal : Bool) (index : Nat) (value : Value) :
    (save isLocal index value).text =
      (if isLocal then "local " else "") ++ ("__t" ++ index.repr) ++ "=" ++ value.word := by
  have word := (value.spelledAs_iff _).mpr rfl
  cases isLocal with
  | true => exact ((spelledAs_iff _ _).mp (.saveLocal word)).symm
  | false => exact ((spelledAs_iff _ _).mp (.save word)).symm

inductive Line.SpelledAs : Line → String → Prop where
  | simple {command : Simple} {text : String} :
      command.SpelledAs text → SpelledAs (.simple command) text
  | ifThen {test : Test} {text : String} :
      test.SpelledAs text → SpelledAs (.ifThen test) ("if " ++ text ++ "; then")
  | elifThen {test : Test} {text : String} :
      test.SpelledAs text → SpelledAs (.elifThen test) ("elif " ++ text ++ "; then")
  | otherwise : SpelledAs .otherwise "else"
  | endIf : SpelledAs .endIf "fi"
  | openGroup : SpelledAs .openGroup "\x7b"
  | closeGroup : SpelledAs .closeGroup "\x7d"
  | functionHead {name : String} : SpelledAs (.functionHead name) (name ++ "() \x7b")
  | comment {text : String} : SpelledAs (.comment text) ("# " ++ text)
  | entryPoint {name : String} : SpelledAs (.entryPoint name) (name ++ " \"$@\"")
  | blank : SpelledAs .blank ""

theorem Line.spelledAs_iff (line : Line) (text : String) :
    line.SpelledAs text ↔ text = line.text := by
  refine spelledAs_iff_of_exists (fun line text spelled => ?_) (fun line => ?_) line text
  · cases spelled with
    | simple spelled => exact (Simple.spelledAs_iff _ _).mp spelled
    | ifThen spelled | elifThen spelled =>
        obtain rfl := (Test.spelledAs_iff _ _).mp spelled
        rfl
    | otherwise | endIf | openGroup | closeGroup | functionHead | comment | entryPoint | blank =>
        rfl
  · cases line with
    | simple command => exact ⟨_, .simple ((command.spelledAs_iff _).mpr rfl)⟩
    | ifThen test => exact ⟨_, .ifThen ((test.spelledAs_iff _).mpr rfl)⟩
    | elifThen test => exact ⟨_, .elifThen ((test.spelledAs_iff _).mpr rfl)⟩
    | otherwise | endIf | openGroup | closeGroup | functionHead | comment | entryPoint | blank =>
        exact ⟨_, by constructor⟩

end StructuredShell.Shell
