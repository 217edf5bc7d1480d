import StructuredShell.Proofs.Literals.Templates
import StructuredShell.Shell.Layout

/-!
# Shell code with holes

Shell code that depends on contents is uniform when it is one tree for all contents. The contents
show in two places only: as literal text that is a value by itself, and inside code that fits a
template. Uniform code fits a template when it is written out, with the same holes.
-/

set_option autoImplicit false

namespace StructuredShell.Shell

/-! ## Values -/

inductive Operand.Uniform : List Nat → (Filling → Operand) → Prop where
  | fixed (operand : Operand) : Uniform [] fun _ => operand
  | output {holes : List Nat} {code : Filling → String} :
      Fits holes code → Uniform holes fun contents => .output (code contents)

inductive Formula.Uniform : List Nat → (Filling → Formula Operand) → Prop where
  | atom {holes : List Nat} {operand : Filling → Operand} :
      Operand.Uniform holes operand → Uniform holes fun contents => .atom (operand contents)
  | binary {holes others : List Nat} {left right : Filling → Formula Operand}
      (operator : ArithOp) : Uniform holes left → Uniform others right →
      Uniform (holes ++ others) fun contents =>
        .binary operator (left contents) (right contents)

inductive Value.Uniform : List Nat → (Filling → Value) → Prop where
  | text (index : Nat) : Uniform [index] fun contents => .text (contents index)
  | arithmetic {holes : List Nat} {formula : Filling → Formula Operand} :
      Formula.Uniform holes formula → Uniform holes fun contents => .arithmetic (formula contents)

/-- Lists of one length for all contents, whose elements are uniform. -/
inductive ListUniform {α : Type} (uniform : List Nat → (Filling → α) → Prop) :
    List Nat → (Filling → List α) → Prop where
  | nil : ListUniform uniform [] fun _ => []
  | cons {holes others : List Nat} {head : Filling → α} {tail : Filling → List α} :
      uniform holes head → ListUniform uniform others tail →
      ListUniform uniform (holes ++ others) fun contents => head contents :: tail contents

namespace ListUniform

variable {α : Type} {uniform : List Nat → (Filling → α) → Prop} {holes others : List Nat}

theorem singleton {element : Filling → α} (isUniform : uniform holes element) :
    ListUniform uniform holes fun contents => [element contents] := by
  have list := ListUniform.cons isUniform .nil
  rwa [List.append_nil] at list

theorem append {elements more : Filling → List α} (areUniform : ListUniform uniform holes elements)
    (moreUniform : ListUniform uniform others more) :
    ListUniform uniform (holes ++ others) fun contents => elements contents ++ more contents := by
  induction areUniform with
  | nil => exact moreUniform
  | cons head _ ih =>
      rw [List.append_assoc]
      exact .cons head ih

theorem holes_eq_nil {elements : Filling → List α}
    (areUniform : ListUniform uniform holes elements) (empty : ∀ contents, elements contents = []) :
    holes = [] := by
  cases areUniform with
  | nil => rfl
  | cons head tail => cases empty fun _ => ""

/-- A list whose elements each fit a template does so too, written out one after another. -/
theorem fits {render : α → String} {elements : Filling → List α}
    (each : ∀ {holes : List Nat} {element : Filling → α}, uniform holes element →
      Fits holes fun contents => render (element contents))
    (areUniform : ListUniform uniform holes elements) :
    Fits holes fun contents => String.join ((elements contents).map render) := by
  induction areUniform with
  | nil => exact .fixed ""
  | cons head _ ih =>
      simp only [List.map_cons, String.join_cons]
      exact (each head).append ih

end ListUniform

section

variable {holes others : List Nat}

theorem Operand.Uniform.fits_expansion {operand : Filling → Operand}
    (uniform : Operand.Uniform holes operand) :
    Fits holes fun contents => (operand contents).expansion := by
  cases uniform with
  | fixed operand => exact .fixed operand.expansion
  | output fits => exact fits.between "$(" ")"

theorem Operand.Uniform.fits_word {operand : Filling → Operand}
    (uniform : Operand.Uniform holes operand) :
    Fits holes fun contents => (operand contents).word := by
  cases uniform with
  | fixed operand => exact .fixed operand.word
  | output fits => exact (fits.between "$(" ")").between "\"" "\""

theorem FormulaPiece.text_parenthesized (pieces : List FormulaPiece) :
    String.join ((openParen :: (pieces ++ [closeParen])).map text) =
      "(" ++ String.join (pieces.map text) ++ ")" := by
  simp [text, String.append_assoc]

theorem Formula.Uniform.fits_pieces {formula : Filling → Formula Operand}
    (uniform : Formula.Uniform holes formula) (level : Nat) :
    Fits holes fun contents =>
      String.join (((formula contents).pieces Operand.expansion level).map FormulaPiece.text) := by
  induction uniform generalizing level with
  | atom operand =>
      simp only [Formula.pieces, List.map_cons, List.map_nil, String.join_cons, String.join_nil]
      exact operand.fits_expansion.followedBy ""
  | @binary holes others left right operator _ _ leftIH rightIH =>
      have inner : Fits (holes ++ others) fun contents => String.join
          (((left contents).pieces Operand.expansion (precedence operator) ++ .sign operator ::
            (right contents).pieces Operand.expansion (precedence operator + 1)).map
              FormulaPiece.text) := by
        simp only [List.map_append, List.map_cons, String.join_append, String.join_cons]
        exact (leftIH _).append ((rightIH _).behind _)
      simp only [Formula.pieces]
      split
      · simp only [FormulaPiece.text_parenthesized]
        exact inner.between "(" ")"
      · exact inner

theorem Formula.Uniform.fits_text {formula : Filling → Formula Operand}
    (uniform : Formula.Uniform holes formula) :
    Fits holes fun contents => (formula contents).text Operand.expansion :=
  uniform.fits_pieces 0

theorem Value.Uniform.fits_word {value : Filling → Value} (uniform : Value.Uniform holes value) :
    Fits holes fun contents => (value contents).word := by
  cases uniform with
  | text index => exact .quoted index
  | arithmetic formula =>
      cases formula with
      | atom operand => exact operand.fits_word
      | binary operator left right =>
          exact (Formula.Uniform.binary operator left right).fits_text.between "$((" "))"

/-- What a formula becomes inside raw text. -/
theorem Formula.Uniform.fits_spliced {formula : Filling → Formula Operand}
    (uniform : Formula.Uniform holes formula) :
    Fits holes fun contents => (Value.arithmetic (formula contents)).spliced := by
  cases uniform with
  | atom operand =>
      cases operand with
      | fixed operand => exact .fixed (Value.arithmetic (.atom operand)).spliced
      | output fits => exact fits.between "$(" ")"
  | binary operator left right =>
      exact (Formula.Uniform.binary operator left right).fits_text.between "$((" "))"

end

/-- No formula leaves a blank at its end when it is put into raw text. -/
theorem Value.endsUnblank_spliced (formula : Formula Operand) :
    Text.EndsUnblank (Value.arithmetic formula).spliced := by
  have closes : Text.EndsUnblank ")" := ⟨[], ')', rfl, by decide⟩
  cases formula with
  | binary operator left right => exact Text.EndsUnblank.behind ⟨[')'], ')', rfl, by decide⟩ _
  | atom operand =>
      cases operand with
      | var name => exact Text.EndsUnblank.behind ⟨[], '\x7d', rfl, by decide⟩ _
      | number value => exact Text.endsUnblank_int value
      | temporary index => exact ((Text.endsUnblank_nat index).behind "__t").behind "$"
      | result => exact Text.EndsUnblank.behind ⟨"__re".toList, 't', rfl, by decide⟩ "$"
      | output code => exact closes.behind _

/-! ## Commands without a body -/

inductive Simple.Uniform : List Nat → (Filling → Simple) → Prop where
  | fixed (command : Simple) : Uniform [] fun _ => command
  | call {holes : List Nat} {arguments : Filling → List Value} (name : String) :
      ListUniform Value.Uniform holes arguments →
      Uniform holes fun contents => .call name (arguments contents)
  | save {holes : List Nat} {value : Filling → Value} (isLocal : Bool) (index : Nat) :
      Value.Uniform holes value →
      Uniform holes fun contents => .save isLocal index (value contents)
  | assign {holes : List Nat} {value : Filling → Value} (isLocal : Bool) (target : String) :
      Value.Uniform holes value →
      Uniform holes fun contents => .assign isLocal target (value contents)
  | handBack {holes : List Nat} {value : Filling → Value} :
      Value.Uniform holes value → Uniform holes fun contents => .handBack (value contents)
  | evaluate {holes : List Nat} {value : Filling → Value} :
      Value.Uniform holes value → Uniform holes fun contents => .evaluate (value contents)
  | verbatim {holes : List Nat} {code : Filling → String} :
      Fits holes code → Uniform holes fun contents => .verbatim (code contents)

section

variable {holes others : List Nat}

theorem fits_callText {arguments : Filling → List Value} (name : String)
    (uniform : ListUniform Value.Uniform holes arguments) :
    Fits holes fun contents => callText name (arguments contents) :=
  (uniform.fits fun argument => argument.fits_word.behind " ").behind name

theorem Simple.Uniform.fits_text {command : Filling → Simple}
    (uniform : Simple.Uniform holes command) :
    Fits holes fun contents => (command contents).text := by
  cases uniform with
  | fixed command => exact .fixed command.text
  | call name arguments => exact fits_callText name arguments
  | save isLocal index value => exact value.fits_word.behind _
  | assign isLocal target value => exact value.fits_word.behind _
  | handBack value => exact value.fits_word.behind _
  | evaluate value => exact value.fits_word.behind _
  | verbatim fits => exact fits

end

/-! ## Tests -/

inductive Test.Uniform : List Nat → (Filling → Test) → Prop where
  | constant (value : Bool) : Uniform [] fun _ => .constant value
  | numeric {holes others : List Nat} {left right : Filling → Value} (operator : RelOp) :
      Value.Uniform holes left → Value.Uniform others right →
      Uniform (holes ++ others) fun contents =>
        .numeric operator (left contents) (right contents)
  | textual {holes others : List Nat} {left right : Filling → Value} (operator : RelOp) :
      Value.Uniform holes left → Value.Uniform others right →
      Uniform (holes ++ others) fun contents =>
        .textual operator (left contents) (right contents)
  | conjunction {holes others : List Nat} {left right : Filling → Test} :
      Uniform holes left → Uniform others right →
      Uniform (holes ++ others) fun contents => .conjunction (left contents) (right contents)
  | disjunction {holes others : List Nat} {left right : Filling → Test} :
      Uniform holes left → Uniform others right →
      Uniform (holes ++ others) fun contents => .disjunction (left contents) (right contents)

section

variable {holes others : List Nat}

theorem fits_bracket {left right : Filling → Value} (operator : String)
    (leftUniform : Value.Uniform holes left) (rightUniform : Value.Uniform others right) :
    Fits (holes ++ others) fun contents => bracket operator (left contents) (right contents) :=
  ((((leftUniform.fits_word.behind "[ ").followedBy " ").followedBy operator).followedBy
    " ").append rightUniform.fits_word |>.followedBy " ]"

theorem fits_textualCommand {left right : Filling → Value} (operator : RelOp)
    (leftUniform : Value.Uniform holes left) (rightUniform : Value.Uniform others right) :
    Fits (holes ++ others) fun contents =>
      textualCommand operator (left contents) (right contents) := by
  have compares := fun sign => fits_bracket sign leftUniform rightUniform
  cases operator with
  | equal => exact compares "="
  | notEqual => exact compares "!="
  | less => exact compares "\\<"
  | greater => exact compares "\\>"
  | lessEqual => exact (compares "\\>").behind "! "
  | greaterEqual => exact (compares "\\<").behind "! "

theorem Test.Uniform.isConjunction_eq {test : Filling → Test}
    (uniform : Test.Uniform holes test) (contents contents' : Filling) :
    (test contents).isConjunction = (test contents').isConjunction := by
  cases uniform <;> rfl

theorem Test.Uniform.isDisjunction_eq {test : Filling → Test}
    (uniform : Test.Uniform holes test) (contents contents' : Filling) :
    (test contents).isDisjunction = (test contents').isDisjunction := by
  cases uniform <;> rfl

def TestPiece.textOf (pieces : List TestPiece) : String :=
  String.join (pieces.map TestPiece.text)

theorem TestPiece.textOf_command (command : String) : textOf [.command command] = command := by
  simp [textOf, text]

theorem TestPiece.textOf_joined (connective : TestPiece) (pieces more : List TestPiece) :
    textOf (pieces ++ connective :: more) = textOf pieces ++ (connective.text ++ textOf more) := by
  simp [textOf]

theorem TestPiece.textOf_grouped (pieces : List TestPiece) :
    textOf (grouped pieces) = "\x7b " ++ textOf pieces ++ "; \x7d" := by
  simp [textOf, grouped, text, String.append_assoc]

/-- An operand of a connective, which is put into braces for all contents or for none. -/
theorem fits_grouped {pieces : Filling → List TestPiece} {isGrouped : Filling → Bool}
    (fits : Fits holes fun contents => TestPiece.textOf (pieces contents))
    (same : ∀ contents contents', isGrouped contents = isGrouped contents') :
    Fits holes fun contents => TestPiece.textOf
      (if isGrouped contents then grouped (pieces contents) else pieces contents) := by
  have decided : isGrouped = fun _ => isGrouped fun _ => "" := by
    funext contents
    exact same contents _
  rw [decided]
  cases isGrouped fun _ => "" with
  | false => exact fits
  | true =>
      simp only [if_true, TestPiece.textOf_grouped]
      exact fits.between "\x7b " "; \x7d"

theorem Test.Uniform.fits_pieces {test : Filling → Test} (uniform : Test.Uniform holes test) :
    Fits holes fun contents => TestPiece.textOf (test contents).pieces := by
  induction uniform with
  | constant value => exact .fixed (TestPiece.textOf (Test.constant value).pieces)
  | numeric operator left right =>
      simp only [Test.pieces, TestPiece.textOf_command]
      exact fits_bracket (numericOption operator) left right
  | textual operator left right =>
      simp only [Test.pieces, TestPiece.textOf_command]
      exact fits_textualCommand operator left right
  | conjunction left right leftIH rightIH =>
      simp only [Test.pieces, TestPiece.textOf_joined]
      apply (fits_grouped leftIH left.isDisjunction_eq).append
      apply Fits.behind
      apply fits_grouped rightIH
      intro contents contents'
      rw [right.isConjunction_eq contents contents', right.isDisjunction_eq contents contents']
  | disjunction left right leftIH rightIH =>
      simp only [Test.pieces, TestPiece.textOf_joined]
      apply (fits_grouped leftIH left.isConjunction_eq).append
      apply Fits.behind
      apply fits_grouped rightIH
      intro contents contents'
      rw [right.isConjunction_eq contents contents', right.isDisjunction_eq contents contents']

theorem Test.Uniform.fits_text {test : Filling → Test} (uniform : Test.Uniform holes test) :
    Fits holes fun contents => (test contents).text :=
  uniform.fits_pieces

end

/-! ## Commands -/

mutual

inductive Command.Uniform : List Nat → (Filling → Command) → Prop where
  | simple {holes : List Nat} {command : Filling → Simple} :
      Simple.Uniform holes command → Command.Uniform holes fun contents =>
        .simple (command contents)
  | group {holes : List Nat} {body : Filling → List Command} :
      Command.AllUniform holes body → Command.Uniform holes fun contents => .group (body contents)
  | conditional {holes inner others : List Nat} {test : Filling → Test}
      {body : Filling → List Command} {alternative : Filling → Branch} :
      Test.Uniform holes test → Command.AllUniform inner body →
      Branch.Uniform others alternative →
      Command.Uniform (holes ++ (inner ++ others)) fun contents =>
        .conditional (test contents) (body contents) (alternative contents)

inductive Branch.Uniform : List Nat → (Filling → Branch) → Prop where
  | absent : Branch.Uniform [] fun _ => .absent
  | otherwise {holes : List Nat} {body : Filling → List Command} :
      Command.AllUniform holes body →
      Branch.Uniform holes fun contents => .otherwise (body contents)
  | elseIf {holes inner others : List Nat} {test : Filling → Test}
      {body : Filling → List Command} {alternative : Filling → Branch} :
      Test.Uniform holes test → Command.AllUniform inner body →
      Branch.Uniform others alternative →
      Branch.Uniform (holes ++ (inner ++ others)) fun contents =>
        .elseIf (test contents) (body contents) (alternative contents)

inductive Command.AllUniform : List Nat → (Filling → List Command) → Prop where
  | nil : Command.AllUniform [] fun _ => []
  | cons {holes others : List Nat} {head : Filling → Command}
      {tail : Filling → List Command} :
      Command.Uniform holes head → Command.AllUniform others tail →
      Command.AllUniform (holes ++ others) fun contents => head contents :: tail contents

end

section

variable {holes others : List Nat}

theorem Command.AllUniform.singleton {command : Filling → Command}
    (uniform : Command.Uniform holes command) :
    Command.AllUniform holes fun contents => [command contents] := by
  have list := Command.AllUniform.cons uniform .nil
  rwa [List.append_nil] at list

theorem Command.AllUniform.append {holes : List Nat} {commands more : Filling → List Command}
    (uniform : Command.AllUniform holes commands)
    (moreUniform : Command.AllUniform others more) :
    Command.AllUniform (holes ++ others) fun contents => commands contents ++ more contents := by
  match uniform with
  | .nil => exact moreUniform
  | .cons head tail =>
      rw [List.append_assoc]
      exact .cons head (tail.append moreUniform)

theorem Command.allUniform_simple {commands : Filling → List Simple}
    (uniform : ListUniform Simple.Uniform holes commands) :
    Command.AllUniform holes fun contents => (commands contents).map Command.simple := by
  induction uniform with
  | nil => exact .nil
  | cons head _ ih => exact .cons (.simple head) ih

theorem Command.AllUniform.bodyOf {commands : Filling → List Command}
    (uniform : Command.AllUniform holes commands) :
    Command.AllUniform holes fun contents => Shell.bodyOf (commands contents) := by
  cases uniform with
  | nil => exact .singleton (.simple (.fixed .nothing))
  | cons head tail => exact .cons head tail

end

/-! ## Lines -/

def PlacedLine.textOf (indent : String) (lines : List PlacedLine) : String :=
  String.join (lines.map (PlacedLine.text indent))

section

variable {holes others : List Nat} (indent : String)

theorem PlacedLine.textOf_cons (line : PlacedLine) (lines : List PlacedLine) :
    textOf indent (line :: lines) = line.text indent ++ textOf indent lines := by
  simp [textOf]

theorem PlacedLine.textOf_append (lines more : List PlacedLine) :
    textOf indent (lines ++ more) = textOf indent lines ++ textOf indent more := by
  simp [textOf]

theorem fits_line {line : Filling → Line} (depth : Nat)
    (fits : Fits holes fun contents => (line contents).text) :
    Fits holes fun contents => PlacedLine.text indent ⟨depth, line contents⟩ :=
  fits.between (String.join (List.replicate depth indent)) "\n"

mutual

theorem Command.Uniform.fits_lines {holes : List Nat} {command : Filling → Command}
    (uniform : Command.Uniform holes command) (depth : Nat) :
    Fits holes fun contents => PlacedLine.textOf indent ((command contents).lines depth) := by
  match uniform with
  | .simple command =>
      simp only [Command.lines, PlacedLine.textOf_cons]
      exact (fits_line indent depth command.fits_text).followedBy ""
  | .group body =>
      simp only [Command.lines, PlacedLine.textOf_cons, PlacedLine.textOf_append]
      apply Fits.behind
      apply Fits.followedBy
      exact body.fits_lines (depth + 1)
  | .conditional test body alternative =>
      simp only [Command.lines, PlacedLine.textOf_cons, PlacedLine.textOf_append]
      apply Fits.append
      · exact fits_line indent depth (test.fits_text.between "if " "; then")
      · exact (body.fits_lines (depth + 1)).append (alternative.fits_lines depth)

theorem Branch.Uniform.fits_lines {holes : List Nat} {branch : Filling → Branch}
    (uniform : Branch.Uniform holes branch) (depth : Nat) :
    Fits holes fun contents => PlacedLine.textOf indent ((branch contents).lines depth) := by
  match uniform with
  | .absent => exact .fixed (PlacedLine.textOf indent (Branch.absent.lines depth))
  | .otherwise body =>
      simp only [Branch.lines, PlacedLine.textOf_cons, PlacedLine.textOf_append]
      apply Fits.behind
      apply Fits.followedBy
      exact body.fits_lines (depth + 1)
  | .elseIf test body alternative =>
      simp only [Branch.lines, PlacedLine.textOf_cons, PlacedLine.textOf_append]
      apply Fits.append
      · exact fits_line indent depth (test.fits_text.between "elif " "; then")
      · exact (body.fits_lines (depth + 1)).append (alternative.fits_lines depth)

theorem Command.AllUniform.fits_lines {holes : List Nat} {commands : Filling → List Command}
    (uniform : Command.AllUniform holes commands) (depth : Nat) :
    Fits holes fun contents =>
      PlacedLine.textOf indent (Command.linesOf depth (commands contents)) := by
  match uniform with
  | .nil => exact .fixed ""
  | .cons head tail =>
      simp only [Command.linesOf, PlacedLine.textOf_append]
      exact (head.fits_lines depth).append (tail.fits_lines depth)

end

end

/-! ## Scripts -/

inductive Function.Uniform : List Nat → (Filling → Function) → Prop where
  | define {holes : List Nat} {body : Filling → List Command} (name : String) :
      Command.AllUniform holes body → Uniform holes fun contents => ⟨name, body contents⟩

/-- A script that is one tree for all contents. In particular the same commands run ahead of the
same values, they save the same temporaries, and the same conditionals are nested or continued. -/
inductive Script.Uniform : List Nat → (Filling → Script) → Prop where
  | of {holes others : List Nat} {globals : Filling → List Command}
      {functions : Filling → List Function} (entry : String) :
      Command.AllUniform holes globals → ListUniform Function.Uniform others functions →
      Uniform (holes ++ others) fun contents => ⟨globals contents, functions contents, entry⟩

section

variable {holes others : List Nat} (indent : String)

theorem Function.Uniform.fits_lines {function : Filling → Function}
    (uniform : Function.Uniform holes function) :
    Fits holes fun contents => PlacedLine.textOf indent (function contents).lines := by
  cases uniform with
  | define name body =>
      simp only [Function.lines, PlacedLine.textOf_cons, PlacedLine.textOf_append]
      apply Fits.behind
      apply Fits.followedBy
      exact body.fits_lines indent 1

theorem fits_functionLines {functions : Filling → List Function}
    (uniform : ListUniform Function.Uniform holes functions) :
    Fits holes fun contents => PlacedLine.textOf indent (functionLines (functions contents)) := by
  induction uniform with
  | nil => exact .fixed ""
  | cons head tail ih =>
      cases tail with
      | nil =>
          rw [List.append_nil]
          exact head.fits_lines indent
      | cons second rest =>
          simp only [functionLines, PlacedLine.textOf_append, PlacedLine.textOf_cons]
          exact (head.fits_lines indent).append (ih.behind _)

theorem Script.Uniform.fits_lines {script : Filling → Script}
    (uniform : Script.Uniform holes script) :
    Fits holes fun contents => PlacedLine.textOf indent (script contents).lines := by
  cases uniform with
  | of entry globals functions =>
      simp only [Script.lines, PlacedLine.textOf_append]
      apply Fits.followedBy
      apply Fits.append
      · exact ((globals.fits_lines indent 0).behind _).followedBy _
      · exact fits_functionLines indent functions

theorem Script.Uniform.fits_text (interpreter : String) {script : Filling → Script}
    (uniform : Script.Uniform holes script) :
    Fits holes fun contents => (script contents).text interpreter indent :=
  (uniform.fits_lines indent).behind (interpreter ++ "\n")

end

end StructuredShell.Shell
