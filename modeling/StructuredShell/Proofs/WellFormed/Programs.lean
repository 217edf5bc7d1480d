import StructuredShell.Proofs.WellFormed.Writing

/-!
# Source texts of programs

The printer for conditions, statements and whole programs. Every chain of conditionals is printed
without braces of its own: that each `else` is read back as the right conditional's is what
well-formed trees promise.
-/

set_option autoImplicit false

namespace StructuredShell

open Lexer (Delimiter Scan)
open Grammar (Named)

/-! ## Conditions -/

/-- A condition as it is written where connectives must bind at a level. -/
def Condition.written : Condition → Nat → List Char
  | .constant value, _ => signText (if value then .trueWord else .falseWord)
  | .comparison operator left right, _ =>
    left.written 0 ++ (signText operator.kind ++ right.written 0)
  | .conjunction left right, level =>
    grouped (1 < level) (left.written 1 ++ (signText .both ++ right.written 2))
  | .disjunction left right, level =>
    grouped (0 < level) (left.written 0 ++ (signText .either ++ right.written 1))

/-- What derives a condition at a level: disjunctions at the lowest one, then conjunctions, then
atoms. -/
def Grammar.HoldsAt (condition : Condition) (level : Nat) (tokens : List Token) : Prop :=
  match level with
  | 0 => Grammar.Disjunction tokens condition
  | 1 => Grammar.Conjunction tokens condition
  | _ + 2 => Grammar.Atom tokens condition

theorem Grammar.HoldsAt.lower {condition : Condition} {high low : Nat} {tokens : List Token}
    (lower : low ≤ high) (derived : Grammar.HoldsAt condition high tokens) :
    Grammar.HoldsAt condition low tokens := by
  match low, high, derived with
  | 0, 0, derived => exact derived
  | 0, 1, derived => exact .conjunction derived
  | 0, _ + 2, derived => exact .conjunction (.atom derived)
  | 1, 1, derived => exact derived
  | 1, _ + 2, derived => exact .atom derived
  | _ + 2, _ + 2, derived => exact derived

theorem Grammar.HoldsAt.of_atom {condition : Condition} {tokens : List Token}
    (derived : Grammar.Atom tokens condition) (level : Nat) :
    Grammar.HoldsAt condition level tokens :=
  have derivedHigh : Grammar.HoldsAt condition (level + 2) tokens := derived
  derivedHigh.lower (by omega)

theorem Grammar.HoldsAt.group {condition : Condition} {opening closing : Token}
    {tokens : List Token} (level : Nat) (isOpen : opening.kind = .openParen)
    (derived : Grammar.HoldsAt condition 0 tokens) (isClose : closing.kind = .closeParen) :
    Grammar.HoldsAt condition level (opening :: (tokens ++ [closing])) :=
  .of_atom (.group isOpen derived isClose) level

theorem RelOp.writes (operator : RelOp) :
    Writes (signText operator.kind) (IsOne operator.kind) := by
  cases operator <;> exact .sign rfl rfl

theorem RelOp.isSign (operator : RelOp) : Grammar.RelationSign operator.kind operator := by
  cases operator <;> constructor

/-- The tokens of a printed condition derive it at the level it was printed for. -/
theorem Condition.writes {condition : Condition} (wellFormed : condition.WellFormed) (level : Nat) :
    Writes (condition.written level) (Grammar.HoldsAt condition level) := by
  induction condition generalizing level with
  | constant value =>
      cases value with
      | true =>
          refine (Writes.sign rfl rfl).imp ?_
          intro used parts
          obtain ⟨word, rfl, isWord⟩ := parts
          exact .of_atom (.isTrue isWord) level
      | false =>
          refine (Writes.sign rfl rfl).imp ?_
          intro used parts
          obtain ⟨word, rfl, isWord⟩ := parts
          exact .of_atom (.isFalse isWord) level
  | comparison operator left right =>
      have writesLeft := left.writes wellFormed.1 0
      have writesRight := right.writes wellFormed.2 0
      refine (writesLeft.append (operator.writes.append writesRight)).imp ?_
      intro used parts
      obtain ⟨_, _, rfl, derivedLeft, _, _, rfl, ⟨sign, rfl, isSign⟩, derivedRight⟩ := parts
      exact .of_atom (.comparison derivedLeft (isSign ▸ operator.isSign) derivedRight) level
  | conjunction left right leftIH rightIH =>
      refine .grouped Grammar.HoldsAt.lower (Grammar.HoldsAt.group level) ?_
      refine ((leftIH wellFormed.1 1).append
        ((Writes.sign rfl rfl).append (rightIH wellFormed.2 2))).imp ?_
      intro used parts
      obtain ⟨_, _, rfl, derivedLeft, _, _, rfl, ⟨sign, rfl, isSign⟩, derivedRight⟩ := parts
      exact .both derivedLeft isSign derivedRight
  | disjunction left right leftIH rightIH =>
      refine .grouped Grammar.HoldsAt.lower (Grammar.HoldsAt.group level) ?_
      refine ((leftIH wellFormed.1 0).append
        ((Writes.sign rfl rfl).append (rightIH wellFormed.2 1))).imp ?_
      intro used parts
      obtain ⟨_, _, rfl, derivedLeft, _, _, rfl, ⟨sign, rfl, isSign⟩, derivedRight⟩ := parts
      exact .either derivedLeft isSign derivedRight

/-! ## Statements -/

def Assignment.written (binding : Assignment) : List Char :=
  (if binding.declaration then signText .varWord else []) ++
    ((binding.target.toList ++ [' ']) ++
      (signText .assign ++ (binding.value.written 0 ++ signText .semicolon)))

/-- A value as it is written when it is itself a statement. An environment stands in parentheses if
they balance in its text, and in braces otherwise. -/
def Expr.writtenAlone : Expr → List Char
  | .raw fragments =>
    if Delimiter.parentheses.level? 0 (Fragment.shellText fragments) = some 0 then
      environmentText .parentheses (Fragment.written fragments) ++ signText .semicolon
    else environmentText .braces (Fragment.written fragments)
  | value => value.written 0 ++ signText .semicolon

def Condition.writtenHead (condition : Condition) : List Char :=
  signText .ifWord ++ (signText .openParen ++ (condition.written 0 ++ signText .closeParen))

mutual

def Statement.written : Statement → List Char
  | .assignment binding => binding.written
  | .returnValue value => signText .returnWord ++ (value.written 0 ++ signText .semicolon)
  | .block statements => signText .openBrace ++ Statement.writtenAll statements
  | .conditional condition body alternative =>
    condition.writtenHead ++ (body.written ++ alternative.written)
  | .expression value => value.writtenAlone

/-- What follows the body of a conditional, as it is written. -/
def Alternative.written : Alternative → List Char
  | .absent => []
  | .otherwise body => signText .elseWord ++ body.written
  | .elseIf condition body alternative =>
    signText .elseWord ++ (condition.writtenHead ++ (body.written ++ alternative.written))

def Statement.writtenAll : List Statement → List Char
  | [] => signText .closeBrace
  | statement :: rest => statement.written ++ Statement.writtenAll rest

end

/-! ## Statements are read back -/

theorem Assignment.writes {binding : Assignment} (wellFormed : binding.WellFormed) :
    Writes binding.written (fun tokens => Grammar.Assigns tokens binding) := by
  obtain ⟨declaration, target, value⟩ := binding
  have writesSign : Writes (signText .assign) (IsOne .assign) := .sign rfl rfl
  have writesEnd : Writes (signText .semicolon) (IsOne .semicolon) := .sign rfl rfl
  have writesTail := (Writes.named wellFormed.1).append
    (writesSign.append ((value.writes wellFormed.2 0).append writesEnd))
  cases declaration with
  | true =>
      refine ((Writes.sign rfl rfl).append writesTail).imp ?_
      intro used parts
      obtain ⟨_, _, rfl, ⟨word, rfl, isWord⟩, _, _, rfl, ⟨name, rfl, named⟩, _, _, rfl,
        ⟨sign, rfl, isSign⟩, _, _, rfl, derived, semicolon, rfl, isEnd⟩ := parts
      exact .declare isWord named isSign derived isEnd
  | false =>
      refine (Writes.nil.append writesTail).imp ?_
      intro used parts
      obtain ⟨_, _, rfl, rfl, _, _, rfl, ⟨name, rfl, named⟩, _, _, rfl, ⟨sign, rfl, isSign⟩, _, _,
        rfl, derived, semicolon, rfl, isEnd⟩ := parts
      exact .rebind named isSign derived isEnd

theorem Expr.writesStatement {value : Expr} (wellFormed : value.WellFormed) :
    Writes (value.written 0 ++ signText .semicolon)
      (fun tokens => Grammar.Statement tokens (.expression value)) := by
  refine ((value.writes wellFormed 0).append (.sign rfl rfl)).imp ?_
  intro used parts
  obtain ⟨_, _, rfl, derived, semicolon, rfl, isEnd⟩ := parts
  exact .expression derived isEnd

theorem Expr.writesAlone {value : Expr} (wellFormed : value.WellFormedAlone) :
    Writes value.writtenAlone (fun tokens => Grammar.Statement tokens (.expression value)) := by
  cases value with
  | raw fragments =>
      obtain ⟨fit, wellFormed⟩ := wellFormed
      rw [Expr.writtenAlone]
      split
      · rename_i balanced
        have fitParentheses : Fragment.Fit .parentheses fragments := by
          rw [← Fragment.balanced_iff_level] at balanced
          rcases fit with fit | fit
          · exact ⟨fit.nonempty, fit.apart, fit.noSplice, fit.unblank, balanced⟩
          · exact fit
        have wellFormedRaw : (Expr.raw fragments).WellFormed := ⟨fitParentheses, wellFormed⟩
        exact Expr.writesStatement wellFormedRaw
      · rename_i unbalanced
        rw [← Fragment.balanced_iff_level] at unbalanced
        have fitBraces := fit.resolve_right fun fit => unbalanced fit.balanced
        have runs := (Fragment.fit_iff_runs.mp fitBraces).1
        refine (WritesBody.environment fitBraces (Fragment.writes fragments wellFormed runs)).imp ?_
        intro used parts
        obtain ⟨word, opening, tokens, closing, rfl, isWord, isOpen, derived, isClose⟩ := parts
        exact .raw isWord isOpen derived isClose (.inl rfl)
  | _ => exact Expr.writesStatement wellFormed

def Grammar.IsHead (condition : Condition) (tokens : List Token) : Prop :=
  ∃ word opening head closing, tokens = word :: opening :: (head ++ [closing]) ∧
    word.kind = .ifWord ∧ opening.kind = .openParen ∧ Grammar.Disjunction head condition ∧
    closing.kind = .closeParen

def Grammar.IsEnd (alternative : Alternative) (tokens : List Token) : Prop :=
  alternative = .absent ∧ tokens = [] ∨
    ∃ elseWord other statement, tokens = elseWord :: other ∧ elseWord.kind = .elseWord ∧
      Grammar.Statement other statement ∧ alternative = Grammar.afterElse statement

theorem Condition.writesHead {condition : Condition} (wellFormed : condition.WellFormed) :
    Writes condition.writtenHead (Grammar.IsHead condition) := by
  have writes := Condition.writes wellFormed 0
  refine ((Writes.sign rfl rfl).append
    ((Writes.sign rfl rfl).append (writes.append (.sign rfl rfl)))).imp ?_
  intro used parts
  obtain ⟨_, _, rfl, ⟨word, rfl, isWord⟩, _, _, rfl, ⟨opening, rfl, isOpen⟩, head, _, rfl, derived,
    closing, rfl, isClose⟩ := parts
  exact ⟨word, opening, head, closing, rfl, isWord, isOpen, derived, isClose⟩

theorem Grammar.conditional_derives {condition : Condition} {body : StructuredShell.Statement}
    {alternative : Alternative} {first second third : List Token}
    (isHead : Grammar.IsHead condition first) (derived : Grammar.Statement second body)
    (isEnd : Grammar.IsEnd alternative third) :
    Grammar.Statement (first ++ (second ++ third)) (.conditional condition body alternative) := by
  obtain ⟨word, opening, head, closing, rfl, isWord, isOpen, derivedHead, isClose⟩ := isHead
  rcases isEnd with ⟨rfl, rfl⟩ | ⟨elseWord, other, statement, rfl, isElse, derivedOther, rfl⟩
  · simpa using Grammar.Statement.conditional isWord isOpen derivedHead isClose derived
  · simpa using Grammar.Statement.conditionalElse isWord isOpen derivedHead isClose derived isElse
      derivedOther

theorem afterElse_unconditional {statement : Statement}
    (unconditional : statement.isConditional = false) :
    Grammar.afterElse statement = .otherwise statement := by
  cases statement with
  | conditional => cases unconditional
  | _ => rfl

mutual

theorem Statement.writes (statement : Statement) (wellFormed : statement.WellFormed) :
    Writes statement.written (fun tokens => Grammar.Statement tokens statement) :=
  match statement, wellFormed with
  | .assignment _, wellFormed =>
      (Assignment.writes wellFormed).imp fun _ derived => .assignment derived
  | .returnValue value, wellFormed => by
      refine ((Writes.sign rfl rfl).append
        ((value.writes wellFormed 0).append (.sign rfl rfl))).imp ?_
      intro used parts
      obtain ⟨_, _, rfl, ⟨word, rfl, isWord⟩, _, _, rfl, derived, semicolon, rfl, isEnd⟩ := parts
      exact .returnValue isWord derived isEnd
  | .block statements, wellFormed => by
      refine ((Writes.sign rfl rfl).append (Statement.writesAll statements wellFormed)).imp ?_
      intro used parts
      obtain ⟨_, _, rfl, ⟨opening, rfl, isOpen⟩, derived⟩ := parts
      exact .block isOpen derived
  | .conditional condition body alternative,
      ⟨wellFormedHead, wellFormedBody, wellFormedEnd, _⟩ => by
      refine ((Condition.writesHead wellFormedHead).append
        ((body.writes wellFormedBody).append (alternative.writes wellFormedEnd))).imp ?_
      intro used parts
      obtain ⟨_, _, rfl, isHead, _, _, rfl, derived, isEnd⟩ := parts
      exact Grammar.conditional_derives isHead derived isEnd
  | .expression _, wellFormed => Expr.writesAlone wellFormed

theorem Alternative.writes (alternative : Alternative) (wellFormed : alternative.WellFormed) :
    Writes alternative.written (Grammar.IsEnd alternative) :=
  match alternative, wellFormed with
  | .absent, _ => Writes.nil.imp fun _ empty => .inl ⟨rfl, empty⟩
  | .otherwise body, ⟨wellFormedBody, unconditional⟩ => by
      refine ((Writes.sign rfl rfl).append (body.writes wellFormedBody)).imp ?_
      intro used parts
      obtain ⟨_, other, rfl, ⟨elseWord, rfl, isElse⟩, derived⟩ := parts
      exact .inr ⟨elseWord, other, body, rfl, isElse, derived,
        (afterElse_unconditional unconditional).symm⟩
  | .elseIf condition body alternative, ⟨wellFormedHead, wellFormedBody, wellFormedEnd, _⟩ => by
      refine ((Writes.sign rfl rfl).append ((Condition.writesHead wellFormedHead).append
        ((body.writes wellFormedBody).append (alternative.writes wellFormedEnd)))).imp ?_
      intro used parts
      obtain ⟨_, _, rfl, ⟨elseWord, rfl, isElse⟩, _, _, rfl, isHead, _, _, rfl, derived, isEnd⟩ :=
        parts
      have derivedOther := Grammar.conditional_derives isHead derived isEnd
      exact .inr ⟨elseWord, _, _, rfl, isElse, derivedOther, rfl⟩

theorem Statement.writesAll (statements : List Statement)
    (wellFormed : Statement.AllWellFormed statements) :
    Writes (Statement.writtenAll statements) (fun tokens => Grammar.Statements tokens statements) :=
  match statements, wellFormed with
  | [], _ => by
      refine (Writes.sign rfl rfl).imp ?_
      intro used parts
      obtain ⟨closing, rfl, isClose⟩ := parts
      exact .nil isClose
  | statement :: rest, wellFormed => by
      refine ((statement.writes wellFormed.1).append (Statement.writesAll rest wellFormed.2)).imp ?_
      intro used parts
      obtain ⟨_, _, rfl, derived, derivedRest⟩ := parts
      exact .cons derived derivedRest

end

/-! ## Programs -/

/-- Parameters with commas between them and the parenthesis that closes them. -/
def writtenParameters : List String → List Char
  | [] => signText .closeParen
  | name :: rest =>
    (name.toList ++ [' ']) ++
      ((if rest.isEmpty then [] else signText .comma) ++ writtenParameters rest)

def FunctionDecl.written (function : FunctionDecl) : List Char :=
  signText .funcWord ++ ((function.name.toList ++ [' ']) ++ (signText .openParen ++
    (writtenParameters function.parameters ++
      (signText .openBrace ++ Statement.writtenAll function.body))))

/-- A program as it is written: the globals, then the functions. -/
def Program.written (program : Program) : List Char :=
  program.globals.flatMap Assignment.written ++ program.functions.flatMap FunctionDecl.written

theorem writesParameters {names : List String} (areNames : ∀ name ∈ names, IsName name) :
    Writes (writtenParameters names) (fun tokens => Grammar.Parameters tokens names) := by
  induction names with
  | nil =>
      refine (Writes.sign rfl rfl).imp ?_
      intro used parts
      obtain ⟨closing, rfl, isClose⟩ := parts
      exact .none isClose
  | cons name rest ih =>
      obtain ⟨isName, areNames⟩ := List.forall_mem_cons.mp areNames
      match rest with
      | [] =>
          refine ((Writes.named isName).append (Writes.nil.append (.sign rfl rfl))).imp ?_
          intro used parts
          obtain ⟨_, _, rfl, ⟨token, rfl, named⟩, _, _, rfl, rfl, closing, rfl, isClose⟩ := parts
          exact .last named isClose
      | _ :: _ =>
          refine ((Writes.named isName).append ((Writes.sign rfl rfl).append (ih areNames))).imp ?_
          intro used parts
          obtain ⟨_, _, rfl, ⟨token, rfl, named⟩, _, _, rfl, ⟨comma, rfl, isComma⟩, derived⟩ :=
            parts
          exact .more named isComma derived

theorem FunctionDecl.writes {function : FunctionDecl} (wellFormed : function.WellFormed) :
    Writes function.written (fun tokens => Grammar.Function tokens function) := by
  have writesBody := Statement.writesAll function.body wellFormed.2.2
  refine ((Writes.sign rfl rfl).append ((Writes.named wellFormed.1).append
    ((Writes.sign rfl rfl).append ((writesParameters wellFormed.2.1).append
      ((Writes.sign rfl rfl).append writesBody))))).imp ?_
  intro used parts
  obtain ⟨_, _, rfl, ⟨word, rfl, isWord⟩, _, _, rfl, ⟨token, rfl, named⟩, _, _, rfl,
    ⟨opening, rfl, isOpen⟩, _, _, rfl, derivedNames, _, _, rfl, ⟨brace, rfl, isBrace⟩, derived⟩ :=
    parts
  exact .define isWord named isOpen derivedNames isBrace derived

theorem writesFunctions {functions : List FunctionDecl}
    (wellFormed : ∀ function ∈ functions, function.WellFormed) :
    Writes (functions.flatMap FunctionDecl.written)
      (fun tokens => Grammar.Program tokens ⟨[], functions⟩) := by
  induction functions with
  | nil => exact Writes.nil.imp fun _ empty => empty ▸ .nil
  | cons function rest ih =>
      obtain ⟨wellFormedFirst, wellFormedRest⟩ := List.forall_mem_cons.mp wellFormed
      refine ((FunctionDecl.writes wellFormedFirst).append (ih wellFormedRest)).imp ?_
      intro used parts
      obtain ⟨_, _, rfl, derived, derivedRest⟩ := parts
      exact .function derived derivedRest

theorem Program.writes {program : Program} (wellFormed : program.WellFormed) :
    Writes program.written (fun tokens => Grammar.Program tokens program) := by
  obtain ⟨globals, functions⟩ := program
  obtain ⟨wellFormedGlobals, wellFormedFunctions⟩ := wellFormed
  induction globals with
  | nil => exact writesFunctions wellFormedFunctions
  | cons binding rest ih =>
      obtain ⟨wellFormed, wellFormedRest⟩ := List.forall_mem_cons.mp wellFormedGlobals
      have split : Program.written ⟨binding :: rest, functions⟩ =
          binding.written ++ Program.written ⟨rest, functions⟩ := by
        simp [Program.written]
      rw [split]
      refine ((Assignment.writes wellFormed).append (ih wellFormedRest wellFormedFunctions)).imp ?_
      intro used parts
      obtain ⟨_, _, rfl, derived, derivedRest⟩ := parts
      exact .assignment derived derivedRest

end StructuredShell
