import StructuredShell.Proofs.Prefixes.Conditions

/-!
# Errors in statements

The readers of statements as recognizers, and what they decide. An error at the end of a value also
names the operators that could have carried the value on. A name at the head of a statement is read
once here, and the token behind it tells an assignment from a value.
-/

set_option autoImplicit false

namespace StructuredShell.Parser

open Grammar Recognizer

/-! ## The readers as recognizers -/

section

variable {finish : Position} {tokens : List Token}

/-- What stands after the target of an assignment. -/
def assigned : Recognizer := (oneOf [.assign]).followedBy (of expressionEnd)

/-- An assignment without the word that declares its target. -/
def binding : Recognizer := (oneOf [.ident]).followedBy assigned

/-- What stands after a name at the head of a statement. -/
def nameEnd : Recognizer :=
  onHead [.assign] assigned
    (callEnd.followedBy (products.followedBy (sums.followedBy (of expectEnd))))

theorem of_expectEnd :
    of expectEnd = onHead [.semicolon] (oneOf [.semicolon]) (refuse statementEnd) := by
  funext finish tokens
  rw [of, expectEnd]
  cases found : expect finish .semicolon tokens with
  | ok _ rest shorter =>
      rw [onHead_oneOf_of_expect found]
      rfl
  | fail _ _ =>
      rw [onHead_of_not_expect found (by decide)]
      rfl

theorem of_expressionEnd : of expressionEnd = (of expression).followedBy (of expectEnd) := by
  funext finish tokens
  simp only [of, followedBy, expressionEnd]
  cases expression finish tokens <;> simp

theorem assignmentTail_outcome (declaration : Bool) (wellFormed : AllWellFormed tokens) :
    (assignmentTail finish declaration tokens).outcome = binding finish tokens := by
  simp only [binding, assigned, followedBy, ← expectIdent_outcome wellFormed, ← expect_outcome,
    assignmentTail]
  cases expectIdent finish tokens with
  | fail error stopped => rfl
  | ok target rest shorter =>
      simp only [Reply.outcome_ok]
      cases expect finish .assign rest <;> simp [of]

theorem assignment_outcome (wellFormed : AllWellFormed tokens) :
    (assignment finish tokens).outcome =
      onHead [.varWord] ((oneOf [.varWord]).followedBy binding) binding finish tokens := by
  unfold assignment
  cases found : expect finish .varWord tokens with
  | ok _ rest shorter =>
      obtain ⟨token, _, rfl⟩ := oneOf_eq_ok_iff.mp (oneOf_of_expect found)
      rw [onHead_of_expect found]
      simp [assignmentTail_outcome true (wellFormed.suffix (List.suffix_cons token rest))]
  | fail _ _ =>
      rw [onHead_of_not_expect found (by decide)]
      exact assignmentTail_outcome false wellFormed

theorem of_optionalEnd : of optionalEnd = onHead [.semicolon] (oneOf [.semicolon]) stay := by
  funext finish tokens
  rw [of, optionalEnd]
  cases found : expect finish .semicolon tokens with
  | ok _ rest shorter =>
      rw [onHead_oneOf_of_expect found]
      rfl
  | fail _ _ =>
      rw [onHead_of_not_expect found (by decide)]
      rfl

theorem of_rawTail :
    of rawTail =
      (oneOf [.openBrace]).followedBy ((of fragments).followedBy
        ((oneOf [.closeBrace]).followedBy (of optionalEnd))) := by
  funext finish tokens
  simp only [of, followedBy, ← expect_outcome, rawTail]
  cases expect finish .openBrace tokens with
  | fail error stopped => rfl
  | ok _ inside shorter =>
      simp only [Reply.outcome_ok]
      cases fragments finish inside with
      | fail error stopped => rfl
      | ok pieces rest bounded =>
          simp only [Reply.outcome_ok]
          cases expect finish .closeBrace rest <;> simp

theorem of_conditionHead :
    of conditionHead = (oneOf [.openParen]).followedBy (of groupTail) := by
  funext finish tokens
  simp only [of, followedBy, ← expect_outcome, conditionHead]
  cases expect finish .openParen tokens <;> simp

theorem of_conditionalTail :
    of conditionalTail =
      (of conditionHead).followedBy ((of statement).followedBy (of alternativeTail)) := by
  funext finish tokens
  simp only [of, followedBy]
  rw [conditionalTail]
  cases conditionHead finish tokens with
  | fail error stopped => rfl
  | ok test rest shorter =>
      simp only [Reply.outcome_ok]
      cases statement finish rest <;> simp

theorem of_alternativeTail :
    of alternativeTail =
      onHead [.elseWord] ((oneOf [.elseWord]).followedBy
        (onHead [.ifWord] ((oneOf [.ifWord]).followedBy (of conditionalTail)) (of statement)))
        stay := by
  funext finish tokens
  rw [of, alternativeTail]
  cases found : expect finish .elseWord tokens with
  | fail _ _ =>
      rw [onHead_of_not_expect found (by decide)]
      rfl
  | ok _ rest shorter =>
      rw [onHead_of_expect found]
      cases foundIf : expect finish .ifWord rest with
      | ok _ after shorter' =>
          rw [onHead_of_expect foundIf]
          simp [of, foundIf]
      | fail _ _ =>
          rw [onHead_of_not_expect foundIf (by decide)]
          simp [of, foundIf]

theorem of_blockTail :
    of blockTail =
      onHead [.closeBrace] (oneOf [.closeBrace])
        (onHead [.finish] (refuse [.closeBrace]) ((of statement).followedBy (of blockTail))) := by
  funext finish tokens
  rw [of, blockTail]
  cases found : expect finish .closeBrace tokens with
  | ok _ rest shorter =>
      rw [onHead_oneOf_of_expect found]
      rfl
  | fail error stopped =>
      rw [onHead_of_not_expect found (by decide)]
      by_cases atEnd : headKind tokens = .finish
      · have otherHead : headKind tokens ∉ [Kind.closeBrace] := by simp [atEnd]
        have reported : (expect finish .closeBrace tokens).outcome = _ :=
          expect_outcome.trans (oneOf_of_not_head otherHead)
        rw [found] at reported
        rw [onHead_pos (by simp [atEnd])]
        simpa [atEnd, refuse] using reported
      · rw [onHead_neg (by simpa using atEnd)]
        simp only [atEnd, if_false, followedBy, of]
        cases statement finish tokens <;> simp

theorem of_block : of block = (oneOf [.openBrace]).followedBy (of blockTail) := by
  funext finish tokens
  simp only [of, followedBy, ← expect_outcome, block]
  cases expect finish .openBrace tokens <;> simp

/-- A value that begins with a name, up to the end of its statement. -/
theorem expressionEnd_outcome_of_ident (wellFormed : AllWellFormed tokens)
    (isIdent : headKind tokens = .ident) :
    (expressionEnd finish tokens).outcome =
      (oneOf [.ident]).followedBy
        (callEnd.followedBy (products.followedBy (sums.followedBy (of expectEnd))))
        finish tokens := by
  have factored : of factor finish tokens =
      (oneOf [.ident]).followedBy callEnd finish tokens := by
    rw [of, factor_outcome wellFormed, onHead_neg (by simp [isIdent]),
      onHead_pos (by simp [isIdent])]
  have parts : of expressionEnd =
      (of factor).followedBy (products.followedBy (sums.followedBy (of expectEnd))) := by
    rw [of_expressionEnd, of_expression, of_term, followedBy_assoc, followedBy_assoc]
  rw [← followedBy_assoc, followedBy, ← factored]
  exact congrFun (congrFun parts finish) tokens

theorem ofKinds_eq_other {first second : Kind} (noStart : first ∉ statementStart) :
    StatementHead.ofKinds first second = .other := by
  cases first <;> simp_all [StatementHead.ofKinds, statementStart, factorStart]

theorem statement_outcome (wellFormed : AllWellFormed tokens) :
    (statement finish tokens).outcome =
      onHead [.varWord] ((oneOf [.varWord]).followedBy binding)
        (onHead [.ident] ((oneOf [.ident]).followedBy nameEnd)
          (onHead [.returnWord] ((oneOf [.returnWord]).followedBy (of expressionEnd))
            (onHead [.ifWord] ((oneOf [.ifWord]).followedBy (of conditionalTail))
              (onHead [.openBrace] ((oneOf [.openBrace]).followedBy (of blockTail))
                (onHead [.rawWord] ((oneOf [.rawWord]).followedBy (of rawTail))
                  (onHead factorStart (of expressionEnd) (refuse statementStart)))))))
        finish tokens := by
  match tokens with
  | [] =>
      rw [statement]
      rfl
  | token :: rest =>
      rw [statement]
      by_cases isVar : token.kind = .varWord
      · have head : StatementHead.ofKinds token.kind (headKind rest) = .assignment := by
          simp [StatementHead.ofKinds, isVar]
        simp only [head, Reply.outcome_map]
        rw [assignment_outcome wellFormed, onHead_pos (by simp [isVar]),
          onHead_pos (by simp [isVar])]
      rw [onHead_neg (by simpa using isVar)]
      by_cases isIdent : token.kind = .ident
      · rw [onHead_pos (by simp [isIdent]), oneOf_followedBy (by simp [isIdent]), nameEnd]
        by_cases isAssign : headKind rest = .assign
        · have head : StatementHead.ofKinds token.kind (headKind rest) = .assignment := by
            simp [StatementHead.ofKinds, isIdent, isAssign]
          simp only [head, Reply.outcome_map]
          rw [assignment_outcome wellFormed, onHead_neg (by simpa using isVar), binding,
            oneOf_followedBy (by simp [isIdent]), onHead_pos (by simp [isAssign])]
        · have head : StatementHead.ofKinds token.kind (headKind rest) = .value :=
            ofKinds_eq_value (by simp [factorStart, isIdent]) fun _ => isAssign
          simp only [head, Reply.outcome_map]
          rw [expressionEnd_outcome_of_ident wellFormed isIdent,
            oneOf_followedBy (by simp [isIdent]), onHead_neg (by simpa using isAssign)]
      rw [onHead_neg (by simpa using isIdent)]
      by_cases isReturn : token.kind = .returnWord
      · rw [onHead_pos (by simp [isReturn]), oneOf_followedBy (by simp [isReturn])]
        simp [ofKinds_eq_returnValue_iff.mpr isReturn, of]
      rw [onHead_neg (by simpa using isReturn)]
      by_cases isIf : token.kind = .ifWord
      · rw [onHead_pos (by simp [isIf]), oneOf_followedBy (by simp [isIf])]
        simp [ofKinds_eq_conditional_iff.mpr isIf, of]
      rw [onHead_neg (by simpa using isIf)]
      by_cases isBrace : token.kind = .openBrace
      · rw [onHead_pos (by simp [isBrace]), oneOf_followedBy (by simp [isBrace])]
        simp [ofKinds_eq_block_iff.mpr isBrace, of]
      rw [onHead_neg (by simpa using isBrace)]
      by_cases isRaw : token.kind = .rawWord
      · rw [onHead_pos (by simp [isRaw]), oneOf_followedBy (by simp [isRaw])]
        simp [ofKinds_eq_environment_iff.mpr isRaw, of]
      rw [onHead_neg (by simpa using isRaw)]
      by_cases starts : token.kind ∈ factorStart
      · rw [onHead_pos starts]
        simp [ofKinds_eq_value starts fun same => absurd same isIdent, of]
      · have noStart : token.kind ∉ statementStart := by
          simp_all [statementStart, factorStart]
        rw [onHead_neg starts]
        simp [ofKinds_eq_other noStart, refuse]

end

/-! ## The languages of statements -/

/-- A value with the semicolon that ends its statement. -/
def ended : Language Token := expressions * ofKinds [.semicolon]

def assignments : Language Token := {tokens | ∃ binding, Assigns tokens binding}

def statements : Language Token := {tokens | ∃ statement, Grammar.Statement tokens statement}

/-- Statements with the brace that closes them. -/
def blocks : Language Token := {tokens | ∃ statements, Statements tokens statements}

/-- What follows the body of a conditional. -/
def alternatives : Language Token := ofKinds [.elseWord] * statements + 1

/-- A conditional after its first word. -/
def conditionals : Language Token :=
  ofKinds [.openParen] * groups * (statements * alternatives)

/-- A raw environment after its first word. -/
def rawBlocks : Language Token :=
  ofKinds [.openBrace] * (environments * (ofKinds [.closeBrace] * (ofKinds [.semicolon] + 1)))

theorem semicolon_le : ofKinds [.semicolon] ≤ after expressions ended := by
  intro tokens isSemicolon before isValue
  exact Language.append_mem_mul isValue isSemicolon

theorem rebind_le : ofKinds [.ident] * (ofKinds [.assign] * ended) ≤ assignments := by
  rintro _ ⟨_, ⟨name, wellFormed, isIdent, rfl⟩, _, ⟨_, ⟨sign, _, isSign, rfl⟩, _,
    ⟨used, ⟨value, derived⟩, _, ⟨semicolon, _, isEnd, rfl⟩, rfl⟩, rfl⟩, rfl⟩
  obtain ⟨target, named⟩ := wellFormed.named (List.mem_singleton.mp isIdent) rfl
  exact ⟨_, .rebind named (List.mem_singleton.mp isSign) derived (List.mem_singleton.mp isEnd)⟩

theorem declare_le :
    ofKinds [.varWord] * (ofKinds [.ident] * (ofKinds [.assign] * ended)) ≤ assignments := by
  rintro _ ⟨_, ⟨word, _, isWord, rfl⟩, _, ⟨_, ⟨name, wellFormed, isIdent, rfl⟩, _,
    ⟨_, ⟨sign, _, isSign, rfl⟩, _,
      ⟨used, ⟨value, derived⟩, _, ⟨semicolon, _, isEnd, rfl⟩, rfl⟩, rfl⟩, rfl⟩, rfl⟩
  obtain ⟨target, named⟩ := wellFormed.named (List.mem_singleton.mp isIdent) rfl
  exact ⟨_, .declare (List.mem_singleton.mp isWord) named (List.mem_singleton.mp isSign) derived
    (List.mem_singleton.mp isEnd)⟩

theorem assignments_le_statements : assignments ≤ statements := by
  rintro tokens ⟨binding, derived⟩
  exact ⟨_, .assignment derived⟩

theorem assigned_le : ofKinds [.assign] * ended ≤ after (ofKinds [.ident]) statements := by
  intro rest isAssigned before isName
  exact assignments_le_statements (rebind_le (Language.append_mem_mul isName isAssigned))

theorem ended_le_statements : ended ≤ statements := by
  rintro _ ⟨used, ⟨value, derived⟩, _, ⟨semicolon, _, isEnd, rfl⟩, rfl⟩
  exact ⟨_, .expression derived (List.mem_singleton.mp isEnd)⟩

theorem returns_le : ofKinds [.returnWord] * ended ≤ statements := by
  rintro _ ⟨_, ⟨word, _, isWord, rfl⟩, _,
    ⟨used, ⟨value, derived⟩, _, ⟨semicolon, _, isEnd, rfl⟩, rfl⟩, rfl⟩
  exact ⟨_, .returnValue (List.mem_singleton.mp isWord) derived (List.mem_singleton.mp isEnd)⟩

theorem rawBlocks_le : ofKinds [.rawWord] * rawBlocks ≤ statements := by
  rintro _ ⟨_, ⟨word, _, isWord, rfl⟩, _, ⟨_, ⟨opening, _, isOpen, rfl⟩, _,
    ⟨inner, ⟨pieces, derived⟩, _, ⟨_, ⟨closing, _, isClose, rfl⟩, ending, ends, rfl⟩, rfl⟩, rfl⟩,
    rfl⟩
  refine ⟨_, .raw (List.mem_singleton.mp isWord) (List.mem_singleton.mp isOpen) derived
    (List.mem_singleton.mp isClose) ?_⟩
  rcases ends with ⟨semicolon, _, isEnd, rfl⟩ | isNil
  · exact .inr ⟨semicolon, List.mem_singleton.mp isEnd, rfl⟩
  · exact .inl isNil

theorem blocks_le_statements : ofKinds [.openBrace] * blocks ≤ statements := by
  rintro _ ⟨_, ⟨opening, _, isOpen, rfl⟩, _, ⟨inner, derived⟩, rfl⟩
  exact ⟨_, .block (List.mem_singleton.mp isOpen) derived⟩

theorem conditionals_le : ofKinds [.ifWord] * conditionals ≤ statements := by
  rintro _ ⟨_, ⟨word, _, isWord, rfl⟩, _, ⟨_, ⟨_, ⟨opening, _, isOpen, rfl⟩, _,
    ⟨test, ⟨condition, derivedTest⟩, _, ⟨closing, _, isClose, rfl⟩, rfl⟩, rfl⟩, _,
    ⟨body, ⟨statement, derivedBody⟩, _, ends, rfl⟩, rfl⟩, rfl⟩
  have isIf := List.mem_singleton.mp isWord
  have opens := List.mem_singleton.mp isOpen
  have closes := List.mem_singleton.mp isClose
  rcases ends with ⟨_, ⟨elseWord, _, isElse, rfl⟩, other, ⟨alternative, derivedOther⟩, rfl⟩ | isNil
  · refine ⟨.conditional condition statement (afterElse alternative), ?_⟩
    simpa using Grammar.Statement.conditionalElse isIf opens derivedTest closes derivedBody
      (List.mem_singleton.mp isElse) derivedOther
  · refine ⟨.conditional condition statement .absent, ?_⟩
    obtain rfl : _ = [] := isNil
    simpa using Grammar.Statement.conditional isIf opens derivedTest closes derivedBody

theorem closed_le_blocks : ofKinds [.closeBrace] ≤ blocks := by
  rintro _ ⟨closing, _, isClose, rfl⟩
  exact ⟨_, .nil (List.mem_singleton.mp isClose)⟩

theorem statements_mul_blocks_le : statements * blocks ≤ blocks := by
  rintro _ ⟨first, ⟨statement, derived⟩, rest, ⟨others, derivedOthers⟩, rfl⟩
  exact ⟨_, .cons derived derivedOthers⟩

/-! ## After a complete value -/

/-- A value can be carried on by any operator. -/
theorem operators_le :
    ofKinds (sumKinds ++ productKinds) * factors ≤ after expressions expressions := by
  rintro _ ⟨_, ⟨sign, wellFormed, isSign, rfl⟩, right, isFactor, rfl⟩ before ⟨value, derived⟩
  rcases List.mem_append.mp isSign with isSum | isProduct
  · have carriesOn := sums_le ⟨[sign], ⟨sign, wellFormed, isSum, rfl⟩, right ++ [],
      Language.append_mem_mul (factors_le_terms isFactor) nil_mem_after, rfl⟩
    simpa using carriesOn before ⟨value, derived⟩
  · have carriesOn := products_le ⟨[sign], ⟨sign, wellFormed, isProduct, rfl⟩, right ++ [],
      Language.append_mem_mul isFactor nil_mem_after, rfl⟩
    -- The operator binds tighter than a sum, so it continues the last term.
    cases derived with
    | term derived =>
        have isTerm : before ++ ([sign] ++ right) ∈ terms := by
          simpa using carriesOn before ⟨value, derived⟩
        exact terms_le_expressions isTerm
    | @sum left last signBefore operator first second derivedLeft isSumSign derivedLast =>
        obtain ⟨product, derivedProduct⟩ := carriesOn last ⟨second, derivedLast⟩
        refine ⟨.binary operator first product, ?_⟩
        simpa using Expression.sum derivedLeft isSumSign derivedProduct

theorem statementEnd_viable {token : Token} (wellFormed : token.WellFormed)
    (isExpected : token.kind ∈ statementEnd) : Begins (after expressions ended) [token] := by
  have cases_of_end : ∀ kind ∈ statementEnd,
      kind ∈ sumKinds ++ productKinds ∨ kind ∈ [Kind.semicolon] := by decide
  have carried_le : after expressions expressions * ofKinds [.semicolon] ≤
      after expressions ended := by
    rintro _ ⟨used, carriesOn, ending, isEnd, rfl⟩ before isValue
    rw [← List.append_assoc]
    exact Language.append_mem_mul (carriesOn before isValue) isEnd
  rcases cases_of_end _ isExpected with isOperator | isSemicolon
  · have begins := (begins_with wellFormed isOperator begins_factors).mono operators_le
    exact (begins.mul_left (begins_one .semicolon (by decide))).mono carried_le
  · exact .of_mem (semicolon_le ⟨token, wellFormed, isSemicolon, rfl⟩)

/-! ## How statements may begin -/

theorem begins_ended : Begins ended [] := begins_closed begins_expressions .semicolon (by decide)

/-- What ends a statement behind a value. -/
theorem begins_valueEnds : Begins (after expressions ended) [] :=
  (begins_one .semicolon (by decide)).mono semicolon_le

theorem begins_assigned : Begins (ofKinds [.assign] * ended) [] :=
  (begins_one .assign (by decide)).mul_left begins_ended

theorem begins_nameEnds : Begins (after (ofKinds [.ident]) statements) [] :=
  begins_assigned.mono assigned_le

theorem begins_bindings : Begins (ofKinds [.ident] * (ofKinds [.assign] * ended)) [] :=
  (begins_one .ident (by decide)).mul_left begins_assigned

theorem begins_blocks : Begins blocks [] :=
  (begins_one .closeBrace (by decide)).mono closed_le_blocks

theorem begins_statements : Begins statements [] :=
  ((begins_one .openBrace (by decide)).mul_left begins_blocks).mono blocks_le_statements

theorem nil_mem_alternatives : [] ∈ alternatives := .inr rfl

theorem begins_conditionals : Begins conditionals [] :=
  ((begins_one .openParen (by decide)).mul_left begins_groups).mul_left
    (begins_statements.mul_left (.of_mem nil_mem_alternatives))

theorem begins_rawEnds :
    Begins (ofKinds [.closeBrace] * (ofKinds [.semicolon] + 1)) [] :=
  (begins_one .closeBrace (by decide)).mul_left (.of_mem (.inr rfl))

theorem begins_rawBlocks : Begins rawBlocks [] :=
  (begins_one .openBrace (by decide)).mul_left
    ((Begins.of_mem nil_mem_environments).mul_left begins_rawEnds)

/-- Every kind that an error names at the head of a statement begins one. -/
theorem statementStart_viable {token : Token} (wellFormed : token.WellFormed)
    (starts : token.kind ∈ statementStart) : Begins statements [token] := by
  by_cases isFactor : token.kind ∈ factorStart
  · have begins := (factorStart_viable wellFormed isFactor).mono factors_le_terms
    exact ((begins.mono terms_le_expressions).mul_left (begins_one .semicolon (by decide))).mono
      ended_le_statements
  have cases_of_start : ∀ kind ∈ statementStart, kind ∉ factorStart →
      kind ∈ [Kind.varWord] ∨ kind ∈ [Kind.returnWord] ∨ kind ∈ [Kind.ifWord] ∨
        kind ∈ [Kind.openBrace] ∨ kind ∈ [Kind.rawWord] := by decide
  rcases cases_of_start _ starts isFactor with isVar | isReturn | isIf | isBrace | isRaw
  · exact ((begins_with wellFormed isVar begins_bindings).mono declare_le).mono
      assignments_le_statements
  · exact (begins_with wellFormed isReturn begins_ended).mono returns_le
  · exact (begins_with wellFormed isIf begins_conditionals).mono conditionals_le
  · exact (begins_with wellFormed isBrace begins_blocks).mono blocks_le_statements
  · exact (begins_with wellFormed isRaw begins_rawBlocks).mono rawBlocks_le

/-! ## Errors in statements -/

theorem expectEnd_foretold (finish : Position) (tokens : List Token)
    (wellFormed : AllWellFormed tokens) :
    Foretold (after expressions ended) (of expectEnd) finish tokens := by
  rw [of_expectEnd]
  refine .onHead wellFormed (fun _ => ?_) fun _ => ?_
  · exact (Foretold.oneOf wellFormed (by decide)).mono semicolon_le
  · exact .refuse (by decide) fun token => statementEnd_viable

theorem expressionEnd_foretold (finish : Position) (tokens : List Token)
    (wellFormed : AllWellFormed tokens) : Foretold ended (of expressionEnd) finish tokens := by
  rw [of_expressionEnd]
  refine ((expression_foretold finish tokens wellFormed).followedBy wellFormed
    begins_valueEnds ?_).mono mul_after_le
  intro rest isRest _
  exact expectEnd_foretold finish rest (wellFormed.suffix isRest)

theorem assigned_foretold (finish : Position) (tokens : List Token)
    (wellFormed : AllWellFormed tokens) :
    Foretold (ofKinds [.assign] * ended) assigned finish tokens := by
  refine .oneOfThen wellFormed (by decide) begins_ended ?_
  intro rest isRest _
  exact expressionEnd_foretold finish rest (wellFormed.suffix isRest)

theorem binding_foretold (finish : Position) (tokens : List Token)
    (wellFormed : AllWellFormed tokens) :
    Foretold (ofKinds [.ident] * (ofKinds [.assign] * ended)) binding finish tokens := by
  refine .oneOfThen wellFormed (by decide) begins_assigned ?_
  intro rest isRest _
  exact assigned_foretold finish rest (wellFormed.suffix isRest)

theorem declaration_foretold (finish : Position) (tokens : List Token)
    (wellFormed : AllWellFormed tokens) :
    Foretold assignments ((oneOf [.varWord]).followedBy binding) finish tokens := by
  refine (Foretold.oneOfThen wellFormed (by decide) begins_bindings ?_).mono declare_le
  intro rest isRest _
  exact binding_foretold finish rest (wellFormed.suffix isRest)

theorem assignment_foretold (finish : Position) (tokens : List Token)
    (wellFormed : AllWellFormed tokens) : Foretold assignments (of assignment) finish tokens := by
  refine Foretold.congr ?_ wellFormed fun _ _ areWellFormed _ => assignment_outcome areWellFormed
  refine .onHead wellFormed (fun _ => ?_) fun _ => ?_
  · exact declaration_foretold finish tokens wellFormed
  · exact (binding_foretold finish tokens wellFormed).mono rebind_le

theorem rawTail_foretold (finish : Position) (tokens : List Token)
    (wellFormed : AllWellFormed tokens) : Foretold rawBlocks (of rawTail) finish tokens := by
  rw [of_rawTail]
  refine .oneOfThen wellFormed (by decide)
    ((Begins.of_mem nil_mem_environments).mul_left begins_rawEnds) ?_
  intro inside isInside _
  have wellFormed := wellFormed.suffix isInside
  refine (fragments_foretold finish inside wellFormed).followedBy wellFormed begins_rawEnds ?_
  intro rest isRest _
  have wellFormed := wellFormed.suffix isRest
  refine .oneOfThen wellFormed (by decide) (.of_mem (.inr rfl)) ?_
  intro behind isBehind _
  have wellFormed := wellFormed.suffix isBehind
  rw [of_optionalEnd]
  refine .onHead wellFormed (fun _ => ?_) fun _ => .stay (.inr rfl)
  exact (Foretold.oneOf wellFormed (by decide)).mono le_self_add

theorem conditionHead_foretold (finish : Position) (tokens : List Token)
    (ready : Ready finish tokens) :
    Foretold (ofKinds [.openParen] * groups) (of conditionHead) finish tokens := by
  rw [of_conditionHead]
  refine .oneOfThen ready.wellFormed (by decide) begins_groups ?_
  intro rest isRest _
  exact groupTail_foretold finish rest (ready.suffix isRest)

theorem sumsEnd_foretold (finish : Position) (tokens : List Token)
    (wellFormed : AllWellFormed tokens) :
    Foretold (after expressions ended) (sums.followedBy (of expectEnd)) finish tokens := by
  refine ((sums_foretold finish tokens wellFormed).followedBy wellFormed begins_valueEnds ?_).mono
    after_mul_after_le
  intro rest isRest _
  exact expectEnd_foretold finish rest (wellFormed.suffix isRest)

theorem productsEnd_foretold (finish : Position) (tokens : List Token)
    (wellFormed : AllWellFormed tokens) :
    Foretold (after terms ended) (products.followedBy (sums.followedBy (of expectEnd)))
      finish tokens := by
  refine ((products_foretold finish tokens wellFormed).followedBy wellFormed begins_valueEnds
    ?_).mono (le_trans (mul_le_mul' (after_mono le_rfl terms_le_expressions) le_rfl)
      after_mul_after_le)
  intro rest isRest _
  exact sumsEnd_foretold finish rest (wellFormed.suffix isRest)

theorem nameEnd_foretold (finish : Position) (tokens : List Token)
    (wellFormed : AllWellFormed tokens) :
    Foretold (after (ofKinds [.ident]) statements) nameEnd finish tokens := by
  refine .onHead wellFormed (fun _ => ?_) fun _ => ?_
  · exact (assigned_foretold finish tokens wellFormed).mono assigned_le
  · refine ((callEnd_foretold finish tokens wellFormed).followedBy wellFormed
      (begins_valueEnds.mono (after_mono terms_le_expressions le_rfl)) ?_).mono
      (le_trans (mul_le_mul' (after_mono le_rfl factors_le_terms) le_rfl)
        (le_trans after_mul_after_le (after_mono le_rfl ended_le_statements)))
    intro rest isRest _
    exact productsEnd_foretold finish rest (wellFormed.suffix isRest)

mutual

theorem statement_foretold (finish : Position) (tokens : List Token)
    (ready : Ready finish tokens) : Foretold statements (of statement) finish tokens := by
  have wellFormed := ready.wellFormed
  refine Foretold.congr ?_ wellFormed fun _ _ areWellFormed _ => statement_outcome areWellFormed
  refine .onHead wellFormed (fun _ => ?declaration) fun _ => .onHead wellFormed (fun _ => ?name)
    fun _ => .onHead wellFormed (fun _ => ?returned) fun _ =>
    .onHead wellFormed (fun _ => ?conditional) fun _ => .onHead wellFormed (fun _ => ?block)
    fun _ => .onHead wellFormed (fun _ => ?raw) fun _ => .onHead wellFormed (fun _ => ?value)
    fun _ => ?other
  case declaration =>
    exact (declaration_foretold finish tokens wellFormed).mono assignments_le_statements
  case name =>
    refine (Foretold.oneOfThen wellFormed (by decide) begins_nameEnds ?_).mono mul_after_le
    intro rest isRest _
    exact nameEnd_foretold finish rest (wellFormed.suffix isRest)
  case returned =>
    refine (Foretold.oneOfThen wellFormed (by decide) begins_ended ?_).mono returns_le
    intro rest isRest _
    exact expressionEnd_foretold finish rest (wellFormed.suffix isRest)
  case conditional =>
    refine (Foretold.oneOfThen wellFormed (by decide) begins_conditionals ?_).mono conditionals_le
    intro rest isRest isShorter
    exact conditionalTail_foretold finish rest (ready.suffix isRest)
  case block =>
    refine (Foretold.oneOfThen wellFormed (by decide) begins_blocks ?_).mono blocks_le_statements
    intro rest isRest isShorter
    exact blockTail_foretold finish rest (ready.suffix isRest)
  case raw =>
    refine (Foretold.oneOfThen wellFormed (by decide) begins_rawBlocks ?_).mono rawBlocks_le
    intro rest isRest _
    exact rawTail_foretold finish rest (wellFormed.suffix isRest)
  case value =>
    exact (expressionEnd_foretold finish tokens wellFormed).mono ended_le_statements
  case other => exact .refuse (by decide) fun token => statementStart_viable
termination_by 2 * tokens.length

theorem conditionalTail_foretold (finish : Position) (tokens : List Token)
    (ready : Ready finish tokens) :
    Foretold conditionals (of conditionalTail) finish tokens := by
  rw [of_conditionalTail]
  refine (conditionHead_foretold finish tokens ready).followedBy ready.wellFormed
    (begins_statements.mul_left (.of_mem nil_mem_alternatives)) ?_
  intro afterHead isAfterHead readHead
  have headShorter := Reply.length_lt_of_outcome readHead
  have ready := ready.suffix isAfterHead
  refine (statement_foretold finish afterHead ready).followedBy ready.wellFormed
    (.of_mem nil_mem_alternatives) ?_
  intro rest isRest readBody
  have bodyShorter := Reply.length_lt_of_outcome readBody
  exact alternativeTail_foretold finish rest (ready.suffix isRest)
termination_by 2 * tokens.length

theorem alternativeTail_foretold (finish : Position) (tokens : List Token)
    (ready : Ready finish tokens) :
    Foretold alternatives (of alternativeTail) finish tokens := by
  rw [of_alternativeTail]
  refine .onHead ready.wellFormed (fun _ => ?_) fun _ => .stay nil_mem_alternatives
  refine (Foretold.oneOfThen ready.wellFormed (by decide) begins_statements ?_).mono le_self_add
  intro other isOther isShorter
  have ready := ready.suffix isOther
  refine .onHead ready.wellFormed (fun _ => ?_) fun _ => ?_
  · refine (Foretold.oneOfThen ready.wellFormed (by decide) begins_conditionals ?_).mono
      conditionals_le
    intro rest isRest isShorterStill
    exact conditionalTail_foretold finish rest (ready.suffix isRest)
  · exact statement_foretold finish other ready
termination_by 2 * tokens.length

theorem blockTail_foretold (finish : Position) (tokens : List Token)
    (ready : Ready finish tokens) : Foretold blocks (of blockTail) finish tokens := by
  rw [of_blockTail]
  have wellFormed := ready.wellFormed
  refine .onHead wellFormed (fun _ => ?_) fun _ => .onHead wellFormed (fun _ => ?_) fun _ => ?_
  · exact (Foretold.oneOf wellFormed (by decide)).mono closed_le_blocks
  · refine .refuse (by decide) ?_
    intro token isWellFormed isExpected
    exact .of_mem (closed_le_blocks ⟨token, isWellFormed, isExpected, rfl⟩)
  · refine ((statement_foretold finish tokens ready).followedBy wellFormed begins_blocks ?_).mono
      statements_mul_blocks_le
    intro rest isRest read
    have shorter := Reply.length_lt_of_outcome read
    exact blockTail_foretold finish rest (ready.suffix isRest)
termination_by 2 * tokens.length + 1

end

end StructuredShell.Parser
