import StructuredShell.Proofs.Environments.Values

/-!
# The two readings of a text agree on its environments

The reading loop counts delimiters and brackets and keeps the open environments and splices in a
list. The readers of tokens see the outcome as a flat list and count nothing. For every text that
has tokens both find the same environments: wherever the readers come to the end of the fragments
of an environment, there stands the closing delimiter that the loop found for it, so that a syntax
error can only lie in ordinary code.
-/

set_option autoImplicit false

namespace StructuredShell

namespace Parser

open Recognizer
open Lexer (Course Delimiter Reading Splice tokensOf)

/-! ## Conditions -/

section

variable {finish : Position} {readings : List Reading} {splices : List Splice}

theorem comparison_inStep (course : Course ⟨.code, splices⟩ readings) :
    InStep (Course ⟨.code, splices⟩) (of comparison) finish readings := by
  rw [of_comparison, of_relation]
  refine (expression_inStep finish readings splices course).followedBy ?_
  intro left _ inCode _
  refine .oneOfThen inCode (by decide) ?_
  intro right _ _ rightInCode
  exact expression_inStep finish right splices rightInCode

end

mutual

theorem condition_inStep (finish : Position) (readings : List Reading) (splices : List Splice)
    (course : Course ⟨.code, splices⟩ readings) :
    InStep (Course ⟨.code, splices⟩) (of condition) finish readings := by
  rw [of_condition]
  refine (conjunction_inStep finish readings splices course).followedBy ?_
  intro left _ inCode read
  have shorter := Reply.length_lt_of_outcome read
  refine .loop disjuncts_eq (by decide) Reply.length_lt_of_outcome left inCode ?_
  intro later _ laterShorter laterInCode
  exact conjunction_inStep finish later splices laterInCode
termination_by 4 * (tokensOf readings).length + 2

theorem conjunction_inStep (finish : Position) (readings : List Reading) (splices : List Splice)
    (course : Course ⟨.code, splices⟩ readings) :
    InStep (Course ⟨.code, splices⟩) (of conjunction) finish readings := by
  rw [of_conjunction]
  refine (conditionAtom_inStep finish readings splices course).followedBy ?_
  intro left _ inCode read
  have shorter := Reply.length_lt_of_outcome read
  refine .loop conjuncts_eq (by decide) Reply.length_lt_of_outcome left inCode ?_
  intro later _ laterShorter laterInCode
  exact conditionAtom_inStep finish later splices laterInCode
termination_by 4 * (tokensOf readings).length + 1

theorem conditionAtom_inStep (finish : Position) (readings : List Reading) (splices : List Splice)
    (course : Course ⟨.code, splices⟩ readings) :
    InStep (Course ⟨.code, splices⟩) (of conditionAtom) finish readings := by
  rw [of_conditionAtom]
  refine .onHead (fun _ => ?constant) fun _ => .onHead (fun _ => ?group) fun _ =>
    .onHead (fun _ => ?operand) fun _ => ?other
  case constant => exact .oneOf course (by decide)
  case group =>
    refine .either ?_ (comparison_inStep course)
    refine .oneOfThen course (by decide) ?_
    intro rest _ isShorter inCode
    exact groupTail_inStep finish rest splices inCode
  case operand => exact comparison_inStep course
  case other => exact .refuse course _
termination_by 4 * (tokensOf readings).length

theorem groupTail_inStep (finish : Position) (readings : List Reading) (splices : List Splice)
    (course : Course ⟨.code, splices⟩ readings) :
    InStep (Course ⟨.code, splices⟩) (of groupTail) finish readings := by
  rw [of_groupTail]
  exact (condition_inStep finish readings splices course).closedBy rfl
termination_by 4 * (tokensOf readings).length + 3

end

/-! ## Statements -/

section

variable {finish : Position} {readings : List Reading} {splices : List Splice}

theorem expectEnd_inStep (course : Course ⟨.code, splices⟩ readings) :
    InStep (Course ⟨.code, splices⟩) (of expectEnd) finish readings := by
  rw [of_expectEnd]
  exact .onHead (fun _ => .oneOf course (by decide)) fun _ => .refuse course _

theorem expressionEnd_inStep (course : Course ⟨.code, splices⟩ readings) :
    InStep (Course ⟨.code, splices⟩) (of expressionEnd) finish readings := by
  rw [of_expressionEnd]
  refine (expression_inStep finish readings splices course).followedBy ?_
  intro left _ inCode _
  exact expectEnd_inStep inCode

theorem assigned_inStep (course : Course ⟨.code, splices⟩ readings) :
    InStep (Course ⟨.code, splices⟩) assigned finish readings := by
  refine .oneOfThen course (by decide) ?_
  intro value _ _ inCode
  exact expressionEnd_inStep inCode

theorem binding_inStep (course : Course ⟨.code, splices⟩ readings) :
    InStep (Course ⟨.code, splices⟩) binding finish readings := by
  refine .oneOfThen course (by decide) ?_
  intro rest _ _ inCode
  exact assigned_inStep inCode

theorem declaration_inStep (course : Course ⟨.code, splices⟩ readings) :
    InStep (Course ⟨.code, splices⟩) ((oneOf [.varWord]).followedBy binding) finish readings := by
  refine .oneOfThen course (by decide) ?_
  intro rest _ _ inCode
  exact binding_inStep inCode

theorem assignment_inStep (course : Course ⟨.code, splices⟩ readings) :
    InStep (Course ⟨.code, splices⟩) (of assignment) finish readings := by
  refine InStep.congr ?_ (assignment_outcome course.wellFormed)
  exact .onHead (fun _ => declaration_inStep course) fun _ => binding_inStep course

theorem sums_inStep (course : Course ⟨.code, splices⟩ readings) :
    InStep (Course ⟨.code, splices⟩) sums finish readings := by
  refine .loop sums_eq (by decide) Reply.length_lt_of_outcome readings course ?_
  intro left _ _ inCode
  exact term_inStep finish left splices inCode

theorem products_inStep (course : Course ⟨.code, splices⟩ readings) :
    InStep (Course ⟨.code, splices⟩) products finish readings := by
  refine .loop products_eq (by decide) Reply.length_lt_of_outcome readings course ?_
  intro left _ _ inCode
  exact factor_inStep finish left splices inCode

theorem nameEnd_inStep (course : Course ⟨.code, splices⟩ readings) :
    InStep (Course ⟨.code, splices⟩) nameEnd finish readings := by
  refine .onHead (fun _ => assigned_inStep course) fun _ => ?_
  refine (callEnd_inStep finish readings splices course).followedBy fun called _ afterCall _ => ?_
  refine (products_inStep afterCall).followedBy fun multiplied _ afterProducts _ => ?_
  refine (sums_inStep afterProducts).followedBy fun added _ afterSums _ => ?_
  exact expectEnd_inStep afterSums

/-- An environment of a statement, from the word that announces it on. -/
theorem raw_inStep (course : Course ⟨.code, splices⟩ readings)
    (isRaw : headKind (tokensOf readings) ∈ [Kind.rawWord]) :
    InStep (Course ⟨.code, splices⟩) ((oneOf [.rawWord]).followedBy (of rawTail)) finish
      readings := by
  rw [of_rawTail, of_optionalEnd]
  refine InStep.environment course isRaw rfl ?_ ?_
  · intro start inner _ _ entered
    exact fragments_inStep finish inner _ splices entered
  · intro start left atClose
    refine atClose.inStep.followedBy ?_
    intro rest _ inCode _
    exact .onHead (fun _ => .oneOf inCode (by decide)) fun _ => .stay inCode

theorem conditionHead_inStep (course : Course ⟨.code, splices⟩ readings) :
    InStep (Course ⟨.code, splices⟩) (of conditionHead) finish readings := by
  rw [of_conditionHead]
  refine .oneOfThen course (by decide) ?_
  intro rest _ _ inCode
  exact groupTail_inStep finish rest splices inCode

end

mutual

theorem statement_inStep (finish : Position) (readings : List Reading) (splices : List Splice)
    (course : Course ⟨.code, splices⟩ readings) :
    InStep (Course ⟨.code, splices⟩) (of statement) finish readings := by
  refine InStep.congr ?_ (statement_outcome course.wellFormed)
  refine .onHead (fun _ => ?declaration) fun _ => .onHead (fun _ => ?name) fun _ =>
    .onHead (fun _ => ?returned) fun _ => .onHead (fun _ => ?conditional) fun _ =>
    .onHead (fun _ => ?block) fun _ => .onHead (fun isRaw => ?raw) fun _ =>
    .onHead (fun _ => ?value) fun _ => ?other
  case declaration => exact declaration_inStep course
  case name =>
    refine .oneOfThen course (by decide) ?_
    intro rest _ _ inCode
    exact nameEnd_inStep inCode
  case returned =>
    refine .oneOfThen course (by decide) ?_
    intro rest _ _ inCode
    exact expressionEnd_inStep inCode
  case conditional =>
    refine .oneOfThen course (by decide) ?_
    intro rest _ isShorter inCode
    exact conditionalTail_inStep finish rest splices inCode
  case block =>
    refine .oneOfThen course (by decide) ?_
    intro rest _ isShorter inCode
    exact blockTail_inStep finish rest splices inCode
  case raw => exact raw_inStep course isRaw
  case value => exact expressionEnd_inStep course
  case other => exact .refuse course _
termination_by 2 * (tokensOf readings).length

theorem conditionalTail_inStep (finish : Position) (readings : List Reading)
    (splices : List Splice) (course : Course ⟨.code, splices⟩ readings) :
    InStep (Course ⟨.code, splices⟩) (of conditionalTail) finish readings := by
  rw [of_conditionalTail]
  refine (conditionHead_inStep course).followedBy ?_
  intro afterHead _ inCode readHead
  have headShorter := Reply.length_lt_of_outcome readHead
  refine (statement_inStep finish afterHead splices inCode).followedBy ?_
  intro rest _ restInCode readBody
  have bodyShorter := Reply.length_lt_of_outcome readBody
  exact alternativeTail_inStep finish rest splices restInCode
termination_by 2 * (tokensOf readings).length

theorem alternativeTail_inStep (finish : Position) (readings : List Reading)
    (splices : List Splice) (course : Course ⟨.code, splices⟩ readings) :
    InStep (Course ⟨.code, splices⟩) (of alternativeTail) finish readings := by
  rw [of_alternativeTail]
  refine .onHead (fun _ => ?_) fun _ => .stay course
  refine .oneOfThen course (by decide) ?_
  intro other _ isShorter inCode
  refine .onHead (fun _ => ?_) fun _ => statement_inStep finish other splices inCode
  refine .oneOfThen inCode (by decide) ?_
  intro rest _ isShorterStill restInCode
  exact conditionalTail_inStep finish rest splices restInCode
termination_by 2 * (tokensOf readings).length

theorem blockTail_inStep (finish : Position) (readings : List Reading) (splices : List Splice)
    (course : Course ⟨.code, splices⟩ readings) :
    InStep (Course ⟨.code, splices⟩) (of blockTail) finish readings := by
  rw [of_blockTail]
  refine .onHead (fun _ => .oneOf course (by decide)) fun _ =>
    .onHead (fun _ => .refuse course _) fun _ => ?_
  refine (statement_inStep finish readings splices course).followedBy ?_
  intro rest _ inCode read
  have shorter := Reply.length_lt_of_outcome read
  exact blockTail_inStep finish rest splices inCode
termination_by 2 * (tokensOf readings).length + 1

end

/-! ## Programs -/

theorem parameters_inStep (finish : Position) (readings : List Reading) (splices : List Splice)
    (course : Course ⟨.code, splices⟩ readings) :
    InStep (Course ⟨.code, splices⟩) (of parameters) finish readings := by
  refine InStep.congr ?_ (parameters_outcome course.wellFormed)
  refine .onHead (fun _ => .oneOf course (by decide)) fun _ => ?_
  refine .oneOfThen course (by decide) ?_
  intro rest _ isShorter inCode
  refine separator_inStep inCode ?_
  intro others _ isShorterStill othersInCode
  exact parameters_inStep finish others splices othersInCode
termination_by (tokensOf readings).length

section

variable {finish : Position} {readings : List Reading} {splices : List Splice}

theorem block_inStep (course : Course ⟨.code, splices⟩ readings) :
    InStep (Course ⟨.code, splices⟩) (of block) finish readings := by
  rw [of_block]
  refine .oneOfThen course (by decide) ?_
  intro body _ _ inCode
  exact blockTail_inStep finish body splices inCode

theorem function_inStep (course : Course ⟨.code, splices⟩ readings) :
    InStep (Course ⟨.code, splices⟩) (of function) finish readings := by
  refine InStep.congr ?_ (function_outcome course.wellFormed)
  refine .oneOfThen course (by decide) fun afterWord _ _ nameAhead => ?_
  refine .oneOfThen nameAhead (by decide) fun afterName _ _ parameterAhead => ?_
  refine .oneOfThen parameterAhead (by decide) fun names _ _ inCode => ?_
  refine (parameters_inStep finish names splices inCode).followedBy ?_
  intro body _ bodyInCode _
  exact block_inStep bodyInCode

end

theorem program_inStep (finish : Position) (readings : List Reading) (splices : List Splice)
    (course : Course ⟨.code, splices⟩ readings) :
    InStep (Course ⟨.code, splices⟩) (of program) finish readings := by
  rw [of_program]
  refine .onHead (fun _ => .stay course) fun _ => .onHead (fun _ => ?function) fun _ =>
    .onHead (fun _ => ?assignment) fun _ => .refuse course _
  case function =>
    refine (function_inStep course).followedBy ?_
    intro rest _ inCode read
    have shorter := Reply.length_lt_of_outcome read
    exact program_inStep finish rest splices inCode
  case assignment =>
    refine (assignment_inStep course).followedBy ?_
    intro rest _ inCode read
    have shorter := Reply.length_lt_of_outcome read
    exact program_inStep finish rest splices inCode
termination_by (tokensOf readings).length

theorem wholeExpression_inStep {finish : Position} {readings : List Reading}
    {splices : List Splice} (course : Course ⟨.code, splices⟩ readings) :
    InStep (Course ⟨.code, splices⟩) (of wholeExpression) finish readings := by
  have parts : of wholeExpression = (of expression).followedBy (of expectFinish) := by
    funext finish tokens
    simp only [of, followedBy, wholeExpression]
    cases expression finish tokens <;> simp
  rw [parts]
  refine (expression_inStep finish readings splices course).followedBy ?_
  intro left _ inCode _
  cases left with
  | nil => exact .inl ⟨[], List.suffix_rfl, inCode, rfl⟩
  | cons reading rest =>
      have notEnd : reading.token.kind ≠ .finish := (inCode.inner reading.token (.head _)).noEnd
      refine .inr ⟨reading :: rest, splices, [.finish], List.suffix_rfl, inCode, ?_⟩
      simp [of, expectFinish, expect, notEnd]

/-- The readers that are called in ordinary code. -/
def codeReaders : List Recognizer := [
  of program, of function, of parameters, of block, of blockTail, of statement, of conditionalTail,
  of alternativeTail, of assignment, of expressionEnd, of conditionHead, of groupTail,
  of condition, of conjunction, of conditionAtom, of comparison, of wholeExpression, of expression,
  of term, of factor, of arguments]

theorem codeReaders_inStep {finish : Position} {readings : List Reading} {splices : List Splice}
    (course : Course ⟨.code, splices⟩ readings) :
    ∀ reader ∈ codeReaders, InStep (Course ⟨.code, splices⟩) reader finish readings := by
  simp only [codeReaders, List.forall_mem_cons]
  exact ⟨program_inStep finish readings splices course, function_inStep course,
    parameters_inStep finish readings splices course, block_inStep course,
    blockTail_inStep finish readings splices course,
    statement_inStep finish readings splices course,
    conditionalTail_inStep finish readings splices course,
    alternativeTail_inStep finish readings splices course, assignment_inStep course,
    expressionEnd_inStep course, conditionHead_inStep course,
    groupTail_inStep finish readings splices course,
    condition_inStep finish readings splices course,
    conjunction_inStep finish readings splices course,
    conditionAtom_inStep finish readings splices course, comparison_inStep course,
    wholeExpression_inStep course, expression_inStep finish readings splices course,
    term_inStep finish readings splices course, factor_inStep finish readings splices course,
    arguments_inStep finish readings splices course, List.forall_mem_nil _⟩

end Parser

/-! ## Errors in ordinary code -/

open Lexer (Course Delimiter Reading Splice environments readings tokensOf)
open StructuredShell.Parser (AtClose InStep Recognizer codeReaders fragments unexpected)

/-- Whether an error reports a token of ordinary code: no text and no closing delimiter of an
environment, nor the token after one that announces an environment or a splice. -/
structure SyntaxError.LiesInCode (error : SyntaxError) (source : String) (tokens : List Token) :
    Prop where
  not_text : error.found ≠ .rawText
  not_closing : ∀ start, (start, error.position) ∉ environments source
  not_announced : ∃ index, error.ReportsAt tokens index ∧
    ∀ (before : List Token) (previous : Token), tokens.take index = before ++ [previous] →
      previous.kind ≠ .rawWord ∧ previous.kind ≠ .dollar

section

variable {source : String} {last : Token} {before left : List Reading} {splices : List Splice}

/-- A closing delimiter is not read in ordinary code. -/
theorem Lexer.not_closing_of_code
    (increasing : Increasing (tokensOf (readings source) ++ [last]))
    (isLeft : readings source = before ++ left) (inCode : Course ⟨.code, splices⟩ left)
    (expected : List Kind) (start : Position) :
    (start, (unexpected last.position expected (tokensOf left)).position) ∉
      environments source := by
  intro isEnvironment
  obtain ⟨closing, isReading, closes⟩ := List.mem_filterMap.mp isEnvironment
  obtain ⟨block, inBody, -, -, samePlace⟩ := Reading.closes?_eq_some_iff.mp closes
  have distinct := nodup_positions increasing
  rw [List.map_append, List.nodup_append] at distinct
  cases left with
  | nil =>
      have isEarlier : closing.token.position ∈ (tokensOf (readings source)).map Token.position :=
        List.mem_map_of_mem (List.mem_map_of_mem isReading)
      exact distinct.2.2 _ isEarlier last.position (by simp) samePlace
  | cons reading rest =>
      have isHead : reading ∈ readings source := by simp [isLeft]
      have all : ((readings source).map fun reading => reading.token.position).Nodup := by
        simpa [tokensOf, Function.comp_def] using distinct.1
      obtain rfl := List.inj_on_of_nodup_map all isReading isHead samePlace
      cases inBody.symm.trans inCode.next.1

theorem SyntaxError.liesInCode_of_code (course : Course .initial (readings source))
    (isEnd : last.kind = .finish)
    (increasing : Increasing (tokensOf (readings source) ++ [last]))
    (isLeft : readings source = before ++ left) (inCode : Course ⟨.code, splices⟩ left)
    (expected : List Kind) :
    (unexpected last.position expected (tokensOf left)).LiesInCode source
      (tokensOf (readings source) ++ [last]) := by
  refine ⟨?_, Lexer.not_closing_of_code increasing isLeft inCode expected,
    (tokensOf before).length, ?_, ?_⟩
  · cases left with
    | nil => nofun
    | cons reading rest => exact inCode.next.2.1
  · have isDrop : (tokensOf (readings source)).drop (tokensOf before).length = tokensOf left := by
      rw [isLeft, Lexer.tokensOf_append, List.drop_left]
    rw [← isDrop]
    exact Parser.unexpected_reportsAt isEnd expected (by simp [isLeft])
  · intro earlier previous isTake
    rw [isLeft, Lexer.tokensOf_append, List.append_assoc, List.take_left] at isTake
    obtain ⟨others, ending, rfl, rfl, isPrevious⟩ := List.map_eq_append_iff.mp isTake
    obtain ⟨reading, rfl, rfl⟩ := List.map_eq_singleton_iff.mp isPrevious
    have quiet := course.not_announced (by simpa using isLeft) inCode
    constructor
    · intro isRaw
      simp [isRaw, Delimiter.ofTrigger?] at quiet
    · intro isDollar
      simp [isDollar, Delimiter.ofTrigger?] at quiet

theorem Parser.InStep.liesInCode {arrives : List Reading → Prop} {reader : Recognizer}
    {error : SyntaxError} (inStep : InStep arrives reader last.position left)
    (course : Course .initial (readings source)) (isEnd : last.kind = .finish)
    (increasing : Increasing (tokensOf (readings source) ++ [last]))
    (isLeft : readings source = before ++ left)
    (failed : reader last.position (tokensOf left) = .error error) :
    error.LiesInCode source (tokensOf (readings source) ++ [last]) := by
  rcases inStep with ⟨rest, -, -, read⟩ | ⟨rest, outer, expected, ⟨skipped, rfl⟩, inCode, reported⟩
  · rw [read] at failed
    cases failed
  · rw [reported] at failed
    cases failed
    rw [← List.append_assoc] at isLeft
    exact SyntaxError.liesInCode_of_code course isEnd increasing isLeft inCode expected

end

/-! ## The two readings agree -/

/-- Whether the readers of tokens find the environments of a text as the reading loop does. -/
structure AgreeOnEnvironments (source : String) (tokens : List Token) (stream : TokenStream) :
    Prop where
  marks : Lexer.MarksEnvironments source tokens
  /-- Fragments that are read behind the two tokens that begin an environment end at its closing
  delimiter. -/
  ends_at_close : ∀ (before inner rest : List Token) (trigger opening : Token)
      (delimiter : Delimiter) (pieces : List Fragment),
    stream.ahead = before ++ trigger :: opening :: inner →
    Delimiter.ofTrigger? trigger.kind = some delimiter → opening.kind = delimiter.openKind →
    (fragments stream.finish inner).reads? = some (pieces, rest) →
    ∃ (closing : Token) (after : List Token), rest = closing :: after ∧
      closing.kind = delimiter.closeKind ∧
      (opening.position, closing.position) ∈ environments source
  /-- Errors of readers that are called in ordinary code lie there, also those that are not kept. -/
  reader_errors : ∀ reader ∈ codeReaders, ∀ (before after : List Reading) (error : SyntaxError),
    readings source = before ++ after → (∀ reading ∈ after.head?, reading.phase = .code) →
    reader stream.finish (tokensOf after) = .error error → error.LiesInCode source tokens
  program_errors : ∀ error, Program.parse source = .error (.syntactic error) →
    error.LiesInCode source tokens
  expression_errors : ∀ error, Expr.parse source = .error (.syntactic error) →
    error.LiesInCode source tokens

theorem Expr.parse_eq_syntactic {source : String} {tokens : List Token} {last : Token}
    {error : SyntaxError} (lexed : Lexer.tokens source = .ok (tokens ++ [last]))
    (isEnd : last.kind = .finish) (failed : Expr.parse source = .error (.syntactic error)) :
    Recognizer.of Parser.wholeExpression last.position tokens = .error error := by
  unfold Expr.parse readSource at failed
  rw [lexed] at failed
  dsimp only at failed
  rw [TokenStream.ofTokens_append_finish tokens isEnd, TokenStream.expression, TokenStream.read]
    at failed
  unfold Recognizer.of
  cases read : Parser.wholeExpression last.position tokens with
  | ok value rest shorter => simp [read] at failed
  | fail found stopped => simpa [read] using failed

/-- Fragments that are read in the body of an environment end at its closing delimiter. -/
theorem Parser.fragments_ends_at_close {source : String} {finish : Position}
    {before inner : List Reading} {trigger opening : Reading} {delimiter : Delimiter}
    {pieces : List Fragment} {rest : List Token} (course : Course .initial (readings source))
    (isReading : readings source = before ++ trigger :: opening :: inner)
    (announces : Delimiter.ofTrigger? trigger.token.kind = some delimiter)
    (isOpen : opening.token.kind = delimiter.openKind)
    (read : (fragments finish (tokensOf inner)).reads? = some (pieces, rest)) :
    ∃ (closing : Token) (after : List Token), rest = closing :: after ∧
      closing.kind = delimiter.closeKind ∧
      (opening.token.position, closing.position) ∈ Lexer.environments source := by
  obtain ⟨splices, entered⟩ := course.enters isReading announces isOpen
  have outcome : Recognizer.of fragments finish (tokensOf inner) = .ok rest :=
    Reply.outcome_eq_ok_iff.mpr ⟨pieces, read⟩
  rcases fragments_inStep finish inner _ splices entered with
    ⟨left, isLeft, atClose, arrived⟩ | ⟨_, _, _, _, _, failed⟩
  · rw [arrived] at outcome
    cases outcome
    obtain ⟨closing, after, rfl, isClose, closes⟩ := atClose.closes
    have isReading : closing ∈ readings source := by
      have isInner : closing ∈ inner := isLeft.subset (.head _)
      simp [isReading, isInner]
    exact ⟨closing.token, _, rfl, isClose, List.mem_filterMap.mpr ⟨closing, isReading, closes⟩⟩
  · rw [failed] at outcome
    cases outcome

/-- The reading loop and the readers of tokens agree on the environments of every text that has
tokens. The loop marks each environment in the list of tokens and keeps its texts apart. A reader
that has taken the fragments of an environment stands at the closing delimiter that the loop found
for it. So a syntax error never lies at a text, behind a token that announces an environment or a
splice, or at the end of an environment. -/
theorem Lexer.tokens_agreeOnEnvironments {source : String} {tokens : List Token}
    (lexed : Lexer.tokens source = .ok tokens) :
    AgreeOnEnvironments source tokens (.ofTokens tokens) := by
  have marks := marksEnvironments lexed
  obtain ⟨⟨place, rfl⟩, course⟩ := tokens_course lexed
  obtain ⟨_, _, _, _, _, increasing⟩ := tokens_inner lexed
  rw [TokenStream.ofTokens_append_finish _ rfl]
  refine ⟨marks, ?ends, ?readers, ?program, ?expression⟩
  case ends =>
    intro before inner rest trigger opening delimiter pieces isAhead announces isOpen read
    obtain ⟨earlier, _, isReading, rfl, isBehind⟩ := List.map_eq_append_iff.mp isAhead
    obtain ⟨first, _, rfl, rfl, isOpening⟩ := List.map_eq_cons_iff.mp isBehind
    obtain ⟨second, body, rfl, rfl, rfl⟩ := List.map_eq_cons_iff.mp isOpening
    exact Parser.fragments_ends_at_close course isReading announces isOpen read
  case readers =>
    intro reader isReader before after error isAfter inCode failed
    obtain ⟨splices, courseAfter⟩ := course.in_code isAfter inCode
    exact (Parser.codeReaders_inStep courseAfter reader isReader).liesInCode course rfl increasing
      isAfter failed
  case program =>
    intro error failed
    exact (Parser.program_inStep place _ [] course).liesInCode course rfl increasing
      (List.nil_append _).symm (Program.parse_eq_syntactic lexed rfl failed)
  case expression =>
    intro error failed
    exact (Parser.wholeExpression_inStep course).liesInCode course rfl increasing
      (List.nil_append _).symm (Expr.parse_eq_syntactic lexed rfl failed)

/-- The tokens of an environment with an environment in its splice, and of a number behind them. -/
def nestedEnvironments : List Token := [
  ⟨.dollar, none, ⟨1, 1⟩⟩, ⟨.openParen, none, ⟨1, 2⟩⟩, ⟨.rawText, some (.text "a"), ⟨1, 3⟩⟩,
  ⟨.dollar, none, ⟨1, 4⟩⟩, ⟨.openBracket, none, ⟨1, 5⟩⟩, ⟨.dollar, none, ⟨1, 6⟩⟩,
  ⟨.openParen, none, ⟨1, 7⟩⟩, ⟨.rawText, some (.text "b"), ⟨1, 8⟩⟩, ⟨.closeParen, none, ⟨1, 9⟩⟩,
  ⟨.closeBracket, none, ⟨1, 10⟩⟩, ⟨.rawText, some (.text "c"), ⟨1, 11⟩⟩,
  ⟨.closeParen, none, ⟨1, 12⟩⟩, ⟨.number, some (.number 1), ⟨1, 14⟩⟩, ⟨.finish, none, ⟨1, 15⟩⟩]

theorem Lexer.tokens_agreeOnEnvironments_nested :
    Lexer.tokens "$(a$[$(b)]c) 1" = .ok nestedEnvironments ∧
    environments "$(a$[$(b)]c) 1" = [(⟨1, 7⟩, ⟨1, 9⟩), (⟨1, 2⟩, ⟨1, 12⟩)] ∧
    Expr.parse "$(a$[$(b)]c) 1" = .error (.syntactic ⟨.number, [.finish], ⟨1, 14⟩⟩) ∧
    AgreeOnEnvironments "$(a$[$(b)]c) 1" nestedEnvironments (.ofTokens nestedEnvironments) := by
  have lexed : Lexer.tokens "$(a$[$(b)]c) 1" = .ok nestedEnvironments := by cbv
  have closed : environments "$(a$[$(b)]c) 1" = [(⟨1, 7⟩, ⟨1, 9⟩), (⟨1, 2⟩, ⟨1, 12⟩)] := by cbv
  have failed : Expr.parse "$(a$[$(b)]c) 1" =
      .error (.syntactic ⟨.number, [.finish], ⟨1, 14⟩⟩) := by cbv
  exact ⟨lexed, closed, failed, tokens_agreeOnEnvironments lexed⟩

end StructuredShell
