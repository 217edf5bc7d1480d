import StructuredShell.Proofs.Places.Alike
import StructuredShell.Syntax.Parser.Program

/-!
# Readers at other places

Conditions, statements and programs that are read from corresponding tokens. Only the two readings
of a parenthesis in a condition compare places: the error that lies further on is kept, and it is
the same one of the two because a correspondence keeps the order of places.
-/

set_option autoImplicit false

namespace StructuredShell.Parser

variable {same : Token → Token → Prop} {finish finish' : Position}

/-! ## Conditions -/

section

variable {tokens others : List Token}

theorem relation_alike (paired : Correspondence same finish finish')
    (alike : List.Forall₂ same tokens others) :
    Reply.Alike same (relation finish tokens) (relation finish' others) := by
  cases alike with
  | nil => exact .fail (unexpected_alike paired .nil relationKinds)
  | cons head rests =>
      simp only [relation, paired.kind_eq head]
      split
      · exact .fail (unexpected_alike paired (.cons head rests) relationKinds)
      · exact .ok rests

theorem comparison_alike (paired : Correspondence same finish finish')
    (alike : List.Forall₂ same tokens others) :
    Reply.Alike same (comparison finish tokens) (comparison finish' others) := by
  unfold comparison
  have replies := expression_alike paired alike
  generalize expression finish tokens = reply, expression finish' others = reply' at replies ⊢
  cases replies with
  | fail errors => exact .fail errors
  | @ok _ rest rest' _ _ rests =>
      dsimp only
      have replies := relation_alike paired rests
      generalize relation finish rest = reply, relation finish' rest' = reply' at replies ⊢
      cases replies with
      | fail errors => exact .fail errors
      | ok afters => exact (((expression_alike paired afters).map _).within _ _).within _ _

/-- Of two pairs of corresponding errors the further ones correspond. -/
theorem furtherError_alike (paired : Correspondence same finish finish')
    {first first' second second' : SyntaxError} (firsts : first.Alike same first')
    (seconds : second.Alike same second') :
    (furtherError first second).Alike same (furtherError first' second') := by
  obtain ⟨sameFirst⟩ := firsts
  obtain ⟨sameSecond⟩ := seconds
  unfold furtherError
  rw [paired.ordered sameFirst sameSecond]
  split
  · exact .reports sameSecond
  · exact .reports sameFirst

end

mutual

theorem condition_alike (paired : Correspondence same finish finish')
    {tokens others : List Token} (alike : List.Forall₂ same tokens others) :
    Reply.Alike same (condition finish tokens) (condition finish' others) := by
  rw [condition, condition]
  have replies := conjunction_alike paired alike
  generalize conjunction finish tokens = reply, conjunction finish' others = reply' at replies ⊢
  cases replies with
  | fail errors => exact .fail errors
  | ok rests => exact (disjunctionTail_alike paired _ rests).widen _ _
termination_by 4 * tokens.length + 2

theorem disjunctionTail_alike (paired : Correspondence same finish finish') (left : Condition)
    {tokens others : List Token} (alike : List.Forall₂ same tokens others) :
    Reply.Alike same (disjunctionTail finish left tokens)
      (disjunctionTail finish' left others) := by
  rw [disjunctionTail, disjunctionTail]
  have replies := expect_alike paired alike .either
  generalize expect finish .either tokens = reply,
    expect finish' .either others = reply' at replies ⊢
  cases replies with
  | fail _ => exact .ok alike
  | @ok _ rest rest' _ _ rests =>
      dsimp only
      have replies := conjunction_alike paired rests
      generalize conjunction finish rest = reply, conjunction finish' rest' = reply' at replies ⊢
      cases replies with
      | fail errors => exact .fail errors
      | ok afters =>
          exact (((disjunctionTail_alike paired _ afters).widen _ _).within _ _).loosen
termination_by 4 * tokens.length

theorem conjunction_alike (paired : Correspondence same finish finish')
    {tokens others : List Token} (alike : List.Forall₂ same tokens others) :
    Reply.Alike same (conjunction finish tokens) (conjunction finish' others) := by
  rw [conjunction, conjunction]
  have replies := conditionAtom_alike paired alike
  generalize conditionAtom finish tokens = reply, conditionAtom finish' others = reply' at replies ⊢
  cases replies with
  | fail errors => exact .fail errors
  | ok rests => exact (conjunctionTail_alike paired _ rests).widen _ _
termination_by 4 * tokens.length + 1

theorem conjunctionTail_alike (paired : Correspondence same finish finish') (left : Condition)
    {tokens others : List Token} (alike : List.Forall₂ same tokens others) :
    Reply.Alike same (conjunctionTail finish left tokens)
      (conjunctionTail finish' left others) := by
  rw [conjunctionTail, conjunctionTail]
  have replies := expect_alike paired alike .both
  generalize expect finish .both tokens = reply, expect finish' .both others = reply' at replies ⊢
  cases replies with
  | fail _ => exact .ok alike
  | @ok _ rest rest' _ _ rests =>
      dsimp only
      have replies := conditionAtom_alike paired rests
      generalize conditionAtom finish rest = reply,
        conditionAtom finish' rest' = reply' at replies ⊢
      cases replies with
      | fail errors => exact .fail errors
      | ok afters =>
          exact (((conjunctionTail_alike paired _ afters).widen _ _).within _ _).loosen
termination_by 4 * tokens.length

theorem conditionAtom_alike (paired : Correspondence same finish finish')
    {tokens others : List Token} (alike : List.Forall₂ same tokens others) :
    Reply.Alike same (conditionAtom finish tokens) (conditionAtom finish' others) := by
  rw [conditionAtom.eq_def, conditionAtom.eq_def]
  match tokens, others, alike with
  | _, _, .nil => exact .fail (unexpected_alike paired .nil conditionStart)
  | token :: rest, other :: rest', .cons head rests =>
      have whole : List.Forall₂ same (token :: rest) (other :: rest') := .cons head rests
      simp only [paired.kind_eq head]
      cases ConditionHead.ofKind other.kind with
      | constant value => exact .ok rests
      | operand => exact comparison_alike paired whole
      | other => exact .fail (unexpected_alike paired whole conditionStart)
      | group =>
          dsimp only
          have replies := groupTail_alike paired rests
          generalize groupTail finish rest = reply, groupTail finish' rest' = reply' at replies ⊢
          cases replies with
          | ok afters => exact .ok afters
          | fail groupErrors =>
              dsimp only
              have replies := comparison_alike paired whole
              generalize comparison finish (token :: rest) = reply,
                comparison finish' (other :: rest') = reply' at replies ⊢
              cases replies with
              | ok afters => exact .ok afters
              | fail errors => exact .fail (furtherError_alike paired groupErrors errors)
termination_by 4 * tokens.length

theorem groupTail_alike (paired : Correspondence same finish finish')
    {tokens others : List Token} (alike : List.Forall₂ same tokens others) :
    Reply.Alike same (groupTail finish tokens) (groupTail finish' others) := by
  rw [groupTail, groupTail]
  have replies := condition_alike paired alike
  generalize condition finish tokens = reply, condition finish' others = reply' at replies ⊢
  cases replies with
  | fail errors => exact .fail errors
  | ok rests => exact ((expect_alike paired rests .closeParen).map _).within _ _
termination_by 4 * tokens.length + 3

end

/-! ## Statements -/

section

variable {tokens others : List Token}

theorem expectEnd_alike (paired : Correspondence same finish finish')
    (alike : List.Forall₂ same tokens others) :
    Reply.Alike same (expectEnd finish tokens) (expectEnd finish' others) := by
  unfold expectEnd
  have replies := expect_alike paired alike .semicolon
  generalize expect finish .semicolon tokens = reply,
    expect finish' .semicolon others = reply' at replies ⊢
  cases replies with
  | ok rests => exact .ok rests
  | fail _ => exact .fail (unexpected_alike paired alike statementEnd)

theorem expressionEnd_alike (paired : Correspondence same finish finish')
    (alike : List.Forall₂ same tokens others) :
    Reply.Alike same (expressionEnd finish tokens) (expressionEnd finish' others) := by
  unfold expressionEnd
  have replies := expression_alike paired alike
  generalize expression finish tokens = reply, expression finish' others = reply' at replies ⊢
  cases replies with
  | fail errors => exact .fail errors
  | ok rests => exact ((expectEnd_alike paired rests).map _).within _ _

theorem assignmentTail_alike (paired : Correspondence same finish finish')
    (declaration : Bool) (alike : List.Forall₂ same tokens others) :
    Reply.Alike same (assignmentTail finish declaration tokens)
      (assignmentTail finish' declaration others) := by
  unfold assignmentTail
  have replies := expectIdent_alike paired alike
  generalize expectIdent finish tokens = reply, expectIdent finish' others = reply' at replies ⊢
  cases replies with
  | fail errors => exact .fail errors
  | @ok _ rest rest' _ _ rests =>
      dsimp only
      have replies := expect_alike paired rests .assign
      generalize expect finish .assign rest = reply,
        expect finish' .assign rest' = reply' at replies ⊢
      cases replies with
      | fail errors => exact .fail errors
      | ok afters =>
          exact (((expressionEnd_alike paired afters).map _).within _ _).within _ _

theorem assignment_alike (paired : Correspondence same finish finish')
    (alike : List.Forall₂ same tokens others) :
    Reply.Alike same (assignment finish tokens) (assignment finish' others) := by
  unfold assignment
  have replies := expect_alike paired alike .varWord
  generalize expect finish .varWord tokens = reply,
    expect finish' .varWord others = reply' at replies ⊢
  cases replies with
  | ok rests => exact (assignmentTail_alike paired true rests).within _ _
  | fail _ => exact assignmentTail_alike paired false alike

theorem optionalEnd_alike (paired : Correspondence same finish finish')
    (alike : List.Forall₂ same tokens others) :
    Reply.Alike same (optionalEnd finish tokens) (optionalEnd finish' others) := by
  unfold optionalEnd
  have replies := expect_alike paired alike .semicolon
  generalize expect finish .semicolon tokens = reply,
    expect finish' .semicolon others = reply' at replies ⊢
  cases replies with
  | ok rests => exact .ok rests
  | fail _ => exact .ok alike

theorem rawTail_alike (paired : Correspondence same finish finish')
    (alike : List.Forall₂ same tokens others) :
    Reply.Alike same (rawTail finish tokens) (rawTail finish' others) := by
  unfold rawTail
  have replies := expect_alike paired alike .openBrace
  generalize expect finish .openBrace tokens = reply,
    expect finish' .openBrace others = reply' at replies ⊢
  cases replies with
  | fail errors => exact .fail errors
  | @ok _ rest rest' _ _ rests =>
      dsimp only
      have replies := fragments_alike paired rests
      generalize fragments finish rest = reply, fragments finish' rest' = reply' at replies ⊢
      cases replies with
      | fail errors => exact .fail errors
      | @ok _ after after' _ _ afters =>
          dsimp only
          have replies := expect_alike paired afters .closeBrace
          generalize expect finish .closeBrace after = reply,
            expect finish' .closeBrace after' = reply' at replies ⊢
          cases replies with
          | fail errors => exact .fail errors
          | ok lasts =>
              exact ((((optionalEnd_alike paired lasts).map _).widen _ _).within _ _).widen _ _

theorem conditionHead_alike (paired : Correspondence same finish finish')
    (alike : List.Forall₂ same tokens others) :
    Reply.Alike same (conditionHead finish tokens) (conditionHead finish' others) := by
  unfold conditionHead
  have replies := expect_alike paired alike .openParen
  generalize expect finish .openParen tokens = reply,
    expect finish' .openParen others = reply' at replies ⊢
  cases replies with
  | fail errors => exact .fail errors
  | ok rests => exact (groupTail_alike paired rests).within _ _

end

mutual

theorem statement_alike (paired : Correspondence same finish finish')
    {tokens others : List Token} (alike : List.Forall₂ same tokens others) :
    Reply.Alike same (statement finish tokens) (statement finish' others) := by
  rw [statement.eq_def, statement.eq_def]
  match tokens, others, alike with
  | _, _, .nil => exact .fail (unexpected_alike paired .nil statementStart)
  | token :: rest, other :: rest', .cons head rests =>
      have whole : List.Forall₂ same (token :: rest) (other :: rest') := .cons head rests
      simp only [paired.kind_eq head, headKind_alike paired rests]
      cases StatementHead.ofKinds other.kind (headKind rest') with
      | assignment => exact (assignment_alike paired whole).map _
      | returnValue => exact ((expressionEnd_alike paired rests).map _).behind token other
      | conditional => exact ((conditionalTail_alike paired rests).map _).behind token other
      | block => exact ((blockTail_alike paired rests).map _).behind token other
      | environment => exact (rawTail_alike paired rests).behind token other
      | value => exact (expressionEnd_alike paired whole).map _
      | other => exact .fail (unexpected_alike paired whole statementStart)
termination_by 2 * tokens.length

theorem conditionalTail_alike (paired : Correspondence same finish finish')
    {tokens others : List Token} (alike : List.Forall₂ same tokens others) :
    Reply.Alike same (conditionalTail finish tokens) (conditionalTail finish' others) := by
  rw [conditionalTail, conditionalTail]
  have replies := conditionHead_alike paired alike
  generalize conditionHead finish tokens = reply, conditionHead finish' others = reply' at replies ⊢
  cases replies with
  | fail errors => exact .fail errors
  | @ok _ rest rest' _ _ rests =>
      dsimp only
      have replies := statement_alike paired rests
      generalize statement finish rest = reply, statement finish' rest' = reply' at replies ⊢
      cases replies with
      | fail errors => exact .fail errors
      | ok afters =>
          exact (((alternativeTail_alike paired afters).map _).widen _ _).within _ _
termination_by 2 * tokens.length

theorem alternativeTail_alike (paired : Correspondence same finish finish')
    {tokens others : List Token} (alike : List.Forall₂ same tokens others) :
    Reply.Alike same (alternativeTail finish tokens) (alternativeTail finish' others) := by
  rw [alternativeTail, alternativeTail]
  have replies := expect_alike paired alike .elseWord
  generalize expect finish .elseWord tokens = reply,
    expect finish' .elseWord others = reply' at replies ⊢
  cases replies with
  | fail _ => exact .ok alike
  | @ok _ rest rest' _ _ rests =>
      dsimp only
      have replies := expect_alike paired rests .ifWord
      generalize expect finish .ifWord rest = reply,
        expect finish' .ifWord rest' = reply' at replies ⊢
      cases replies with
      | ok afters =>
          exact ((((conditionalTail_alike paired afters).map _).within _ _).within _
            _).loosen
      | fail _ => exact (((statement_alike paired rests).map _).within _ _).loosen
termination_by 2 * tokens.length

theorem blockTail_alike (paired : Correspondence same finish finish')
    {tokens others : List Token} (alike : List.Forall₂ same tokens others) :
    Reply.Alike same (blockTail finish tokens) (blockTail finish' others) := by
  rw [blockTail, blockTail, headKind_alike paired alike]
  have replies := expect_alike paired alike .closeBrace
  generalize expect finish .closeBrace tokens = reply,
    expect finish' .closeBrace others = reply' at replies ⊢
  cases replies with
  | ok rests => exact .ok rests
  | fail errors =>
      dsimp only
      split
      · exact .fail errors
      · have replies := statement_alike paired alike
        generalize statement finish tokens = reply, statement finish' others = reply' at replies ⊢
        cases replies with
        | fail errors => exact .fail errors
        | ok rests => exact ((blockTail_alike paired rests).map _).within _ _
termination_by 2 * tokens.length + 1

end

/-! ## Programs -/

section

variable {tokens others : List Token}

theorem block_alike (paired : Correspondence same finish finish')
    (alike : List.Forall₂ same tokens others) :
    Reply.Alike same (block finish tokens) (block finish' others) := by
  unfold block
  have replies := expect_alike paired alike .openBrace
  generalize expect finish .openBrace tokens = reply,
    expect finish' .openBrace others = reply' at replies ⊢
  cases replies with
  | fail errors => exact .fail errors
  | ok rests => exact (blockTail_alike paired rests).within _ _

theorem parameters_alike (paired : Correspondence same finish finish')
    {tokens others : List Token} (alike : List.Forall₂ same tokens others) :
    Reply.Alike same (parameters finish tokens) (parameters finish' others) := by
  rw [parameters, parameters]
  have replies := expect_alike paired alike .closeParen
  generalize expect finish .closeParen tokens = reply,
    expect finish' .closeParen others = reply' at replies ⊢
  cases replies with
  | ok rests => exact .ok rests
  | fail _ =>
      dsimp only
      have replies := expectIdent_alike paired alike
      generalize expectIdent finish tokens = reply, expectIdent finish' others = reply' at replies ⊢
      cases replies with
      | fail errors => exact .fail errors
      | @ok _ rest rest' _ _ rests =>
          dsimp only
          have replies := expectSeparator_alike paired rests
          generalize expectSeparator finish rest = reply,
            expectSeparator finish' rest' = reply' at replies ⊢
          cases replies with
          | fail errors => exact .fail errors
          | @ok more _ _ _ _ afters =>
              cases more with
              | false => exact .ok afters
              | true => exact (((parameters_alike paired afters).map _).within _ _).within _ _
termination_by tokens.length

theorem functionTail_alike (paired : Correspondence same finish finish') (name : String)
    (alike : List.Forall₂ same tokens others) :
    Reply.Alike same (functionTail finish name tokens) (functionTail finish' name others) := by
  unfold functionTail
  have replies := expect_alike paired alike .openParen
  generalize expect finish .openParen tokens = reply,
    expect finish' .openParen others = reply' at replies ⊢
  cases replies with
  | fail errors => exact .fail errors
  | @ok _ rest rest' _ _ rests =>
      dsimp only
      have replies := parameters_alike paired rests
      generalize parameters finish rest = reply, parameters finish' rest' = reply' at replies ⊢
      cases replies with
      | fail errors => exact .fail errors
      | ok afters => exact (((block_alike paired afters).map _).within _ _).within _ _

theorem function_alike (paired : Correspondence same finish finish')
    (alike : List.Forall₂ same tokens others) :
    Reply.Alike same (function finish tokens) (function finish' others) := by
  unfold function
  have replies := expect_alike paired alike .funcWord
  generalize expect finish .funcWord tokens = reply,
    expect finish' .funcWord others = reply' at replies ⊢
  cases replies with
  | fail errors => exact .fail errors
  | @ok _ rest rest' _ _ rests =>
      dsimp only
      have replies := expectIdent_alike paired rests
      generalize expectIdent finish rest = reply, expectIdent finish' rest' = reply' at replies ⊢
      cases replies with
      | fail errors => exact .fail errors
      | ok afters =>
          exact ((functionTail_alike paired _ afters).within _ _).within _ _

theorem program_alike (paired : Correspondence same finish finish')
    {tokens others : List Token} (alike : List.Forall₂ same tokens others) :
    Reply.Alike same (program finish tokens) (program finish' others) := by
  rw [program, program, headKind_alike paired alike]
  cases ItemHead.ofKind (headKind others) with
  | finish => exact .ok alike
  | other => exact .fail (unexpected_alike paired alike itemStart)
  | function =>
      dsimp only
      have replies := function_alike paired alike
      generalize function finish tokens = reply, function finish' others = reply' at replies ⊢
      cases replies with
      | fail errors => exact .fail errors
      | ok rests => exact (((program_alike paired rests).map _).widen _ _).loosen
  | assignment =>
      dsimp only
      have replies := assignment_alike paired alike
      generalize assignment finish tokens = reply, assignment finish' others = reply' at replies ⊢
      cases replies with
      | fail errors => exact .fail errors
      | ok rests => exact (((program_alike paired rests).map _).widen _ _).loosen
termination_by tokens.length

theorem expectFinish_alike (paired : Correspondence same finish finish')
    (alike : List.Forall₂ same tokens others) :
    Reply.Alike same (expectFinish finish tokens) (expectFinish finish' others) := by
  cases alike with
  | nil => exact .ok .nil
  | cons head rests => exact (expect_alike paired (.cons head rests) .finish).loosen

theorem wholeExpression_alike (paired : Correspondence same finish finish')
    (alike : List.Forall₂ same tokens others) :
    Reply.Alike same (wholeExpression finish tokens) (wholeExpression finish' others) := by
  unfold wholeExpression
  have replies := expression_alike paired alike
  generalize expression finish tokens = reply, expression finish' others = reply' at replies ⊢
  cases replies with
  | fail errors => exact .fail errors
  | ok rests => exact ((expectFinish_alike paired rests).map _).widen _ _

end

/-! ## Source texts -/

/-- What a reply says of the text that was read. -/
def Reply.result {α : Type} {bound : Nat} : Reply α bound → Except Diagnostic α
  | .ok value _ _ => .ok value
  | .fail error _ => .error (.syntactic error)

@[simp] theorem Reply.result_widen {α : Type} {bound large : Nat} (bounded : bound ≤ large)
    (reply : Reply α bound) : (reply.widen bounded).result = reply.result := by
  cases reply <;> rfl

@[simp] theorem Reply.result_loosen {α : Type} {bound : Nat} (reply : Reply α bound) :
    reply.loosen.result = reply.result := result_widen _ reply

@[simp] theorem Reply.result_map {α β : Type} {bound : Nat} (f : α → β) (reply : Reply α bound) :
    (reply.map f).result = reply.result.map f := by
  cases reply <;> rfl

theorem readSource_eq_result {α : Type} {bound : List Token → Nat}
    (reader : Position → (tokens : List Token) → Reply α (bound tokens)) {source : String}
    {tokens : List Token} {finish : Position}
    (lexed : Lexer.tokens source = .ok (tokens ++ [Token.endAt finish])) :
    readSource (·.read reader) source = (reader finish tokens).result := by
  have stream : TokenStream.ofTokens (tokens ++ [Token.endAt finish]) = ⟨tokens, finish⟩ := by
    simp [TokenStream.ofTokens, Token.endAt]
  rw [readSource, lexed]
  dsimp only
  rw [stream, TokenStream.read]
  cases reader finish tokens with
  | ok value rest shorter => rfl
  | fail error stopped => rfl

end StructuredShell.Parser
