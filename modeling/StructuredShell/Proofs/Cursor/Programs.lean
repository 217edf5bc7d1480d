import StructuredShell.Proofs.Cursor.Values
import StructuredShell.Proofs.Grammar.Statements

/-!
# Statements and programs at a cursor
-/

set_option autoImplicit false

namespace StructuredShell.Cursor

open StructuredShell.Parser (StatementHead ItemHead Reply headKind)

variable {inner : List Token} {last : Token}

/-! ## Parts of statements -/

section

variable {ahead : List Token}

theorem group_agrees (faces : Faces inner last ahead) :
    Agrees inner last ahead (Parser.conditionHead last.position ahead)
      (group.outcome (facing inner last ahead)) := by
  rw [group, Parser.conditionHead]
  refine (Agrees.require faces .openParen (by decide)).bind (fun _ _ read => by rw [read])
    fun _ rest shorter read isRest => ?_
  rw [read]
  exact (groupTail_agrees (faces.left isRest)).widen _

theorem valueEnd_agrees (faces : Faces inner last ahead) :
    Agrees inner last ahead (Parser.expressionEnd last.position ahead)
      (valueEnd.outcome (facing inner last ahead)) := by
  rw [valueEnd, Parser.expressionEnd]
  refine (expression_agrees faces).bind (fun _ _ read => by rw [read])
    fun value rest shorter read isRest => ?_
  rw [read]
  exact (Agrees.expectEnd (faces.left isRest)).map.widen _

theorem assignmentTail_agrees (faces : Faces inner last ahead) (declaration : Bool) :
    Agrees inner last ahead (Parser.assignmentTail last.position declaration ahead)
      ((assignmentTail declaration).outcome (facing inner last ahead)) := by
  rw [assignmentTail, Parser.assignmentTail]
  refine (Agrees.expectIdent faces).bind (fun _ _ read => by rw [read])
    fun target rest shorter read isRest => ?_
  rw [read]
  dsimp only
  have faces' := faces.left isRest
  refine (Agrees.require faces' .assign (by decide)).bind (fun _ _ read => by rw [read])
    fun _ rest' shorter' read isLeft => ?_
  rw [read]
  exact ((valueEnd_agrees (faces'.left isLeft)).map.widen _).widen _

theorem assignment_agrees (faces : Faces inner last ahead) :
    Agrees inner last ahead (Parser.assignment last.position ahead)
      (assignment.outcome (facing inner last ahead)) := by
  rw [assignment, Parser.assignment]
  refine .accept faces .varWord (by decide) (fun rest shorter read isRest => ?_) fun _ _ read => ?_
  · rw [read]
    exact (assignmentTail_agrees (faces.left isRest) true).widen _
  · rw [read]
    exact assignmentTail_agrees faces false

theorem optionalEnd_agrees (faces : Faces inner last ahead) :
    Agrees inner last ahead (Parser.optionalEnd last.position ahead)
      (optionalEnd.outcome (facing inner last ahead)) := by
  rw [optionalEnd, Parser.optionalEnd]
  refine .accept faces .semicolon (by decide) (fun rest shorter read _ => ?_) fun _ _ read => ?_
  · rw [read]
    exact .reads (List.suffix_refl rest)
  · rw [read]
    exact .reads (List.suffix_refl ahead)

theorem rawTail_agrees (faces : Faces inner last ahead) :
    Agrees inner last ahead (Parser.rawTail last.position ahead)
      (rawTail.outcome (facing inner last ahead)) := by
  rw [rawTail, Parser.rawTail]
  refine (Agrees.require faces .openBrace (by decide)).bind (fun _ _ read => by rw [read])
    fun _ rest shorter read isRest => ?_
  rw [read]
  dsimp only
  have faces' := faces.left isRest
  refine (fragments_agrees faces').bind (fun _ _ read => by rw [read])
    fun pieces rest' bounded read isLeft => ?_
  rw [read]
  dsimp only
  have faces'' := faces'.left isLeft
  refine (Agrees.require faces'' .closeBrace (by decide)).bind (fun _ _ read => by rw [read])
    fun _ rest'' shorter' read isEnd => ?_
  rw [read]
  exact (((optionalEnd_agrees (faces''.left isEnd)).map.widen _).widen _).widen _

end

/-! ## Statements -/

mutual

theorem statement_agrees {ahead : List Token} (faces : Faces inner last ahead) :
    Agrees inner last ahead (Parser.statement last.position ahead)
      (statement.outcome (facing inner last ahead)) := by
  rw [statement]
  refine .look faces ?_
  rw [outcome_bind, peek_outcome faces]
  dsimp only
  cases ahead with
  | nil =>
      rw [Parser.statement, List.headD_nil, faces.isEnd]
      exact .unexpected faces Parser.statementStart
  | cons token rest =>
      have second : (((token :: rest).drop 1).headD last).kind = headKind rest :=
        headD_kind faces.tail
      rw [Parser.statement, second, List.headD_cons]
      cases head : StatementHead.ofKinds token.kind (headKind rest) with
      | assignment => exact (assignment_agrees faces).map
      | returnValue => exact .skip faces ((valueEnd_agrees faces.tail).map.widen _)
      | conditional =>
          have isIf := Parser.ofKinds_eq_conditional_iff.mp head
          dsimp only
          refine (conditional_agrees faces isIf).bind (fun _ _ read => by rw [read]; rfl)
            fun (test, body, alternative) rest' shorter read isRest => ?_
          rw [read]
          exact .reads (List.suffix_refl rest')
      | block =>
          have isOpen := Parser.ofKinds_eq_block_iff.mp head
          exact (block_agrees faces isOpen).map.widen _
      | environment => exact .skip faces ((rawTail_agrees faces.tail).widen _)
      | value => exact (valueEnd_agrees faces).map
      | other => exact .unexpected faces Parser.statementStart
termination_by 4 * ahead.length
decreasing_by all_goals subst_vars; simp only [List.length_cons]; omega

theorem conditional_agrees {token : Token} {rest : List Token}
    (faces : Faces inner last (token :: rest)) (isIf : token.kind = .ifWord) :
    Agrees inner last (token :: rest) (Parser.conditionalTail last.position rest)
      (conditional.outcome (facing inner last (token :: rest))) := by
  rw [conditional, require_outcome_head faces isIf, Parser.conditionalTail]
  refine Agrees.behind ?_ (List.suffix_cons token rest)
  refine (group_agrees faces.tail).bind (fun _ _ read => by rw [read])
    fun test rest' shorter read isRest => ?_
  rw [read]
  dsimp only
  have faces' := faces.tail.left isRest
  refine (statement_agrees faces').bind (fun _ _ read => by rw [read])
    fun body rest'' shorter' read isLeft => ?_
  rw [read]
  exact ((alternative_agrees (faces'.left isLeft)).map.widen _).widen _
termination_by 4 * rest.length + 1

theorem alternative_agrees {ahead : List Token} (faces : Faces inner last ahead) :
    Agrees inner last ahead (Parser.alternativeTail last.position ahead)
      (alternative.outcome (facing inner last ahead)) := by
  rw [alternative, Parser.alternativeTail]
  refine .accept faces .elseWord (by decide) (fun rest shorter read isRest => ?_) fun _ _ read => ?_
  · rw [read]
    dsimp only
    have faces' := faces.left isRest
    refine .check faces' .ifWord (by decide) (fun token rest' shorter' isAhead isIf read => ?_)
      fun _ _ read => ?_
    · subst isAhead
      rw [read]
      dsimp only
      refine (conditional_agrees faces' isIf).bind (fun _ _ read => by rw [read]; rfl)
        fun (test, body, alternative) rest' shorter read isRest => ?_
      rw [read]
      exact .reads (List.suffix_refl rest')
    · rw [read]
      exact ((statement_agrees faces').map.widen _).widen _
  · rw [read]
    exact .reads (List.suffix_refl ahead)
termination_by 4 * ahead.length

theorem block_agrees {token : Token} {rest : List Token}
    (faces : Faces inner last (token :: rest)) (isOpen : token.kind = .openBrace) :
    Agrees inner last (token :: rest) (Parser.blockTail last.position rest)
      (block.outcome (facing inner last (token :: rest))) := by
  rw [block, require_outcome_head faces isOpen]
  exact (statements_agrees faces.tail).behind (List.suffix_cons token rest)
termination_by 4 * rest.length + 2

theorem statements_agrees {ahead : List Token} (faces : Faces inner last ahead) :
    Agrees inner last ahead (Parser.blockTail last.position ahead)
      (statements.outcome (facing inner last ahead)) := by
  have closes := Agrees.closing faces .closeBrace (by decide) ([] : List Statement)
  rw [statements, Parser.blockTail]
  refine .look faces ?_
  rw [headD_kind faces]
  by_cases isClose : headKind ahead = .closeBrace
  · obtain ⟨token, rest, rfl, isToken⟩ := exists_of_head isClose (by decide)
    rw [Parser.expect_cons_eq isToken] at closes ⊢
    rw [if_pos (.inl isClose)]
    exact closes
  · rw [expect_of_head_ne isClose] at closes ⊢
    dsimp only
    by_cases isEnd : headKind ahead = .finish
    · rw [if_pos isEnd, if_pos (.inr isEnd)]
      exact closes
    · rw [if_neg isEnd, if_neg (not_or.mpr ⟨isClose, isEnd⟩)]
      refine (statement_agrees faces).bind (fun _ _ read => by rw [read])
        fun first rest shorter read isRest => ?_
      rw [read]
      exact (statements_agrees (faces.left isRest)).map.widen _
termination_by 4 * ahead.length + 1

end

/-! ## Programs -/

theorem parameters_agrees {ahead : List Token} (faces : Faces inner last ahead) :
    Agrees inner last ahead (Parser.parameters last.position ahead)
      (parameters.outcome (facing inner last ahead)) := by
  rw [parameters, Parser.parameters]
  refine .accept faces .closeParen (by decide) (fun rest shorter read _ => ?_) fun _ _ read => ?_
  · rw [read]
    exact .reads (List.suffix_refl rest)
  rw [read]
  dsimp only
  refine (Agrees.expectIdent faces).bind (fun _ _ read => by rw [read])
    fun name rest shorter read isRest => ?_
  rw [read]
  dsimp only
  have faces' := faces.left isRest
  refine (Agrees.separator faces').bind (fun _ _ read => by rw [read])
    fun goesOn rest' shorter' read isLeft => ?_
  rw [read]
  cases goesOn with
  | false => exact .reads (List.suffix_refl rest')
  | true => exact ((parameters_agrees (faces'.left isLeft)).map.widen _).widen _
termination_by ahead.length

section

variable {ahead : List Token}

theorem wholeBlock_agrees (faces : Faces inner last ahead) :
    Agrees inner last ahead (Parser.block last.position ahead)
      (block.outcome (facing inner last ahead)) := by
  rw [block, Parser.block]
  refine (Agrees.require faces .openBrace (by decide)).bind (fun _ _ read => by rw [read])
    fun _ rest shorter read isRest => ?_
  rw [read]
  exact (statements_agrees (faces.left isRest)).widen _

theorem functionTail_agrees (faces : Faces inner last ahead) (name : String) :
    Agrees inner last ahead (Parser.functionTail last.position name ahead)
      ((functionTail name).outcome (facing inner last ahead)) := by
  rw [functionTail, Parser.functionTail]
  refine (Agrees.require faces .openParen (by decide)).bind (fun _ _ read => by rw [read])
    fun _ rest shorter read isRest => ?_
  rw [read]
  dsimp only
  have faces' := faces.left isRest
  refine (parameters_agrees faces').bind (fun _ _ read => by rw [read])
    fun names rest' shorter' read isLeft => ?_
  rw [read]
  exact ((wholeBlock_agrees (faces'.left isLeft)).map.widen _).widen _

theorem function_agrees (faces : Faces inner last ahead) :
    Agrees inner last ahead (Parser.function last.position ahead)
      (function.outcome (facing inner last ahead)) := by
  rw [function, Parser.function]
  refine (Agrees.require faces .funcWord (by decide)).bind (fun _ _ read => by rw [read])
    fun _ rest shorter read isRest => ?_
  rw [read]
  dsimp only
  have faces' := faces.left isRest
  refine (Agrees.expectIdent faces').bind (fun _ _ read => by rw [read])
    fun name rest' shorter' read isLeft => ?_
  rw [read]
  exact ((functionTail_agrees (faces'.left isLeft) name).widen _).widen _

end

theorem program_agrees {ahead : List Token} (faces : Faces inner last ahead) :
    Agrees inner last ahead (Parser.program last.position ahead)
      (program.outcome (facing inner last ahead)) := by
  rw [program, Parser.program]
  refine .look faces ?_
  rw [headD_kind faces]
  cases ItemHead.ofKind (headKind ahead) with
  | finish => exact .reads (List.suffix_refl ahead)
  | other => exact .unexpected faces Parser.itemStart
  | function =>
      dsimp only
      refine (function_agrees faces).bind (fun _ _ read => by rw [read])
        fun first rest shorter read isRest => ?_
      rw [read]
      exact ((program_agrees (faces.left isRest)).map.widen _).widen _
  | assignment =>
      dsimp only
      refine (assignment_agrees faces).bind (fun _ _ read => by rw [read])
        fun first rest shorter read isRest => ?_
      rw [read]
      exact ((program_agrees (faces.left isRest)).map.widen _).widen _
termination_by ahead.length

section

variable {ahead : List Token}

theorem finish_agrees (faces : Faces inner last ahead) :
    Agrees inner last ahead (Parser.expectFinish last.position ahead)
      ((require .finish).outcome (facing inner last ahead)) := by
  rw [require, outcome_bind, expect_outcome faces]
  cases ahead with
  | nil => exact .reads (List.suffix_refl [])
  | cons token rest =>
      rw [Parser.expectFinish]
      by_cases isEnd : headKind (token :: rest) = .finish
      · rw [if_pos isEnd, Parser.expect_cons_eq isEnd]
        exact .reads (List.suffix_cons token rest)
      · rw [if_neg isEnd, expect_of_head_ne isEnd]
        exact .refused faces [.finish]

theorem wholeExpression_agrees (faces : Faces inner last ahead) :
    Agrees inner last ahead (Parser.wholeExpression last.position ahead)
      (wholeExpression.outcome (facing inner last ahead)) := by
  rw [wholeExpression, Parser.wholeExpression]
  refine (expression_agrees faces).bind (fun _ _ read => by rw [read])
    fun value rest shorter read isRest => ?_
  rw [read]
  exact (finish_agrees (faces.left isRest)).map.widen _

end

end StructuredShell.Cursor
