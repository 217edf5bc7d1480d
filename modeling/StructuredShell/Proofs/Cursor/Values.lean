import StructuredShell.Proofs.Cursor.Moves
import StructuredShell.Proofs.Grammar.Conditions

/-!
# Values and conditions at a cursor
-/

set_option autoImplicit false

namespace StructuredShell.Cursor

open StructuredShell.Parser (FactorHead FragmentHead ConditionHead sumOperator? productOperator?
  relation?)

variable {inner : List Token} {last : Token}

/-! ## Values -/

mutual

theorem expression_agrees {ahead : List Token} (faces : Faces inner last ahead) :
    Agrees inner last ahead (Parser.expression last.position ahead)
      (expression.outcome (facing inner last ahead)) := by
  rw [expression, Parser.expression]
  refine (term_agrees faces).bind (fun _ _ read => by rw [read])
    fun left rest shorter read isRest => ?_
  rw [read]
  exact (sumTail_agrees (faces.left isRest) left).widen shorter
termination_by 4 * ahead.length + 2

theorem sumTail_agrees {ahead : List Token} (faces : Faces inner last ahead) (left : Expr) :
    Agrees inner last ahead (Parser.sumTail last.position left ahead)
      ((sumTail left).outcome (facing inner last ahead)) := by
  rw [sumTail]
  refine .look faces ?_
  cases ahead with
  | nil =>
      rw [Parser.sumTail, List.headD_nil, faces.isEnd]
      exact .reads (List.suffix_refl [])
  | cons token rest =>
      rw [Parser.sumTail, List.headD_cons]
      cases sumOperator? token.kind with
      | none => exact .reads (List.suffix_refl _)
      | some operator =>
          dsimp only
          refine .skip faces <| (term_agrees faces.tail).bind (fun _ _ read => by rw [read])
            fun right rest' shorter read isRest => ?_
          rw [read]
          exact (((sumTail_agrees (faces.tail.left isRest) _).widen shorter).widen _).widen _
termination_by 4 * ahead.length
decreasing_by all_goals subst_vars; simp only [List.length_cons]; omega

theorem term_agrees {ahead : List Token} (faces : Faces inner last ahead) :
    Agrees inner last ahead (Parser.term last.position ahead)
      (term.outcome (facing inner last ahead)) := by
  rw [term, Parser.term]
  refine (factor_agrees faces).bind (fun _ _ read => by rw [read])
    fun left rest shorter read isRest => ?_
  rw [read]
  exact (productTail_agrees (faces.left isRest) left).widen shorter
termination_by 4 * ahead.length + 1

theorem productTail_agrees {ahead : List Token} (faces : Faces inner last ahead) (left : Expr) :
    Agrees inner last ahead (Parser.productTail last.position left ahead)
      ((productTail left).outcome (facing inner last ahead)) := by
  rw [productTail]
  refine .look faces ?_
  cases ahead with
  | nil =>
      rw [Parser.productTail, List.headD_nil, faces.isEnd]
      exact .reads (List.suffix_refl [])
  | cons token rest =>
      rw [Parser.productTail, List.headD_cons]
      cases productOperator? token.kind with
      | none => exact .reads (List.suffix_refl _)
      | some operator =>
          dsimp only
          refine .skip faces <| (factor_agrees faces.tail).bind (fun _ _ read => by rw [read])
            fun right rest' shorter read isRest => ?_
          rw [read]
          exact (((productTail_agrees (faces.tail.left isRest) _).widen shorter).widen _).widen _
termination_by 4 * ahead.length
decreasing_by all_goals subst_vars; simp only [List.length_cons]; omega

theorem factor_agrees {ahead : List Token} (faces : Faces inner last ahead) :
    Agrees inner last ahead (Parser.factor last.position ahead)
      (factor.outcome (facing inner last ahead)) := by
  rw [factor]
  refine .look faces ?_
  cases ahead with
  | nil =>
      rw [Parser.factor, List.headD_nil, FactorHead.ofToken, faces.isEnd]
      exact .unexpected faces Parser.factorStart
  | cons token rest =>
      have faces' := faces.tail
      rw [Parser.factor, List.headD_cons]
      cases FactorHead.ofToken token with
      | number value => exact .skip faces (.reads (List.suffix_refl rest))
      | text value => exact .skip faces (.reads (List.suffix_refl rest))
      | name name =>
          dsimp only
          refine .skip faces <| .check faces' .openParen (by decide)
            (fun paren rest' shorter isAhead isOpen read => ?_) fun _ _ read => ?_
          · subst isAhead
            rw [read]
            exact (((callArguments_agrees faces' isOpen).map).widen _).widen _
          · rw [read]
            exact .reads (List.suffix_refl rest)
      | group =>
          dsimp only
          refine .skip faces <| (expression_agrees faces').bind (fun _ _ read => by rw [read])
            fun value rest' shorter read isRest => ?_
          rw [read]
          have closes := Agrees.closing (faces'.left isRest) .closeParen (by decide) value
          exact (closes.widen _).widen _
      | environment =>
          dsimp only
          refine .skip faces <| (Agrees.require faces' .openParen (by decide)).bind
            (fun _ _ read => by rw [read]) fun _ rest' shorter read isRest => ?_
          rw [read]
          dsimp only
          have faces'' := faces'.left isRest
          refine (fragments_agrees faces'').bind (fun _ _ read => by rw [read])
            fun pieces rest'' bounded read isLeft => ?_
          rw [read]
          have closes :=
            Agrees.closing (faces''.left isLeft) .closeParen (by decide) (Expr.raw pieces)
          exact ((closes.widen _).widen _).widen _
      | other => exact .unexpected faces Parser.factorStart
termination_by 4 * ahead.length
decreasing_by all_goals subst_vars; simp only [List.length_cons]; omega

/-- A call whose opening parenthesis is ahead. -/
theorem callArguments_agrees {token : Token} {rest : List Token}
    (faces : Faces inner last (token :: rest)) (isOpen : token.kind = .openParen) :
    Agrees inner last (token :: rest) (Parser.arguments last.position rest)
      (callArguments.outcome (facing inner last (token :: rest))) := by
  rw [callArguments, require_outcome_head faces isOpen]
  exact (arguments_agrees faces.tail).behind (List.suffix_cons token rest)
termination_by 4 * rest.length + 4

theorem arguments_agrees {ahead : List Token} (faces : Faces inner last ahead) :
    Agrees inner last ahead (Parser.arguments last.position ahead)
      (arguments.outcome (facing inner last ahead)) := by
  rw [arguments, Parser.arguments]
  refine .accept faces .closeParen (by decide) (fun rest shorter read _ => ?_) fun _ _ read => ?_
  · rw [read]
    exact .reads (List.suffix_refl rest)
  rw [read]
  dsimp only
  refine (expression_agrees faces).bind (fun _ _ read => by rw [read])
    fun argument rest shorter read isRest => ?_
  rw [read]
  dsimp only
  have faces' := faces.left isRest
  refine (Agrees.separator faces').bind (fun _ _ read => by rw [read])
    fun goesOn rest' shorter' read isLeft => ?_
  rw [read]
  cases goesOn with
  | false => exact .reads (List.suffix_refl rest')
  | true => exact ((arguments_agrees (faces'.left isLeft)).map.widen _).widen _
termination_by 4 * ahead.length + 3

theorem splice_agrees {ahead : List Token} (faces : Faces inner last ahead) :
    Agrees inner last ahead (Parser.spliceTail last.position ahead)
      (splice.outcome (facing inner last ahead)) := by
  rw [splice, Parser.spliceTail]
  refine (Agrees.require faces .openBracket (by decide)).bind (fun _ _ read => by rw [read])
    fun _ rest shorter read isRest => ?_
  rw [read]
  dsimp only
  have faces' := faces.left isRest
  refine (expression_agrees faces').bind (fun _ _ read => by rw [read])
    fun value rest' shorter' read isLeft => ?_
  rw [read]
  exact ((Agrees.closing (faces'.left isLeft) .closeBracket (by decide) value).widen _).widen _
termination_by 4 * ahead.length

theorem fragments_agrees {ahead : List Token} (faces : Faces inner last ahead) :
    Agrees inner last ahead (Parser.fragments last.position ahead)
      (fragments.outcome (facing inner last ahead)) := by
  rw [fragments]
  refine .look faces ?_
  cases ahead with
  | nil =>
      rw [Parser.fragments, List.headD_nil, FragmentHead.ofToken, faces.isEnd]
      exact .reads (List.suffix_refl [])
  | cons token rest =>
      rw [Parser.fragments, List.headD_cons]
      cases FragmentHead.ofToken token with
      | shell text => exact .skip faces ((fragments_agrees faces.tail).map.widen _)
      | splice =>
          dsimp only
          refine .skip faces <| (splice_agrees faces.tail).bind (fun _ _ read => by rw [read])
            fun value rest' shorter read isRest => ?_
          rw [read]
          exact (((fragments_agrees (faces.tail.left isRest)).map.widen _).widen _).widen _
      | other => exact .reads (List.suffix_refl (token :: rest))
termination_by 4 * ahead.length
decreasing_by all_goals subst_vars; simp only [List.length_cons]; omega

end

/-! ## Conditions -/

theorem relation_agrees {ahead : List Token} (faces : Faces inner last ahead) :
    Agrees inner last ahead (Parser.relation last.position ahead)
      (relation.outcome (facing inner last ahead)) := by
  rw [relation]
  refine .look faces ?_
  cases ahead with
  | nil =>
      rw [Parser.relation, List.headD_nil, faces.isEnd]
      exact .unexpected faces Parser.relationKinds
  | cons token rest =>
      rw [Parser.relation, List.headD_cons]
      cases relation? token.kind with
      | none => exact .unexpected faces Parser.relationKinds
      | some operator => exact .skip faces (.reads (List.suffix_refl rest))

theorem comparison_agrees {ahead : List Token} (faces : Faces inner last ahead) :
    Agrees inner last ahead (Parser.comparison last.position ahead)
      (comparison.outcome (facing inner last ahead)) := by
  rw [comparison, Parser.comparison]
  refine (expression_agrees faces).bind (fun _ _ read => by rw [read])
    fun left rest shorter read isRest => ?_
  rw [read]
  dsimp only
  have faces' := faces.left isRest
  refine (relation_agrees faces').bind (fun _ _ read => by rw [read])
    fun operator rest' shorter' read isLeft => ?_
  rw [read]
  exact ((expression_agrees (faces'.left isLeft)).map.widen _).widen _

theorem group_outcome_head {token : Token} {rest : List Token}
    (faces : Faces inner last (token :: rest)) (isOpen : token.kind = .openParen) :
    group.outcome (facing inner last (token :: rest)) =
      groupTail.outcome (facing inner last rest) := by
  rw [group, require_outcome_head faces isOpen]

theorem comparisonFrom_outcome (inner : List Token) (last : Token) (ahead stopped : List Token) :
    (comparisonFrom (facing inner last ahead).index).outcome (facing inner last stopped) =
      comparison.outcome (facing inner last ahead) := by
  rw [comparisonFrom, outcome_bind, moveTo_outcome_facing]

theorem groupOrComparison_outcome (start : Nat) (cursor : Cursor) :
    (groupOrComparison start).outcome cursor =
      match group.outcome cursor with
      | some (.ok (.error groupError, after)) =>
        match (comparisonFrom start).outcome after with
        | some (.ok (.error error, last)) =>
          some (.ok (.error (Parser.furtherError groupError error), last))
        | other => other
      | other => other := by
  rw [groupOrComparison]
  unfold Reading.outcome
  simp only [bind, StateT.bind, ExceptT.bind, ExceptT.mk, ExceptT.run]
  rcases group cursor with _ | _ | ⟨_ | _, after⟩
  · rfl
  · rfl
  · simp only [Option.bind_some, ExceptT.bindCont, StateT.bind]
    rcases comparisonFrom start after with _ | _ | ⟨_ | _, last⟩ <;> rfl
  · rfl

mutual

theorem condition_agrees {ahead : List Token} (faces : Faces inner last ahead) :
    Agrees inner last ahead (Parser.condition last.position ahead)
      (condition.outcome (facing inner last ahead)) := by
  rw [condition, Parser.condition]
  refine (conjunction_agrees faces).bind (fun _ _ read => by rw [read])
    fun left rest shorter read isRest => ?_
  rw [read]
  exact (disjunctionTail_agrees (faces.left isRest) left).widen shorter
termination_by 4 * ahead.length + 2

theorem disjunctionTail_agrees {ahead : List Token} (faces : Faces inner last ahead)
    (left : Condition) :
    Agrees inner last ahead (Parser.disjunctionTail last.position left ahead)
      ((disjunctionTail left).outcome (facing inner last ahead)) := by
  rw [disjunctionTail, Parser.disjunctionTail]
  refine .accept faces .either (by decide) (fun rest shorter read isRest => ?_) fun _ _ read => ?_
  · rw [read]
    dsimp only
    have faces' := faces.left isRest
    refine (conjunction_agrees faces').bind (fun _ _ read => by rw [read])
      fun right rest' shorter' read isLeft => ?_
    rw [read]
    exact (((disjunctionTail_agrees (faces'.left isLeft) _).widen _).widen _).widen _
  · rw [read]
    exact .reads (List.suffix_refl ahead)
termination_by 4 * ahead.length

theorem conjunction_agrees {ahead : List Token} (faces : Faces inner last ahead) :
    Agrees inner last ahead (Parser.conjunction last.position ahead)
      (conjunction.outcome (facing inner last ahead)) := by
  rw [conjunction, Parser.conjunction]
  refine (conditionAtom_agrees faces).bind (fun _ _ read => by rw [read])
    fun left rest shorter read isRest => ?_
  rw [read]
  exact (conjunctionTail_agrees (faces.left isRest) left).widen shorter
termination_by 4 * ahead.length + 1

theorem conjunctionTail_agrees {ahead : List Token} (faces : Faces inner last ahead)
    (left : Condition) :
    Agrees inner last ahead (Parser.conjunctionTail last.position left ahead)
      ((conjunctionTail left).outcome (facing inner last ahead)) := by
  rw [conjunctionTail, Parser.conjunctionTail]
  refine .accept faces .both (by decide) (fun rest shorter read isRest => ?_) fun _ _ read => ?_
  · rw [read]
    dsimp only
    have faces' := faces.left isRest
    refine (conditionAtom_agrees faces').bind (fun _ _ read => by rw [read])
      fun right rest' shorter' read isLeft => ?_
    rw [read]
    exact (((conjunctionTail_agrees (faces'.left isLeft) _).widen _).widen _).widen _
  · rw [read]
    exact .reads (List.suffix_refl ahead)
termination_by 4 * ahead.length

theorem conditionAtom_agrees {ahead : List Token} (faces : Faces inner last ahead) :
    Agrees inner last ahead (Parser.conditionAtom last.position ahead)
      (conditionAtom.outcome (facing inner last ahead)) := by
  rw [conditionAtom]
  refine .look faces ?_
  cases ahead with
  | nil =>
      rw [Parser.conditionAtom, List.headD_nil, faces.isEnd]
      exact .unexpected faces Parser.conditionStart
  | cons token rest =>
      rw [Parser.conditionAtom, List.headD_cons]
      cases head : ConditionHead.ofKind token.kind with
      | constant value => exact .skip faces (.reads (List.suffix_refl rest))
      | operand => exact comparison_agrees faces
      | other => exact .unexpected faces Parser.conditionStart
      | group =>
          have isOpen := Parser.ofKind_eq_group_iff.mp head
          have grouped := groupTail_agrees faces.tail
          have compared := comparison_agrees faces
          dsimp only
          rw [outcome_bind, place_outcome]
          dsimp only
          rw [groupOrComparison_outcome, group_outcome_head faces isOpen]
          generalize groupTail.outcome (facing inner last rest) = outcome at grouped
          generalize Parser.groupTail last.position rest = reply at grouped
          cases grouped with
          | reads isLeft => exact .reads (isLeft.trans (List.suffix_cons token rest))
          | @fails groupError stopped isLeft reports =>
              dsimp only
              rw [comparisonFrom_outcome]
              generalize comparison.outcome _ = outcome at compared
              generalize Parser.comparison _ (token :: rest) = reply at compared
              cases compared with
              | reads isLeft => exact .reads isLeft
              | fails isLeft reports' =>
                  exact .fails isLeft ((reports.mono (List.subset_cons_self _ _)).further reports')
termination_by 4 * ahead.length
decreasing_by all_goals subst_vars; simp only [List.length_cons]; omega

theorem groupTail_agrees {ahead : List Token} (faces : Faces inner last ahead) :
    Agrees inner last ahead (Parser.groupTail last.position ahead)
      (groupTail.outcome (facing inner last ahead)) := by
  rw [groupTail, Parser.groupTail]
  refine (condition_agrees faces).bind (fun _ _ read => by rw [read])
    fun value rest shorter read isRest => ?_
  rw [read]
  exact (Agrees.closing (faces.left isRest) .closeParen (by decide) value).widen _
termination_by 4 * ahead.length + 3

end

end StructuredShell.Cursor
