import StructuredShell.Proofs.Interchange.Layout
import StructuredShell.Syntax.Interchange

/-!
# The JSON form of a program determines it

Trees that differ have JSON forms that differ: the key of an alternative tells which one it is, and
every part stands under a key of its own. Together with the one reading of JSON texts, nothing of a
program is lost when it is written as JSON.
-/

set_option autoImplicit false

namespace StructuredShell

/-! ## Values and conditions -/

theorem ArithOp.name_injective : Function.Injective ArithOp.name := by
  intro first second same
  cases first <;> cases second <;> simp_all [ArithOp.name]

theorem RelOp.name_injective : Function.Injective RelOp.name := by
  intro first second same
  cases first <;> cases second <;> simp_all [RelOp.name]

namespace Json

theorem tagged_eq_iff {tag other : String} {content contents : Json} :
    tagged tag content = tagged other contents ↔ tag = other ∧ content = contents := by
  simp [tagged]

theorem named_eq_iff {name other : String} : named name = named other ↔ name = other := by
  simp [named]

theorem operation_eq_iff {operator operator' : String} {left left' right right' : Json} :
    operation operator left right = operation operator' left' right' ↔
      operator = operator' ∧ left = left' ∧ right = right' := by
  simp [operation]

end Json

mutual

theorem Expr.toJson_injective {first second : Expr} (same : first.toJson = second.toJson) :
    first = second := by
  match first with
  | .var _ | .number _ | .text _ =>
      cases second <;> simp_all [Expr.toJson, Json.tagged_eq_iff, Json.named_eq_iff]
  | .binary operator left right =>
      cases second with
      | binary operator' left' right' =>
          simp only [Expr.toJson, Json.tagged_eq_iff, Json.operation_eq_iff, true_and] at same
          obtain ⟨sameOperator, sameLeft, sameRight⟩ := same
          rw [ArithOp.name_injective sameOperator, Expr.toJson_injective sameLeft,
            Expr.toJson_injective sameRight]
      | _ => simp [Expr.toJson, Json.tagged_eq_iff] at same
  | .call name arguments =>
      cases second with
      | call name' arguments' =>
          simp only [Expr.toJson, Json.tagged_eq_iff, Json.object.injEq, List.cons.injEq,
            Prod.mk.injEq, Json.text.injEq, Json.list.injEq, true_and, and_true] at same
          obtain ⟨sameName, sameArguments⟩ := same
          rw [sameName, Expr.listToJson_injective sameArguments]
      | _ => simp [Expr.toJson, Json.tagged_eq_iff] at same
  | .raw fragments =>
      cases second with
      | raw fragments' =>
          simp only [Expr.toJson, Json.tagged_eq_iff, Json.object.injEq, List.cons.injEq,
            Prod.mk.injEq, Json.list.injEq, true_and, and_true] at same
          rw [Fragment.listToJson_injective same]
      | _ => simp [Expr.toJson, Json.tagged_eq_iff] at same

theorem Expr.listToJson_injective {first second : List Expr}
    (same : Expr.listToJson first = Expr.listToJson second) : first = second := by
  match first, second with
  | [], [] => rfl
  | [], _ :: _ | _ :: _, [] => simp [Expr.listToJson] at same
  | value :: rest, value' :: rest' =>
      rw [Expr.listToJson, Expr.listToJson, List.cons.injEq] at same
      rw [Expr.toJson_injective same.1, Expr.listToJson_injective same.2]

theorem Fragment.listToJson_injective {first second : List Fragment}
    (same : Fragment.listToJson first = Fragment.listToJson second) : first = second := by
  match first, second with
  | [], [] => rfl
  | [], .shell _ :: _ | [], .splice _ :: _ | .shell _ :: _, [] | .splice _ :: _, [] =>
      simp [Fragment.listToJson] at same
  | .shell text :: rest, .shell text' :: rest' =>
      simp only [Fragment.listToJson, List.cons.injEq, Json.tagged_eq_iff, Json.object.injEq,
        Prod.mk.injEq, Json.text.injEq, true_and, and_true] at same
      rw [same.1, Fragment.listToJson_injective same.2]
  | .splice value :: rest, .splice value' :: rest' =>
      simp only [Fragment.listToJson, List.cons.injEq, Json.tagged_eq_iff, Json.object.injEq,
        Prod.mk.injEq, true_and, and_true] at same
      rw [Expr.toJson_injective same.1, Fragment.listToJson_injective same.2]
  | .shell _ :: _, .splice _ :: _ | .splice _ :: _, .shell _ :: _ =>
      simp [Fragment.listToJson, Json.tagged_eq_iff] at same

end

theorem Condition.toJson_injective {first second : Condition}
    (same : first.toJson = second.toJson) : first = second := by
  induction first generalizing second with
  | constant value =>
      cases second with
      | constant value' => cases value <;> cases value' <;> simp_all [toJson]
      | _ => cases value <;> simp [toJson, Json.tagged] at same
  | comparison operator left right =>
      cases second with
      | comparison operator' left' right' =>
          simp only [toJson, Json.tagged_eq_iff, Json.operation_eq_iff, true_and] at same
          obtain ⟨sameOperator, sameLeft, sameRight⟩ := same
          rw [RelOp.name_injective sameOperator, Expr.toJson_injective sameLeft,
            Expr.toJson_injective sameRight]
      | constant value => cases value <;> simp [toJson, Json.tagged] at same
      | _ => simp [toJson, Json.tagged_eq_iff] at same
  | conjunction left right leftIH rightIH =>
      cases second with
      | conjunction left' right' =>
          simp only [toJson, Json.tagged_eq_iff, Json.object.injEq, List.cons.injEq,
            Prod.mk.injEq, true_and, and_true] at same
          rw [leftIH same.1, rightIH same.2]
      | constant value => cases value <;> simp [toJson, Json.tagged] at same
      | _ => simp [toJson, Json.tagged_eq_iff] at same
  | disjunction left right leftIH rightIH =>
      cases second with
      | disjunction left' right' =>
          simp only [toJson, Json.tagged_eq_iff, Json.object.injEq, List.cons.injEq,
            Prod.mk.injEq, true_and, and_true] at same
          rw [leftIH same.1, rightIH same.2]
      | constant value => cases value <;> simp [toJson, Json.tagged] at same
      | _ => simp [toJson, Json.tagged_eq_iff] at same

/-! ## Statements -/

theorem Assignment.toJson_injective {first second : Assignment}
    (same : first.toJson = second.toJson) : first = second := by
  obtain ⟨declaration, target, value⟩ := first
  obtain ⟨declaration', target', value'⟩ := second
  simp only [toJson, Json.object.injEq, List.cons.injEq, Prod.mk.injEq, Json.boolean.injEq,
    Json.named_eq_iff, true_and, and_true] at same
  obtain ⟨rfl, rfl, sameValue⟩ := same
  rw [Expr.toJson_injective sameValue]

namespace Json

/-- A conditional, which one key names without an alternative and another key with one. -/
def guarded (alone branched : String) (condition body : Json) : Option Json → Json
  | none => tagged alone (simple condition body)
  | some other => tagged branched (branching condition body other)

theorem guarded_eq_iff {alone branched : String} (apart : alone ≠ branched)
    {condition condition' body body' : Json} {other other' : Option Json} :
    guarded alone branched condition body other = guarded alone branched condition' body' other' ↔
      condition = condition' ∧ body = body' ∧ other = other' := by
  cases other <;> cases other' <;>
    simp [guarded, tagged_eq_iff, simple, branching, apart, apart.symm]

end Json

theorem Statement.toJson_conditional (condition : Condition) (body : Statement)
    (alternative : Alternative) :
    (Statement.conditional condition body alternative).toJson =
      .guarded "SimpleConditional" "BranchingConditional" condition.toJson body.toJson
        alternative.toJson? := by
  rw [Statement.toJson]
  cases alternative.toJson? <;> rfl

theorem Statement.tagged_ne_conditional {tag : String}
    (isOther : tag ∉ ["SimpleConditional", "BranchingConditional"]) (content : Json)
    (condition : Condition) (body : Statement) (alternative : Alternative) :
    .tagged tag content ≠ (Statement.conditional condition body alternative).toJson := by
  simp only [List.mem_cons, List.not_mem_nil, or_false, not_or] at isOther
  rw [Statement.toJson_conditional]
  cases alternative.toJson? <;> simp [Json.guarded, Json.tagged_eq_iff, isOther]

theorem Alternative.toJson?_elseIf (condition : Condition) (body : Statement)
    (alternative : Alternative) :
    (Alternative.elseIf condition body alternative).toJson? =
      some (.tagged "Conditional" (.guarded "Simple" "Branching" condition.toJson body.toJson
        alternative.toJson?)) := by
  rw [Alternative.toJson?]
  cases alternative.toJson? <;> rfl

mutual

theorem Statement.toJson_injective {first second : Statement}
    (same : first.toJson = second.toJson) : first = second := by
  match first with
  | .assignment binding =>
      cases second with
      | assignment binding' =>
          simp only [Statement.toJson, Json.tagged_eq_iff, true_and] at same
          rw [Assignment.toJson_injective same]
      | conditional => exact absurd same (Statement.tagged_ne_conditional (by decide) _ _ _ _)
      | _ => simp [Statement.toJson, Json.tagged_eq_iff] at same
  | .returnValue value =>
      cases second with
      | returnValue value' =>
          simp only [Statement.toJson, Json.tagged_eq_iff, Json.object.injEq, List.cons.injEq,
            Prod.mk.injEq, true_and, and_true] at same
          rw [Expr.toJson_injective same]
      | conditional => exact absurd same (Statement.tagged_ne_conditional (by decide) _ _ _ _)
      | _ => simp [Statement.toJson, Json.tagged_eq_iff] at same
  | .block statements =>
      cases second with
      | block statements' =>
          simp only [Statement.toJson, Json.tagged_eq_iff, Json.object.injEq, List.cons.injEq,
            Prod.mk.injEq, Json.list.injEq, true_and, and_true] at same
          rw [Statement.listToJson_injective same]
      | conditional => exact absurd same (Statement.tagged_ne_conditional (by decide) _ _ _ _)
      | _ => simp [Statement.toJson, Json.tagged_eq_iff] at same
  | .expression value =>
      cases second with
      | expression value' =>
          simp only [Statement.toJson, Json.tagged_eq_iff, true_and] at same
          rw [Expr.toJson_injective same]
      | conditional => exact absurd same (Statement.tagged_ne_conditional (by decide) _ _ _ _)
      | _ => simp [Statement.toJson, Json.tagged_eq_iff] at same
  | .conditional condition body alternative =>
      cases second with
      | conditional condition' body' alternative' =>
          rw [Statement.toJson_conditional, Statement.toJson_conditional,
            Json.guarded_eq_iff (by decide)] at same
          obtain ⟨sameCondition, sameBody, sameOther⟩ := same
          rw [Condition.toJson_injective sameCondition, Statement.toJson_injective sameBody,
            Alternative.toJson?_injective sameOther]
      | _ => exact absurd same.symm (Statement.tagged_ne_conditional (by decide) _ _ _ _)

theorem Alternative.toJson?_injective {first second : Alternative}
    (same : first.toJson? = second.toJson?) : first = second := by
  match first with
  | .absent =>
      cases second with
      | absent => rfl
      | otherwise => simp [Alternative.toJson?] at same
      | elseIf =>
          rw [Alternative.toJson?_elseIf, Alternative.toJson?] at same
          cases same
  | .otherwise body =>
      cases second with
      | absent => simp [Alternative.toJson?] at same
      | otherwise body' =>
          simp only [Alternative.toJson?, Option.some.injEq, Json.tagged_eq_iff, true_and] at same
          rw [Statement.toJson_injective same]
      | elseIf =>
          rw [Alternative.toJson?_elseIf, Alternative.toJson?] at same
          simp [Json.tagged_eq_iff] at same
  | .elseIf condition body alternative =>
      rw [Alternative.toJson?_elseIf] at same
      cases second with
      | absent => simp [Alternative.toJson?] at same
      | otherwise => simp [Alternative.toJson?, Json.tagged_eq_iff] at same
      | elseIf condition' body' alternative' =>
          rw [Alternative.toJson?_elseIf, Option.some.injEq, Json.tagged_eq_iff,
            Json.guarded_eq_iff (by decide)] at same
          obtain ⟨-, sameCondition, sameBody, sameOther⟩ := same
          rw [Condition.toJson_injective sameCondition, Statement.toJson_injective sameBody,
            Alternative.toJson?_injective sameOther]

theorem Statement.listToJson_injective {first second : List Statement}
    (same : Statement.listToJson first = Statement.listToJson second) : first = second := by
  match first, second with
  | [], [] => rfl
  | [], _ :: _ | _ :: _, [] => simp [Statement.listToJson] at same
  | statement :: rest, statement' :: rest' =>
      rw [Statement.listToJson, Statement.listToJson, List.cons.injEq] at same
      rw [Statement.toJson_injective same.1, Statement.listToJson_injective same.2]

end

/-! ## Programs -/

theorem FunctionDecl.toJson_injective : Function.Injective FunctionDecl.toJson := by
  intro ⟨name, parameters, body⟩ ⟨name', parameters', body'⟩ same
  simp only [toJson, Json.object.injEq, List.cons.injEq, Prod.mk.injEq, Json.text.injEq,
    Json.list.injEq, true_and, and_true] at same
  obtain ⟨rfl, sameParameters, sameBody⟩ := same
  have named : Function.Injective Json.named := fun _ _ => Json.named_eq_iff.mp
  rw [List.map_injective_iff.mpr named sameParameters, Statement.listToJson_injective sameBody]

theorem Program.toJson_injective : Function.Injective Program.toJson := by
  intro ⟨globals, functions⟩ ⟨globals', functions'⟩ same
  simp only [toJson, Json.object.injEq, List.cons.injEq, Prod.mk.injEq, Json.list.injEq, true_and,
    and_true] at same
  obtain ⟨sameGlobals, sameFunctions⟩ := same
  have assignments : Function.Injective Assignment.toJson := fun _ _ => Assignment.toJson_injective
  rw [List.map_injective_iff.mpr assignments sameGlobals,
    List.map_injective_iff.mpr FunctionDecl.toJson_injective sameFunctions]

/-- The JSON text of a program loses nothing: programs with the same text are the same program,
whatever strings they have as names and texts, and whatever numbers. -/
theorem Program.jsonText_injective :
    Function.Injective fun program : Program => program.toJson.render :=
  Json.render_injective.comp Program.toJson_injective

end StructuredShell
