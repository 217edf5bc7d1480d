import StructuredShell.Proofs.Dumps.Values
import StructuredShell.Proofs.WellFormed.Image

/-!
# The prefix form of what was read has one reading

Values that were read from source texts and are shown alike are the same value, and so are
conditions that occur anywhere in programs that were read. A constant condition begins with a letter
and every other one with a parenthesis, behind which no two kinds of condition have the same sign.
-/

set_option autoImplicit false

namespace StructuredShell

open Lexer (Follows stops_cons takeWhile_run)

/-! ## Signs -/

theorem RelOp.symbol_solid (operator : RelOp) :
    operator.symbol.toList.all (· != ' ') = true := by
  cases operator <;> decide

theorem RelOp.symbol_injective : Function.Injective RelOp.symbol := by
  intro first second same
  cases first <;> cases second <;> simp_all [RelOp.symbol]

theorem RelOp.symbol_not_connective (operator : RelOp) : operator.symbol ∉ ["&&", "||"] := by
  cases operator <;> decide

/-- The sign of the operation that a text begins with. -/
def leadingSign : List Char → Option String
  | '(' :: chars => some (String.ofList (chars.takeWhile (· != ' ')))
  | _ => none

theorem leadingSign_operation {symbol : String} (solid : symbol.toList.all (· != ' ') = true)
    (left right : String) (rest : List Char) :
    leadingSign (operationChars symbol left right ++ rest) = some symbol := by
  rw [operationChars, List.cons_append, leadingSign, List.append_assoc, List.cons_append,
    takeWhile_run solid (stops_cons.mpr rfl), String.ofList_toList]

/-! ## Conditions -/

namespace Condition

theorem toList_shown_comparison (operator : RelOp) (left right : Expr) :
    (comparison operator left right).shown.toList =
      operationChars operator.symbol left.shown right.shown := by
  simp [shown, operationChars]

theorem toList_shown_conjunction (left right : Condition) :
    (conjunction left right).shown.toList = operationChars "&&" left.shown right.shown := by
  simp [shown, operationChars]

theorem toList_shown_disjunction (left right : Condition) :
    (disjunction left right).shown.toList = operationChars "||" left.shown right.shown := by
  simp [shown, operationChars]

def sign : Condition → Option String
  | .constant _ => none
  | .comparison operator _ _ => some operator.symbol
  | .conjunction _ _ => some "&&"
  | .disjunction _ _ => some "||"

theorem leadingSign_shown (condition : Condition) (rest : List Char) :
    leadingSign (condition.shown.toList ++ rest) = condition.sign := by
  cases condition with
  | constant value => cases value <;> rfl
  | comparison operator _ _ =>
      rw [toList_shown_comparison, leadingSign_operation operator.symbol_solid, sign]
  | conjunction _ _ => rw [toList_shown_conjunction, leadingSign_operation (by decide), sign]
  | disjunction _ _ => rw [toList_shown_disjunction, leadingSign_operation (by decide), sign]

theorem sign_eq {condition other : Condition} {rest rest' : List Char}
    (same : condition.shown.toList ++ rest = other.shown.toList ++ rest') :
    condition.sign = other.sign := by
  rw [← leadingSign_shown condition rest, ← leadingSign_shown other rest', same]

theorem sign_comparison_ne (operator : RelOp) (left right : Expr) {symbol : String}
    (connective : symbol ∈ ["&&", "||"]) : (comparison operator left right).sign ≠ some symbol := by
  intro same
  obtain rfl := Option.some.inj same
  exact operator.symbol_not_connective connective

theorem readable (condition : Condition) (wellFormed : condition.WellFormed) :
    Readable shown WellFormed condition := by
  induction condition with
  | constant value =>
      intro other rest rest' _ _ _ same
      have sameSign := sign_eq same
      cases other with
      | constant other => cases value <;> cases other <;> simp_all [shown]
      | _ => cases sameSign
  | comparison operator left right =>
      intro other rest rest' wellFormed' _ _ same
      have sameSign := sign_eq same
      cases other with
      | constant _ => cases sameSign
      | comparison operator' left' right' =>
          rw [toList_shown_comparison, toList_shown_comparison] at same
          obtain ⟨sameSymbol, rfl, rfl, sameRest⟩ := operation_cancel operator.symbol_solid
            operator'.symbol_solid (Expr.readable left wellFormed.1)
            (Expr.readable right wellFormed.2) wellFormed' same
          obtain rfl := RelOp.symbol_injective sameSymbol
          exact ⟨rfl, sameRest⟩
      | conjunction _ _ => exact absurd sameSign (sign_comparison_ne _ _ _ (by simp))
      | disjunction _ _ => exact absurd sameSign (sign_comparison_ne _ _ _ (by simp))
  | conjunction left right ihLeft ihRight =>
      intro other rest rest' wellFormed' _ _ same
      have sameSign := sign_eq same
      cases other with
      | comparison _ _ _ => exact absurd sameSign.symm (sign_comparison_ne _ _ _ (by simp))
      | conjunction left' right' =>
          rw [toList_shown_conjunction, toList_shown_conjunction] at same
          obtain ⟨-, rfl, rfl, sameRest⟩ := operation_cancel (by decide) (by decide)
            (ihLeft wellFormed.1) (ihRight wellFormed.2) wellFormed' same
          exact ⟨rfl, sameRest⟩
      | _ => simp [sign] at sameSign
  | disjunction left right ihLeft ihRight =>
      intro other rest rest' wellFormed' _ _ same
      have sameSign := sign_eq same
      cases other with
      | comparison _ _ _ => exact absurd sameSign.symm (sign_comparison_ne _ _ _ (by simp))
      | disjunction left' right' =>
          rw [toList_shown_disjunction, toList_shown_disjunction] at same
          obtain ⟨-, rfl, rfl, sameRest⟩ := operation_cancel (by decide) (by decide)
            (ihLeft wellFormed.1) (ihRight wellFormed.2) wellFormed' same
          exact ⟨rfl, sameRest⟩
      | _ => simp [sign] at sameSign

/-! ## Where conditions occur -/

/-- A condition and all those that it joins. -/
def parts : Condition → List Condition
  | .constant value => [.constant value]
  | .comparison operator left right => [.comparison operator left right]
  | .conjunction left right => .conjunction left right :: (left.parts ++ right.parts)
  | .disjunction left right => .disjunction left right :: (left.parts ++ right.parts)

theorem WellFormed.parts {condition : Condition} (wellFormed : condition.WellFormed) :
    ∀ part ∈ condition.parts, part.WellFormed := by
  induction condition with
  | constant _ => simpa [Condition.parts] using wellFormed
  | comparison _ _ _ => simpa [Condition.parts] using wellFormed
  | conjunction left right ihLeft ihRight =>
      simp only [Condition.parts, List.forall_mem_cons, List.forall_mem_append]
      exact ⟨wellFormed, ihLeft wellFormed.1, ihRight wellFormed.2⟩
  | disjunction left right ihLeft ihRight =>
      simp only [Condition.parts, List.forall_mem_cons, List.forall_mem_append]
      exact ⟨wellFormed, ihLeft wellFormed.1, ihRight wellFormed.2⟩

end Condition

mutual

def Statement.conditions : Statement → List Condition
  | .assignment _ => []
  | .returnValue _ => []
  | .block statements => Statement.conditionsOfAll statements
  | .conditional condition body alternative =>
    condition.parts ++ (body.conditions ++ alternative.conditions)
  | .expression _ => []

def Alternative.conditions : Alternative → List Condition
  | .absent => []
  | .otherwise body => body.conditions
  | .elseIf condition body alternative =>
    condition.parts ++ (body.conditions ++ alternative.conditions)

def Statement.conditionsOfAll : List Statement → List Condition
  | [] => []
  | statement :: rest => statement.conditions ++ Statement.conditionsOfAll rest

end

/-- All conditions that occur in a program, those that others join included. -/
def Program.conditions (program : Program) : List Condition :=
  program.functions.flatMap fun function => Statement.conditionsOfAll function.body

mutual

theorem Statement.WellFormed.conditions (statement : Statement)
    (wellFormed : statement.WellFormed) :
    ∀ condition ∈ statement.conditions, condition.WellFormed :=
  match statement, wellFormed with
  | .assignment _, _ | .returnValue _, _ | .expression _, _ => by simp [Statement.conditions]
  | .block statements, wellFormed => Statement.AllWellFormed.conditions statements wellFormed
  | .conditional condition body alternative, ⟨isCondition, isBody, isEnd, _⟩ => by
      simp only [Statement.conditions, List.forall_mem_append]
      exact ⟨isCondition.parts, Statement.WellFormed.conditions body isBody,
        Alternative.WellFormed.conditions alternative isEnd⟩

theorem Alternative.WellFormed.conditions (alternative : Alternative)
    (wellFormed : alternative.WellFormed) :
    ∀ condition ∈ alternative.conditions, condition.WellFormed :=
  match alternative, wellFormed with
  | .absent, _ => by simp [Alternative.conditions]
  | .otherwise body, wellFormed => Statement.WellFormed.conditions body wellFormed.1
  | .elseIf condition body alternative, ⟨isCondition, isBody, isEnd, _⟩ => by
      simp only [Alternative.conditions, List.forall_mem_append]
      exact ⟨isCondition.parts, Statement.WellFormed.conditions body isBody,
        Alternative.WellFormed.conditions alternative isEnd⟩

theorem Statement.AllWellFormed.conditions (statements : List Statement)
    (wellFormed : Statement.AllWellFormed statements) :
    ∀ condition ∈ Statement.conditionsOfAll statements, condition.WellFormed :=
  match statements, wellFormed with
  | [], _ => by simp [Statement.conditionsOfAll]
  | statement :: rest, wellFormed => by
      simp only [Statement.conditionsOfAll, List.forall_mem_append]
      exact ⟨Statement.WellFormed.conditions statement wellFormed.1,
        Statement.AllWellFormed.conditions rest wellFormed.2⟩

end

theorem Program.WellFormed.conditions {program : Program} (wellFormed : program.WellFormed) :
    ∀ condition ∈ program.conditions, condition.WellFormed := by
  intro condition occurs
  obtain ⟨function, isFunction, occurs⟩ := List.mem_flatMap.mp occurs
  have wellFormedBody := (wellFormed.2 function isFunction).2.2
  exact Statement.AllWellFormed.conditions function.body wellFormedBody condition occurs

/-! ## What was read from source texts -/

theorem Parser.wholeExpression_sound {finish : Position} {tokens rest : List Token} {value : Expr}
    (read : (wholeExpression finish tokens).reads? = some (value, rest)) :
    ∃ used ahead, tokens = used ++ ahead ∧ Grammar.Expression used value := by
  unfold wholeExpression at read
  split at read
  · cases read
  next first ahead shorter readFirst =>
      simp only [Reply.reads?_widen, Reply.reads?_map, Option.map_eq_some_iff,
        Prod.mk.injEq] at read
      obtain ⟨_, _, rfl, _⟩ := read
      obtain ⟨used, same, derived⟩ := expression_sound (congrArg Reply.reads? readFirst)
      exact ⟨used, ahead, same, derived⟩

theorem Expr.wellFormed_of_parse {source : String} {value : Expr}
    (read : Expr.parse source = .ok value) : value.WellFormed := by
  obtain ⟨tokens, lexed, readTokens⟩ := readSource_eq_ok_iff.mp read
  obtain ⟨inner, place, rfl, -⟩ := (Lexer.tokens_eq_ok_iff.mp lexed).ends
  rw [TokenStream.ofTokens_append_finish inner rfl, TokenStream.expression, TokenStream.read]
    at readTokens
  have follows : Follows ⟨.code, []⟩ (inner ++ [⟨.finish, none, place⟩]) :=
    ⟨_, _, Lexer.tokens_eq_ok_iff.mp lexed⟩
  cases readWhole : Parser.wholeExpression place inner with
  | fail error stopped => simp [readWhole] at readTokens
  | ok found rest shorter =>
      simp only [readWhole, Except.ok.injEq] at readTokens
      subst readTokens
      obtain ⟨used, ahead, rfl, derived⟩ :=
        Parser.wholeExpression_sound (congrArg Parser.Reply.reads? readWhole)
      rw [List.append_assoc] at follows
      exact (expression_wellFormed derived follows).1

theorem Readable.eq {α : Type} {shown : α → String} {WellFormed : α → Prop} {value other : α}
    (readable : Readable shown WellFormed value) (wellFormed : WellFormed other)
    (same : shown value = shown other) : value = other :=
  (readable other [] [] wellFormed closes_nil closes_nil (by rw [same])).1

/-- The prefix form is unambiguous. Two values that are read from source texts are equal if they are
shown alike, and so are two conditions that occur in programs which are read from source texts, be
it in the same program or in different ones. -/
theorem eq_of_shown_eq_of_parse :
    (∀ source source' value value', Expr.parse source = .ok value →
      Expr.parse source' = .ok value' → value.shown = value'.shown → value = value') ∧
    ∀ source source' program program', Program.parse source = .ok program →
      Program.parse source' = .ok program' →
      ∀ condition ∈ program.conditions, ∀ condition' ∈ program'.conditions,
        condition.shown = condition'.shown → condition = condition' := by
  constructor
  · intro source source' value value' read read' same
    have readable := value.readable (Expr.wellFormed_of_parse read)
    exact readable.eq (Expr.wellFormed_of_parse read') same
  · intro source source' program program' read read' condition occurs condition' occurs' same
    have wellFormed := (Program.wellFormed_of_parse read).conditions condition occurs
    have wellFormed' := (Program.wellFormed_of_parse read').conditions condition' occurs'
    exact (condition.readable wellFormed).eq wellFormed' same

/-- A call that is written in two ways, with an environment whose parenthesis closes behind a
splice, and a comparison that is one side of a conjunction in one program and follows an `else` in
another one. -/
theorem eq_of_shown_eq_of_parse_parts :
    (∃ value value', Expr.parse "f( $( a(b$[x])c) ,1)" = .ok value ∧
      Expr.parse "f($(a(b$[(x)])c), (1))" = .ok value' ∧ value = value') ∧
    ∃ program program' condition condition',
      Program.parse "func m() \x7b if (a < 1 && true) \x7b \x7d \x7d" = .ok program ∧
      Program.parse "func n() \x7b if (false) x(); else if (a<(1)) y(); \x7d" = .ok program' ∧
      condition ∈ program.conditions ∧ condition' ∈ program'.conditions ∧
      condition = condition' := by
  let environment : Expr := .raw [.shell "a(b", .splice (.var "x"), .shell ")c"]
  let smaller : Condition := .comparison .less (.var "a") (.number 1)
  have read : Expr.parse "f( $( a(b$[x])c) ,1)" = .ok (.call "f" [environment, .number 1]) := by
    cbv
  have read' : Expr.parse "f($(a(b$[(x)])c), (1))" = .ok (.call "f" [environment, .number 1]) := by
    cbv
  have readProgram : Program.parse "func m() \x7b if (a < 1 && true) \x7b \x7d \x7d" =
      .ok ⟨[], [⟨"m", [], [.conditional (.conjunction smaller (.constant true)) (.block [])
        .absent]⟩]⟩ := by cbv
  have readProgram' :
      Program.parse "func n() \x7b if (false) x(); else if (a<(1)) y(); \x7d" =
        .ok ⟨[], [⟨"n", [], [.conditional (.constant false) (.expression (.call "x" []))
          (.elseIf smaller (.expression (.call "y" [])) .absent)]⟩]⟩ := by cbv
  refine ⟨⟨_, _, read, read', eq_of_shown_eq_of_parse.1 _ _ _ _ read read' rfl⟩,
    _, _, smaller, smaller, readProgram, readProgram', ?_, ?_, ?_⟩
  · exact .tail _ (.head _)
  · exact .tail _ (.head _)
  · exact eq_of_shown_eq_of_parse.2 _ _ _ _ readProgram readProgram' _ (.tail _ (.head _)) _
      (.tail _ (.head _)) rfl

end StructuredShell
