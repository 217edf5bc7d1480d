import StructuredShell.Lowering.Program
import StructuredShell.Proofs.Evaluation.Setup
import StructuredShell.Proofs.Literals.Shapes
import StructuredShell.Proofs.Literals.Uniform

/-!
# Lowering keeps literal texts apart

The shell code of a program is one tree for all contents of its literal texts, and each of them has
one place in that tree. Lowering asks about the shape of a value only, so a literal text reaches the
code as a quoted word: as a value by itself, or in code that prints it inside raw text. Commands
that run ahead of a value may take a literal text out of the order in which it is written.
-/

set_option autoImplicit false

namespace StructuredShell.Lowering

open Shell
open scoped List

/-! ## Numbers -/

/-- The numbers of some literal texts, of which the first has the number `first`. -/
def numbers (first : Nat) (texts : List String) : List Nat :=
  List.range' first texts.length

theorem numbers_append (first : Nat) (texts others : List String) :
    numbers first (texts ++ others) =
      numbers first texts ++ numbers (first + texts.length) others := by
  rw [numbers, numbers, numbers, List.length_append, List.range'_append_1]

/-- Holes of two parts, of which each has some in its commands and some in its value. -/
theorem perm_parts {setup value setup' value' holes holes' : List Nat}
    (same : (setup ++ value).Perm holes) (same' : (setup' ++ value').Perm holes') :
    (setup ++ setup' ++ (value ++ value')).Perm (holes ++ holes') := by
  calc setup ++ setup' ++ (value ++ value')
    _ = setup ++ (setup' ++ value ++ value') := by simp only [List.append_assoc]
    _ ~ setup ++ (value ++ setup' ++ value') :=
        (List.perm_append_comm.append_right value').append_left setup
    _ = setup ++ value ++ (setup' ++ value') := by simp only [List.append_assoc]
    _ ~ holes ++ holes' := same.append same'

/-! ## Values inside raw text -/

theorem valueOf_uniform {source : Expr} {first : Nat} {lowered : Filling → Formula Operand}
    (uniform : Formula.Uniform (numbers first source.literals) lowered) :
    Value.Uniform (numbers first source.literals) fun contents =>
      valueOf (source.refill contents first) (lowered contents) := by
  cases source with
  | text value => exact .text first
  | _ => exact .arithmetic uniform

theorem valueOf_of_not_isText {source : Expr} (isNoText : source.isText = false)
    (lowered : Formula Operand) : valueOf source lowered = .arithmetic lowered := by
  cases source with
  | text value => cases isNoText
  | _ => rfl

mutual

theorem inlineFormula_uniform (names : String → String) (source : Expr)
    (apart : source.noTextSpliced = true) (first : Nat) :
    Formula.Uniform (numbers first source.literals) fun contents =>
      inlineFormula names (source.refill contents first) := by
  match source with
  | .var name => exact .atom (.fixed (.var (names name)))
  | .number value => exact .atom (.fixed (.number value))
  | .text value => exact .atom (.output ((Fits.quoted first).behind "printf '%s' "))
  | .binary operator left right =>
      simp only [Expr.noTextSpliced, Bool.and_eq_true] at apart
      rw [Expr.literals, numbers_append]
      exact .binary operator (inlineFormula_uniform names left apart.1 first)
        (inlineFormula_uniform names right apart.2 _)
  | .call name arguments =>
      have fits := fits_callText (names name) (inlineValues_uniform names arguments apart first)
      exact .atom (.output (((fits.followedBy _).followedBy _).followedBy _))
  | .raw fragments =>
      exact .atom (.output (inlineCode_fixedEnd names fragments apart first).trimEnd.fits)

theorem inlineValues_uniform (names : String → String) (sources : List Expr)
    (apart : Expr.noneTextSpliced sources = true) (first : Nat) :
    ListUniform Value.Uniform (numbers first (Expr.literalsOf sources)) fun contents =>
      inlineValues names (Expr.refillAll contents first sources) := by
  match sources with
  | [] => exact .nil
  | source :: rest =>
      simp only [Expr.noneTextSpliced, Bool.and_eq_true] at apart
      rw [Expr.literalsOf, numbers_append]
      exact .cons (valueOf_uniform (inlineFormula_uniform names source apart.1 first))
        (inlineValues_uniform names rest apart.2 _)

/-- Every splice ends in a character that is not blank, so blanks are trimmed of raw text only. -/
theorem inlineCode_fixedEnd (names : String → String) (fragments : List Fragment)
    (apart : Fragment.noneTextSpliced fragments = true) (first : Nat) :
    FixedEnd (numbers first (Fragment.literalsOf fragments)) fun contents =>
      inlineCode names (Fragment.refillAll contents first fragments) := by
  match fragments with
  | [] => exact .fixed ""
  | .shell text :: rest => exact (inlineCode_fixedEnd names rest apart first).behind text
  | .splice source :: rest =>
      simp only [Fragment.noneTextSpliced, Bool.and_eq_true, Bool.not_eq_true'] at apart
      have uniform := inlineFormula_uniform names source apart.1.2 first
      have arithmetic : ∀ contents, valueOf (source.refill contents first)
          (inlineFormula names (source.refill contents first)) =
          .arithmetic (inlineFormula names (source.refill contents first)) := by
        intro contents
        exact valueOf_of_not_isText (by rw [Expr.isText_refill, apart.1.1]) _
      rw [Fragment.literalsOf, numbers_append]
      simp only [Fragment.refillAll, inlineCode, arithmetic]
      exact .append uniform.fits_spliced (fun contents => Value.endsUnblank_spliced _)
        (inlineCode_fixedEnd names rest apart.2 _)

end

theorem rawCode_fixedEnd (names : String → String) (fragments : List Fragment)
    (apart : Fragment.noneTextSpliced fragments = true) (first : Nat) :
    FixedEnd (numbers first (Fragment.literalsOf fragments)) fun contents =>
      rawCode names (Fragment.refillAll contents first fragments) :=
  (inlineCode_fixedEnd names fragments apart first).trimEnd

/-! ## Lowered parts -/

/-- Parts of a program that are lowered to one tree for all contents, with the same number of
temporaries in use after them. -/
inductive Lowered.Uniform {α : Type} (uniform : List Nat → (Filling → α) → Prop) :
    List Nat → (Filling → Lowered α) → Prop where
  | of {holes setupHoles valueHoles : List Nat} {lowered : Filling → Lowered α}
      {setup : Filling → List Simple} {value : Filling → α} (used : Nat)
      (isLowered : ∀ contents, lowered contents = ⟨setup contents, value contents, used⟩)
      (setupUniform : ListUniform Simple.Uniform setupHoles setup)
      (valueUniform : uniform valueHoles value) (same : (setupHoles ++ valueHoles).Perm holes) :
      Uniform uniform holes lowered

namespace Lowered.Uniform

variable {α β γ : Type} {uniform : List Nat → (Filling → α) → Prop}
  {uniform' : List Nat → (Filling → β) → Prop} {joined : List Nat → (Filling → γ) → Prop}
  {holes others : List Nat} {lowered : Filling → Lowered α}

theorem ready {value : Filling → α} (isUniform : uniform holes value) (used : Nat) :
    Uniform uniform holes fun contents => .ready (value contents) used :=
  .of used (fun _ => rfl) .nil isUniform (.refl _)

theorem map {f : α → β} (isUniform : Uniform uniform holes lowered)
    (mapped : ∀ {holes : List Nat} {value : Filling → α}, uniform holes value →
      uniform' holes fun contents => f (value contents)) :
    Uniform uniform' holes fun contents => (lowered contents).map f := by
  obtain ⟨used, isLowered, setupUniform, valueUniform, same⟩ := isUniform
  refine .of used ?_ setupUniform (mapped valueUniform) same
  intro contents
  rw [isLowered]
  rfl

/-- A value that is saved moves its holes to the commands. -/
theorem saved {lowered : Filling → Lowered Value}
    (isUniform : Uniform Value.Uniform holes lowered) (isLocal : Bool) :
    Uniform Operand.Uniform holes fun contents => (lowered contents).saved isLocal := by
  obtain ⟨used, isLowered, setupUniform, valueUniform, same⟩ := isUniform
  refine .of (used + 1) ?_
    (setupUniform.append (.singleton (.save isLocal (used + 1) valueUniform)))
    (.fixed (.temporary (used + 1))) ?_
  · intro contents
    rw [isLowered]
    rfl
  · rwa [List.append_nil]

theorem called {lowered : Filling → Lowered (List Value)}
    (isUniform : Uniform (ListUniform Value.Uniform) holes lowered) (name : String) :
    Uniform Value.Uniform holes fun contents =>
      ⟨(lowered contents).setup ++ [.call name (lowered contents).value],
        .arithmetic (.atom .result), (lowered contents).used⟩ := by
  obtain ⟨used, isLowered, setupUniform, valueUniform, same⟩ := isUniform
  refine .of used ?_ (setupUniform.append (.singleton (.call name valueUniform)))
    (.arithmetic (.atom (.fixed .result))) ?_
  · intro contents
    rw [isLowered]
  · rwa [List.append_nil]

/-- A part that is saved for all contents or for none. -/
theorem saved_if (isUniform : Uniform uniform holes lowered) (isLocal isSaved : Bool)
    (toValue : α → Value) (ofOperand : Operand → α)
    (valued : ∀ {holes : List Nat} {part : Filling → α}, uniform holes part →
      Value.Uniform holes fun contents => toValue (part contents))
    (operated : ∀ {holes : List Nat} {operand : Filling → Operand},
      Operand.Uniform holes operand → uniform holes fun contents => ofOperand (operand contents)) :
    Uniform uniform holes fun contents =>
      if isSaved then (((lowered contents).map toValue).saved isLocal).map ofOperand
      else lowered contents := by
  cases isSaved with
  | false => exact isUniform
  | true => exact ((isUniform.map valued).saved isLocal).map operated

/-- Two parts one after the other. The second is lowered with the temporaries that are in use after
the first, which are the same for all contents. -/
theorem both {second : Filling → Nat → Lowered β} (isUniform : Uniform uniform holes lowered)
    (join : α → β → γ)
    (secondUniform : ∀ used, Uniform uniform' others fun contents => second contents used)
    (joins : ∀ {holes others : List Nat} {left : Filling → α} {right : Filling → β},
      uniform holes left → uniform' others right →
      joined (holes ++ others) fun contents => join (left contents) (right contents)) :
    Uniform joined (holes ++ others) fun contents =>
      ⟨(lowered contents).setup ++ (second contents (lowered contents).used).setup,
        join (lowered contents).value (second contents (lowered contents).used).value,
        (second contents (lowered contents).used).used⟩ := by
  obtain ⟨used, isLowered, setupUniform, valueUniform, same⟩ := isUniform
  obtain ⟨used', isSecond, setupUniform', valueUniform', same'⟩ := secondUniform used
  refine .of used' ?_ (setupUniform.append setupUniform') (joins valueUniform valueUniform')
    (perm_parts same same')
  intro contents
  rw [isLowered]
  dsimp only at isSecond ⊢
  rw [isSecond]

end Lowered.Uniform

/-! ## Values outside raw text -/

theorem settled_uniform {source : Expr} {first : Nat}
    {lower : Filling → Nat → Lowered (Formula Operand)} (isLocal laterCall : Bool) (used : Nat)
    (uniform : Lowered.Uniform Formula.Uniform (numbers first source.literals)
      fun contents => lower contents used) :
    Lowered.Uniform Value.Uniform (numbers first source.literals) fun contents =>
      settled isLocal laterCall (source.refill contents first) used (lower contents) := by
  have saves {holes : List Nat} {lowered : Filling → Lowered Value}
      (isUniform : Lowered.Uniform Value.Uniform holes lowered) :=
    isUniform.saved_if isLocal (laterCall && !source.isStable) id
      (fun operand => .arithmetic (.atom operand)) (fun value => value)
      (fun operand => .arithmetic (.atom operand))
  unfold settled
  simp only [Expr.isStable_refill]
  cases source with
  | text value => exact saves (.ready (.text first) used)
  | _ => exact saves (uniform.map .arithmetic)

mutual

theorem formula_uniform (names : String → String) (isLocal : Bool) (source : Expr)
    (apart : source.noTextSpliced = true) (first used : Nat) :
    Lowered.Uniform Formula.Uniform (numbers first source.literals) fun contents =>
      formula names isLocal (source.refill contents first) used := by
  match source with
  | .var name => exact .ready (.atom (.fixed (.var (names name)))) used
  | .number value => exact .ready (.atom (.fixed (.number value))) used
  | .text value =>
      exact ((Lowered.Uniform.ready (.text first) used).saved isLocal).map .atom
  | .raw fragments =>
      exact .ready (.atom (.output (rawCode_fixedEnd names fragments apart first).fits)) used
  | .call name arguments =>
      have called := (values_uniform names isLocal arguments apart first used).called (names name)
      exact (called.saved isLocal).map .atom
  | .binary operator left right =>
      simp only [Expr.noTextSpliced, Bool.and_eq_true] at apart
      have whole := formula_uniform names isLocal left apart.1 first used
      have saves := whole.saved_if isLocal (right.containsCall && !left.isStable) Value.arithmetic
        Formula.atom .arithmetic .atom
      rw [Expr.literals, numbers_append]
      simp only [Expr.refill, formula, Expr.containsCall_refill, Expr.isStable_refill]
      exact saves.both (Formula.binary operator) (formula_uniform names isLocal right apart.2 _)
        (.binary operator)

theorem values_uniform (names : String → String) (isLocal : Bool) (sources : List Expr)
    (apart : Expr.noneTextSpliced sources = true) (first used : Nat) :
    Lowered.Uniform (ListUniform Value.Uniform) (numbers first (Expr.literalsOf sources))
      fun contents => values names isLocal (Expr.refillAll contents first sources) used := by
  match sources with
  | [] => exact .ready .nil used
  | source :: rest =>
      simp only [Expr.noneTextSpliced, Bool.and_eq_true] at apart
      have settles := settled_uniform isLocal (rest.any Expr.containsCall) used
        (formula_uniform names isLocal source apart.1 first used)
      rw [Expr.literalsOf, numbers_append]
      simp only [Expr.refillAll, values, Expr.any_containsCall_refillAll]
      exact settles.both List.cons (values_uniform names isLocal rest apart.2 _) .cons

end

theorem value_uniform (names : String → String) (isLocal laterCall : Bool) (source : Expr)
    (apart : source.noTextSpliced = true) (first used : Nat) :
    Lowered.Uniform Value.Uniform (numbers first source.literals) fun contents =>
      value names isLocal laterCall (source.refill contents first) used :=
  settled_uniform isLocal laterCall used (formula_uniform names isLocal source apart first used)

/-! ## Conditions -/

theorem comparisonTest_uniform {holes others : List Nat} {left right : Filling → Value}
    (operator : RelOp) (isTextual : Bool) (leftUniform : Value.Uniform holes left)
    (rightUniform : Value.Uniform others right) :
    Test.Uniform (holes ++ others) fun contents =>
      if isTextual then .textual operator (left contents) (right contents)
      else .numeric operator (left contents) (right contents) := by
  cases isTextual with
  | false => exact .numeric operator leftUniform rightUniform
  | true => exact .textual operator leftUniform rightUniform

theorem test_uniform (names : String → String) (isLocal laterCall : Bool) (condition : Condition)
    (apart : Expr.noneTextSpliced condition.values = true) (first used : Nat) :
    Lowered.Uniform Test.Uniform (numbers first condition.literals) fun contents =>
      test names isLocal laterCall (condition.refill contents first) used := by
  induction condition generalizing laterCall first used with
  | constant value => exact .ready (.constant value) used
  | comparison operator left right =>
      simp only [Condition.values, Expr.noneTextSpliced, Bool.and_eq_true] at apart
      rw [Condition.literals_comparison, numbers_append]
      simp only [Condition.refill, test, Expr.containsCall_refill, comparisonTest,
        Expr.isText_refill]
      exact (value_uniform names isLocal _ left apart.1 first used).both
        (comparisonTest operator left right)
        (value_uniform names isLocal laterCall right apart.2.1 _)
        (comparisonTest_uniform operator (left.isText || right.isText))
  | conjunction left right leftIH rightIH =>
      rw [Condition.values, Expr.noneTextSpliced_append, Bool.and_eq_true] at apart
      rw [Condition.literals_conjunction, numbers_append]
      simp only [Condition.refill, test, Condition.containsCall_refill]
      exact (leftIH _ apart.1 first used).both Test.conjunction (rightIH laterCall apart.2 _)
        .conjunction
  | disjunction left right leftIH rightIH =>
      rw [Condition.values, Expr.noneTextSpliced_append, Bool.and_eq_true] at apart
      rw [Condition.literals_disjunction, numbers_append]
      simp only [Condition.refill, test, Condition.containsCall_refill]
      exact (leftIH _ apart.1 first used).both Test.disjunction (rightIH laterCall apart.2 _)
        .disjunction

end StructuredShell.Lowering
