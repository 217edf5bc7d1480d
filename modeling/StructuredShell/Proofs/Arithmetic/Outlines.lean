import StructuredShell.Lowering.Hoisted
import StructuredShell.Proofs.Arithmetic.Grouping
import StructuredShell.Shell.Spelling

/-!
# Arithmetic keeps its tree

A value with operators becomes one arithmetic expansion, outside raw text as well as inside it. Read
as a shell reads arithmetic, the text of that expansion is the tree of the value again: operator for
operator, with one atom for each value without operators. Only where a left operand is saved ahead
of a call on its right, one temporary stands for the whole of that operand.
-/

set_option autoImplicit false

namespace StructuredShell.Lowering

open Shell

/-! ## The outline of a value -/

/-- The operand for a value without operators, when commands can run ahead of it. Literal text and
what a call hands back are in temporaries that these commands save. -/
inductive HoistedAtom (names : String → String) (isLocal : Bool) (setup : List Simple) :
    Expr → Operand → Prop where
  | var {name : String} : HoistedAtom names isLocal setup (.var name) (.var (names name))
  | number {value : Int} : HoistedAtom names isLocal setup (.number value) (.number value)
  | text {text : String} {index : Nat} :
      .save isLocal index (.text text) ∈ setup →
      HoistedAtom names isLocal setup (.text text) (.temporary index)
  | call {name : String} {arguments : List Expr} {used index : Nat} :
      [.call (names name) (values names isLocal arguments used).value,
        .save isLocal index (.arithmetic (.atom .result))] <:+: setup →
      HoistedAtom names isLocal setup (.call name arguments) (.temporary index)
  | raw {fragments : List Fragment} :
      HoistedAtom names isLocal setup (.raw fragments) (.output (rawCode names fragments))

/-- The operand for a value without operators inside raw text, where nothing runs ahead of it. -/
inductive InlineAtom (names : String → String) : Expr → Operand → Prop where
  | var {name : String} : InlineAtom names (.var name) (.var (names name))
  | number {value : Int} : InlineAtom names (.number value) (.number value)
  | text {text : String} : InlineAtom names (.text text) (.output (textCode text))
  | call {name : String} {arguments : List Expr} :
      InlineAtom names (.call name arguments)
        (.output (callCode (names name) (inlineValues names arguments)))
  | raw {fragments : List Fragment} :
      InlineAtom names (.raw fragments) (.output (rawCode names fragments))

/-- Whether a left operand is saved on account of a call on its right: such a call can change the
variables that the operand reads. -/
def savesLeft (left right : Expr) : Bool :=
  right.containsCall && !left.isStable

/-- A formula with the operators of a value, each in its place. A left operand that is saved is
there as the temporary that `setup` saves it in, as the formula of its own outline. -/
inductive Outlines (stands : Expr → Operand → Prop) (saves : Expr → Expr → Bool) (isLocal : Bool)
    (setup : List Simple) : Expr → Formula Operand → Prop where
  | atom {source : Expr} {operand : Operand} :
      stands source operand → Outlines stands saves isLocal setup source (.atom operand)
  | binary {operator : ArithOp} {left right : Expr} {first second : Formula Operand} :
      saves left right = false →
      Outlines stands saves isLocal setup left first →
      Outlines stands saves isLocal setup right second →
      Outlines stands saves isLocal setup (.binary operator left right)
        (.binary operator first second)
  | saved {operator : ArithOp} {left right : Expr} {whole second : Formula Operand} {index : Nat} :
      saves left right = true →
      .save isLocal index (.arithmetic whole) ∈ setup →
      Outlines stands saves isLocal setup left whole →
      Outlines stands saves isLocal setup right second →
      Outlines stands saves isLocal setup (.binary operator left right)
        (.binary operator (.atom (.temporary index)) second)

variable {names : String → String} {isLocal : Bool} {setup more : List Simple}

theorem HoistedAtom.mono {source : Expr} {operand : Operand} (within : setup <:+: more)
    (stands : HoistedAtom names isLocal setup source operand) :
    HoistedAtom names isLocal more source operand := by
  cases stands with
  | var => exact .var
  | number => exact .number
  | text isSaved => exact .text (within.subset isSaved)
  | call isCalled => exact .call (isCalled.trans within)
  | raw => exact .raw

/-- An outline stays one when more commands run ahead. -/
theorem Outlines.mono {saves : Expr → Expr → Bool} {source : Expr} {formula : Formula Operand}
    (within : setup <:+: more)
    (outlines : Outlines (HoistedAtom names isLocal setup) saves isLocal setup source formula) :
    Outlines (HoistedAtom names isLocal more) saves isLocal more source formula := by
  induction outlines with
  | atom stands => exact .atom (stands.mono within)
  | binary unsaved _ _ leftIH rightIH => exact .binary unsaved leftIH rightIH
  | saved saves isSaved _ _ leftIH rightIH =>
      exact .saved saves (within.subset isSaved) leftIH rightIH

/-! ## Lowered values keep their outline -/

theorem formula_outlines (names : String → String) (isLocal : Bool) (source : Expr) (used : Nat) :
    let lowered := formula names isLocal source used
    Outlines (HoistedAtom names isLocal lowered.setup) savesLeft isLocal lowered.setup source
      lowered.value := by
  match source with
  | .number _ => exact .atom .number
  | .var _ => exact .atom .var
  | .raw _ => exact .atom .raw
  | .text _ => exact .atom (.text (.head _))
  | .call name arguments =>
      have isCalled : [.call (names name) (values names isLocal arguments used).value,
          .save isLocal ((values names isLocal arguments used).used + 1)
            (.arithmetic (.atom .result))] <:+:
          (formula names isLocal (.call name arguments) used).setup := by
        rw [formula]
        exact ⟨(values names isLocal arguments used).setup, [],
          by simp [Lowered.map, Lowered.saved]⟩
      rw [formula] at isCalled ⊢
      exact .atom (.call isCalled)
  | .binary operator left right =>
      have outlinesLeft := formula_outlines names isLocal left used
      have outlinesRight := formula_outlines names isLocal right
      rw [formula]
      cases saves : savesLeft left right with
      | false =>
          rw [savesLeft] at saves
          simp only [saves, Bool.false_eq_true, if_false]
          apply Outlines.binary saves
          · exact outlinesLeft.mono (List.prefix_append _ _).isInfix
          · exact (outlinesRight _).mono (List.suffix_append _ _).isInfix
      | true =>
          rw [savesLeft] at saves
          simp only [saves, if_true, Lowered.map, Lowered.saved]
          apply Outlines.saved saves
          · exact List.mem_append_left _ (List.mem_append_right _ (.head _))
          · rw [List.append_assoc]
            exact outlinesLeft.mono (List.prefix_append _ _).isInfix
          · exact (outlinesRight _).mono (List.suffix_append _ _).isInfix

theorem inlineFormula_outlines (names : String → String) (source : Expr) :
    Outlines (InlineAtom names) (fun _ _ => false) false [] source
      (inlineFormula names source) := by
  match source with
  | .var _ => exact .atom .var
  | .number _ => exact .atom .number
  | .text _ => exact .atom .text
  | .call _ _ => exact .atom .call
  | .raw _ => exact .atom .raw
  | .binary operator left right =>
      rw [inlineFormula]
      exact .binary rfl (inlineFormula_outlines names left) (inlineFormula_outlines names right)

/-! ## Expansions -/

/-- Whether a text is the arithmetic expansion of a formula, spelled out piece by piece, and can be
read as nothing else. The operands of the formula count as one atom each. -/
structure Expands (formula : Formula Operand) (text : String) : Prop where
  enclosed : ∃ texts,
    List.Forall₂ FormulaPiece.SpelledAs (formula.pieces Operand.expansion 0) texts ∧
      text = "$((" ++ String.join texts ++ "))"
  reads : ∀ tree, ReadsSum (formula.pieces Operand.expansion 0) tree ↔
    tree = formula.map Operand.expansion

/-- Arithmetic keeps its tree. A value with operators is written as one arithmetic expansion,
outside raw text as well as inside it, be it as a word there or as code. The text of that expansion
reads in exactly one way as arithmetic, and that reading is the outline of the value. -/
theorem arithmetic_keeps_tree (names : String → String) (isLocal : Bool) (operator : ArithOp)
    (left right : Expr) (used : Nat) :
    let source := Expr.binary operator left right
    let outside := formula names isLocal source used
    let inside := inlineFormula names source
    Expands outside.value (Value.arithmetic outside.value).word ∧
    Outlines (HoistedAtom names isLocal outside.setup) savesLeft isLocal outside.setup source
      outside.value ∧
    Expands inside (valueOf source inside).word ∧
    Expands inside (valueOf source inside).spliced ∧
    Outlines (InlineAtom names) (fun _ _ => false) false [] source inside := by
  intro source outside inside
  have reads := Formula.readsSum_iff Operand.expansion
  have hoisted := formula_outlines names isLocal source used
  have inlined := inlineFormula_outlines names source
  have spelled (formula : Formula Operand) :=
    (FormulaPiece.forall₂_spelledAs_iff (formula.pieces Operand.expansion 0) _).mpr rfl
  exact ⟨⟨⟨_, spelled _, rfl⟩, reads _⟩, hoisted, ⟨⟨_, spelled _, rfl⟩, reads _⟩,
    ⟨⟨_, spelled _, rfl⟩, reads _⟩, inlined⟩

end StructuredShell.Lowering
