import Mathlib
import StructuredShell.Syntax.Parser.Expression

/-!
# Tokens at other places

Two lists of tokens are alike when they differ in places only, and their tokens correspond one by
one. Readers cannot tell such lists apart: they give the same values, and errors that report
corresponding tokens. The one thing readers do with a place is to compare it with another one, so
all that is asked of a correspondence is that it keeps kinds, literals and the order of places.

This module has the readers of values, which compare no places at all.
-/

set_option autoImplicit false

namespace StructuredShell

/-! ## Correspondence -/

/-- The end of a text as a token. -/
def Token.endAt (place : Position) : Token := ⟨.finish, none, place⟩

/-- Whether tokens of two texts that correspond differ in their places only, and their places are in
the same order. The ends of the texts correspond too. -/
structure Correspondence (same : Token → Token → Prop) (finish finish' : Position) : Prop where
  kind_eq {token other : Token} : same token other → token.kind = other.kind
  literal_eq {token other : Token} : same token other → token.literal = other.literal
  ordered {first first' second second' : Token} : same first first' → same second second' →
    first.position.before second.position = first'.position.before second'.position
  ends : same (.endAt finish) (.endAt finish')

/-- Errors that expect the same kinds in the place of corresponding tokens. -/
inductive SyntaxError.Alike (same : Token → Token → Prop) : SyntaxError → SyntaxError → Prop where
  | reports {token other : Token} {expected : List Kind} :
      same token other →
      Alike same ⟨token.kind, expected, token.position⟩ ⟨other.kind, expected, other.position⟩

namespace Parser

variable {same : Token → Token → Prop}

/-! ## Replies -/

/-- Replies with the same value, or with errors that correspond. Where a failed reader stopped plays
no part. -/
inductive Reply.Alike (same : Token → Token → Prop) {α : Type} {bound bound' : Nat} :
    Reply α bound → Reply α bound' → Prop where
  | ok {value : α} {rest rest' : List Token} {shorter : rest.length < bound}
      {shorter' : rest'.length < bound'} :
      List.Forall₂ same rest rest' → Alike same (.ok value rest shorter) (.ok value rest' shorter')
  | fail {error error' : SyntaxError} {stopped stopped' : List Token} :
      error.Alike same error' → Alike same (.fail error stopped) (.fail error' stopped')

namespace Reply.Alike

variable {α β : Type} {bound bound' large large' : Nat} {reply : Reply α bound}
  {reply' : Reply α bound'}

theorem widen (alike : Alike same reply reply') (bounded : bound ≤ large)
    (bounded' : bound' ≤ large') : Alike same (reply.widen bounded) (reply'.widen bounded') := by
  cases alike with
  | ok rests => exact .ok rests
  | fail errors => exact .fail errors

theorem within (alike : Alike same reply reply') (shorter : bound < large)
    (shorter' : bound' < large') : Alike same (reply.within shorter) (reply'.within shorter') :=
  alike.widen _ _

theorem loosen (alike : Alike same reply reply') : Alike same reply.loosen reply'.loosen :=
  alike.widen _ _

theorem map (alike : Alike same reply reply') (f : α → β) :
    Alike same (reply.map f) (reply'.map f) := by
  cases alike with
  | ok rests => exact .ok rests
  | fail errors => exact .fail errors

theorem behind {rest rest' : List Token} {reply : Reply α rest.length}
    {reply' : Reply α rest'.length} (alike : Alike same reply reply') (token token' : Token) :
    Alike same (reply.behind token) (reply'.behind token') :=
  alike.widen _ _

end Reply.Alike

/-! ## Single tokens -/

variable {finish finish' : Position} {tokens others : List Token} {token other : Token}

theorem headKind_alike (paired : Correspondence same finish finish')
    (alike : List.Forall₂ same tokens others) : headKind tokens = headKind others := by
  cases alike with
  | nil => rfl
  | cons head _ => exact paired.kind_eq head

theorem unexpected_alike (paired : Correspondence same finish finish')
    (alike : List.Forall₂ same tokens others) (expected : List Kind) :
    (unexpected finish expected tokens).Alike same (unexpected finish' expected others) := by
  cases alike with
  | nil => exact .reports paired.ends
  | cons head _ => exact .reports head

theorem expect_alike (paired : Correspondence same finish finish')
    (alike : List.Forall₂ same tokens others) (kind : Kind) :
    Reply.Alike same (expect finish kind tokens) (expect finish' kind others) := by
  cases alike with
  | nil => exact .fail (unexpected_alike paired .nil [kind])
  | cons head rests =>
      simp only [expect, paired.kind_eq head]
      split
      · exact .ok rests
      · exact .fail (unexpected_alike paired (.cons head rests) [kind])

theorem textValue?_alike (paired : Correspondence same finish finish')
    (alike : same token other) : token.textValue? = other.textValue? := by
  rw [Token.textValue?, paired.literal_eq alike, Token.textValue?]

theorem numberValue?_alike (paired : Correspondence same finish finish')
    (alike : same token other) : token.numberValue? = other.numberValue? := by
  rw [Token.numberValue?, paired.literal_eq alike, Token.numberValue?]

theorem expectIdent_alike (paired : Correspondence same finish finish')
    (alike : List.Forall₂ same tokens others) :
    Reply.Alike same (expectIdent finish tokens) (expectIdent finish' others) := by
  cases alike with
  | nil => exact .fail (unexpected_alike paired .nil [.ident])
  | cons head rests =>
      simp only [expectIdent, paired.kind_eq head, textValue?_alike paired head]
      split
      · split
        · exact .ok rests
        · exact .fail (unexpected_alike paired (.cons head rests) [.ident])
      · exact .fail (unexpected_alike paired (.cons head rests) [.ident])

theorem expectSeparator_alike (paired : Correspondence same finish finish')
    (alike : List.Forall₂ same tokens others) :
    Reply.Alike same (expectSeparator finish tokens) (expectSeparator finish' others) := by
  cases alike with
  | nil => exact .fail (unexpected_alike paired .nil _)
  | cons head rests =>
      simp only [expectSeparator, paired.kind_eq head]
      split
      · exact .ok rests
      · split
        · exact .ok rests
        · exact .fail (unexpected_alike paired (.cons head rests) _)

/-! ## Values -/

theorem factorHead_alike (paired : Correspondence same finish finish')
    (alike : same token other) :
    FactorHead.ofToken token = FactorHead.ofToken other := by
  rw [FactorHead.ofToken, paired.kind_eq alike, numberValue?_alike paired alike,
    textValue?_alike paired alike, FactorHead.ofToken]

theorem fragmentHead_alike (paired : Correspondence same finish finish')
    (alike : same token other) :
    FragmentHead.ofToken token = FragmentHead.ofToken other := by
  rw [FragmentHead.ofToken, paired.kind_eq alike, textValue?_alike paired alike,
    FragmentHead.ofToken]

mutual

theorem expression_alike (paired : Correspondence same finish finish')
    {tokens others : List Token} (alike : List.Forall₂ same tokens others) :
    Reply.Alike same (expression finish tokens) (expression finish' others) := by
  rw [expression, expression]
  have replies := term_alike paired alike
  generalize term finish tokens = reply, term finish' others = reply' at replies ⊢
  cases replies with
  | fail errors => exact .fail errors
  | ok rests => exact (sumTail_alike paired _ rests).widen _ _
termination_by 4 * tokens.length + 2

theorem sumTail_alike (paired : Correspondence same finish finish') (left : Expr)
    {tokens others : List Token} (alike : List.Forall₂ same tokens others) :
    Reply.Alike same (sumTail finish left tokens) (sumTail finish' left others) := by
  rw [sumTail.eq_def, sumTail.eq_def]
  match tokens, others, alike with
  | _, _, .nil => exact .ok .nil
  | token :: rest, other :: rest', .cons head rests =>
      simp only [paired.kind_eq head]
      split
      · exact .ok (.cons head rests)
      · have replies := term_alike paired rests
        generalize term finish rest = reply, term finish' rest' = reply' at replies ⊢
        cases replies with
        | fail errors => exact .fail errors
        | ok afters =>
            exact (((sumTail_alike paired _ afters).widen _ _).behind token other).loosen
termination_by 4 * tokens.length

theorem term_alike (paired : Correspondence same finish finish')
    {tokens others : List Token} (alike : List.Forall₂ same tokens others) :
    Reply.Alike same (term finish tokens) (term finish' others) := by
  rw [term, term]
  have replies := factor_alike paired alike
  generalize factor finish tokens = reply, factor finish' others = reply' at replies ⊢
  cases replies with
  | fail errors => exact .fail errors
  | ok rests => exact (productTail_alike paired _ rests).widen _ _
termination_by 4 * tokens.length + 1

theorem productTail_alike (paired : Correspondence same finish finish') (left : Expr)
    {tokens others : List Token} (alike : List.Forall₂ same tokens others) :
    Reply.Alike same (productTail finish left tokens) (productTail finish' left others) := by
  rw [productTail.eq_def, productTail.eq_def]
  match tokens, others, alike with
  | _, _, .nil => exact .ok .nil
  | token :: rest, other :: rest', .cons head rests =>
      simp only [paired.kind_eq head]
      split
      · exact .ok (.cons head rests)
      · have replies := factor_alike paired rests
        generalize factor finish rest = reply, factor finish' rest' = reply' at replies ⊢
        cases replies with
        | fail errors => exact .fail errors
        | ok afters =>
            exact (((productTail_alike paired _ afters).widen _ _).behind token other).loosen
termination_by 4 * tokens.length

theorem factor_alike (paired : Correspondence same finish finish')
    {tokens others : List Token} (alike : List.Forall₂ same tokens others) :
    Reply.Alike same (factor finish tokens) (factor finish' others) := by
  rw [factor.eq_def, factor.eq_def]
  match tokens, others, alike with
  | _, _, .nil => exact .fail (unexpected_alike paired .nil factorStart)
  | token :: rest, other :: rest', .cons head rests =>
      simp only [factorHead_alike paired head]
      cases FactorHead.ofToken other with
      | number value => exact .ok rests
      | text value => exact .ok rests
      | name name =>
          have replies := expect_alike paired rests .openParen
          generalize expect finish .openParen rest = reply,
            expect finish' .openParen rest' = reply' at replies ⊢
          cases replies with
          | fail _ => exact .ok rests
          | ok afters =>
              exact (((arguments_alike paired afters).map _).within _ _).behind token other
      | group =>
          have replies := expression_alike paired rests
          generalize expression finish rest = reply, expression finish' rest' = reply' at replies ⊢
          cases replies with
          | fail errors => exact .fail errors
          | ok afters =>
              exact (((expect_alike paired afters .closeParen).map _).within _ _).behind token other
      | environment =>
          dsimp only
          have replies := expect_alike paired rests .openParen
          generalize expect finish .openParen rest = reply,
            expect finish' .openParen rest' = reply' at replies ⊢
          cases replies with
          | fail errors => exact .fail errors
          | @ok _ after after' _ _ afters =>
              dsimp only
              have replies := fragments_alike paired afters
              generalize fragments finish after = reply,
                fragments finish' after' = reply' at replies ⊢
              cases replies with
              | fail errors => exact .fail errors
              | ok lasts =>
                  exact ((((expect_alike paired lasts .closeParen).map _).within _ _).widen _
                    _).behind token other
      | other => exact .fail (unexpected_alike paired (.cons head rests) factorStart)
termination_by 4 * tokens.length

theorem arguments_alike (paired : Correspondence same finish finish')
    {tokens others : List Token} (alike : List.Forall₂ same tokens others) :
    Reply.Alike same (arguments finish tokens) (arguments finish' others) := by
  rw [arguments, arguments]
  have replies := expect_alike paired alike .closeParen
  generalize expect finish .closeParen tokens = reply,
    expect finish' .closeParen others = reply' at replies ⊢
  cases replies with
  | ok rests => exact .ok rests
  | fail _ =>
      dsimp only
      have replies := expression_alike paired alike
      generalize expression finish tokens = reply, expression finish' others = reply' at replies ⊢
      cases replies with
      | fail errors => exact .fail errors
      | @ok _ rest rest' _ _ rests =>
          dsimp only
          have replies := expectSeparator_alike paired rests
          generalize expectSeparator finish rest = reply,
            expectSeparator finish' rest' = reply' at replies ⊢
          cases replies with
          | fail errors => exact .fail errors
          | @ok more _ _ _ _ afters =>
              cases more with
              | false => exact .ok afters
              | true => exact (((arguments_alike paired afters).map _).within _ _).within _ _
termination_by 4 * tokens.length + 3

theorem spliceTail_alike (paired : Correspondence same finish finish')
    {tokens others : List Token} (alike : List.Forall₂ same tokens others) :
    Reply.Alike same (spliceTail finish tokens) (spliceTail finish' others) := by
  rw [spliceTail, spliceTail]
  have replies := expect_alike paired alike .openBracket
  generalize expect finish .openBracket tokens = reply,
    expect finish' .openBracket others = reply' at replies ⊢
  cases replies with
  | fail errors => exact .fail errors
  | @ok _ rest rest' _ _ rests =>
      dsimp only
      have replies := expression_alike paired rests
      generalize expression finish rest = reply, expression finish' rest' = reply' at replies ⊢
      cases replies with
      | fail errors => exact .fail errors
      | ok afters =>
          exact (((expect_alike paired afters .closeBracket).map _).within _ _).within _ _
termination_by 4 * tokens.length

theorem fragments_alike (paired : Correspondence same finish finish')
    {tokens others : List Token} (alike : List.Forall₂ same tokens others) :
    Reply.Alike same (fragments finish tokens) (fragments finish' others) := by
  rw [fragments.eq_def, fragments.eq_def]
  match tokens, others, alike with
  | _, _, .nil => exact .ok .nil
  | token :: rest, other :: rest', .cons head rests =>
      simp only [fragmentHead_alike paired head]
      cases FragmentHead.ofToken other with
      | other => exact .ok (.cons head rests)
      | shell text => exact ((fragments_alike paired rests).map _).loosen
      | splice =>
          have replies := spliceTail_alike paired rests
          generalize spliceTail finish rest = reply, spliceTail finish' rest' = reply' at replies ⊢
          cases replies with
          | fail errors => exact .fail errors
          | ok afters =>
              exact ((((fragments_alike paired afters).map _).widen _ _).behind token other).loosen
termination_by 4 * tokens.length

end

end Parser

end StructuredShell
