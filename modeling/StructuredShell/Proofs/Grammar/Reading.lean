import StructuredShell.Proofs.Grammar.Rules
import StructuredShell.Syntax.Parser.Reply

/-!
# Successful replies

A reply without its error and without the proof that it shortens the tokens. Readers are compared
with the grammar through this view only.
-/

set_option autoImplicit false

namespace StructuredShell.Parser

open Grammar (Named)

namespace Reply

variable {α β : Type} {bound : Nat}

def reads? : Reply α bound → Option (α × List Token)
  | ok value rest _ => some (value, rest)
  | fail _ _ => none

@[simp] theorem reads?_ok (value : α) (rest : List Token) (shorter : rest.length < bound) :
    (ok value rest shorter : Reply α bound).reads? = some (value, rest) := rfl

@[simp] theorem reads?_fail (error : SyntaxError) (stopped : List Token) :
    (fail error stopped : Reply α bound).reads? = none := rfl

@[simp] theorem reads?_take (value : α) (token : Token) (rest : List Token) :
    (take value token rest).reads? = some (value, rest) := rfl

@[simp] theorem reads?_keep (value : α) (tokens : List Token) :
    (keep value tokens).reads? = some (value, tokens) := rfl

@[simp] theorem reads?_widen {large : Nat} (bounded : bound ≤ large) (reply : Reply α bound) :
    (reply.widen bounded).reads? = reply.reads? := by
  cases reply <;> rfl

@[simp] theorem reads?_within {large : Nat} (shorter : bound < large) (reply : Reply α bound) :
    (reply.within shorter).reads? = reply.reads? := reads?_widen _ reply

@[simp] theorem reads?_behind {rest : List Token} (token : Token) (reply : Reply α rest.length) :
    (reply.behind token).reads? = reply.reads? := reads?_widen _ reply

@[simp] theorem reads?_loosen (reply : Reply α bound) : reply.loosen.reads? = reply.reads? :=
  reads?_widen _ reply

@[simp] theorem reads?_map (f : α → β) (reply : Reply α bound) :
    (reply.map f).reads? = reply.reads?.map fun read => (f read.1, read.2) := by
  cases reply <;> rfl

theorem length_lt_of_reads? {reply : Reply α bound} {value : α} {rest : List Token}
    (read : reply.reads? = some (value, rest)) : rest.length < bound := by
  cases reply with
  | ok _ _ shorter =>
      cases read
      exact shorter
  | fail _ _ => cases read

end Reply

/-! ## Single tokens -/

@[simp] theorem headKind_cons (token : Token) (rest : List Token) :
    headKind (token :: rest) = token.kind := rfl

theorem textValue?_eq_some_iff {token : Token} {text : String} :
    token.textValue? = some text ↔ token.literal = some (.text text) := by
  unfold Token.textValue?
  split <;> simp_all

theorem numberValue?_eq_some_iff {token : Token} {value : Int} :
    token.numberValue? = some value ↔ token.literal = some (.number value) := by
  unfold Token.numberValue?
  split <;> simp_all

theorem named_iff {kind : Kind} {token : Token} {text : String} :
    Named kind token text ↔ token.kind = kind ∧ token.textValue? = some text := by
  rw [textValue?_eq_some_iff]
  exact ⟨fun named => ⟨named.kind_eq, named.literal_eq⟩, fun ⟨same, carried⟩ => ⟨same, carried⟩⟩

variable {finish : Position} {kind : Kind} {tokens rest : List Token}

theorem expect_sound {value : Unit}
    (read : (expect finish kind tokens).reads? = some (value, rest)) :
    ∃ token : Token, token.kind = kind ∧ tokens = token :: rest := by
  unfold expect at read
  split at read
  · cases read
  · next token tail =>
      split at read
      · next same =>
          cases read
          exact ⟨token, same, rfl⟩
      · cases read

theorem expect_cons {token : Token} (same : token.kind = kind) :
    (expect finish kind (token :: rest)).reads? = some ((), rest) := by
  simp only [expect, same, if_true, Reply.reads?_take]

theorem expect_eq_none (other : headKind tokens ≠ kind) :
    (expect finish kind tokens).reads? = none := by
  unfold expect
  split
  · rfl
  · rw [if_neg (by simpa using other)]
    rfl

theorem expectIdent_sound {name : String}
    (read : (expectIdent finish tokens).reads? = some (name, rest)) :
    ∃ token, Named .ident token name ∧ tokens = token :: rest := by
  unfold expectIdent at read
  split at read
  · cases read
  · next token tail =>
      split at read
      · next same =>
          split at read
          · next text found =>
              cases read
              exact ⟨token, ⟨same, textValue?_eq_some_iff.mp found⟩, rfl⟩
          · cases read
      · cases read

theorem expectIdent_cons {token : Token} {name : String} (named : Named .ident token name) :
    (expectIdent finish (token :: rest)).reads? = some (name, rest) := by
  have found := textValue?_eq_some_iff.mpr named.literal_eq
  unfold expectIdent
  simp only [named.kind_eq, if_true]
  split
  · next text same =>
      rw [found] at same
      cases same
      rfl
  · next missing => simp [found] at missing

theorem expectSeparator_sound {more : Bool}
    (read : (expectSeparator finish tokens).reads? = some (more, rest)) :
    ∃ token : Token, token.kind = (if more then .comma else .closeParen) ∧
      tokens = token :: rest := by
  unfold expectSeparator at read
  split at read
  · cases read
  · next token tail =>
      split at read
      · next same =>
          cases read
          exact ⟨token, same, rfl⟩
      · split at read
        · next same =>
            cases read
            exact ⟨token, same, rfl⟩
        · cases read

theorem expectSeparator_comma {token : Token} (same : token.kind = .comma) :
    (expectSeparator finish (token :: rest)).reads? = some (true, rest) := by
  simp only [expectSeparator, same, if_true, Reply.reads?_take]

theorem expectSeparator_closeParen {token : Token} (same : token.kind = .closeParen) :
    (expectSeparator finish (token :: rest)).reads? = some (false, rest) := by
  simp [expectSeparator, same]

end StructuredShell.Parser
