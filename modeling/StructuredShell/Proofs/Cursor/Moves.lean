import StructuredShell.Proofs.Prefixes.Recognizers
import StructuredShell.Syntax.Parser.Cursor

/-!
# What a cursor does, seen from the tokens ahead of it

A cursor whose list closes with an end faces the tokens from its index on, up to that end. Readers
with a cursor are compared there with readers of lists: both end alike, with the same value or the
same error, and facing the same tokens. These are some of the tokens that were ahead, and an error
reports one of them or the end.
-/

set_option autoImplicit false

namespace StructuredShell.Cursor

open StructuredShell.Parser (Reply headKind)

variable {α β : Type}

/-! ## Outcomes -/

/-- What a reading comes to from a given cursor. -/
def Reading.outcome (reading : Reading α) (cursor : Cursor) :
    Option (Except Fault (Except SyntaxError α × Cursor)) :=
  reading.run cursor

@[simp] theorem outcome_pure (value : α) (cursor : Cursor) :
    Reading.outcome (pure value) cursor = some (.ok (.ok value, cursor)) := rfl

theorem outcome_bind (first : Reading α) (next : α → Reading β) (cursor : Cursor) :
    Reading.outcome (first >>= next) cursor =
      match first.outcome cursor with
      | none => none
      | some (.error fault) => some (.error fault)
      | some (.ok (.error error, after)) => some (.ok (.error error, after))
      | some (.ok (.ok value, after)) => (next value).outcome after := by
  unfold Reading.outcome
  simp only [bind, ExceptT.bind, ExceptT.mk, ExceptT.run, StateT.bind]
  rcases first cursor with _ | _ | ⟨_ | _, _⟩ <;> rfl

theorem outcome_map (reading : Reading α) (change : α → β) (cursor : Cursor) :
    Reading.outcome (change <$> reading) cursor =
      match reading.outcome cursor with
      | none => none
      | some (.error fault) => some (.error fault)
      | some (.ok (.error error, after)) => some (.ok (.error error, after))
      | some (.ok (.ok value, after)) => some (.ok (.ok (change value), after)) := by
  rw [← bind_pure_comp, outcome_bind]
  rfl

@[simp] theorem outcome_ite (asked : Prop) [Decidable asked] (first other : Reading α)
    (cursor : Cursor) :
    Reading.outcome (if asked then first else other) cursor =
      if asked then first.outcome cursor else other.outcome cursor := by
  split <;> rfl

/-! ## Cursors and the tokens ahead -/

/-- The cursor in a list with an end that has some of its last tokens ahead of it. -/
def facing (inner : List Token) (last : Token) (ahead : List Token) : Cursor :=
  ⟨inner ++ [last], inner.length - ahead.length⟩

@[simp] theorem place_outcome (cursor : Cursor) :
    place.outcome cursor = some (.ok (.ok cursor.index, cursor)) := rfl

theorem get_outcome (cursor : Cursor) :
    Reading.outcome get cursor = some (.ok (.ok cursor, cursor)) := rfl

theorem moveTo_outcome {cursor : Cursor} {index : Nat} (within : index < cursor.tokens.length) :
    (moveTo index).outcome cursor = some (.ok (.ok (), { cursor with index := index })) := by
  rw [moveTo, outcome_bind, get_outcome]
  dsimp only
  rw [if_pos within]
  rfl

theorem facing_within (inner : List Token) (last : Token) (ahead : List Token) :
    (facing inner last ahead).index < (facing inner last ahead).tokens.length := by
  simp only [facing, List.length_append, List.length_singleton]
  omega

/-- Going back to where a reading has started. -/
theorem moveTo_outcome_facing (inner : List Token) (last : Token) (ahead stopped : List Token) :
    (moveTo (facing inner last ahead).index).outcome (facing inner last stopped) =
      some (.ok (.ok (), facing inner last ahead)) :=
  moveTo_outcome (facing_within inner last ahead)

/-- Whether a list closes with an end and has some tokens before it. -/
structure Faces (inner : List Token) (last : Token) (ahead : List Token) : Prop where
  isEnd : last.kind = .finish
  isAhead : ahead <:+ inner

section

variable {inner ahead rest : List Token} {last token : Token}

theorem Faces.left (faces : Faces inner last ahead) (isLeft : rest <:+ ahead) :
    Faces inner last rest :=
  ⟨faces.isEnd, isLeft.trans faces.isAhead⟩

theorem Faces.tail (faces : Faces inner last (token :: rest)) : Faces inner last rest :=
  faces.left (List.suffix_cons token rest)

theorem peek_outcome_of_getElem? {cursor : Cursor} {offset : Nat}
    (found : cursor.tokens[min (cursor.index + offset) (cursor.tokens.length - 1)]? =
      some token) : (peek offset).outcome cursor = some (.ok (.ok token, cursor)) := by
  rw [peek, outcome_bind, get_outcome]
  dsimp only
  rw [found]
  rfl

theorem getElem?_closed {index : Nat} (within : index ≤ inner.length) (last : Token) :
    (inner ++ [last])[index]? = some (inner[index]?.getD last) := by
  rcases Nat.lt_or_eq_of_le within with inside | rfl
  · rw [List.getElem?_append_left inside, List.getElem?_eq_getElem inside, Option.getD_some]
  · simp

theorem peek_outcome (faces : Faces inner last ahead) (offset : Nat) :
    (peek offset).outcome (facing inner last ahead) =
      some (.ok (.ok ((ahead.drop offset).headD last), facing inner last ahead)) := by
  obtain ⟨before, rfl⟩ := faces.isAhead
  have index : (facing (before ++ ahead) last ahead).index = before.length := by simp [facing]
  have length : (facing (before ++ ahead) last ahead).tokens.length - 1 =
      (before ++ ahead).length := by simp [facing]
  apply peek_outcome_of_getElem?
  rw [index, length, facing, getElem?_closed (Nat.min_le_right _ _), List.headD_eq_head?_getD,
    List.head?_drop]
  rcases Nat.lt_or_ge offset ahead.length with inside | outside
  · rw [Nat.min_eq_left (by simp; omega), List.getElem?_append_right (by omega),
      Nat.add_sub_cancel_left]
  · rw [Nat.min_eq_right (by simp; omega), List.getElem?_eq_none outside,
      List.getElem?_eq_none (Nat.le_refl _)]

@[simp] theorem current_outcome (faces : Faces inner last ahead) :
    current.outcome (facing inner last ahead) =
      some (.ok (.ok (ahead.headD last), facing inner last ahead)) :=
  peek_outcome faces 0

theorem headD_kind (faces : Faces inner last ahead) :
    (ahead.headD last).kind = headKind ahead := by
  cases ahead with
  | nil => exact faces.isEnd
  | cons token rest => rfl

theorem advance_outcome (faces : Faces inner last ahead) :
    advance.outcome (facing inner last ahead) =
      some (.ok (.ok (ahead.headD last), facing inner last ahead.tail)) := by
  have bounded := faces.isAhead.length_le
  have length : (facing inner last ahead).tokens.length - 1 = inner.length := by simp [facing]
  rw [advance, outcome_bind, current_outcome faces]
  dsimp only
  rw [outcome_bind, get_outcome]
  dsimp only
  rw [length]
  cases ahead with
  | nil =>
      have stays : ¬(facing inner last []).index < inner.length := by simp [facing]
      rw [if_neg stays]
      rfl
  | cons token rest =>
      rw [List.length_cons] at bounded
      have index : (facing inner last (token :: rest)).index + 1 =
          (facing inner last rest).index := by
        simp only [facing, List.length_cons]
        omega
      have moves : (facing inner last (token :: rest)).index < inner.length := by
        simp only [facing, List.length_cons]
        omega
      rw [if_pos moves, index, outcome_bind, moveTo_outcome_facing]
      rfl

theorem skip_outcome (faces : Faces inner last (token :: rest)) :
    skip.outcome (facing inner last (token :: rest)) =
      some (.ok (.ok (), facing inner last rest)) := by
  rw [skip, outcome_bind, advance_outcome faces]
  rfl

theorem check_outcome (faces : Faces inner last ahead) (kind : Kind) :
    (check kind).outcome (facing inner last ahead) =
      some (.ok (.ok (headKind ahead == kind), facing inner last ahead)) := by
  rw [check, outcome_bind, current_outcome faces, ← headD_kind faces]
  rfl

theorem unexpected_outcome (faces : Faces inner last ahead) (expected : List Kind) :
    (unexpected expected : Reading α).outcome (facing inner last ahead) =
      some (.ok (.error (Parser.unexpected last.position expected ahead),
        facing inner last ahead)) := by
  rw [unexpected, outcome_bind, current_outcome faces]
  cases ahead with
  | nil =>
      rw [Parser.unexpected, ← faces.isEnd]
      rfl
  | cons token rest => rfl

theorem expect_outcome (faces : Faces inner last ahead) (kind : Kind) :
    (expect kind).outcome (facing inner last ahead) =
      if headKind ahead = kind then
        some (.ok (.ok (ahead.headD last), facing inner last ahead.tail))
      else
        some (.ok (.error (Parser.unexpected last.position [kind] ahead),
          facing inner last ahead)) := by
  rw [expect, outcome_bind, check_outcome faces]
  simp [advance_outcome faces, unexpected_outcome faces]

theorem accept_outcome (faces : Faces inner last ahead) (kind : Kind) :
    (accept kind).outcome (facing inner last ahead) =
      if headKind ahead = kind then some (.ok (.ok true, facing inner last ahead.tail))
      else some (.ok (.ok false, facing inner last ahead)) := by
  rw [accept, outcome_bind, check_outcome faces]
  simp [outcome_map, skip, advance_outcome faces]

theorem separator_outcome (faces : Faces inner last ahead) :
    separator.outcome (facing inner last ahead) =
      if headKind ahead = .comma then some (.ok (.ok true, facing inner last ahead.tail))
      else if headKind ahead = .closeParen then
        some (.ok (.ok false, facing inner last ahead.tail))
      else
        some (.ok (.error (Parser.unexpected last.position [.comma, .closeParen] ahead),
          facing inner last ahead)) := by
  rw [separator, outcome_bind, accept_outcome faces]
  by_cases isComma : headKind ahead = .comma
  · simp [isComma]
  · by_cases isClose : headKind ahead = .closeParen <;>
      simp [isComma, isClose, outcome_bind, outcome_map, skip, check_outcome faces,
        advance_outcome faces, unexpected_outcome faces]

theorem exists_of_head {kind : Kind} (isKind : headKind ahead = kind) (noEnd : kind ≠ .finish) :
    ∃ token rest, ahead = token :: rest ∧ token.kind = kind := by
  cases ahead with
  | nil => exact absurd isKind.symm noEnd
  | cons token rest => exact ⟨token, rest, rfl, isKind⟩

theorem expect_of_head_ne {kind : Kind} (otherKind : headKind ahead ≠ kind) (finish : Position) :
    Parser.expect finish kind ahead = .fail (Parser.unexpected finish [kind] ahead) ahead := by
  cases ahead with
  | nil => rfl
  | cons token rest => exact if_neg otherKind

theorem require_outcome_head {kind : Kind} {next : Unit → Reading α}
    (faces : Faces inner last (token :: rest)) (isKind : token.kind = kind) :
    Reading.outcome (require kind >>= next) (facing inner last (token :: rest)) =
      (next ()).outcome (facing inner last rest) := by
  rw [require, outcome_bind, outcome_bind, expect_outcome faces,
    if_pos (show headKind (token :: rest) = kind from isKind)]
  rfl

end

/-- Whether an error reports one of some tokens. -/
def Reports (error : SyntaxError) (tokens : List Token) : Prop :=
  ∃ token ∈ tokens, error.found = token.kind ∧ error.position = token.position

theorem Reports.mono {error : SyntaxError} {tokens larger : List Token}
    (reports : Reports error tokens) (isPart : tokens ⊆ larger) : Reports error larger := by
  obtain ⟨token, isToken, same⟩ := reports
  exact ⟨token, isPart isToken, same⟩

theorem Reports.further {first second : SyntaxError} {tokens : List Token}
    (ofFirst : Reports first tokens) (ofSecond : Reports second tokens) :
    Reports (Parser.furtherError first second) tokens := by
  unfold Parser.furtherError
  split
  · exact ofSecond
  · exact ofFirst

/-- Whether the outcome of a reading is what a reader of lists replies. -/
inductive Agrees (inner : List Token) (last : Token) (ahead : List Token) {bound : Nat} :
    Reply α bound → Option (Except Fault (Except SyntaxError α × Cursor)) → Prop where
  | reads {value : α} {rest : List Token} {shorter : rest.length < bound} :
      rest <:+ ahead →
      Agrees inner last ahead (.ok value rest shorter)
        (some (.ok (.ok value, facing inner last rest)))
  | fails {error : SyntaxError} {stopped : List Token} :
      stopped <:+ ahead → Reports error (ahead ++ [last]) →
      Agrees inner last ahead (.fail error stopped)
        (some (.ok (.error error, facing inner last stopped)))

namespace Agrees

variable {inner ahead rest : List Token} {last : Token} {kind : Kind} {bound small : Nat}
  {reply : Reply α bound} {outcome : Option (Except Fault (Except SyntaxError α × Cursor))}

theorem behind (agrees : Agrees inner last rest reply outcome) (isRest : rest <:+ ahead) :
    Agrees inner last ahead reply outcome := by
  cases agrees with
  | reads isLeft => exact .reads (isLeft.trans isRest)
  | fails isLeft reports =>
      have isPart : rest ++ [last] ⊆ ahead ++ [last] :=
        List.append_subset.mpr
          ⟨List.Subset.trans isRest.subset (List.subset_append_left ahead [last]),
            List.subset_append_right ahead [last]⟩
      exact .fails (isLeft.trans isRest) (reports.mono isPart)

theorem widen {large : Nat} (agrees : Agrees inner last ahead reply outcome)
    (bounded : bound ≤ large) : Agrees inner last ahead (reply.widen bounded) outcome := by
  cases agrees with
  | reads isLeft => exact .reads isLeft
  | fails isLeft reports => exact .fails isLeft reports

/-- One reading after another. The reply of a reader of lists fails where the first one does, and is
otherwise what is replied to the tokens that the first one leaves. -/
theorem bind {first : Reading α} {next : α → Reading β} {reply : Reply α small}
    {result : Reply β bound}
    (agrees : Agrees inner last ahead reply (first.outcome (facing inner last ahead)))
    (fails : ∀ error stopped, reply = .fail error stopped → result = .fail error stopped)
    (reads : ∀ value rest shorter, reply = .ok value rest shorter → rest <:+ ahead →
      Agrees inner last rest result ((next value).outcome (facing inner last rest))) :
    Agrees inner last ahead result
      (Reading.outcome (first >>= next) (facing inner last ahead)) := by
  rw [outcome_bind]
  generalize first.outcome (facing inner last ahead) = outcome at agrees
  cases agrees with
  | reads isRest => exact (reads _ _ _ rfl isRest).behind isRest
  | fails isLeft reports =>
      rw [fails _ _ rfl]
      exact .fails isLeft reports

theorem look {next : Token → Reading α} (faces : Faces inner last ahead)
    (agrees : Agrees inner last ahead reply
      ((next (ahead.headD last)).outcome (facing inner last ahead))) :
    Agrees inner last ahead reply
      (Reading.outcome (Cursor.current >>= next) (facing inner last ahead)) := by
  rw [outcome_bind, current_outcome faces]
  exact agrees

theorem skip {token : Token} {next : Unit → Reading α} (faces : Faces inner last (token :: rest))
    (agrees : Agrees inner last rest reply ((next ()).outcome (facing inner last rest))) :
    Agrees inner last (token :: rest) reply
      (Reading.outcome (Cursor.skip >>= next) (facing inner last (token :: rest))) := by
  rw [outcome_bind, skip_outcome faces]
  exact agrees.behind (List.suffix_cons token rest)

theorem map {reading : Reading α} {change : α → β} {reply : Reply α bound}
    (agrees : Agrees inner last ahead reply (reading.outcome (facing inner last ahead))) :
    Agrees inner last ahead (reply.map change)
      (Reading.outcome (reading >>= fun value => pure (change value))
        (facing inner last ahead)) := by
  refine agrees.bind (fun _ _ read => by rw [read, Reply.map]) fun value rest shorter read _ => ?_
  rw [read]
  exact .reads (List.suffix_refl rest)

theorem refused (faces : Faces inner last ahead) (expected : List Kind) :
    Agrees inner last ahead
      (.fail (Parser.unexpected last.position expected ahead) ahead : Reply α bound)
      (some (.ok (.error (Parser.unexpected last.position expected ahead),
        facing inner last ahead))) := by
  refine .fails (List.suffix_refl ahead) ?_
  cases ahead with
  | nil => exact ⟨last, by simp, faces.isEnd.symm, rfl⟩
  | cons token rest => exact ⟨token, by simp, rfl, rfl⟩

theorem unexpected (faces : Faces inner last ahead) (expected : List Kind) :
    Agrees inner last ahead
      (.fail (Parser.unexpected last.position expected ahead) ahead : Reply α bound)
      ((Cursor.unexpected expected).outcome (facing inner last ahead)) := by
  rw [unexpected_outcome faces]
  exact refused faces expected

theorem require (faces : Faces inner last ahead) (kind : Kind) (noEnd : kind ≠ .finish) :
    Agrees inner last ahead (Parser.expect last.position kind ahead)
      ((Cursor.require kind).outcome (facing inner last ahead)) := by
  rw [Cursor.require, outcome_bind, expect_outcome faces]
  by_cases isKind : headKind ahead = kind
  · obtain ⟨token, rest, rfl, isToken⟩ := exists_of_head isKind noEnd
    rw [if_pos isKind, Parser.expect_cons_eq isToken]
    exact .reads (List.suffix_cons token rest)
  · rw [if_neg isKind, expect_of_head_ne isKind]
    exact refused faces [kind]

/-- A token that closes what has been read. -/
theorem closing (faces : Faces inner last ahead) (kind : Kind) (noEnd : kind ≠ .finish)
    (value : α) :
    Agrees inner last ahead ((Parser.expect last.position kind ahead).map fun _ => value)
      (Reading.outcome (do Cursor.require kind; return value) (facing inner last ahead)) :=
  (require faces kind noEnd).map

/-- Readings that depend on whether the current token has a given kind. -/
theorem check {next : Bool → Reading α} (faces : Faces inner last ahead) (kind : Kind)
    (noEnd : kind ≠ .finish)
    (found : ∀ token rest shorter, ahead = token :: rest → token.kind = kind →
      Parser.expect last.position kind ahead = .ok () rest shorter →
      Agrees inner last ahead reply ((next true).outcome (facing inner last ahead)))
    (missed : ∀ error stopped, Parser.expect last.position kind ahead = .fail error stopped →
      Agrees inner last ahead reply ((next false).outcome (facing inner last ahead))) :
    Agrees inner last ahead reply
      (Reading.outcome (Cursor.check kind >>= next) (facing inner last ahead)) := by
  rw [outcome_bind, check_outcome faces]
  by_cases isKind : headKind ahead = kind
  · obtain ⟨token, rest, rfl, isToken⟩ := exists_of_head isKind noEnd
    rw [beq_iff_eq.mpr isKind]
    exact found token rest _ rfl isToken (Parser.expect_cons_eq isToken)
  · rw [beq_false_of_ne isKind]
    exact missed _ _ (expect_of_head_ne isKind _)

/-- Readings that depend on whether a token of a given kind can be taken. -/
theorem accept {next : Bool → Reading α} (faces : Faces inner last ahead) (kind : Kind)
    (noEnd : kind ≠ .finish)
    (found : ∀ rest shorter, Parser.expect last.position kind ahead = .ok () rest shorter →
      rest <:+ ahead → Agrees inner last rest reply ((next true).outcome (facing inner last rest)))
    (missed : ∀ error stopped, Parser.expect last.position kind ahead = .fail error stopped →
      Agrees inner last ahead reply ((next false).outcome (facing inner last ahead))) :
    Agrees inner last ahead reply
      (Reading.outcome (Cursor.accept kind >>= next) (facing inner last ahead)) := by
  rw [outcome_bind, accept_outcome faces]
  by_cases isKind : headKind ahead = kind
  · obtain ⟨token, rest, rfl, isToken⟩ := exists_of_head isKind noEnd
    have isRest := List.suffix_cons token rest
    rw [if_pos isKind]
    exact (found rest _ (Parser.expect_cons_eq isToken) isRest).behind isRest
  · rw [if_neg isKind]
    exact missed _ _ (expect_of_head_ne isKind _)

theorem expectIdent (faces : Faces inner last ahead) :
    Agrees inner last ahead (Parser.expectIdent last.position ahead)
      (Cursor.expectIdent.outcome (facing inner last ahead)) := by
  rw [Cursor.expectIdent, outcome_bind, expect_outcome faces]
  cases ahead with
  | nil => exact refused faces [.ident]
  | cons token rest =>
      by_cases isIdent : token.kind = .ident
      · rw [if_pos (show headKind (token :: rest) = .ident from isIdent), Parser.expectIdent,
          if_pos isIdent]
        obtain ⟨kind, _ | _ | name, position⟩ := token
        · exact .fails (List.suffix_cons _ rest) ⟨_, .head _, rfl, rfl⟩
        · exact .fails (List.suffix_cons _ rest) ⟨_, .head _, rfl, rfl⟩
        · exact .reads (List.suffix_cons _ rest)
      · rw [if_neg (show headKind (token :: rest) ≠ .ident from isIdent), Parser.expectIdent,
          if_neg isIdent]
        exact refused faces [.ident]

theorem separator (faces : Faces inner last ahead) :
    Agrees inner last ahead (Parser.expectSeparator last.position ahead)
      (Cursor.separator.outcome (facing inner last ahead)) := by
  rw [separator_outcome faces]
  cases ahead with
  | nil => exact refused faces [.comma, .closeParen]
  | cons token rest =>
      rw [Parser.expectSeparator, headKind]
      split
      · exact .reads (List.suffix_cons token rest)
      split
      · exact .reads (List.suffix_cons token rest)
      · exact refused faces [.comma, .closeParen]

theorem expectEnd (faces : Faces inner last ahead) :
    Agrees inner last ahead (Parser.expectEnd last.position ahead)
      (Cursor.expectEnd.outcome (facing inner last ahead)) := by
  rw [Cursor.expectEnd, Parser.expectEnd]
  refine .accept faces .semicolon (by decide) (fun rest shorter read _ => ?_)
    fun error stopped read => ?_
  · rw [read]
    exact .reads (List.suffix_refl rest)
  · rw [read]
    exact .unexpected faces Parser.statementEnd

end Agrees

end StructuredShell.Cursor
