import StructuredShell.Proofs.Cursor.Programs
import StructuredShell.Proofs.Prefixes.Sources

/-!
# Calls on one cursor

Calls one after another on one cursor do what the readers of token streams do, so all of them come
to an end. The cursor stays in the list and does not go back from one call to the next, a call that
reads a value moves it on, and an error reports a token that is not before the start of its call.
-/

set_option autoImplicit false

namespace StructuredShell.Cursor

open StructuredShell.Parser (Reply)

/-! ## Calls on token streams -/

def Call.answer (call : Call) (stream : TokenStream) : Except SyntaxError Result × TokenStream :=
  match call with
  | statement => stream.statement.map (·.map .statement) id
  | program => stream.program.map (·.map .program) id
  | expression => stream.expression.map (·.map .expression) id

def answers : List Call → TokenStream → List (Except SyntaxError Result) × TokenStream
  | [], stream => ([], stream)
  | call :: later, stream =>
    let first := call.answer stream
    let others := answers later first.2
    (first.1 :: others.1, others.2)

/-! ## One call -/

/-- What a call that starts at a cursor has done when it is at its end. -/
structure Call.Ends (call : Call) (cursor : Cursor) (result : Except SyntaxError Result)
    (after : Cursor) : Prop where
  ended : call.reading.outcome cursor = some (.ok (result, after))
  sameTokens : after.tokens = cursor.tokens
  within : after.index < after.tokens.length
  forward : cursor.index ≤ after.index
  takes : ∀ value, result = .ok value → call ≠ .program → cursor.index < after.index
  reports : ∀ error, result = .error error →
    ∃ index, cursor.index ≤ index ∧ error.ReportsAt cursor.tokens index

section

variable {inner ahead : List Token} {last : Token}

theorem Agrees.answered {α : Type} {reading : Reading α} {bound : List Token → Nat}
    {reader : Position → (tokens : List Token) → Reply α (bound tokens)}
    (agrees : Agrees inner last ahead (reader last.position ahead)
      (reading.outcome (facing inner last ahead))) (wrap : α → Result) :
    ∃ result rest,
      (TokenStream.read reader ⟨ahead, last.position⟩).map (·.map wrap) id =
        (result, ⟨rest, last.position⟩) ∧
      rest <:+ ahead ∧
      Reading.outcome (do let value ← reading; return wrap value) (facing inner last ahead) =
        some (.ok (result, facing inner last rest)) ∧
      (∀ value, result = .ok value → rest.length < bound ahead) ∧
      ∀ error, result = .error error → Reports error (ahead ++ [last]) := by
  rw [TokenStream.read, outcome_bind]
  dsimp only
  generalize reader last.position ahead = reply at agrees
  generalize reading.outcome (facing inner last ahead) = outcome at agrees
  cases agrees with
  | @reads value rest shorter isRest =>
      refine ⟨.ok (wrap value), rest, rfl, isRest, rfl, fun _ _ => shorter, ?_⟩
      rintro _ ⟨⟩
  | @fails error stopped isLeft reports =>
      refine ⟨.error error, stopped, rfl, isLeft, rfl, ?_, ?_⟩
      · rintro _ ⟨⟩
      · rintro _ ⟨⟩
        exact reports

theorem facing_index_le {rest : List Token} (isRest : rest <:+ ahead) :
    (facing inner last ahead).index ≤ (facing inner last rest).index :=
  Nat.sub_le_sub_left isRest.length_le inner.length

theorem facing_index_lt {rest : List Token} (faces : Faces inner last ahead)
    (shorter : rest.length < ahead.length) :
    (facing inner last ahead).index < (facing inner last rest).index := by
  have bounded := faces.isAhead.length_le
  simp only [facing]
  omega

theorem Reports.reportsAt {error : SyntaxError} (reports : Reports error (ahead ++ [last]))
    (faces : Faces inner last ahead) :
    ∃ index, (facing inner last ahead).index ≤ index ∧
      error.ReportsAt (facing inner last ahead).tokens index := by
  obtain ⟨before, rfl⟩ := faces.isAhead
  obtain ⟨token, isToken, same⟩ := reports
  obtain ⟨offset, here⟩ := List.getElem?_of_mem isToken
  have start : (facing (before ++ ahead) last ahead).index = before.length := by simp [facing]
  refine ⟨before.length + offset, by omega, token, ?_, same⟩
  rw [facing, List.append_assoc, List.getElem?_append_right (by omega), Nat.add_sub_cancel_left,
    here]

theorem call_answered (faces : Faces inner last ahead) (call : Call) :
    ∃ result rest,
      call.answer ⟨ahead, last.position⟩ = (result, ⟨rest, last.position⟩) ∧ rest <:+ ahead ∧
      call.Ends (facing inner last ahead) result (facing inner last rest) := by
  cases call with
  | statement =>
      obtain ⟨result, rest, answer, isRest, ended, shorter, reports⟩ :=
        (statement_agrees faces).answered .statement
      exact ⟨result, rest, answer, isRest, ended, rfl, facing_within _ _ _, facing_index_le isRest,
        fun value isValue _ => facing_index_lt faces (shorter value isValue),
        fun error isError => (reports error isError).reportsAt faces⟩
  | program =>
      obtain ⟨result, rest, answer, isRest, ended, -, reports⟩ :=
        (program_agrees faces).answered .program
      exact ⟨result, rest, answer, isRest, ended, rfl, facing_within _ _ _, facing_index_le isRest,
        fun _ _ other => absurd rfl other,
        fun error isError => (reports error isError).reportsAt faces⟩
  | expression =>
      obtain ⟨result, rest, answer, isRest, ended, shorter, reports⟩ :=
        (wholeExpression_agrees faces).answered .expression
      exact ⟨result, rest, answer, isRest, ended, rfl, facing_within _ _ _, facing_index_le isRest,
        fun value isValue _ => facing_index_lt faces (shorter value isValue),
        fun error isError => (reports error isError).reportsAt faces⟩

/-! ## Many calls -/

theorem calls_cons {call : Call} {later : List Call} {cursor after left : Cursor}
    {result : Except SyntaxError Result} {results : List (Except SyntaxError Result)}
    (first : call.reading.outcome cursor = some (.ok (result, after)))
    (others : (calls later).run after =
      (some (.ok (results, left)) : Option (Except Fault _))) :
    (calls (call :: later)).run cursor =
      (some (.ok (result :: results, left)) : Option (Except Fault _)) := by
  have ran : call.reading.run.run cursor =
      (some (.ok (result, after)) : Option (Except Fault _)) := first
  have rest : (do let results ← calls later; return result :: results : Moves _).run after =
      (some (.ok (result :: results, left)) : Option (Except Fault _)) := by
    rw [StateT.run_bind, others]
    rfl
  rw [calls, StateT.run_bind, ran]
  exact rest

theorem calls_answered (faces : Faces inner last ahead) (list : List Call) :
    ∃ rest,
      (answers list ⟨ahead, last.position⟩).2 = ⟨rest, last.position⟩ ∧ rest <:+ ahead ∧
      (calls list).run (facing inner last ahead) =
        (some (.ok ((answers list ⟨ahead, last.position⟩).1, facing inner last rest)) :
          Option (Except Fault _)) := by
  induction list generalizing ahead with
  | nil => exact ⟨ahead, rfl, List.suffix_refl ahead, rfl⟩
  | cons call later ih =>
      obtain ⟨result, rest, answer, isRest, ends⟩ := call_answered faces call
      obtain ⟨left, stream, isLeft, ended⟩ := ih (faces.left isRest)
      refine ⟨left, ?_, isLeft.trans isRest, ?_⟩
      · rw [answers, answer]
        exact stream
      · rw [answers, answer]
        exact calls_cons ends.ended ended

end

/-! ## From the start of a list -/

theorem ofTokens_facing (tokens : List Token) :
    ∃ inner last, last.kind = .finish ∧ ofTokens tokens = facing inner last inner ∧
      TokenStream.ofTokens tokens = ⟨inner, last.position⟩ := by
  rw [ofTokens, TokenStream.ofTokens]
  cases closes : tokens.getLast? with
  | none =>
      obtain rfl := List.getLast?_eq_none_iff.mp closes
      exact ⟨[], ⟨.finish, none, .start⟩, rfl, rfl, rfl⟩
  | some last =>
      obtain ⟨inner, rfl⟩ := List.getLast?_eq_some_iff.mp closes
      by_cases isEnd : last.kind = .finish
      · refine ⟨inner, last, isEnd, ?_, ?_⟩
        · simp [facing, isEnd]
        · simp [isEnd]
      · refine ⟨inner ++ [last], ⟨.finish, none, last.position⟩, rfl, ?_, ?_⟩
        · simp [facing, isEnd]
        · simp [isEnd]

/-- Calls on one cursor all come to an end, whatever the list of tokens is and whichever calls came
before, with the results of the readers of token streams. Before and after each of them the cursor
is in the list, and so it is whenever it is moved, since a move out of the list would be a fault. No
call puts it back to before its own start, and one that reads a statement or a value puts it further
on. An error reports a token at the start of its call or after it. -/
theorem calls_total (tokens : List Token) (list : List Call) :
    ∃ cursor : Cursor,
      (calls list).run (ofTokens tokens) =
        (some (.ok ((answers list (.ofTokens tokens)).1, cursor)) : Option (Except Fault _)) ∧
      cursor.tokens = (ofTokens tokens).tokens ∧ cursor.index < cursor.tokens.length ∧
      ∀ call : Call, ∃ result after, call.Ends cursor result after := by
  obtain ⟨inner, last, isEnd, start, stream⟩ := ofTokens_facing tokens
  have faces : Faces inner last inner := ⟨isEnd, List.suffix_refl inner⟩
  obtain ⟨rest, -, isRest, ended⟩ := calls_answered faces list
  rw [start, stream]
  refine ⟨facing inner last rest, ended, rfl, facing_within inner last rest, fun call => ?_⟩
  obtain ⟨result, left, -, -, ends⟩ := call_answered (faces.left isRest) call
  exact ⟨result, _, ends⟩

end StructuredShell.Cursor
