import Mathlib
import StructuredShell.Proofs.Lexing.Scan

/-!
# Texts one after another

A text that has tokens can be read without knowing what comes on the lines below it, and a text is
read below other lines as it is read on its own. So the tokens of two texts that a newline joins are
those of the first, less its end, and those of the second, moved down.
-/

set_option autoImplicit false

namespace StructuredShell

/-! ## Lines further down -/

/-- The place in the same column, some lines further down. -/
def Position.below (lines : Nat) (position : Position) : Position :=
  { position with line := position.line + lines }

def Token.below (lines : Nat) (token : Token) : Token :=
  { token with position := token.position.below lines }

def LexError.below (lines : Nat) (error : LexError) : LexError :=
  { error with position := error.position.below lines }

namespace Position

theorem advance_below (lines : Nat) (position : Position) (c : Char) :
    (position.below lines).advance c = (position.advance c).below lines := by
  unfold advance below
  split <;> simp [Nat.add_right_comm]

theorem after_below (lines : Nat) (position : Position) (text : List Char) :
    (position.below lines).after text = (position.after text).below lines := by
  induction text generalizing position with
  | nil => rfl
  | cons c text ih => rw [after_cons, advance_below, ih, after_cons]

/-- Where the line after a text starts. -/
theorem start_after_newline (text : List Char) :
    (start.after text).advance '\n' = start.below (1 + text.count '\n') := by
  rw [← endOf_nil, endOf_after, List.nil_append]
  simp [endOf, advance, below, Nat.add_comm]

end Position

namespace Lexer

/-! ## Reading further down -/

def RawBlock.below (lines : Nat) (block : RawBlock) : RawBlock :=
  { block with start := block.start.below lines }

def Splice.below (lines : Nat) (splice : Splice) : Splice :=
  { splice with host := splice.host.below lines, start := splice.start.below lines }

def Phase.below (lines : Nat) : Phase → Phase
  | .code => .code
  | .opening delimiter => .opening delimiter
  | .body block => .body (block.below lines)

def State.below (lines : Nat) (state : State) : State :=
  ⟨state.phase.below lines, state.splices.map (Splice.below lines)⟩

def Step.below (lines : Nat) (taken : Step) : Step :=
  ⟨taken.tokens.map (Token.below lines), taken.next.below lines, taken.further⟩

/-- What comes of reading some lines further down, given how its results are moved. -/
def outcomeBelow {α : Type} (lines : Nat) (move : α → α) : Except LexError α → Except LexError α
  | .error error => .error (error.below lines)
  | .ok value => .ok (move value)

section

variable (lines : Nat)

theorem State.initial_below : State.initial.below lines = .initial := rfl

theorem afterToken_below (splices : List Splice) (kind : Kind) :
    State.afterToken (splices.map (Splice.below lines)) kind =
      (State.afterToken splices kind).below lines := by
  unfold State.afterToken
  cases Delimiter.ofTrigger? kind with
  | some delimiter => rfl
  | none =>
      cases splices with
      | nil => cases kind <;> rfl
      | cons splice outer =>
          obtain ⟨host, start, pending⟩ := splice
          cases kind
          case closeBracket => cases pending <;> rfl
          all_goals rfl

theorem codeStep_below (splices : List Splice) (position : Position) (c : Char) (cs : List Char) :
    codeStep (splices.map (Splice.below lines)) (position.below lines) c cs =
      outcomeBelow lines (Step.below lines) (codeStep splices position c cs) := by
  unfold codeStep
  cases item c cs with
  | error fault => rfl
  | ok found =>
      obtain ⟨token, further⟩ := found
      cases token with
      | none => rfl
      | some spelled => simp only [afterToken_below, outcomeBelow, Step.below]; rfl

theorem openingStep_below (delimiter : Delimiter) (splices : List Splice) (position : Position)
    (c : Char) (cs : List Char) :
    openingStep delimiter (splices.map (Splice.below lines)) (position.below lines) c cs =
      outcomeBelow lines (Step.below lines) (openingStep delimiter splices position c cs) := by
  unfold openingStep
  split
  · rfl
  · split <;> rfl

theorem bodyStep_below (block : RawBlock) (splices : List Splice) (position : Position) (c : Char)
    (cs : List Char) :
    bodyStep (block.below lines) (splices.map (Splice.below lines)) (position.below lines) c cs =
      (bodyStep block splices position c cs).below lines := by
  unfold bodyStep
  have sameText : rawText (block.below lines).delimiter (block.below lines).pending (c :: cs) =
      rawText block.delimiter block.pending (c :: cs) := rfl
  rw [sameText]
  split
  · split
    · rw [Position.advance_below]
      rfl
    · rfl
  · rfl

theorem step_below (state : State) (position : Position) (c : Char) (cs : List Char) :
    step (state.below lines) (position.below lines) c cs =
      outcomeBelow lines (Step.below lines) (step state position c cs) := by
  obtain ⟨phase, splices⟩ := state
  cases phase with
  | code => exact codeStep_below lines splices position c cs
  | opening delimiter => exact openingStep_below lines delimiter splices position c cs
  | body block => exact congrArg Except.ok (bodyStep_below lines block splices position c cs)

theorem atEnd_below (state : State) (position : Position) :
    atEnd (state.below lines) (position.below lines) =
      outcomeBelow lines (List.map (Token.below lines)) (atEnd state position) := by
  match state with
  | ⟨.code, []⟩ => rfl
  | ⟨.code, _ :: _⟩ => rfl
  | ⟨.opening _, _⟩ => rfl
  | ⟨.body _, _⟩ => rfl

/-- Reading further down finds the same tokens, and the same error, further down. -/
theorem tokensFrom_below (state : State) (position : Position) (source : List Char) :
    tokensFrom (state.below lines) (position.below lines) source =
      outcomeBelow lines (List.map (Token.below lines)) (tokensFrom state position source) := by
  fun_induction tokensFrom state position source with
  | case1 state position => rw [tokensFrom, atEnd_below]
  | case2 state position c cs error stepped =>
      rw [tokensFrom, step_below, stepped]
      rfl
  | case3 state position c cs taken stepped error failed ih =>
      rw [failed, ← Position.after_below] at ih
      rw [tokensFrom, step_below, stepped]
      simp only [outcomeBelow, Step.below, ih]
  | case4 state position c cs taken stepped more read ih =>
      rw [read, ← Position.after_below] at ih
      rw [tokensFrom, step_below, stepped]
      simp only [outcomeBelow, Step.below, ih, List.map_append]

end

/-! ## Text above a newline -/

theorem Stops.append {member : Char → Bool} {rest : List Char} {c : Char}
    (stops : Stops member rest) (outside : member c = false) (following : List Char) :
    Stops member (rest ++ c :: following) := by
  cases rest with
  | nil => exact stops_cons.mpr outside
  | cons d rest => exact stops_cons.mpr (stops_cons.mp stops)

theorem continuedBy_newline (kind : Kind) : continuedBy kind '\n' = false := by
  cases kind <;> rfl

theorem Comment.append_newline {rest comment : List Char} (isComment : Comment rest comment)
    (following : List Char) : Comment (rest ++ '\n' :: following) comment := by
  cases isComment with
  | line oneLine stops => exact .line oneLine (stops.append rfl following)
  | block unclosed => exact .block unclosed

theorem Interrupts.append {delimiter : Delimiter} {pending : Nat} {rest : List Char}
    (interrupts : Interrupts delimiter pending rest) (following : List Char) :
    Interrupts delimiter pending (rest ++ following) := by
  rcases interrupts with ⟨balanced, closes⟩ | splices
  · exact .inl ⟨balanced, closes.trans (List.prefix_append rest following)⟩
  · exact .inr (splices.trans (List.prefix_append rest following))

/-- What has tokens is read the same above a newline, whatever follows it, and what follows is read
as a text of its own. No piece of the text above can reach over the newline: blanks, comments on a
line, words and numbers end before it, and everything else is closed by a character of its own. -/
theorem Scan.tokensFrom_append_newline {state : State} {position : Position} {source : List Char}
    {tokens : List Token} (scanned : Scan state position source tokens) (following : List Char) :
    ∃ inner place, tokens = inner ++ [⟨.finish, none, place⟩] ∧
      tokensFrom state position (source ++ '\n' :: following) =
        (tokensFrom .initial ((position.after source).advance '\n') following).map
          (inner ++ ·) := by
  induction scanned with
  | @finish position =>
      refine ⟨[], position, rfl, ?_⟩
      rw [List.nil_append, tokensFrom_blank rfl rfl, Position.after_nil, State.initial]
      cases tokensFrom ⟨.code, []⟩ (position.advance '\n') following <;> rfl
  | blank skips isBlank _ ih =>
      obtain ⟨inner, place, rfl, read⟩ := ih
      refine ⟨inner, place, rfl, ?_⟩
      rw [List.cons_append, tokensFrom_blank skips isBlank, read, Position.after_cons]
  | comment isComment _ ih =>
      obtain ⟨inner, place, rfl, read⟩ := ih
      refine ⟨inner, place, rfl, ?_⟩
      rw [List.append_assoc, tokensFrom_comment (isComment.append_newline following), read,
        Position.after_append]
  | token spells isCode stops _ ih =>
      obtain ⟨inner, place, rfl, read⟩ := ih
      refine ⟨[_] ++ inner, place, rfl, ?_⟩
      have stops := stops.append (continuedBy_newline _) following
      rw [List.append_assoc, tokensFrom_token spells isCode stops, read, map_append_map,
        Position.after_append]
  | @opener delimiter splices position blanks rest tokens areBlank stops scanned ih =>
      obtain ⟨inner, place, rfl, read⟩ := ih
      refine ⟨[_] ++ inner, place, rfl, ?_⟩
      -- The environment must still be closed, so something stands after the blanks.
      obtain ⟨c, rest, rfl⟩ := List.exists_cons_of_ne_nil scanned.body_ne_nil
      have stops : Stops isSpacing (c :: rest ++ '\n' :: following) := by
        rwa [List.cons_append, stops_cons, ← stops_cons]
      rw [List.cons_append, List.append_assoc, tokensFrom_opener areBlank stops, read,
        map_append_map, ← Position.after_append]
      rfl
  | text nonempty level noSplice interrupts _ ih =>
      obtain ⟨inner, place, rfl, read⟩ := ih
      refine ⟨[_] ++ inner, place, rfl, ?_⟩
      have interrupts := interrupts.append ('\n' :: following)
      rw [List.append_assoc, tokensFrom_text nonempty level noSplice interrupts, read,
        map_append_map, Position.after_append]
  | splice _ ih =>
      obtain ⟨inner, place, rfl, read⟩ := ih
      refine ⟨[_, _] ++ inner, place, rfl, ?_⟩
      rw [List.cons_append, List.cons_append, tokensFrom_splice, read, map_append_map,
        ← Position.after_append]
      rfl
  | close balanced _ ih =>
      obtain ⟨inner, place, rfl, read⟩ := ih
      refine ⟨[_] ++ inner, place, rfl, ?_⟩
      rw [List.cons_append, tokensFrom_close balanced, read, map_append_map, Position.after_cons]

/-- Below a text that has tokens, and a newline, another text is read as on its own. -/
theorem tokens_below {first : String} {tokens : List Token} {last : Token}
    (read : Lexer.tokens first = .ok (tokens ++ [last])) (second : String) :
    Lexer.tokens (first ++ "\n" ++ second) =
      (outcomeBelow (1 + first.toList.count '\n')
        (List.map (Token.below (1 + first.toList.count '\n'))) (Lexer.tokens second)).map
          (tokens ++ ·) := by
  obtain ⟨inner, place, same, readBoth⟩ :=
    (tokens_eq_ok_iff.mp read).tokensFrom_append_newline second.toList
  obtain ⟨rfl, -⟩ := List.append_inj' same rfl
  have joined : (first ++ "\n" ++ second).toList = first.toList ++ '\n' :: second.toList := by
    simp [String.toList_append]
  rw [Lexer.tokens, joined, readBoth, Position.start_after_newline,
    ← State.initial_below (1 + first.toList.count '\n'), tokensFrom_below]
  rfl

/-- Reading composes at a newline. Below a text that has tokens, and a newline, another text is read
as on its own: its tokens stand behind those of the first text, or its error is the error of both,
as many lines further down as the first text and the newline take. -/
theorem tokens_append_newline {first : String} {tokens : List Token} {last : Token}
    (read : Lexer.tokens first = .ok (tokens ++ [last])) (second : String) :
    Lexer.tokens (first ++ "\n" ++ second) =
      match Lexer.tokens second with
      | .ok others =>
        .ok (tokens ++ others.map (Token.below (1 + first.toList.count '\n')))
      | .error error => .error (error.below (1 + first.toList.count '\n')) := by
  rw [tokens_below read]
  cases Lexer.tokens second <;> rfl

def commentedTokens : List Token := [
  ⟨.ident, some (.text "x"), ⟨1, 1⟩⟩, ⟨.assign, none, ⟨2, 4⟩⟩, ⟨.dollar, none, ⟨2, 6⟩⟩,
  ⟨.openParen, none, ⟨2, 7⟩⟩, ⟨.rawText, some (.text "a\n"), ⟨2, 9⟩⟩, ⟨.dollar, none, ⟨3, 1⟩⟩,
  ⟨.openBracket, none, ⟨3, 2⟩⟩, ⟨.number, some (.number 1), ⟨3, 4⟩⟩,
  ⟨.closeBracket, none, ⟨3, 6⟩⟩, ⟨.closeParen, none, ⟨3, 7⟩⟩]

/-- A comment at the end of the first text ends at the newline. The error of the second text keeps
its column. -/
theorem tokens_append_newline_comment :
    Lexer.tokens "x /*\n*/ = $( a\n$[ 1 ]) // y" =
      .ok (commentedTokens ++ [⟨.finish, none, ⟨3, 13⟩⟩]) ∧
    Lexer.tokens "x /*\n*/ = $( a\n$[ 1 ]) // y\nz = 2" =
      .ok (commentedTokens ++ [⟨.ident, some (.text "z"), ⟨4, 1⟩⟩, ⟨.assign, none, ⟨4, 3⟩⟩,
        ⟨.number, some (.number 2), ⟨4, 5⟩⟩, ⟨.finish, none, ⟨4, 6⟩⟩]) ∧
    Lexer.tokens "x /*\n*/ = $( a\n$[ 1 ]) // y\n \"z" =
      .error ⟨.unterminatedString, ⟨4, 2⟩⟩ := by
  have read : Lexer.tokens "x /*\n*/ = $( a\n$[ 1 ]) // y" =
      .ok (commentedTokens ++ [⟨.finish, none, ⟨3, 13⟩⟩]) := by cbv
  have readOther : Lexer.tokens "z = 2" = .ok [⟨.ident, some (.text "z"), ⟨1, 1⟩⟩,
      ⟨.assign, none, ⟨1, 3⟩⟩, ⟨.number, some (.number 2), ⟨1, 5⟩⟩, ⟨.finish, none, ⟨1, 6⟩⟩] := by
    cbv
  have failed : Lexer.tokens " \"z" = .error ⟨.unterminatedString, ⟨1, 2⟩⟩ := by cbv
  have both := tokens_append_newline read "z = 2"
  have fails := tokens_append_newline read " \"z"
  rw [readOther] at both
  rw [failed] at fails
  exact ⟨read, both, fails⟩

end Lexer

end StructuredShell
