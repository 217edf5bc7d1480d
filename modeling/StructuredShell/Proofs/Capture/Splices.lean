import Mathlib
import StructuredShell.Proofs.Capture.Contents
import StructuredShell.Proofs.Composition.Texts

/-!
# Code in a splice

Code that has tokens of its own has the same tokens in a splice, up to the bracket that ends the
splice. Two things could go wrong, and both can be seen in the code alone: one of its own brackets
could end the splice too early, or a comment on its last line could hide the bracket that should.
-/

set_option autoImplicit false

namespace StructuredShell.Lexer

/-! ## Brackets -/

/-- Whether the brackets among tokens balance when some are open before: none closes more than is
open, and all are closed in the end. -/
def Balances (depth : Nat) (kinds : List Kind) : Prop :=
  (∀ initial, initial <+: kinds →
    initial.count .closeBracket ≤ depth + initial.count .openBracket) ∧
  kinds.count .closeBracket = depth + kinds.count .openBracket

instance (depth : Nat) (kinds : List Kind) : Decidable (Balances depth kinds) :=
  decidable_of_iff
    ((∀ initial ∈ kinds.inits,
      initial.count .closeBracket ≤ depth + initial.count .openBracket) ∧
      kinds.count .closeBracket = depth + kinds.count .openBracket)
    (by simp only [List.mem_inits, Balances])

theorem Balances.next {depth : Nat} {kind : Kind} {kinds : List Kind}
    (balances : Balances depth (kind :: kinds)) :
    ∃ left, left + [kind].count .closeBracket = depth + [kind].count .openBracket ∧
      Balances left kinds := by
  obtain ⟨within, total⟩ := balances
  have first := within [kind] (by simp)
  refine ⟨depth + [kind].count .openBracket - [kind].count .closeBracket, by omega, ?_, ?_⟩
  · intro initial isInitial
    have bound := within (kind :: initial) (by simpa using isInitial)
    grind
  · grind

theorem Balances.skip {depth : Nat} {kind : Kind} {kinds : List Kind}
    (balances : Balances depth (kind :: kinds)) (notOpen : kind ≠ .openBracket)
    (notClose : kind ≠ .closeBracket) : Balances depth kinds := by
  obtain ⟨left, counted, further⟩ := balances.next
  obtain rfl : left = depth := by simpa [List.count_singleton, notOpen, notClose] using counted
  exact further

/-- How many brackets are open in splices that are being read, each with the one that began it. -/
def openBrackets (splices : List Splice) : Nat :=
  (splices.map fun splice => splice.pending + 1).sum

@[simp] theorem openBrackets_nil : openBrackets [] = 0 := rfl

@[simp] theorem openBrackets_cons (splice : Splice) (splices : List Splice) :
    openBrackets (splice :: splices) = splice.pending + 1 + openBrackets splices := rfl

/-! ## States inside a splice -/

/-- The state in which code is read inside a splice, for one in which it is read on its own. -/
def State.within (state : State) (splice : Splice) (outer : List Splice) : State :=
  ⟨state.phase, state.splices ++ splice :: outer⟩

/-- Brackets alone are counted. -/
theorem afterToken_uncounted {kind : Kind} (notOpen : kind ≠ .openBracket)
    (notClose : kind ≠ .closeBracket) :
    ∃ phase, ∀ splices, State.afterToken splices kind = ⟨phase, splices⟩ := by
  unfold State.afterToken
  cases Delimiter.ofTrigger? kind with
  | some delimiter => exact ⟨.opening delimiter, fun _ => rfl⟩
  | none =>
      refine ⟨.code, fun splices => ?_⟩
      cases kind
      case openBracket => exact absurd rfl notOpen
      case closeBracket => exact absurd rfl notClose
      all_goals rfl

/-- A token does the same to code inside a splice as to the code on its own, as long as it does not
end the splice. The splice counts those brackets that the code on its own does not. -/
theorem afterToken_within (splices : List Splice) (kind : Kind) (splice : Splice)
    (outer : List Splice) {left : Nat}
    (counted : left + [kind].count .closeBracket =
      splice.pending + openBrackets splices + [kind].count .openBracket) :
    ∃ pending, left = pending + openBrackets (State.afterToken splices kind).splices ∧
      State.afterToken (splices ++ splice :: outer) kind =
        (State.afterToken splices kind).within { splice with pending := pending } outer := by
  obtain ⟨host, start, pending⟩ := splice
  by_cases isOpen : kind = .openBracket
  · subst isOpen
    have counted : left = pending + openBrackets splices + 1 := by simpa using counted
    cases splices with
    | nil => exact ⟨pending + 1, counted, rfl⟩
    | cons inner splices =>
        refine ⟨pending, ?_, rfl⟩
        simp only [State.afterToken, Delimiter.ofTrigger?, openBrackets_cons] at counted ⊢
        omega
  by_cases isClose : kind = .closeBracket
  · subst isClose
    have counted : left + 1 = pending + openBrackets splices := by simpa using counted
    cases splices with
    | nil =>
        obtain rfl : pending = left + 1 := counted.symm
        exact ⟨left, rfl, rfl⟩
    | cons inner splices =>
        obtain ⟨inner, place, waiting⟩ := inner
        cases waiting with
        | zero =>
            refine ⟨pending, ?_, rfl⟩
            simp only [State.afterToken, Delimiter.ofTrigger?, openBrackets_cons] at counted ⊢
            omega
        | succ waiting =>
            refine ⟨pending, ?_, rfl⟩
            simp only [State.afterToken, Delimiter.ofTrigger?, openBrackets_cons] at counted ⊢
            omega
  · obtain ⟨phase, same⟩ := afterToken_uncounted isOpen isClose
    refine ⟨pending, ?_, ?_⟩
    · simpa [same, List.count_singleton, isOpen, isClose] using counted
    · rw [same, same]
      rfl

/-! ## Comments at the end -/

/-- Whether code that is read from a state on ends inside a comment on its last line. -/
def CommentEnds (state : State) (source : List Char) : Prop :=
  ∃ before body, source = before ++ '/' :: '/' :: body ∧ '\n' ∉ body ∧
    ∃ contents, Reads state before contents

/-- A piece of code before a comment can be read before what stands in front of the comment. -/
theorem CommentEnds.behind {state next : State} {source : List Char} (piece : List Char)
    (extending : ∀ before after contents, source = before ++ '/' :: after →
      Reads next before contents → ∃ more, Reads state (piece ++ before) more)
    (ends : CommentEnds next source) : CommentEnds state (piece ++ source) := by
  obtain ⟨before, body, isSource, oneLine, contents, reads⟩ := ends
  refine ⟨piece ++ before, body, ?_, oneLine, extending before _ contents isSource reads⟩
  rw [isSource, List.append_assoc]

theorem Stops.of_append {member : Char → Bool} {before after : List Char}
    (stops : Stops member (before ++ after)) : Stops member before := by
  cases before with
  | nil => exact stops_nil member
  | cons c before => exact stops_cons.mpr (stops_cons.mp stops)

theorem Comment.of_append {comment before after : List Char}
    (isComment : Comment (before ++ after) comment) : Comment before comment := by
  cases isComment with
  | line oneLine stops => exact .line oneLine stops.of_append
  | block unclosed => exact .block unclosed

/-- What interrupts the text of an environment still does when a comment behind it is left out. -/
theorem Interrupts.of_append {delimiter : Delimiter} {pending : Nat} {before after : List Char}
    (interrupts : Interrupts delimiter pending (before ++ '/' :: after)) (nonempty : before ≠ []) :
    Interrupts delimiter pending before := by
  match before with
  | [] => exact absurd rfl nonempty
  | [c] => simpa [Interrupts] using interrupts
  | c :: d :: before => simpa [Interrupts] using interrupts

/-! ## Code that ends a splice -/

theorem continuedBy_bracket (kind : Kind) : continuedBy kind ']' = false := by
  cases kind <;> rfl

theorem Scan.tokens_ne_nil {state : State} {position : Position} {source : List Char}
    {tokens : List Token} (scanned : Scan state position source tokens) : tokens ≠ [] := by
  obtain ⟨inner, place, rfl, -⟩ := scanned.ends
  simp

theorem Scan.state_of_nil {state : State} {position : Position} {tokens : List Token}
    (scanned : Scan state position [] tokens) : state = ⟨.code, []⟩ := by
  have ended := scanned.tokensFrom_eq
  rw [tokensFrom] at ended
  obtain ⟨phase, splices⟩ := state
  cases phase with
  | code =>
      cases splices with
      | nil => rfl
      | cons => cases ended
  | opening => cases ended
  | body => cases ended

/-- A comment ends before what follows the code, unless it is the end of the code. -/
theorem Comment.inSplice {splices : List Splice} {position : Position}
    {comment source : List Char} {tokens : List Token} (isComment : Comment source comment)
    (scanned : Scan ⟨.code, splices⟩ position source tokens)
    (noComment : ¬CommentEnds ⟨.code, splices⟩ (comment ++ source)) (following : List Char) :
    Comment (source ++ following) comment := by
  cases isComment with
  | block unclosed => exact .block unclosed
  | @line body oneLine stops =>
      cases source with
      | nil =>
          -- Nothing follows the comment, so the code is in no inner splice and ends here.
          cases scanned.state_of_nil
          exact absurd ⟨[], body, by simp, oneLine, _, .finish⟩ noComment
      | cons c source =>
          have stops : Stops (· != '\n') (c :: (source ++ following)) := by
            rw [stops_cons] at stops ⊢
            exact stops
          exact .line oneLine stops

/-- Code that has tokens on its own has them in a splice, which ends right behind it. The induction
is over the rules by which the code is read on its own; the brackets that are open at each of them
are those of its own inner splices and those that the splice around the code waits for. -/
theorem Scan.inSplice {state : State} {position : Position} {source : List Char}
    {tokens : List Token} (scanned : Scan state position source tokens) {block : RawBlock}
    {start : Position} {pending : Nat} {outer : List Splice} {rest : List Char}
    {contents : Contents}
    (balances : Balances (pending + openBrackets state.splices) (tokens.map Token.kind))
    (noComment : ¬CommentEnds state source)
    (reads : Reads ⟨.body block, outer⟩ rest contents) :
    Reads (state.within ⟨block, start, pending⟩ outer) (source ++ ']' :: rest)
      (tokens.dropLast.map Token.content ++ (.closeBracket, none) :: contents) := by
  induction scanned generalizing pending with
  | finish =>
      obtain rfl : pending = 0 := by simpa [Balances] using balances.2.symm
      have closed : Reads ⟨.code, ⟨block, start, 0⟩ :: outer⟩ ([']'] ++ rest)
          ((.closeBracket, none) :: contents) :=
        .token (.sign rfl) nofun (fun _ _ => rfl) reads
      exact closed
  | @blank state position c source tokens skips isBlank scanned ih =>
      refine .blank skips isBlank (ih balances fun ends => noComment ?_)
      exact ends.behind [c] fun before _ contents _ reads => ⟨contents, .blank skips isBlank reads⟩
  | @comment splices position comment source tokens isComment scanned ih =>
      have goesOn := isComment.inSplice scanned noComment (']' :: rest)
      rw [List.append_assoc]
      refine .comment goesOn (ih balances fun ends => noComment ?_)
      exact ends.behind comment fun before _ contents isSource reads =>
        ⟨contents, .comment (isSource ▸ isComment).of_append reads⟩
  | @token splices position kind literal spelling source tokens spells isCode stops scanned ih =>
      -- A bracket may belong to an inner splice or to the one around; the count covers both.
      obtain ⟨left, counted, balances⟩ := balances.next
      obtain ⟨pending, rfl, same⟩ :=
        afterToken_within splices kind ⟨block, start, pending⟩ outer counted
      have further := ih balances fun ends => noComment
        (ends.behind spelling fun before _ contents isSource reads =>
          ⟨_, .token spells isCode (isSource ▸ stops).of_append reads⟩)
      rw [← same] at further
      rw [List.append_assoc, List.dropLast_cons_of_ne_nil scanned.tokens_ne_nil]
      exact .token spells isCode (stops.append (continuedBy_bracket kind) rest) further
  | @opener delimiter splices position blanks source tokens areBlank stops scanned ih =>
      have balances := balances.skip (by cases delimiter <;> nofun) (by cases delimiter <;> nofun)
      have further := ih balances fun ends => noComment
        (ends.behind (delimiter.opener :: blanks) fun before _ contents isSource reads =>
          ⟨_, .opener areBlank (isSource ▸ stops).of_append reads⟩)
      rw [List.cons_append, List.append_assoc,
        List.dropLast_cons_of_ne_nil scanned.tokens_ne_nil]
      exact .opener areBlank (stops.append rfl rest) further
  | @text inner splices position left text source tokens nonempty level noSplice interrupts scanned
      ih =>
      have balances := balances.skip nofun nofun
      have further := ih balances fun ends => noComment
        (ends.behind text fun before _ contents isSource reads =>
          ⟨_, .text nonempty level noSplice
            ((isSource ▸ interrupts).of_append reads.body_ne_nil) reads⟩)
      rw [List.append_assoc, List.dropLast_cons_of_ne_nil scanned.tokens_ne_nil]
      exact .text nonempty level noSplice (interrupts.append _) further
  | @splice inner splices position source tokens scanned ih =>
      obtain ⟨left, counted, balances⟩ := (balances.skip nofun nofun).next
      have counted : left = pending + openBrackets splices + 1 := by simpa using counted
      have isLeft : left = pending + openBrackets (⟨inner, position, 0⟩ :: splices) := by
        simp only [openBrackets_cons]
        omega
      have further := ih (isLeft ▸ balances) fun ends => noComment
        (ends.behind ['$', '['] fun before _ contents _ reads => ⟨_, .splice reads⟩)
      rw [List.dropLast_cons_of_ne_nil (by simp),
        List.dropLast_cons_of_ne_nil scanned.tokens_ne_nil]
      exact .splice further
  | @close inner splices position source tokens balanced scanned ih =>
      have balances := balances.skip (by cases inner.delimiter <;> nofun)
        (by cases inner.delimiter <;> nofun)
      have further := ih balances fun ends => noComment
        (ends.behind [inner.delimiter.closer] fun before _ contents _ reads =>
          ⟨_, .close balanced reads⟩)
      rw [List.dropLast_cons_of_ne_nil scanned.tokens_ne_nil]
      exact .close balanced further

end StructuredShell.Lexer
