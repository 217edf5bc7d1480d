import Mathlib
import StructuredShell.Proofs.Lexing.Scan

/-!
# Lossless reading

A text that has tokens is cut into their spellings and the gaps between them. No character is lost
or used twice, each spelling is as long as it can be, and each token stands where its spelling
starts.
-/

set_option autoImplicit false

namespace StructuredShell.Lexer

/-! ## Gaps -/

/-- Blanks and comments in any number and order, given the characters that follow them. -/
inductive Gap (following : List Char) : List Char → Prop where
  | nil : Gap following []
  | blank {c : Char} {gap : List Char} :
      isSpacing c = true → Gap following gap → Gap following (c :: gap)
  | comment {comment gap : List Char} :
      Comment (gap ++ following) comment → Gap following gap → Gap following (comment ++ gap)

theorem Gap.append {first second following : List Char} (isFirst : Gap (second ++ following) first)
    (isSecond : Gap following second) : Gap following (first ++ second) := by
  induction isFirst with
  | nil => exact isSecond
  | blank isBlank _ ih => exact .blank isBlank ih
  | comment isComment _ ih =>
      rw [List.append_assoc]
      exact .comment (by rwa [List.append_assoc]) ih

theorem Gap.of_blanks {blanks : List Char} (areBlank : blanks.all isSpacing = true)
    (following : List Char) : Gap following blanks := by
  induction blanks with
  | nil => exact .nil
  | cons c blanks ih =>
      simp only [List.all_cons, Bool.and_eq_true] at areBlank
      exact .blank areBlank.1 (ih areBlank.2)

/-- Whether what follows a token is still part of a raw environment or leads into one. -/
def followsRaw (previous : Option Kind) : Bool :=
  previous == some .rawText || previous == some .rawWord || previous == some .dollar

/-- Whether a gap lies next to raw text, or between the start of an environment and its opening
delimiter. Comments do not count as gaps there. -/
def touchesRaw (previous : Option Kind) (next : Kind) : Bool :=
  followsRaw previous || next == .rawText

/-! ## Pieces of a text -/

/-- A token with the gap before it and the characters that spell it. -/
structure Piece where
  gap : List Char
  spelling : List Char
  token : Token

/-- The characters of some pieces and of the gap after the last one. -/
def joined (pieces : List Piece) (last : List Char) : List Char :=
  pieces.flatMap (fun piece => piece.gap ++ piece.spelling) ++ last

@[simp] theorem joined_nil (last : List Char) : joined [] last = last := rfl

@[simp] theorem joined_cons (piece : Piece) (pieces : List Piece) (last : List Char) :
    joined (piece :: pieces) last = piece.gap ++ (piece.spelling ++ joined pieces last) := by
  simp [joined]

/-- Whether pieces say truly what stands in a text, given the kind of the token before them and the
characters before them: every gap is one, and a blank one next to raw text; every spelling spells
its token and cannot be prolonged; every token stands where its spelling starts. -/
inductive Faithful : Option Kind → List Char → List Piece → List Char → Prop where
  | last {previous : Option Kind} {before last : List Char} :
      Gap [] last → (touchesRaw previous .finish = true → last.all isSpacing = true) →
      Faithful previous before [] last
  | piece {previous : Option Kind} {before last : List Char} {piece : Piece}
      {pieces : List Piece} :
      Gap (piece.spelling ++ joined pieces last) piece.gap →
      (touchesRaw previous piece.token.kind = true → piece.gap.all isSpacing = true) →
      Spells piece.token.kind piece.token.literal piece.spelling →
      Stops (continuedBy piece.token.kind) (joined pieces last) →
      piece.token.position = .endOf (before ++ piece.gap) →
      Faithful (some piece.token.kind) (before ++ piece.gap ++ piece.spelling) pieces last →
      Faithful previous before (piece :: pieces) last

/-- Whether a text has tokens that some pieces of it say truly. The last token is the end. -/
def Cut (previous : Option Kind) (before text : List Char) (tokens : List Token) : Prop :=
  ∃ (pieces : List Piece) (last : List Char),
    text = joined pieces last ∧
    tokens = pieces.map Piece.token ++ [⟨.finish, none, .endOf (before ++ text)⟩] ∧
    Faithful previous before pieces last

theorem Cut.cons {previous : Option Kind} {before gap spelling rest : List Char} {kind : Kind}
    {literal : Option Literal} {tokens : List Token} (isGap : Gap (spelling ++ rest) gap)
    (isBlank : touchesRaw previous kind = true → gap.all isSpacing = true)
    (spells : Spells kind literal spelling) (stops : Stops (continuedBy kind) rest)
    (cut : Cut (some kind) (before ++ gap ++ spelling) rest tokens) :
    Cut previous before (gap ++ (spelling ++ rest))
      (⟨kind, literal, .endOf (before ++ gap)⟩ :: tokens) := by
  obtain ⟨pieces, last, rfl, rfl, faithful⟩ := cut
  refine ⟨⟨gap, spelling, kind, literal, .endOf (before ++ gap)⟩ :: pieces, last, by simp,
    by simp, ?_⟩
  exact .piece isGap isBlank spells stops rfl faithful

/-! ## Reading cuts a text -/

/-- The characters that can be passed over before the next token, in a phase and after a token. -/
def Phase.Admits (phase : Phase) (previous : Option Kind) (gap following : List Char) : Prop :=
  match phase with
  | .code => Gap following gap ∧ followsRaw previous = false
  | .opening _ => gap.all isSpacing = true
  | .body _ => gap.all isSpacing = true

theorem Phase.Admits.isGap {phase : Phase} {previous : Option Kind} {gap following : List Char}
    (admits : phase.Admits previous gap following) : Gap following gap := by
  cases phase with
  | code => exact admits.1
  | opening => exact .of_blanks admits _
  | body => exact .of_blanks admits _

theorem afterToken_admits {kind : Kind} (isCode : kind ≠ .rawText) (splices : List Splice)
    (following : List Char) :
    (State.afterToken splices kind).phase.Admits (some kind) [] following := by
  unfold State.afterToken
  split
  · rfl
  · rename_i noTrigger
    have notRaw : followsRaw (some kind) = false := by
      cases kind <;> simp_all [followsRaw, Delimiter.ofTrigger?]
    split
    · exact ⟨.nil, notRaw⟩
    · split
      · rfl
      · exact ⟨.nil, notRaw⟩
    · exact ⟨.nil, notRaw⟩

theorem Phase.Admits.snoc {phase : Phase} {previous : Option Kind} {gap following : List Char}
    {c : Char} (admits : phase.Admits previous gap (c :: following))
    (isBlank : isSpacing c = true) : phase.Admits previous (gap ++ [c]) following := by
  cases phase with
  | code => exact ⟨.append admits.1 (.blank isBlank .nil), admits.2⟩
  | opening => simpa [Phase.Admits, isBlank] using admits
  | body => simpa [Phase.Admits, isBlank] using admits

theorem Scan.cut {state : State} {position : Position} {source : List Char} {tokens : List Token}
    (scanned : Scan state position source tokens) {previous : Option Kind} {before gap : List Char}
    (here : position = .endOf (before ++ gap)) (admits : state.phase.Admits previous gap source) :
    Cut previous before (gap ++ source) tokens := by
  induction scanned generalizing previous before gap with
  | finish =>
      subst here
      refine ⟨[], gap, by simp, by simp, .last admits.1 ?_⟩
      simp [touchesRaw, admits.2]
  | @blank state position c rest tokens skips isBlank _ ih =>
      subst here
      simpa using ih (by simp [Position.endOf_advance]) (admits.snoc isBlank)
  | @comment splices position comment rest tokens isComment _ ih =>
      subst here
      have isGap : Gap rest comment := by
        simpa using Gap.comment (by simpa using isComment) .nil
      simpa using ih (by simp [Position.endOf_after]) ⟨admits.1.append isGap, admits.2⟩
  | @token splices position kind literal spelling rest tokens spells isCode stops _ ih =>
      subst here
      refine .cons admits.1 ?_ spells stops (ih ?_ (afterToken_admits isCode splices rest))
      · simp [touchesRaw, admits.2, isCode]
      · simp [Position.endOf_after]
  | @opener delimiter splices position blanks rest tokens areBlank stops _ ih =>
      subst here
      have spells : Spells delimiter.openKind none [delimiter.opener] := by
        cases delimiter <;> exact .sign rfl
      have unprolonged : Stops (continuedBy delimiter.openKind) (blanks ++ rest) := by
        cases delimiter <;> exact fun _ _ => rfl
      refine .cons admits.isGap (fun _ => admits) spells unprolonged (ih ?_ areBlank)
      simp [Position.endOf_after, Position.endOf_advance]
  | @text block splices position pending text rest tokens nonempty level noSplice interrupts _ ih =>
      subst here
      have noGap : ([] : List Char).all isSpacing = true := rfl
      refine .cons admits.isGap (fun _ => admits) (.rawText nonempty noSplice) (fun _ _ => rfl)
        (ih ?_ noGap)
      simp [Position.endOf_after]
  | @splice block splices position rest tokens _ ih =>
      subst here
      have dollar : Spells .dollar none ['$'] := .sign rfl
      have bracket : Spells .openBracket none ['['] := .sign rfl
      have cut : Cut (some .dollar) (before ++ gap ++ ['$']) ('[' :: rest)
          (⟨.openBracket, none, .endOf (before ++ gap ++ ['$'] ++ [])⟩ :: tokens) := by
        refine .cons .nil (fun _ => rfl) bracket (fun _ _ => rfl) (ih ?_ ⟨.nil, rfl⟩)
        simp [Position.endOf_advance]
      rw [List.append_nil] at cut
      rw [Position.endOf_advance]
      exact .cons admits.isGap (fun _ => admits) dollar (fun _ _ => rfl) cut
  | @close block splices position rest tokens balanced _ ih =>
      subst here
      have spells : Spells block.delimiter.closeKind none [block.delimiter.closer] := by
        cases block.delimiter <;> exact .sign rfl
      have unprolonged : Stops (continuedBy block.delimiter.closeKind) rest := by
        cases block.delimiter <;> exact fun _ _ => rfl
      have leaves : followsRaw (some block.delimiter.closeKind) = false := by
        cases block.delimiter <;> rfl
      refine .cons admits.isGap (fun _ => admits) spells unprolonged (ih ?_ ⟨.nil, leaves⟩)
      simp [Position.endOf_advance]

/-! ## Places grow -/

/-- Every token of a text stands after the characters before the text, and after every token that is
earlier in the text. -/
theorem Faithful.increasing {previous : Option Kind} {before last : List Char}
    {pieces : List Piece} (faithful : Faithful previous before pieces last) {tokens : List Token}
    (areTokens : tokens = pieces.map Piece.token ++
      [⟨.finish, none, .endOf (before ++ joined pieces last)⟩]) :
    (∀ token ∈ tokens, ∃ passed, token.position = .endOf (before ++ passed)) ∧
      tokens.Pairwise fun early late => early.position.before late.position = true := by
  induction faithful generalizing tokens with
  | last =>
      subst areTokens
      refine ⟨fun token isToken => ?_, List.pairwise_singleton _ _⟩
      rw [List.mem_singleton.mp isToken]
      exact ⟨_, rfl⟩
  | @piece previous before last piece pieces _ _ spells _ here _ ih =>
      subst areTokens
      obtain ⟨places, pairwise⟩ := ih rfl
      simp only [List.append_assoc] at places pairwise
      simp only [joined_cons, List.map_cons, List.cons_append]
      constructor
      · intro token isToken
        rcases List.mem_cons.mp isToken with rfl | isLater
        · exact ⟨piece.gap, here⟩
        · obtain ⟨passed, place⟩ := places token isLater
          exact ⟨_, place⟩
      · refine .cons (fun token isLater => ?_) pairwise
        obtain ⟨passed, place⟩ := places token isLater
        have further : piece.spelling ++ passed ≠ [] := by simp [spells.ne_nil]
        rw [here, place, ← List.append_assoc, ← Position.endOf_after (before ++ piece.gap)]
        exact Position.before_after further _

/-- Reading is lossless and its places are true. A text with tokens is made of gaps and of spellings
that alternate: the gaps are blanks and comments, only blanks next to raw text and before the
opening delimiter of an environment; the spellings spell the tokens one after another and none could
be longer; every token stands where its spelling starts, the last one at the end of the text. So
each token stands strictly after the one before it. -/
theorem tokens_lossless {source : String} {tokens : List Token}
    (read : Lexer.tokens source = .ok tokens) :
    (∃ (pieces : List Piece) (last : List Char),
      source.toList = joined pieces last ∧
      tokens = pieces.map Piece.token ++ [⟨.finish, none, .endOf source.toList⟩] ∧
      Faithful none [] pieces last) ∧
    tokens.Pairwise fun early late => early.position.before late.position = true := by
  obtain ⟨pieces, last, whole, areTokens, faithful⟩ : Cut none [] source.toList tokens :=
    (tokens_eq_ok_iff.mp read).cut rfl ⟨.nil, rfl⟩
  refine ⟨⟨pieces, last, whole, areTokens, faithful⟩, (faithful.increasing ?_).2⟩
  rw [areTokens, whole]

def splicedTokens : List Token := [
  ⟨.ident, some (.text "x"), ⟨1, 1⟩⟩, ⟨.assign, none, ⟨1, 2⟩⟩, ⟨.dollar, none, ⟨1, 4⟩⟩,
  ⟨.openParen, none, ⟨1, 5⟩⟩, ⟨.rawText, some (.text "a"), ⟨1, 7⟩⟩, ⟨.dollar, none, ⟨1, 8⟩⟩,
  ⟨.openBracket, none, ⟨1, 9⟩⟩, ⟨.ident, some (.text "y"), ⟨1, 11⟩⟩,
  ⟨.closeBracket, none, ⟨1, 13⟩⟩, ⟨.rawText, some (.text "\n"), ⟨1, 14⟩⟩,
  ⟨.closeParen, none, ⟨2, 1⟩⟩, ⟨.finish, none, ⟨2, 7⟩⟩]

theorem tokens_lossless_splice :
    Lexer.tokens "x= $( a$[ y ]\n) // z" = .ok splicedTokens ∧
    (∃ (pieces : List Piece) (last : List Char),
      "x= $( a$[ y ]\n) // z".toList = joined pieces last ∧
      splicedTokens = pieces.map Piece.token ++ [⟨.finish, none, ⟨2, 7⟩⟩] ∧
      Faithful none [] pieces last) ∧
    splicedTokens.Pairwise fun early late => early.position.before late.position = true := by
  have read : Lexer.tokens "x= $( a$[ y ]\n) // z" = .ok splicedTokens := by cbv
  exact ⟨read, tokens_lossless read⟩

end StructuredShell.Lexer
