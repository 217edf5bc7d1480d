import StructuredShell.Proofs.Dumps.Escapes
import StructuredShell.Proofs.Environments.Programs
import StructuredShell.Proofs.Failures.Causes
import StructuredShell.Proofs.Failures.Lines

/-!
# The caret of an error

An error is shown with the source line that it lies on and a caret below. The caret stands under the
character that the error is about. The places of errors are never those of blanks: a lexical error
points at its cause and a syntax error at a token of ordinary code, or either at the end of the
text. So no caret falls on a newline, or on a return that is dropped together with one.
-/

set_option autoImplicit false

namespace StructuredShell

open Lexer (Cut Faithful Piece Spells Stops isSpacing joined)

/-! ## Messages -/

/-- Whether a text has no newline. -/
def Text.OneLine (text : String) : Prop :=
  '\n' ∉ text.toList

instance (text : String) : Decidable (Text.OneLine text) :=
  inferInstanceAs (Decidable ('\n' ∉ text.toList))

section

open Text (OneLine)

theorem Text.OneLine.append {first second : String} (isFirst : OneLine first)
    (isSecond : OneLine second) : OneLine (first ++ second) := by
  rw [OneLine, String.toList_append, List.mem_append, not_or]
  exact ⟨isFirst, isSecond⟩

theorem Text.OneLine.intercalate {separator : String} {texts : List String}
    (isSeparator : OneLine separator) (areTexts : ∀ text ∈ texts, OneLine text) :
    OneLine (separator.intercalate texts) := by
  induction texts with
  | nil =>
      rw [String.intercalate_nil]
      decide
  | cons text texts ih =>
      obtain ⟨isText, areLater⟩ := List.forall_mem_cons.mp areTexts
      cases texts with
      | nil => rwa [String.intercalate_singleton]
      | cons second texts =>
          rw [String.intercalate_cons_cons]
          exact .append (.append isText isSeparator) (ih areLater)

theorem Text.oneLine_repr (n : Nat) : OneLine n.repr := by
  rw [OneLine, Nat.repr, String.toList_ofList]
  exact not_mem_toDigits (by decide) (fun _ => Nat.digitChar_ne '\n' rfl) n

theorem Text.oneLine_shownChar (c : Char) : OneLine (shownChar c) := by
  rw [OneLine, shownChar, String.toList_ofList]
  exact newline_not_mem_escapeCharBy isHidden _ c

theorem Kind.oneLine_quoted (kind : Kind) : OneLine kind.quoted := by
  cases kind <;> decide

theorem SyntaxError.oneLine_message (error : SyntaxError) : OneLine error.message := by
  have found : OneLine (" but found " ++ error.found.quoted) :=
    .append (by decide) error.found.oneLine_quoted
  have areKinds : ∀ text ∈ error.expected.map Kind.quoted, OneLine text := by
    intro text isText
    obtain ⟨kind, -, rfl⟩ := List.mem_map.mp isText
    exact kind.oneLine_quoted
  unfold SyntaxError.message
  split
  · exact .append (by decide) error.found.oneLine_quoted
  · rename_i only _
    rw [String.append_assoc]
    exact .append (.append (by decide) only.oneLine_quoted) found
  · rw [String.append_assoc]
    exact .append (.append (by decide) (.intercalate (by decide) areKinds)) found

theorem LexFault.Fits.oneLine_message {before after : List Char} {fault : LexFault}
    (fits : fault.Fits before after) : OneLine fault.message := by
  cases fault with
  | unexpectedCharacter c =>
      exact .append (.append (by decide) (Text.oneLine_shownChar c)) (by decide)
  | integerOverflow digits =>
      obtain ⟨rest, -, -, areDigits, -⟩ := fits
      have oneLine : OneLine digits := by
        intro newline
        cases List.all_eq_true.mp areDigits '\n' newline
      exact .append (.append (by decide) oneLine) (by decide)
  | unterminatedString => decide
  | unterminatedComment => decide
  | unterminatedRawBlock => decide
  | unterminatedSplice => decide

theorem Diagnostic.oneLine_message {diagnostic : Diagnostic}
    (summary : OneLine diagnostic.summary) : OneLine diagnostic.message := by
  have family : OneLine diagnostic.family := by
    cases diagnostic with
    | lexical => exact (by decide : OneLine "lexical")
    | syntactic => exact (by decide : OneLine "syntax")
  have place : OneLine diagnostic.position.shown :=
    .append (.append (Text.oneLine_repr _) (by decide)) (Text.oneLine_repr _)
  exact .append (.append (.append (.append family (by decide)) place) (by decide)) summary

end

/-! ## A line and its caret -/

namespace Diagnostic

/-- What stands under a character so that a mark further right lines up with the line above. -/
def under (c : Char) : Char :=
  if c = '\t' then '\t' else ' '

/-- What stands before the source line. -/
def gutter (diagnostic : Diagnostic) : List Char :=
  (diagnostic.position.line.repr ++ " | ").toList

def shownLines (diagnostic : Diagnostic) (source : String) : List (List Char) :=
  (diagnostic.rendered source).toList.splitOn '\n'

/-- How a diagnostic is shown against a source text when it lies at a place of the text. Without a
line at the place, only the message is shown. Otherwise the line and a caret are shown as well, and
the caret stands under the character at the place, or just past the end of the line. -/
structure ShownAt (diagnostic : Diagnostic) (source : String) (before after : List Char) :
    Prop where
  alone : diagnostic.shownLines source = [diagnostic.message.toList] ↔
    after = [] ∧ (source = "" ∨ source.toList.getLast? = some '\n')
  marked : ¬(after = [] ∧ (source = "" ∨ source.toList.getLast? = some '\n')) →
    ∃ above line index mark,
      Text.IsLine source.toList above line ∧ before.length = above.length + index ∧
      index ≤ line.length ∧ mark = diagnostic.gutter.length + index ∧
      diagnostic.shownLines source =
        [diagnostic.message.toList, diagnostic.gutter ++ line,
          ((diagnostic.gutter ++ line).take mark).map under ++ ['^']] ∧
      (diagnostic.gutter ++ line)[mark]? = source.toList[before.length]?

variable {diagnostic : Diagnostic} {source : String}

theorem rendered_alone (starts : Text.StartsLine source.toList)
    (here : diagnostic.position = .endOf source.toList) :
    diagnostic.rendered source = diagnostic.message := by
  have noLine : (Text.lines source)[diagnostic.position.line - 1]? = none := by
    rw [here, Text.lines, List.getElem?_map, Position.endOf, Nat.add_sub_cancel_left,
      starts.getElem?]
    rfl
  simp only [rendered, noLine]

theorem gutter_under (diagnostic : Diagnostic) :
    diagnostic.gutter.map under =
      List.replicate (diagnostic.position.line.repr ++ " | ").length ' ' := by
  rw [List.eq_replicate_iff, List.length_map, gutter, String.length_toList]
  refine ⟨rfl, ?_⟩
  intro shown isShown
  obtain ⟨c, isChar, rfl⟩ := List.mem_map.mp isShown
  have notTab : c ≠ '\t' := by
    rintro rfl
    rw [String.toList_append, Nat.repr, String.toList_ofList] at isChar
    rcases List.mem_append.mp isChar with isDigit | isBar
    · cases Nat.isDigit_of_mem_toDigits (by decide) (by decide) isDigit
    · exact absurd isBar (by decide)
  rw [under, if_neg notTab]

theorem rendered_marked {above start rest : List Char}
    (isLine : Text.IsLine source.toList above (start ++ rest)) (behind : source.toList ≠ above)
    (here : diagnostic.position = .endOf (above ++ start)) :
    (diagnostic.rendered source).toList =
      ['\n'].intercalate [diagnostic.message.toList, diagnostic.gutter ++ (start ++ rest),
        (diagnostic.gutter ++ start).map under ++ ['^']] := by
  have noNewline : '\n' ∉ start := fun newline =>
    isLine.noNewline (List.mem_append_left _ newline)
  rw [Position.endOf_line isLine.starts noNewline] at here
  have found : (Text.lines source)[diagnostic.position.line - 1]? =
      some (String.ofList (start ++ rest)) := by
    rw [here, Text.lines, List.getElem?_map, Nat.add_sub_cancel_left, isLine.getElem? behind]
    rfl
  have isUnder :
      (underlay (String.ofList (start ++ rest)) (diagnostic.position.column - 1)).toList =
        start.map under := by
    rw [here, underlay, String.toList_ofList, String.toList_ofList, Nat.add_sub_cancel_left,
      List.take_left]
    rfl
  rw [List.map_append, gutter_under]
  simp only [rendered, found, String.toList_append, isUnder, String.toList_ofList]
  simp [List.intercalate_cons_cons, gutter]

theorem shownLines_eq {lines : List (List Char)}
    (rendered : (diagnostic.rendered source).toList = ['\n'].intercalate lines)
    (noNewlines : ∀ line ∈ lines, '\n' ∉ line) (nonempty : lines ≠ []) :
    diagnostic.shownLines source = lines := by
  rw [shownLines, rendered]
  exact List.splitOn_intercalate '\n' noNewlines nonempty

theorem newline_not_mem_gutter (diagnostic : Diagnostic) : '\n' ∉ diagnostic.gutter :=
  (Text.oneLine_repr _).append (by decide)

theorem newline_not_mem_under (line : List Char) : '\n' ∉ line.map under := by
  intro newline
  obtain ⟨c, -, isNewline⟩ := List.mem_map.mp newline
  unfold under at isNewline
  split at isNewline <;> cases isNewline

theorem shownLines_alone (starts : Text.StartsLine source.toList)
    (here : diagnostic.position = .endOf source.toList)
    (oneLine : Text.OneLine diagnostic.message) :
    diagnostic.shownLines source = [diagnostic.message.toList] := by
  apply shownLines_eq
  · rw [rendered_alone starts here, List.intercalate_singleton]
  · rw [List.forall_mem_singleton]
    exact oneLine
  · simp

theorem shownLines_marked {above start rest : List Char}
    (isLine : Text.IsLine source.toList above (start ++ rest)) (behind : source.toList ≠ above)
    (here : diagnostic.position = .endOf (above ++ start))
    (oneLine : Text.OneLine diagnostic.message) :
    diagnostic.shownLines source =
      [diagnostic.message.toList, diagnostic.gutter ++ (start ++ rest),
        (diagnostic.gutter ++ start).map under ++ ['^']] := by
  apply shownLines_eq
  · exact rendered_marked isLine behind here
  · simp only [List.forall_mem_cons, List.mem_append, not_or]
    exact ⟨oneLine, ⟨newline_not_mem_gutter _, by simpa using isLine.noNewline⟩,
      ⟨newline_not_mem_under _, by decide⟩, nofun⟩
  · simp

/-- A diagnostic is shown at its place when its message takes one line and the place is not before a
blank. -/
theorem shownAt {before after : List Char} (split : source.toList = before ++ after)
    (here : diagnostic.position = .endOf before) (solid : Stops isSpacing after)
    (oneLine : Text.OneLine diagnostic.message) : diagnostic.ShownAt source before after := by
  have starts_iff : (source = "" ∨ source.toList.getLast? = some '\n') ↔
      Text.StartsLine source.toList := by
    rw [Text.StartsLine, String.toList_eq_nil_iff]
  by_cases noLine : after = [] ∧ (source = "" ∨ source.toList.getLast? = some '\n')
  · have isBefore : source.toList = before := by rw [split, noLine.1, List.append_nil]
    have alone := shownLines_alone (starts_iff.mp noLine.2) (isBefore ▸ here) oneLine
    exact ⟨iff_of_true alone noLine, fun hasLine => absurd noLine hasLine⟩
  · obtain ⟨above, start, rest, rfl, isLine, sameHead⟩ := Text.exists_line before solid
    rw [← split] at isLine
    have behind : source.toList ≠ above := by
      intro isAbove
      have nothing : start ++ after = [] := by simpa [isAbove] using split
      exact noLine ⟨(List.append_eq_nil_iff.mp nothing).2,
        starts_iff.mpr (isAbove ▸ isLine.starts)⟩
    have shown := shownLines_marked isLine behind here oneLine
    refine ⟨iff_of_false (by simp [shown]) noLine, fun _ => ?_⟩
    refine ⟨above, start ++ rest, start.length, _, isLine, by simp, by simp, rfl, ?_, ?_⟩
    · rw [shown, ← List.append_assoc, ← List.length_append, List.take_left]
    · rw [split, ← List.append_assoc, ← List.length_append,
        List.getElem?_append_right (Nat.le_refl _), List.getElem?_append_right (Nat.le_refl _),
        Nat.sub_self, Nat.sub_self, ← List.head?_eq_getElem?, ← List.head?_eq_getElem?, sameHead]

end Diagnostic

/-! ## Places of errors -/

theorem Position.endOf_append_ne (before : List Char) {between : List Char}
    (nonempty : between ≠ []) : endOf before ≠ endOf (before ++ between) := by
  intro same
  have early := before_after nonempty (endOf before)
  rw [endOf_after, ← same, before_iff] at early
  omega

/-- A place of a text is found from its line and column. -/
theorem Position.endOf_inj {before after other behind : List Char}
    (same : before ++ after = other ++ behind) (here : endOf before = endOf other) :
    before = other ∧ after = behind := by
  rcases List.append_eq_append_iff.mp same with ⟨between, rfl, rfl⟩ | ⟨between, rfl, rfl⟩
  · obtain rfl : between = [] := by
      by_contra nonempty
      exact endOf_append_ne before nonempty here
    simp
  · obtain rfl : between = [] := by
      by_contra nonempty
      exact endOf_append_ne other nonempty here.symm
    simp

theorem Lexer.not_isSpacing_of_continuesWord {c : Char} (inWord : Text.continuesWord c = true) :
    isSpacing c = false := by
  rw [Bool.eq_false_iff]
  intro isBlank
  rw [continuesWord_of_isSpacing isBlank] at inWord
  cases inWord

theorem Lexer.digits_solid {digits : List Char} (nonempty : digits ≠ [])
    (areDigits : digits.all Text.isDigit = true) (rest : List Char) :
    Stops isSpacing (digits ++ rest) := by
  cases digits with
  | nil => exact absurd rfl nonempty
  | cons c tail =>
      have isDigit : Text.isDigit c = true := List.all_eq_true.mp areDigits c (.head _)
      exact stops_cons.mpr (not_isSpacing_of_continuesWord (by simp [Text.continuesWord, isDigit]))

theorem Lexer.Spells.solid {kind : Kind} {literal : Option Literal} {spelling : List Char}
    (spells : Spells kind literal spelling) (isCode : kind ≠ .rawText) (rest : List Char) :
    Stops isSpacing (spelling ++ rest) := by
  cases spells with
  | sign => cases kind <;> exact stops_cons.mpr rfl
  | ident isWord =>
      match spelling, isWord with
      | c :: tail, isWord =>
          have starts : Text.startsWord c = true := (Bool.and_eq_true_iff.mp isWord).1
          have continues : Text.continuesWord c = true := by simp [Text.continuesWord, starts]
          exact stops_cons.mpr (not_isSpacing_of_continuesWord continues)
  | number nonempty areDigits => exact digits_solid nonempty areDigits rest
  | string => exact stops_cons.mpr rfl
  | rawText => exact absurd rfl isCode

/-- Tokens of ordinary code do not stand before blanks. -/
theorem Lexer.Faithful.solid {previous : Option Kind} {before last : List Char}
    {pieces : List Piece} (faithful : Faithful previous before pieces last) {piece : Piece}
    (isPiece : piece ∈ pieces) (isCode : piece.token.kind ≠ .rawText) :
    ∃ passed after, joined pieces last = passed ++ after ∧
      piece.token.position = .endOf (before ++ passed) ∧ Stops isSpacing after := by
  induction faithful with
  | last => cases isPiece
  | @piece previous before last first pieces _ _ spells _ here _ ih =>
      rcases List.mem_cons.mp isPiece with rfl | isLater
      · exact ⟨piece.gap, _, Lexer.joined_cons .., here, spells.solid isCode _⟩
      · obtain ⟨passed, after, isJoined, isPlace, solid⟩ := ih isLater
        refine ⟨first.gap ++ (first.spelling ++ passed), after, ?_, ?_, solid⟩
        · simp [isJoined]
        · simpa using isPlace

/-- Whether a diagnostic lies at a place of a text that is not before a blank. -/
def Diagnostic.LiesAt (diagnostic : Diagnostic) (source : String) : Prop :=
  ∃ before after, source.toList = before ++ after ∧ diagnostic.position = .endOf before ∧
    Stops isSpacing after

theorem SyntaxError.LiesInCode.liesAt {source : String} {tokens : List Token} {error : SyntaxError}
    (lies : error.LiesInCode source tokens) (lexed : Lexer.tokens source = .ok tokens) :
    (Diagnostic.syntactic error).LiesAt source := by
  obtain ⟨pieces, last, whole, areTokens, faithful⟩ : Cut none [] source.toList tokens :=
    (Lexer.tokens_eq_ok_iff.mp lexed).cut rfl ⟨.nil, rfl⟩
  obtain ⟨index, ⟨token, found, isKind, isPlace⟩, -⟩ := lies.not_announced
  have isToken := List.mem_of_getElem? found
  rw [areTokens] at isToken
  rcases List.mem_append.mp isToken with isInner | isEnd
  · obtain ⟨piece, isPiece, rfl⟩ := List.mem_map.mp isInner
    obtain ⟨passed, after, isJoined, here, solid⟩ :=
      faithful.solid isPiece (isKind ▸ lies.not_text)
    exact ⟨passed, after, whole.trans isJoined, isPlace.trans here, solid⟩
  · obtain rfl := List.mem_singleton.mp isEnd
    exact ⟨source.toList, [], by simp, isPlace, Lexer.stops_nil _⟩

theorem LexFault.Fits.solid {before after : List Char} {fault : LexFault}
    (fits : fault.Fits before after) : Stops isSpacing after := by
  cases fault with
  | unexpectedCharacter c =>
      intro d isHead
      rw [fits.1, Option.some.injEq] at isHead
      exact isHead ▸ Lexer.isSpacing_eq_false_iff.mpr fits.2
  | unterminatedString =>
      obtain ⟨rest, rfl, -⟩ := fits
      exact Lexer.stops_cons.mpr rfl
  | unterminatedComment =>
      obtain ⟨rest, rfl, -⟩ := fits
      exact Lexer.stops_cons.mpr rfl
  | unterminatedRawBlock =>
      rcases fits with ⟨rest, rfl⟩ | ⟨rest, rfl⟩ | rfl
      · exact Lexer.stops_cons.mpr rfl
      · exact Lexer.stops_cons.mpr rfl
      · exact Lexer.stops_nil _
  | unterminatedSplice =>
      obtain ⟨rest, rfl⟩ := fits
      exact Lexer.stops_cons.mpr rfl
  | integerOverflow digits =>
      obtain ⟨rest, rfl, nonempty, areDigits, -⟩ := fits
      exact Lexer.digits_solid (by simpa using nonempty) areDigits rest

/-! ## Errors of source texts -/

theorem readSource_eq_error {α : Type} {reader : TokenStream → Except SyntaxError α × TokenStream}
    {source : String} {diagnostic : Diagnostic}
    (failed : readSource reader source = .error diagnostic) :
    (∃ error, diagnostic = .lexical error ∧ Lexer.tokens source = .error error) ∨
      ∃ error tokens, diagnostic = .syntactic error ∧ Lexer.tokens source = .ok tokens := by
  unfold readSource at failed
  split at failed
  · rename_i error unread
    cases failed
    exact .inl ⟨error, rfl, unread⟩
  · rename_i tokens lexed
    split at failed
    · rename_i error _
      cases failed
      exact .inr ⟨error, tokens, rfl, lexed⟩
    · cases failed

section

variable {source : String} {tokens : List Token} {error : SyntaxError}

theorem Program.parse_liesInCode (lexed : Lexer.tokens source = .ok tokens)
    (failed : Program.parse source = .error (.syntactic error)) :
    error.LiesInCode source tokens := by
  obtain ⟨⟨place, rfl⟩, course⟩ := Lexer.tokens_course lexed
  obtain ⟨_, _, _, _, _, increasing⟩ := Lexer.tokens_inner lexed
  exact (Parser.program_inStep place _ [] course).liesInCode course rfl increasing
    (List.nil_append _).symm (Program.parse_eq_syntactic lexed rfl failed)

theorem Expr.parse_liesInCode (lexed : Lexer.tokens source = .ok tokens)
    (failed : Expr.parse source = .error (.syntactic error)) :
    error.LiesInCode source tokens := by
  obtain ⟨⟨place, rfl⟩, course⟩ := Lexer.tokens_course lexed
  obtain ⟨_, _, _, _, _, increasing⟩ := Lexer.tokens_inner lexed
  exact (Parser.wholeExpression_inStep course).liesInCode course rfl increasing
    (List.nil_append _).symm (Expr.parse_eq_syntactic lexed rfl failed)

end

/-- Whether a source text is refused with a diagnostic, as a program or as an expression. -/
def Refused (source : String) (diagnostic : Diagnostic) : Prop :=
  Program.parse source = .error diagnostic ∨ Expr.parse source = .error diagnostic

theorem Refused.cases {source : String} {diagnostic : Diagnostic}
    (refused : Refused source diagnostic) :
    (∃ error, diagnostic = .lexical error ∧ Lexer.PointsAtCause source.toList error) ∨
      ∃ error tokens, diagnostic = .syntactic error ∧ Lexer.tokens source = .ok tokens ∧
        error.LiesInCode source tokens := by
  have split : (∃ error, diagnostic = .lexical error ∧ Lexer.tokens source = .error error) ∨
      ∃ error tokens, diagnostic = .syntactic error ∧ Lexer.tokens source = .ok tokens :=
    refused.elim readSource_eq_error readSource_eq_error
  rcases split with ⟨error, rfl, unread⟩ | ⟨error, tokens, rfl, lexed⟩
  · exact .inl ⟨error, rfl, Lexer.tokensFrom_cause (.initial source.toList) unread⟩
  · exact .inr ⟨error, tokens, rfl, lexed,
      refused.elim (Program.parse_liesInCode lexed) (Expr.parse_liesInCode lexed)⟩

theorem Refused.liesAt {source : String} {diagnostic : Diagnostic}
    (refused : Refused source diagnostic) : diagnostic.LiesAt source := by
  rcases refused.cases with
    ⟨error, rfl, before, after, split, here, fits⟩ | ⟨_, _, rfl, lexed, lies⟩
  · exact ⟨before, after, split, here, fits.solid⟩
  · exact lies.liesAt lexed

theorem Refused.oneLine_message {source : String} {diagnostic : Diagnostic}
    (refused : Refused source diagnostic) : Text.OneLine diagnostic.message := by
  apply Diagnostic.oneLine_message
  rcases refused.cases with ⟨error, rfl, before, after, -, -, fits⟩ | ⟨error, -, rfl, -⟩
  · exact fits.oneLine_message
  · exact error.oneLine_message

/-- The caret points at the error. A source text that is refused, as a program or as an expression,
is refused at a place of the text. Shown against the text, the diagnostic is its message alone when
the place is the end of a text that is empty or ends with a newline; otherwise it is the message,
the line of the place behind a gutter, and a caret under the character at the place or just past the
end of the line, behind tabs where the line has tabs and spaces elsewhere. -/
theorem Diagnostic.caret_points_at_error {source : String} {diagnostic : Diagnostic}
    (refused : Program.parse source = .error diagnostic ∨ Expr.parse source = .error diagnostic) :
    (∃ before after, source.toList = before ++ after ∧ diagnostic.position = .endOf before) ∧
      ∀ before after, source.toList = before ++ after → diagnostic.position = .endOf before →
        diagnostic.ShownAt source before after := by
  obtain ⟨before, after, split, here, solid⟩ := Refused.liesAt refused
  refine ⟨⟨before, after, split, here⟩, ?_⟩
  intro other behind splitOther hereOther
  -- A line and a column belong to one offset only, so there is no other place to consider.
  obtain ⟨rfl, rfl⟩ := Position.endOf_inj (split.symm.trans splitOther) (here.symm.trans hereOther)
  exact shownAt split here solid (Refused.oneLine_message refused)

/-- The line is shown without its return, and the tab before the caret stays. -/
theorem Diagnostic.caret_points_at_error_tab :
    Expr.parse "1\r\n\t/* é */ 2\r\n" = .error (.syntactic ⟨.number, [.finish], ⟨2, 10⟩⟩) ∧
    (syntactic ⟨.number, [.finish], ⟨2, 10⟩⟩).ShownAt "1\r\n\t/* é */ 2\r\n"
      "1\r\n\t/* é */ ".toList "2\r\n".toList ∧
    (syntactic ⟨.number, [.finish], ⟨2, 10⟩⟩).rendered "1\r\n\t/* é */ 2\r\n" =
      "syntax error at 2:10: expected END but found NUMBER\n2 | \t/* é */ 2\n    \t        ^" := by
  have failed : Expr.parse "1\r\n\t/* é */ 2\r\n" =
      .error (.syntactic ⟨.number, [.finish], ⟨2, 10⟩⟩) := by cbv
  refine ⟨failed, ?_, by cbv⟩
  exact (caret_points_at_error (.inr failed)).2 _ _ rfl rfl

end StructuredShell
