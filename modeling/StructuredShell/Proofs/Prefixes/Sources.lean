import StructuredShell.Proofs.Lexing.Lossless
import StructuredShell.Proofs.Prefixes.Programs

/-!
# Syntax errors of source texts

A syntax error reports the first token that no program could have in its place, and every kind that
it expects could stand there in some program.
-/

set_option autoImplicit false

namespace StructuredShell

/-! ## Token streams -/

/-- Well-formed tokens of which the last one, and only that one, is the end of the text. -/
structure WellFormedStream (stream : List Token) : Prop where
  wellFormed : AllWellFormed stream
  oneEnd : ∃ (tokens : List Token) (last : Token), stream = tokens ++ [last] ∧
    last.kind = .finish ∧ ∀ token ∈ tokens, token.kind ≠ .finish

/-- Whether each token stands before the next. -/
def Increasing (stream : List Token) : Prop :=
  stream.Pairwise fun early late => early.position.before late.position = true

/-- Whether some program is read from a list of tokens. -/
def Accepted (stream : List Token) : Prop :=
  ∃ program, (TokenStream.ofTokens stream).program.1 = .ok program

/-- Whether an error reports the token at an index. -/
def SyntaxError.ReportsAt (error : SyntaxError) (stream : List Token) (index : Nat) : Prop :=
  ∃ token, stream[index]? = some token ∧ error.found = token.kind ∧
    error.position = token.position

/-! ## Tokens of source texts -/

theorem Lexer.Spells.wellFormed {token : Token} {spelling : List Char}
    (spells : Spells token.kind token.literal spelling) : token.WellFormed := by
  obtain ⟨kind, literal, position⟩ := token
  cases spells with
  | sign oneSpelling =>
      simp only [isSign, Bool.and_eq_true, Bool.not_eq_true'] at oneSpelling
      exact oneSpelling.1
  | ident => rfl
  | number => rfl
  | string => rfl
  | rawText => rfl

theorem Lexer.Faithful.inner {previous : Option Kind} {before last : List Char}
    {pieces : List Piece} (faithful : Faithful previous before pieces last) :
    ∀ piece ∈ pieces, piece.token.Inner := by
  induction faithful with
  | last => exact List.forall_mem_nil _
  | piece _ _ spells _ _ _ ih =>
      intro piece isPiece
      rcases List.mem_cons.mp isPiece with rfl | isLater
      · exact ⟨spells.wellFormed, spells.ne_finish⟩
      · exact ih piece isLater

/-- The tokens of a source text are well-formed and stand one after another. -/
theorem Lexer.tokens_inner {source : String} {tokens : List Token}
    (lexed : Lexer.tokens source = .ok tokens) :
    ∃ (inner : List Token) (last : Token), tokens = inner ++ [last] ∧ last.kind = .finish ∧
      (∀ token ∈ inner, token.Inner) ∧ Increasing tokens := by
  obtain ⟨pieces, last, whole, areTokens, faithful⟩ : Cut none [] source.toList tokens :=
    (tokens_eq_ok_iff.mp lexed).cut rfl ⟨.nil, rfl⟩
  refine ⟨pieces.map Piece.token, _, areTokens, rfl, ?_, (faithful.increasing ?_).2⟩
  · intro token isToken
    obtain ⟨piece, isPiece, rfl⟩ := List.mem_map.mp isToken
    exact faithful.inner piece isPiece
  · rw [areTokens, whole]

namespace Parser

section

variable {tokens other : List Token} {last otherLast : Token} {count index : Nat}

theorem ready_of_increasing (areInner : ∀ token ∈ tokens, token.Inner)
    (increasing : Increasing (tokens ++ [last])) : Ready last.position tokens := by
  refine ⟨fun token isToken => (areInner token isToken).wellFormed, ?_⟩
  have places : (tokens ++ [last]).map Token.position =
      tokens.map Token.position ++ [last.position] := by simp
  rw [Placed, ← places, List.pairwise_map]
  exact increasing

theorem unexpected_reportsAt (isEnd : last.kind = .finish) (expected : List Kind)
    (bounded : index ≤ tokens.length) :
    (unexpected last.position expected (tokens.drop index)).ReportsAt (tokens ++ [last]) index := by
  rcases Nat.lt_or_eq_of_le bounded with isInside | rfl
  · refine ⟨tokens[index], ?_, ?_⟩
    · rw [List.getElem?_append_left isInside, List.getElem?_eq_getElem isInside]
    · rw [List.drop_eq_getElem_cons isInside]
      exact ⟨rfl, rfl⟩
  · refine ⟨last, by simp, ?_⟩
    simp [unexpected, isEnd]

theorem accepted_iff (isEnd : last.kind = .finish) :
    Accepted (tokens ++ [last]) ↔
      ∃ rest, Recognizer.of program last.position tokens = .ok rest := by
  constructor
  · rintro ⟨value, read⟩
    obtain ⟨rest, read⟩ := (TokenStream.program_eq_ok_iff tokens isEnd value).mp read
    exact ⟨rest, Reply.outcome_eq_ok_iff.mpr ⟨value, read⟩⟩
  · rintro ⟨rest, read⟩
    obtain ⟨value, read⟩ := Reply.outcome_eq_ok_iff.mp read
    exact ⟨value, (TokenStream.program_eq_ok_iff tokens isEnd value).mpr ⟨rest, read⟩⟩

/-! ## Streams that begin alike -/

theorem kinds_getElem? (isEnd : last.kind = .finish) (bounded : index ≤ tokens.length) :
    ((tokens ++ [last]).map Token.kind)[index]? = some (headKind (tokens.drop index)) := by
  rcases Nat.lt_or_eq_of_le bounded with isInside | rfl
  · rw [List.drop_eq_getElem_cons isInside, List.getElem?_map,
      List.getElem?_append_left isInside, List.getElem?_eq_getElem isInside]
    rfl
  · simp [headKind, isEnd]

/-- Streams that begin with the same kinds agree that far. -/
theorem agree_of_prefix (isEnd : last.kind = .finish) (isOtherEnd : otherLast.kind = .finish)
    (bounded : count ≤ tokens.length)
    (alike : ((tokens ++ [last]).take (count + 1)).map Token.kind <+:
      (other ++ [otherLast]).map Token.kind) : Agree count tokens other := by
  intro index isIndex
  have here := kinds_getElem? isEnd (isIndex.trans bounded)
  have there : ((other ++ [otherLast]).map Token.kind)[index]? =
      some (headKind (tokens.drop index)) := by
    obtain ⟨more, same⟩ := alike
    rw [← same, List.getElem?_append_left, List.map_take, List.getElem?_take_of_lt, here]
    · omega
    · simp
      omega
  have inside : index ≤ other.length := by
    obtain ⟨isInside, _⟩ := List.getElem?_eq_some_iff.mp there
    simp at isInside
    omega
  rw [kinds_getElem? isOtherEnd inside] at there
  exact Option.some_inj.mp there

theorem headKind_eq_headD (tokens : List Token) :
    headKind tokens = (tokens.map Token.kind).headD .finish := by
  cases tokens <;> rfl

theorem agree_of_map_eq (same : other.map Token.kind = tokens.map Token.kind) (count : Nat) :
    Agree count tokens other := by
  intro index _
  rw [headKind_eq_headD, headKind_eq_headD, List.map_drop, List.map_drop, same]

/-- Whether tokens are a program depends on their kinds alone. -/
theorem program_ok_of_map_eq {finish place : Position} {rest : List Token}
    (ready : Ready finish tokens) (wellFormed : AllWellFormed other)
    (same : other.map Token.kind = tokens.map Token.kind)
    (read : Recognizer.of program place other = .ok rest) :
    ∃ rest, Recognizer.of program finish tokens = .ok rest := by
  rcases program_foretold finish tokens ready with ⟨count, took⟩ | ⟨count, expected, refused⟩
  · exact ⟨_, took.takes finish tokens ready.wellFormed fun _ _ => rfl⟩
  · obtain ⟨error, failed⟩ :=
      refused.refuses place other wellFormed (agree_of_map_eq same count)
    rw [failed] at read
    cases read

end

/-! ## Placing tokens -/

/-- Tokens moved to lines of their own, from a given line on. -/
def onLines (line : Nat) : List Token → List Token
  | [] => []
  | token :: rest => { token with position := ⟨line, 1⟩ } :: onLines (line + 1) rest

theorem onLines_kinds (line : Nat) (tokens : List Token) :
    (onLines line tokens).map Token.kind = tokens.map Token.kind := by
  induction tokens generalizing line with
  | nil => rfl
  | cons token rest ih => simp [onLines, ih]

theorem onLines_inner {tokens : List Token} (areInner : ∀ token ∈ tokens, token.Inner)
    (line : Nat) : ∀ token ∈ onLines line tokens, token.Inner := by
  induction tokens generalizing line with
  | nil => exact List.forall_mem_nil _
  | cons first rest ih =>
      intro token isToken
      rcases List.mem_cons.mp isToken with rfl | isLater
      · exact ⟨(areInner first (.head _)).wellFormed, (areInner first (.head _)).noEnd⟩
      · exact ih (fun token isRest => areInner token (.tail _ isRest)) (line + 1) token isLater

theorem onLines_line {tokens : List Token} {line : Nat} :
    ∀ token ∈ onLines line tokens,
      line ≤ token.position.line ∧ token.position.line < line + tokens.length := by
  induction tokens generalizing line with
  | nil => exact List.forall_mem_nil _
  | cons first rest ih =>
      intro token isToken
      rw [List.length_cons]
      rcases List.mem_cons.mp isToken with rfl | isLater
      · simp
      · have := ih token isLater
        omega

theorem onLines_increasing (line : Nat) (tokens : List Token) :
    Increasing (onLines line tokens) := by
  induction tokens generalizing line with
  | nil => exact .nil
  | cons first rest ih =>
      refine .cons ?_ (ih (line + 1))
      intro token isLater
      have later := (onLines_line token isLater).1
      rw [Position.before_iff]
      exact .inl (Nat.lt_of_succ_le later)

theorem onLines_append (line : Nat) (first second : List Token) :
    onLines line (first ++ second) =
      onLines line first ++ onLines (line + first.length) second := by
  induction first generalizing line with
  | nil => rfl
  | cons token rest ih =>
      rw [List.cons_append, onLines, ih, List.length_cons, Nat.add_assoc, Nat.add_comm 1]
      rfl

/-- Tokens on the lines after the last one of a list prolong the list. -/
theorem increasing_append_onLines {start : List Token} {next : Token}
    (increasing : Increasing (start ++ [next])) (tokens : List Token) :
    Increasing (start ++ [next] ++ onLines (next.position.line + 1) tokens) := by
  refine List.pairwise_append.mpr ⟨increasing, onLines_increasing _ tokens, ?_⟩
  intro early isEarly late isLate
  have isLater := (onLines_line late isLate).1
  have isBefore : early.position.line ≤ next.position.line := by
    rcases List.mem_append.mp isEarly with isStart | isNext
    · have before := (List.pairwise_append.mp increasing).2.2 early isStart next (.head _)
      rw [Position.before_iff] at before
      omega
    · rw [List.mem_singleton.mp isNext]
  rw [Position.before_iff]
  left
  omega

/-- A beginning that can be carried on to a program begins a stream that is accepted. -/
theorem exists_accepted {start : List Token} {next : Token}
    (areInner : ∀ token ∈ start ++ [next], token.Inner) (increasing : Increasing (start ++ [next]))
    (begins : Begins programs (start ++ [next])) :
    ∃ more, WellFormedStream (start ++ next :: more) ∧ Increasing (start ++ next :: more) ∧
      Accepted (start ++ next :: more) := by
  obtain ⟨more, areMoreInner, _, derived⟩ := begins
  let line := next.position.line + 1
  let last : Token := ⟨.finish, none, ⟨line + more.length, 1⟩⟩
  let whole := start ++ [next] ++ onLines line more
  have isWhole : whole ++ [last] =
      start ++ [next] ++ onLines line (more ++ [⟨.finish, none, .start⟩]) := by
    simp [whole, onLines_append, onLines, last]
  have areWholeInner : ∀ token ∈ whole, token.Inner := by
    intro token isToken
    rcases List.mem_append.mp isToken with isStart | isMore
    · exact areInner token isStart
    · exact onLines_inner areMoreInner line token isMore
  have wellFormed : AllWellFormed (whole ++ [last]) := by
    intro token isToken
    rcases List.mem_append.mp isToken with isInner | isLast
    · exact (areWholeInner token isInner).wellFormed
    · rw [List.mem_singleton.mp isLast]
      exact ⟨rfl, rfl⟩
  have wellFormedMore : AllWellFormed (start ++ [next] ++ more) := by
    intro token isToken
    rcases List.mem_append.mp isToken with isStart | isMore
    · exact (areInner token isStart).wellFormed
    · exact (areMoreInner token isMore).wellFormed
  have isIncreasing : Increasing (whole ++ [last]) := by
    rw [isWhole]
    exact increasing_append_onLines increasing _
  have accepted : Accepted (whole ++ [last]) := by
    obtain ⟨value, nearestDerived, nearest⟩ := derived.exists_nearest
    have read : Recognizer.of program .start (start ++ [next] ++ more) = .ok [] :=
      Reply.outcome_eq_ok_iff.mpr ⟨value, program_complete nearestDerived nearest⟩
    have sameKinds : (start ++ [next] ++ more).map Token.kind = whole.map Token.kind := by
      simp [whole, onLines_kinds]
    rw [accepted_iff rfl]
    exact program_ok_of_map_eq (ready_of_increasing areWholeInner isIncreasing) wellFormedMore
      sameKinds read
  refine ⟨onLines line more ++ [last], ?_⟩
  have sameStream : start ++ next :: (onLines line more ++ [last]) = whole ++ [last] := by
    simp [whole]
  rw [sameStream]
  exact ⟨⟨wellFormed, whole, last, rfl, rfl,
    fun token isToken => (areWholeInner token isToken).noEnd⟩, isIncreasing, accepted⟩

end Parser

/-! ## The reported token -/

open StructuredShell.Parser

/-- Whether an error reports the first token, at an index, that cannot go on with a program. -/
structure SyntaxError.EndsViablePrefix (error : SyntaxError) (tokens : List Token) (index : Nat) :
    Prop where
  reports : error.ReportsAt tokens index
  /-- What has the same kinds up to and with the reported token is no program. -/
  rejects : ∀ stream, WellFormedStream stream →
    (tokens.take (index + 1)).map Token.kind <+: stream.map Token.kind → ¬Accepted stream
  expects : error.expected ≠ []
  /-- What goes on with an expected kind in its place can be a program. -/
  viable : ∀ kind ∈ error.expected, ∃ (next : Token) (more : List Token), next.kind = kind ∧
    WellFormedStream (tokens.take index ++ next :: more) ∧
    Increasing (tokens.take index ++ next :: more) ∧
    Accepted (tokens.take index ++ next :: more)

/-- Whether of the two readings of every parenthesis at the head of a condition the error at the
later token is kept. The tokens of the stream are followed by the end of the text. -/
def KeepsFurtherErrors (tokens : List Token) (stream : TokenStream) : Prop :=
  ∀ (skipped : Nat) (opening : Token) (rest : List Token) (groupError valueError : SyntaxError),
    stream.ahead.drop skipped = opening :: rest → opening.kind = .openParen →
    (groupTail stream.finish rest).outcome = .error groupError →
    (comparison stream.finish (opening :: rest)).outcome = .error valueError →
    ∃ (first second : Nat) (kept : SyntaxError),
      groupError.ReportsAt tokens first ∧ valueError.ReportsAt tokens second ∧
      (conditionAtom stream.finish (opening :: rest)).outcome = .error kept ∧
      kept = (if first < second then valueError else groupError) ∧
      kept.ReportsAt tokens (max first second)

theorem keepsFurtherErrors {tokens : List Token} {last : Token}
    (areInner : ∀ token ∈ tokens, token.Inner) (isEnd : last.kind = .finish)
    (increasing : Increasing (tokens ++ [last])) :
    KeepsFurtherErrors (tokens ++ [last]) ⟨tokens, last.position⟩ := by
  intro skipped opening rest groupError valueError isAhead isOpen noGroup noValue
  have ready := (ready_of_increasing areInner increasing).suffix (List.drop_suffix skipped tokens)
  dsimp only at isAhead noGroup noValue
  rw [isAhead] at ready
  obtain ⟨first, second, firstBounded, secondBounded, atFirst, atSecond, kept⟩ :=
    conditionAtom_keeps_further ready isOpen noGroup noValue
  have reports : ∀ {error : SyntaxError} {count : Nat}, count ≤ rest.length + 1 →
      error = unexpected last.position error.expected ((opening :: rest).drop count) →
      error.ReportsAt (tokens ++ [last]) (skipped + count) := by
    intro error count bounded isError
    have inside : tokens.length - skipped = rest.length + 1 := by
      rw [← List.length_drop, isAhead, List.length_cons]
    rw [isError, ← isAhead, List.drop_drop]
    exact unexpected_reportsAt isEnd _ (by omega)
  have groupReports := reports firstBounded atFirst
  have valueReports := reports secondBounded atSecond
  refine ⟨skipped + first, skipped + second, _, groupReports, valueReports, kept, ?_, ?_⟩
  · simp only [Nat.add_lt_add_iff_left]
  · by_cases isFurther : first < second
    · rw [if_pos isFurther, Nat.max_eq_right (by omega)]
      exact valueReports
    · rw [if_neg isFurther, Nat.max_eq_left (by omega)]
      exact groupReports

theorem Program.parse_eq_syntactic {source : String} {tokens : List Token} {last : Token}
    {error : SyntaxError} (lexed : Lexer.tokens source = .ok (tokens ++ [last]))
    (isEnd : last.kind = .finish) (failed : Program.parse source = .error (.syntactic error)) :
    Recognizer.of program last.position tokens = .error error := by
  unfold Program.parse readSource at failed
  rw [lexed] at failed
  dsimp only at failed
  rw [TokenStream.ofTokens_append_finish tokens isEnd, TokenStream.program, TokenStream.read]
    at failed
  unfold Recognizer.of
  cases read : Parser.program last.position tokens with
  | ok value rest shorter => simp [read] at failed
  | fail found stopped => simpa [read] using failed

section

variable {tokens : List Token} {last : Token} {count : Nat} {error : SyntaxError}

/-- No stream that goes as far as a refused token is accepted. -/
theorem not_accepted_of_refuses
    (refused : Refuses programs (.of program) last.position tokens count error.expected)
    (isEnd : last.kind = .finish) {stream : List Token} (wellFormed : WellFormedStream stream)
    (alike : ((tokens ++ [last]).take (count + 1)).map Token.kind <+: stream.map Token.kind) :
    ¬Accepted stream := by
  intro accepted
  obtain ⟨other, otherLast, rfl, isOtherEnd, _⟩ := wellFormed.oneEnd
  obtain ⟨rest, read⟩ := (accepted_iff isOtherEnd).mp accepted
  have areWellFormed : AllWellFormed other := by
    intro token isToken
    exact wellFormed.wellFormed token (List.mem_append_left _ isToken)
  have agree := agree_of_prefix isEnd isOtherEnd refused.bounded alike
  obtain ⟨_, fails⟩ := refused.refuses otherLast.position other areWellFormed agree
  rw [fails] at read
  cases read

/-- A token at the place of a reported one stands after the same tokens. -/
theorem SyntaxError.ReportsAt.increasing {index : Nat} (reports : error.ReportsAt tokens index)
    (increasing : Increasing tokens) {next : Token} (here : next.position = error.position) :
    Increasing (tokens.take index ++ [next]) := by
  obtain ⟨token, found, _, place⟩ := reports
  have isTaken : tokens.take (index + 1) = tokens.take index ++ [token] := by
    rw [List.take_add_one, found]
    rfl
  have increasingTaken : Increasing (tokens.take index ++ [token]) := by
    rw [← isTaken]
    exact increasing.sublist (List.take_sublist _ _)
  obtain ⟨early, _, apart⟩ := List.pairwise_append.mp increasingTaken
  refine List.pairwise_append.mpr ⟨early, List.pairwise_singleton _ _, ?_⟩
  intro token isEarly late isNext
  rw [List.mem_singleton.mp isNext, here, place]
  exact apart token isEarly _ (.head _)

/-- Every expected kind could stand in the place of a refused token. -/
theorem exists_accepted_of_refuses
    (refused : Refuses programs (.of program) last.position tokens count error.expected)
    (areInner : ∀ token ∈ tokens, token.Inner) (increasing : Increasing (tokens ++ [last]))
    (reports : error.ReportsAt (tokens ++ [last]) count) {kind : Kind}
    (isExpected : kind ∈ error.expected) :
    ∃ (next : Token) (more : List Token), next.kind = kind ∧
      WellFormedStream ((tokens ++ [last]).take count ++ next :: more) ∧
      Increasing ((tokens ++ [last]).take count ++ next :: more) ∧
      Accepted ((tokens ++ [last]).take count ++ next :: more) := by
  let next : Token := { Token.sample kind with position := error.position }
  have isNext : next.Inner := by
    refine ⟨Token.sample_wellFormed kind, ?_⟩
    rintro rfl
    exact refused.expects.2 isExpected
  have increasingNext := reports.increasing increasing (show next.position = _ from rfl)
  rw [List.take_append_of_le_length refused.bounded] at increasingNext ⊢
  have areAllInner : ∀ token ∈ tokens.take count ++ [next], token.Inner := by
    intro token isToken
    rcases List.mem_append.mp isToken with isEarlier | isLast
    · exact areInner token (List.mem_of_mem_take isEarlier)
    · rw [List.mem_singleton.mp isLast]
      exact isNext
  have begins := refused.viable next isNext.wellFormed isExpected
  obtain ⟨more, isStream⟩ := exists_accepted areAllInner increasingNext begins
  exact ⟨next, more, rfl, isStream⟩

end

/-- Syntax errors stand where the tokens stop being the beginning of a program: no well-formed
stream with the same kinds up to the reported token is accepted, and each expected kind, of which
there is one at least, could stand there in a stream that is accepted. In particular the error that
is kept of the two readings of a parenthesis lies at the later of the tokens where they fail. -/
theorem Program.parse_error_endsViablePrefix {source : String} {tokens : List Token}
    {error : SyntaxError} (lexed : Lexer.tokens source = .ok tokens)
    (failed : Program.parse source = .error (.syntactic error)) :
    (∃ index, error.EndsViablePrefix tokens index) ∧
      KeepsFurtherErrors tokens (.ofTokens tokens) := by
  obtain ⟨inner, last, rfl, isEnd, areInner, increasing⟩ := Lexer.tokens_inner lexed
  have ready := ready_of_increasing areInner increasing
  have reported := Program.parse_eq_syntactic lexed isEnd failed
  obtain ⟨count, refused, isError⟩ :=
    (program_foretold last.position inner ready).refused ready.wellFormed reported
  have reports : error.ReportsAt (inner ++ [last]) count := by
    rw [isError]
    exact unexpected_reportsAt isEnd _ refused.bounded
  rw [TokenStream.ofTokens_append_finish inner isEnd]
  refine ⟨⟨count, reports, ?_, refused.expects.1, ?_⟩,
    keepsFurtherErrors areInner isEnd increasing⟩
  · intro stream wellFormed alike
    exact not_accepted_of_refuses refused isEnd wellFormed alike
  · intro kind isExpected
    exact exists_accepted_of_refuses refused areInner increasing reports isExpected

/-- The tokens of a condition that breaks off after a value in parentheses. The group fails at the
parenthesis behind the name, the comparison at the semicolon. -/
def brokenComparison : List Token := [
  ⟨.funcWord, none, ⟨1, 1⟩⟩, ⟨.ident, some (.text "f"), ⟨1, 6⟩⟩, ⟨.openParen, none, ⟨1, 7⟩⟩,
  ⟨.closeParen, none, ⟨1, 8⟩⟩, ⟨.openBrace, none, ⟨1, 10⟩⟩, ⟨.ifWord, none, ⟨1, 12⟩⟩,
  ⟨.openParen, none, ⟨1, 15⟩⟩, ⟨.openParen, none, ⟨1, 16⟩⟩, ⟨.ident, some (.text "a"), ⟨1, 17⟩⟩,
  ⟨.closeParen, none, ⟨1, 18⟩⟩, ⟨.semicolon, none, ⟨1, 20⟩⟩, ⟨.closeBrace, none, ⟨1, 22⟩⟩,
  ⟨.finish, none, ⟨1, 23⟩⟩]

theorem Program.parse_error_brokenComparison :
    Lexer.tokens "func f() \x7b if ((a) ; \x7d" = .ok brokenComparison ∧
    Program.parse "func f() \x7b if ((a) ; \x7d" =
      .error (.syntactic ⟨.semicolon, relationKinds, ⟨1, 20⟩⟩) ∧
    (∃ index, SyntaxError.EndsViablePrefix ⟨.semicolon, relationKinds, ⟨1, 20⟩⟩ brokenComparison
      index) ∧
    KeepsFurtherErrors brokenComparison (.ofTokens brokenComparison) := by
  have lexed : Lexer.tokens "func f() \x7b if ((a) ; \x7d" = .ok brokenComparison := by cbv
  have failed : Program.parse "func f() \x7b if ((a) ; \x7d" =
      .error (.syntactic ⟨.semicolon, relationKinds, ⟨1, 20⟩⟩) := by cbv
  exact ⟨lexed, failed, Program.parse_error_endsViablePrefix lexed failed⟩

end StructuredShell
