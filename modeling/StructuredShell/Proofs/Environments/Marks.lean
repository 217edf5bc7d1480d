import StructuredShell.Proofs.Environments.Readings

/-!
# The marks of environments

What the list of tokens shows of the raw environments of a text: each is announced by a token that
its opening delimiter follows, its texts stand alone between its delimiters, and each opening
delimiter has one closing delimiter.
-/

set_option autoImplicit false

namespace StructuredShell.Lexer

open StructuredShell.Parser (headKind)

/-! ## What announces an environment -/

section

variable {state : State} {reading opening : Reading} {readings before after : List Reading}
  {delimiter : Delimiter}

/-- A token that announces an environment is read in ordinary code. The sign in front of a splice,
which looks the same, is followed by a bracket of the same body. -/
theorem Course.announcing (course : Course state readings)
    (isReading : readings = before ++ reading :: after)
    (announces : Delimiter.ofTrigger? reading.token.kind = some delimiter) :
    (∃ splices, Course ⟨.code, splices⟩ (reading :: after)) ∨
      reading.token.kind = .dollar ∧ ∃ bracket rest, after = bracket :: rest ∧
        bracket.token.kind = .openBracket ∧ bracket.phase ≠ .code := by
  rcases course.reached isReading with ⟨current, reached, -⟩ | ⟨isBracket, -⟩
  · cases reached with
    | @token splices _ _ isInner isCode further =>
        exact .inl ⟨splices, .token isInner isCode further⟩
    | @opener opened => cases opened <;> cases announces
    | text => cases announces
    | splice => exact .inr ⟨rfl, _, _, rfl, rfl, nofun⟩
    | @close block =>
        obtain ⟨closed, _, _⟩ := block
        cases closed <;> cases announces
  · rw [isBracket] at announces
    cases announces

theorem Course.brace_after_raw (course : Course state readings)
    (isReading : readings = before ++ reading :: after) (isRaw : reading.token.kind = .rawWord) :
    headKind (tokensOf after) = .openBrace := by
  have announces := congrArg Delimiter.ofTrigger? isRaw
  rcases course.announcing isReading announces with ⟨splices, reached⟩ | ⟨isDollar, -⟩
  · obtain ⟨position, inner, rfl, -⟩ := reached.announced announces
    rfl
  · cases isRaw.symm.trans isDollar

theorem Course.delimiter_after_dollar (course : Course state readings)
    (isReading : readings = before ++ reading :: after) (isDollar : reading.token.kind = .dollar) :
    headKind (tokensOf after) ∈ [Kind.openParen, .openBracket] := by
  have announces := congrArg Delimiter.ofTrigger? isDollar
  rcases course.announcing isReading announces with
    ⟨splices, reached⟩ | ⟨-, bracket, rest, rfl, isBracket, -⟩
  · obtain ⟨position, inner, rfl, -⟩ := reached.announced announces
    exact .head _
  · rw [tokensOf_cons, Parser.headKind_cons, isBracket]
    exact .tail _ (.head _)

/-- Behind a token that announces an environment and its opening delimiter the body follows. -/
theorem Course.enters (course : Course state readings)
    (isReading : readings = before ++ reading :: opening :: after)
    (announces : Delimiter.ofTrigger? reading.token.kind = some delimiter)
    (isOpen : opening.token.kind = delimiter.openKind) :
    ∃ splices, Course ⟨.body ⟨delimiter, opening.token.position, 0⟩, splices⟩ after := by
  rcases course.announcing isReading announces with
    ⟨splices, reached⟩ | ⟨isDollar, bracket, rest, same, isBracket, -⟩
  · obtain ⟨position, inner, same, further⟩ := reached.announced announces
    cases same
    exact ⟨splices, further⟩
  · cases same
    rw [isDollar] at announces
    cases announces
    cases isOpen.symm.trans isBracket

/-- What follows a token that announces an environment, or the sign in front of a splice, is not
read in ordinary code. -/
theorem Course.not_announced {splices : List Splice} (course : Course state readings)
    (isReading : readings = before ++ reading :: after)
    (inCode : Course ⟨.code, splices⟩ after) : Delimiter.ofTrigger? reading.token.kind = none := by
  cases announces : Delimiter.ofTrigger? reading.token.kind with
  | none => rfl
  | some delimiter =>
      rcases course.announcing isReading announces with
        ⟨splices, reached⟩ | ⟨-, bracket, rest, rfl, -, notCode⟩
      · obtain ⟨position, inner, rfl, -⟩ := reached.announced announces
        cases inCode.next.1
      · exact absurd inCode.next.1 notCode

/-- Readings that begin in ordinary code go on from there. -/
theorem Course.in_code (course : Course state readings) (isReading : readings = before ++ after)
    (inCode : ∀ reading ∈ after.head?, reading.phase = .code) :
    ∃ splices, Course ⟨.code, splices⟩ after := by
  cases after with
  | nil => exact ⟨[], .finish⟩
  | cons reading rest =>
      have phase := inCode reading rfl
      rcases course.reached isReading with ⟨current, reached, -⟩ | ⟨-, block, inBody⟩
      · cases reached with
        | @token splices _ _ isInner isCode further =>
            exact ⟨splices, .token isInner isCode further⟩
        | opener | text | splice | close => cases phase
      · cases phase.symm.trans inBody

/-- A text stands in the body of an environment, and what follows it is no text. -/
theorem Course.text_reached (course : Course state readings)
    (isReading : readings = before ++ reading :: after) (isText : reading.token.kind = .rawText) :
    (∃ text, reading.token.literal = some (.text text) ∧ text ≠ "") ∧
      headKind (tokensOf after) ≠ .rawText ∧
      ∃ start : Position, start ∈ state.starts ++ before.filterMap Reading.opens? ∧
        ∃ closing ∈ after, closing.closes? = some (start, closing.token.position) := by
  rcases course.reached isReading with ⟨current, reached, opened⟩ | ⟨isBracket, -⟩
  · cases reached with
    | token _ isCode => exact absurd isText isCode
    | @opener delimiter => cases delimiter <;> cases isText
    | @text block _ _ _ text _ nonempty alone further =>
        exact ⟨⟨text, rfl, nonempty⟩, alone, block.start, opened (.head _),
          further.exists_closing (.head _)⟩
    | splice => cases isText
    | close => exact absurd isText (Delimiter.closeKind_ne_rawText _)
  · rw [isText] at isBracket
    cases isBracket

end

/-! ## From readings to tokens -/

section

variable {source : String} {tokens : List Token} {place : Position}

theorem headKind_append_finish (readings : List Reading) (place : Position) :
    headKind (tokensOf readings ++ [⟨.finish, none, place⟩]) = headKind (tokensOf readings) := by
  cases readings <;> rfl

/-- A token in the list that is not the end is a reading. -/
theorem exists_reading {readings : List Reading} {before after : List Token} {token : Token}
    (isSplit : tokensOf readings ++ [⟨.finish, none, place⟩] = before ++ token :: after)
    (notEnd : token.kind ≠ .finish) :
    ∃ earlier reading later, readings = earlier ++ reading :: later ∧ reading.token = token ∧
      before = tokensOf earlier ∧ after = tokensOf later ++ [⟨.finish, none, place⟩] := by
  rcases List.append_eq_append_iff.mp isSplit with ⟨between, -, isEnd⟩ | ⟨between, inside, ends⟩
  · rcases List.singleton_eq_append_iff.mp isEnd with ⟨-, same⟩ | ⟨-, nothing⟩
    · cases same
      exact absurd rfl notEnd
    · cases nothing
  · cases between with
    | nil =>
        cases ends
        exact absurd rfl notEnd
    | cons first between =>
        cases ends
        obtain ⟨earlier, behind, rfl, rfl, isBehind⟩ := List.map_eq_append_iff.mp inside
        obtain ⟨reading, later, rfl, rfl, rfl⟩ := List.map_eq_cons_iff.mp isBehind
        exact ⟨earlier, reading, later, rfl, rfl, rfl, rfl⟩

theorem exists_opening {readings : List Reading} {after : List Token} {token : Token}
    (isAfter : token :: after = tokensOf readings ++ [⟨.finish, none, place⟩])
    (notEnd : token.kind ≠ .finish) :
    ∃ reading rest, readings = reading :: rest ∧ reading.token = token := by
  cases readings with
  | nil =>
      cases isAfter
      exact absurd rfl notEnd
  | cons reading rest =>
      cases isAfter
      exact ⟨reading, rest, rfl, rfl⟩

theorem opens?_sublist (readings : List Reading) :
    (readings.filterMap Reading.opens?).Sublist ((tokensOf readings).map Token.position) := by
  induction readings with
  | nil => exact .refl _
  | cons reading rest ih =>
      obtain ⟨phase, token⟩ := reading
      cases phase with
      | code => exact ih.cons _
      | opening delimiter => exact ih.cons_cons _
      | body block => exact ih.cons _

theorem nodup_positions (increasing : Increasing tokens) :
    (tokens.map Token.position).Nodup := by
  refine List.pairwise_map.mpr (increasing.imp ?_)
  intro early late isBefore same
  rw [same, Position.before_iff] at isBefore
  omega

theorem environments_start_unique (lexed : Lexer.tokens source = .ok tokens)
    {start stop other : Position} (isEnvironment : (start, stop) ∈ environments source)
    (isOther : (start, other) ∈ environments source) : stop = other := by
  obtain ⟨⟨place, areTokens⟩, course⟩ := tokens_course lexed
  obtain ⟨_, _, _, _, _, increasing⟩ := tokens_inner lexed
  have distinct : ((tokensOf (readings source)).map Token.position).Nodup := by
    have all := nodup_positions increasing
    rw [areTokens, List.map_append] at all
    exact all.of_append_left
  have opened : ((readings source).filterMap Reading.opens?).Nodup :=
    distinct.sublist (opens?_sublist _)
  have closed : ((environments source).map Prod.fst).Nodup :=
    course.closes_perm.nodup_iff.mpr opened
  exact congrArg Prod.snd (List.inj_on_of_nodup_map closed isEnvironment isOther rfl)

/-- What the tokens of a text show of its environments. -/
structure MarksEnvironments (source : String) (tokens : List Token) : Prop where
  brace_after_raw : ∀ (before after : List Token) (word : Token),
    tokens = before ++ word :: after → word.kind = .rawWord → headKind after = .openBrace
  delimiter_after_dollar : ∀ (before after : List Token) (sign : Token),
    tokens = before ++ sign :: after → sign.kind = .dollar →
      headKind after ∈ [Kind.openParen, .openBracket]
  text_nonempty : ∀ token ∈ tokens, token.kind = .rawText →
    ∃ text, token.literal = some (.text text) ∧ text ≠ ""
  text_alone : ∀ (before after : List Token) (token : Token),
    tokens = before ++ token :: after → token.kind = .rawText → headKind after ≠ .rawText
  text_inside : ∀ token ∈ tokens, token.kind = .rawText →
    ∃ start stop, (start, stop) ∈ environments source ∧ start.before token.position = true ∧
      token.position.before stop = true
  closed_once : ∀ (before after : List Token) (trigger opening : Token) (delimiter : Delimiter),
    tokens = before ++ trigger :: opening :: after →
      Delimiter.ofTrigger? trigger.kind = some delimiter → opening.kind = delimiter.openKind →
      ∃! stop, (opening.position, stop) ∈ environments source

theorem marksEnvironments (lexed : Lexer.tokens source = .ok tokens) :
    MarksEnvironments source tokens := by
  obtain ⟨⟨place, areTokens⟩, course⟩ := tokens_course lexed
  obtain ⟨_, _, _, _, _, increasing⟩ := tokens_inner lexed
  have unique := @environments_start_unique source tokens lexed
  subst areTokens
  refine ⟨?brace, ?delimiter, ?nonempty, ?alone, ?inside, ?once⟩
  case brace =>
    intro before after word isSplit isRaw
    obtain ⟨earlier, reading, later, isReading, rfl, rfl, rfl⟩ :=
      exists_reading isSplit (by simp [isRaw])
    rw [headKind_append_finish]
    exact course.brace_after_raw isReading isRaw
  case delimiter =>
    intro before after sign isSplit isDollar
    obtain ⟨earlier, reading, later, isReading, rfl, rfl, rfl⟩ :=
      exists_reading isSplit (by simp [isDollar])
    rw [headKind_append_finish]
    exact course.delimiter_after_dollar isReading isDollar
  case nonempty =>
    intro token isToken isText
    obtain ⟨before, after, isSplit⟩ := List.append_of_mem isToken
    obtain ⟨earlier, reading, later, isReading, rfl, rfl, rfl⟩ :=
      exists_reading isSplit (by simp [isText])
    exact (course.text_reached isReading isText).1
  case alone =>
    intro before after token isSplit isText
    obtain ⟨earlier, reading, later, isReading, rfl, rfl, rfl⟩ :=
      exists_reading isSplit (by simp [isText])
    rw [headKind_append_finish]
    exact (course.text_reached isReading isText).2.1
  case inside =>
    intro token isToken isText
    obtain ⟨before, after, isSplit⟩ := List.append_of_mem isToken
    obtain ⟨earlier, reading, later, isReading, rfl, rfl, rfl⟩ :=
      exists_reading isSplit (by simp [isText])
    obtain ⟨start, isOpened, closing, isLater, closes⟩ :=
      (course.text_reached isReading isText).2.2
    obtain ⟨opening, isEarlier, opens⟩ := List.mem_filterMap.mp isOpened
    obtain rfl := Reading.position_of_opens? opens
    rw [isSplit] at increasing
    obtain ⟨-, behind, apart⟩ := List.pairwise_append.mp increasing
    have isClosing : closing ∈ readings source := by simp [isReading, isLater]
    refine ⟨_, _, List.mem_filterMap.mpr ⟨closing, isClosing, closes⟩, ?_, ?_⟩
    · exact apart _ (List.mem_map_of_mem isEarlier) _ (.head _)
    · exact List.rel_of_pairwise_cons behind
        (List.mem_append_left _ (List.mem_map_of_mem isLater))
  case once =>
    intro before after trigger opening delimiter isSplit announces isOpen
    have triggerNotEnd : trigger.kind ≠ .finish := by
      intro isEnd
      rw [isEnd] at announces
      cases announces
    obtain ⟨earlier, reading, later, isReading, rfl, rfl, isAfter⟩ :=
      exists_reading isSplit triggerNotEnd
    obtain ⟨next, inner, rfl, rfl⟩ :=
      exists_opening isAfter (isOpen ▸ (delimiter.openKind_inner place).noEnd)
    obtain ⟨splices, entered⟩ := course.enters isReading announces isOpen
    obtain ⟨closing, isInner, closes⟩ := entered.exists_closing (.head _)
    have isClosing : closing ∈ readings source := by simp [isReading, isInner]
    have isEnvironment := List.mem_filterMap.mpr ⟨closing, isClosing, closes⟩
    exact ⟨_, isEnvironment, fun other isOther => unique isOther isEnvironment⟩

end

end StructuredShell.Lexer
