import StructuredShell.Proofs.Prefixes.Sources

/-!
# Tokens with the phase in which they are read

The reading loop knows at every token whether it stands in ordinary code, in front of the body of
an environment or in such a body. The list of tokens no longer shows it. Here each token is kept
together with the phase in which it is read, and the ways in which such readings can follow one
another are given as rules, without the text and without lookahead.

From these rules come the marks that environments leave in the list of tokens, and that the closing
delimiters which the loop finds belong to the opening ones, one to one.
-/

set_option autoImplicit false

namespace StructuredShell.Lexer

open StructuredShell.Parser (headKind)

/-! ## Readings -/

/-- A token and the phase in which the loop reads it. -/
structure Reading where
  phase : Phase
  token : Token

def tokensOf (readings : List Reading) : List Token := readings.map Reading.token

/-- The readings of a text from a given state and place on, up to its end. -/
def readingsFrom (state : State) (position : Position) (source : List Char) : List Reading :=
  match source with
  | [] => []
  | c :: cs =>
    match step state position c cs with
    | .error _ => []
    | .ok taken =>
      taken.tokens.map (Reading.mk state.phase) ++
        readingsFrom taken.next (position.after (c :: cs.take taken.further))
          (cs.drop taken.further)
termination_by source.length
decreasing_by
  simp only [List.length_drop, List.length_cons]
  omega

def readings (source : String) : List Reading := readingsFrom .initial .start source.toList

/-- The environment that a reading ends, as the places of its two delimiters. -/
def Reading.closes? (reading : Reading) : Option (Position × Position) :=
  match reading.phase with
  | .body block =>
    if reading.token.kind = block.delimiter.closeKind then
      some (block.start, reading.token.position)
    else none
  | _ => none

/-- The environments of a text, in the order in which the loop closes them. -/
def environments (source : String) : List (Position × Position) :=
  (readings source).filterMap Reading.closes?

@[simp] theorem tokensOf_nil : tokensOf [] = [] := rfl

@[simp] theorem tokensOf_cons (reading : Reading) (rest : List Reading) :
    tokensOf (reading :: rest) = reading.token :: tokensOf rest := rfl

@[simp] theorem tokensOf_append (first second : List Reading) :
    tokensOf (first ++ second) = tokensOf first ++ tokensOf second := List.map_append

/-! ## The rules -/

/-- `Course state readings`: readings as the loop can make them from a state up to the end. -/
inductive Course : State → List Reading → Prop where
  | finish : Course ⟨.code, []⟩ []
  | token {splices : List Splice} {token : Token} {rest : List Reading} :
      token.Inner → token.kind ≠ .rawText → Course (.afterToken splices token.kind) rest →
      Course ⟨.code, splices⟩ (⟨.code, token⟩ :: rest)
  | opener {delimiter : Delimiter} {splices : List Splice} {position : Position}
      {rest : List Reading} :
      Course ⟨.body ⟨delimiter, position, 0⟩, splices⟩ rest →
      Course ⟨.opening delimiter, splices⟩
        (⟨.opening delimiter, ⟨delimiter.openKind, none, position⟩⟩ :: rest)
  | text {block : RawBlock} {splices : List Splice} {position : Position} {pending : Nat}
      {text : String} {rest : List Reading} :
      text ≠ "" → headKind (tokensOf rest) ≠ .rawText →
      Course ⟨.body { block with pending := pending }, splices⟩ rest →
      Course ⟨.body block, splices⟩
        (⟨.body block, ⟨.rawText, some (.text text), position⟩⟩ :: rest)
  | splice {block : RawBlock} {splices : List Splice} {position : Position}
      {rest : List Reading} :
      Course ⟨.code, ⟨block, position, 0⟩ :: splices⟩ rest →
      Course ⟨.body block, splices⟩
        (⟨.body block, ⟨.dollar, none, position⟩⟩ ::
          ⟨.body block, ⟨.openBracket, none, position.advance '$'⟩⟩ :: rest)
  | close {block : RawBlock} {splices : List Splice} {position : Position}
      {rest : List Reading} :
      Course ⟨.code, splices⟩ rest →
      Course ⟨.body block, splices⟩
        (⟨.body block, ⟨block.delimiter.closeKind, none, position⟩⟩ :: rest)

/-! ## The loop follows the rules -/

theorem codeStep_course {splices : List Splice} {position : Position} {c : Char} {cs : List Char}
    {taken : Step} {rest : List Reading} (stepped : codeStep splices position c cs = .ok taken)
    (course : Course taken.next rest) :
    Course ⟨.code, splices⟩ (taken.tokens.map (Reading.mk .code) ++ rest) := by
  unfold codeStep at stepped
  split at stepped
  · cases stepped
  · cases stepped
    exact course
  · rename_i kind literal further read
    cases stepped
    obtain ⟨tail, after, -, -, spells, isCode, -⟩ := item_heads read
    exact .token ⟨spells.wellFormed, spells.ne_finish⟩ isCode course

theorem openingStep_course {delimiter : Delimiter} {splices : List Splice} {position : Position}
    {c : Char} {cs : List Char} {taken : Step} {rest : List Reading}
    (stepped : openingStep delimiter splices position c cs = .ok taken)
    (course : Course taken.next rest) :
    Course ⟨.opening delimiter, splices⟩
      (taken.tokens.map (Reading.mk (.opening delimiter)) ++ rest) := by
  unfold openingStep at stepped
  split at stepped
  · cases stepped
    exact course
  · split at stepped
    · cases stepped
      exact .opener course
    · cases stepped

/-- What is read after a text is no text: the loop takes the whole of it in one step. -/
theorem headKind_ne_rawText {block : RawBlock} {splices : List Splice} {position : Position}
    {source : List Char} {rest : List Reading} {last : Token}
    (scanned : Scan ⟨.body block, splices⟩ position source (tokensOf rest ++ [last]))
    (interrupts : Interrupts block.delimiter block.pending source) :
    headKind (tokensOf rest) ≠ .rawText := by
  cases rest with
  | nil => nofun
  | cons reading rest => exact scanned.not_text interrupts

theorem bodyStep_course {block : RawBlock} {splices : List Splice} {position : Position}
    {c : Char} {cs : List Char} {taken : Step} {rest : List Reading} {last : Token}
    (stepped : bodyStep block splices position c cs = taken)
    (scanned : Scan taken.next (position.after (c :: cs.take taken.further))
      (cs.drop taken.further) (tokensOf rest ++ [last]))
    (course : Course taken.next rest) :
    Course ⟨.body block, splices⟩ (taken.tokens.map (Reading.mk (.body block)) ++ rest) := by
  unfold bodyStep at stepped
  split at stepped
  · split at stepped
    · subst stepped
      exact .splice course
    · subst stepped
      exact .close course
  · rename_i d tail left read
    subst stepped
    obtain ⟨after, isRest, -, -, interrupts⟩ := rawText_sound read
    obtain ⟨rfl, rfl⟩ : c = d ∧ cs = tail ++ after := by simpa using isRest
    simp only [List.take_left, List.drop_left] at scanned
    refine .text (by simp) ?_ course
    exact headKind_ne_rawText scanned (interrupts.resolve_left scanned.body_ne_nil)

theorem step_course {state : State} {position : Position} {c : Char} {cs : List Char}
    {taken : Step} {rest : List Reading} {last : Token}
    (stepped : step state position c cs = .ok taken)
    (scanned : Scan taken.next (position.after (c :: cs.take taken.further))
      (cs.drop taken.further) (tokensOf rest ++ [last]))
    (course : Course taken.next rest) :
    Course state (taken.tokens.map (Reading.mk state.phase) ++ rest) := by
  obtain ⟨phase, splices⟩ := state
  cases phase with
  | code => exact codeStep_course stepped course
  | opening delimiter => exact openingStep_course stepped course
  | body block => exact bodyStep_course (Except.ok.inj stepped) scanned course

theorem atEnd_course {state : State} {position : Position} {tokens : List Token}
    (ended : atEnd state position = .ok tokens) :
    tokens = [⟨.finish, none, position⟩] ∧ Course state [] := by
  match state, ended with
  | ⟨.code, []⟩, ended =>
      cases ended
      exact ⟨rfl, .finish⟩
  | ⟨.code, _ :: _⟩, ended => cases ended
  | ⟨.opening _, _⟩, ended => cases ended
  | ⟨.body _, _⟩, ended => cases ended

theorem tokensFrom_course {state : State} {position : Position} {source : List Char}
    {tokens : List Token} (read : tokensFrom state position source = .ok tokens) :
    (∃ place, tokens = tokensOf (readingsFrom state position source) ++
      [⟨.finish, none, place⟩]) ∧ Course state (readingsFrom state position source) := by
  fun_induction tokensFrom state position source generalizing tokens with
  | case1 state position =>
      obtain ⟨areTokens, course⟩ := atEnd_course read
      rw [readingsFrom]
      exact ⟨⟨position, areTokens⟩, course⟩
  | case2 => cases read
  | case3 => cases read
  | case4 state position c cs taken stepped more readMore ih =>
      cases read
      obtain ⟨⟨place, areMore⟩, course⟩ := ih readMore
      have scanned := tokensFrom_scan readMore
      rw [areMore] at scanned
      rw [readingsFrom, stepped]
      refine ⟨⟨place, ?_⟩, step_course stepped scanned course⟩
      simp [areMore, tokensOf, Function.comp_def]

/-- The tokens of a text are its readings, followed by the end. -/
theorem tokens_course {source : String} {tokens : List Token}
    (lexed : Lexer.tokens source = .ok tokens) :
    (∃ place, tokens = tokensOf (readings source) ++ [⟨.finish, none, place⟩]) ∧
      Course .initial (readings source) :=
  tokensFrom_course lexed

/-! ## What a state leads to -/

section

variable {state : State} {splices : List Splice} {block : RawBlock} {delimiter : Delimiter}
  {reading : Reading} {readings rest : List Reading}

theorem Delimiter.openKind_inner (delimiter : Delimiter) (position : Position) :
    Token.Inner ⟨delimiter.openKind, none, position⟩ := by
  cases delimiter <;> exact ⟨⟨rfl, rfl⟩, nofun⟩

theorem Delimiter.closeKind_inner (delimiter : Delimiter) (position : Position) :
    Token.Inner ⟨delimiter.closeKind, none, position⟩ := by
  cases delimiter <;> exact ⟨⟨rfl, rfl⟩, nofun⟩

theorem Course.inner (course : Course state readings) :
    ∀ token ∈ tokensOf readings, token.Inner := by
  induction course with
  | finish => exact List.forall_mem_nil _
  | token isInner _ _ ih => exact List.forall_mem_cons.mpr ⟨isInner, ih⟩
  | opener _ ih => exact List.forall_mem_cons.mpr ⟨Delimiter.openKind_inner _ _, ih⟩
  | text _ _ _ ih => exact List.forall_mem_cons.mpr ⟨⟨rfl, nofun⟩, ih⟩
  | splice _ ih =>
      exact List.forall_mem_cons.mpr ⟨⟨⟨rfl, rfl⟩, nofun⟩,
        List.forall_mem_cons.mpr ⟨⟨⟨rfl, rfl⟩, nofun⟩, ih⟩⟩
  | close _ ih => exact List.forall_mem_cons.mpr ⟨Delimiter.closeKind_inner _ _, ih⟩

theorem Course.wellFormed (course : Course state readings) : AllWellFormed (tokensOf readings) :=
  fun token isToken => (course.inner token isToken).wellFormed

/-- Ordinary code goes on after each of its tokens. -/
theorem Course.next (course : Course ⟨.code, splices⟩ (reading :: rest)) :
    reading.phase = .code ∧ reading.token.kind ≠ .rawText ∧
      Course (.afterToken splices reading.token.kind) rest := by
  cases course with
  | token _ isCode further => exact ⟨rfl, isCode, further⟩

/-- An announced environment begins. -/
theorem Course.opened (course : Course ⟨.opening delimiter, splices⟩ readings) :
    ∃ position rest, readings =
        ⟨.opening delimiter, ⟨delimiter.openKind, none, position⟩⟩ :: rest ∧
      Course ⟨.body ⟨delimiter, position, 0⟩, splices⟩ rest := by
  cases course with
  | opener further => exact ⟨_, _, rfl, further⟩

/-- The body of an environment goes on with a text, with a splice or with its end. -/
theorem Course.inside (course : Course ⟨.body block, splices⟩ readings) :
    (∃ position text pending rest, readings =
        ⟨.body block, ⟨.rawText, some (.text text), position⟩⟩ :: rest ∧
      Course ⟨.body { block with pending := pending }, splices⟩ rest) ∨
    (∃ position rest, readings = ⟨.body block, ⟨.dollar, none, position⟩⟩ ::
        ⟨.body block, ⟨.openBracket, none, position.advance '$'⟩⟩ :: rest ∧
      Course ⟨.code, ⟨block, position, 0⟩ :: splices⟩ rest) ∨
    ∃ position rest, readings =
        ⟨.body block, ⟨block.delimiter.closeKind, none, position⟩⟩ :: rest ∧
      Course ⟨.code, splices⟩ rest := by
  cases course with
  | text _ _ further => exact .inl ⟨_, _, _, _, rfl, further⟩
  | splice further => exact .inr (.inl ⟨_, _, rfl, further⟩)
  | close further => exact .inr (.inr ⟨_, _, rfl, further⟩)

/-- The token after one that announces an environment opens it. -/
theorem Course.announced (course : Course ⟨.code, splices⟩ (reading :: rest))
    (announces : Delimiter.ofTrigger? reading.token.kind = some delimiter) :
    ∃ position inner, rest =
        ⟨.opening delimiter, ⟨delimiter.openKind, none, position⟩⟩ :: inner ∧
      Course ⟨.body ⟨delimiter, position, 0⟩, splices⟩ inner := by
  have further := course.next.2.2
  rw [afterToken_announces announces] at further
  exact further.opened

end

/-! ## Delimiters belong together -/

/-- Where the environments begin that are open in a state, the innermost one first. -/
def State.starts (state : State) : List Position :=
  let hosts := state.splices.map fun splice => splice.host.start
  match state.phase with
  | .body block => block.start :: hosts
  | _ => hosts

/-- The place of the opening delimiter that a reading is. -/
def Reading.opens? (reading : Reading) : Option Position :=
  match reading.phase with
  | .opening _ => some reading.token.position
  | _ => none

@[simp] theorem Reading.closes?_body (block : RawBlock) (token : Token) :
    Reading.closes? ⟨.body block, token⟩ =
      if token.kind = block.delimiter.closeKind then some (block.start, token.position)
      else none := rfl

@[simp] theorem Reading.opens?_body (block : RawBlock) (token : Token) :
    Reading.opens? ⟨.body block, token⟩ = none := rfl

theorem afterToken_starts (splices : List Splice) (kind : Kind) :
    (State.afterToken splices kind).starts = State.starts ⟨.code, splices⟩ := by
  unfold State.afterToken
  split
  · rfl
  · split
    · rfl
    · split <;> rfl
    · rfl

section

variable {state : State} {reading : Reading} {readings before after : List Reading}
  {start stop : Position}

/-- Every environment that is open or will be opened is closed once. -/
theorem Course.closes_perm (course : Course state readings) :
    ((readings.filterMap Reading.closes?).map Prod.fst).Perm
      (state.starts ++ readings.filterMap Reading.opens?) := by
  induction course with
  | finish => exact .refl _
  | @token splices token rest _ _ _ ih =>
      rw [afterToken_starts] at ih
      exact ih
  | @opener delimiter splices position rest _ ih =>
      exact ih.trans List.perm_middle.symm
  | @text block splices position pending text rest _ _ _ ih =>
      have notClose : Kind.rawText ≠ block.delimiter.closeKind :=
        block.delimiter.closeKind_ne_rawText.symm
      simpa [List.filterMap_cons, State.starts, notClose] using ih
  | @splice block splices position rest _ ih =>
      have notDollar : Kind.dollar ≠ block.delimiter.closeKind :=
        block.delimiter.closeKind_ne_dollar.symm
      have notBracket : Kind.openBracket ≠ block.delimiter.closeKind := by
        cases block.delimiter <;> nofun
      simpa [List.filterMap_cons, State.starts, notDollar, notBracket] using ih
  | @close block splices position rest _ ih =>
      simpa [List.filterMap_cons, State.starts] using ih

theorem Reading.closes?_eq_some_iff :
    reading.closes? = some (start, stop) ↔
      ∃ block, reading.phase = .body block ∧ reading.token.kind = block.delimiter.closeKind ∧
        block.start = start ∧ reading.token.position = stop := by
  unfold Reading.closes?
  split
  · next block inBody => simp [inBody]
  · next notBody => simp_all

theorem Reading.position_of_opens? (opens : reading.opens? = some start) :
    reading.token.position = start := by
  unfold Reading.opens? at opens
  split at opens
  · exact Option.some.inj opens
  · cases opens

theorem Course.exists_closing (course : Course state readings) (isOpen : start ∈ state.starts) :
    ∃ closing ∈ readings, closing.closes? = some (start, closing.token.position) := by
  have isClosed : start ∈ (readings.filterMap Reading.closes?).map Prod.fst :=
    course.closes_perm.mem_iff.mpr (List.mem_append_left _ isOpen)
  obtain ⟨⟨_, stop⟩, isEnvironment, rfl⟩ := List.mem_map.mp isClosed
  obtain ⟨closing, isReading, closes⟩ := List.mem_filterMap.mp isEnvironment
  obtain ⟨-, -, -, -, rfl⟩ := Reading.closes?_eq_some_iff.mp closes
  exact ⟨closing, isReading, closes⟩

/-- What is open after one more reading was open before it or is opened by it. -/
theorem starts_subset_cons {next current : State} {first : Reading}
    (stepped : next.starts ⊆ state.starts ++ first.opens?.toList)
    (later : current.starts ⊆ next.starts ++ before.filterMap Reading.opens?) :
    current.starts ⊆ state.starts ++ (first :: before).filterMap Reading.opens? := by
  intro start isStart
  rw [← List.singleton_append, List.filterMap_append, ← List.append_assoc]
  rcases List.mem_append.mp (later isStart) with isNext | isOpened
  · refine List.mem_append_left _ ?_
    cases opens : first.opens? <;> simpa [opens] using stepped isNext
  · exact List.mem_append_right _ isOpened

/-- Every reading is made in some state, and what is open there was open at first or was opened
before. The bracket that opens a splice is apart: it is read along with the sign in front of it. -/
theorem Course.reached (course : Course state readings)
    (isReading : readings = before ++ reading :: after) :
    (∃ current, Course current (reading :: after) ∧
      current.starts ⊆ state.starts ++ before.filterMap Reading.opens?) ∨
      reading.token.kind = .openBracket ∧ ∃ block, reading.phase = .body block := by
  induction course generalizing before with
  | finish => simp at isReading
  | token isInner isCode further ih =>
      rcases List.cons_eq_append_iff.mp isReading with ⟨rfl, same⟩ | ⟨earlier, rfl, isLater⟩
      · cases same
        exact .inl ⟨_, .token isInner isCode further, by simp⟩
      · refine (ih isLater).imp_left ?_
        rintro ⟨current, reached, opened⟩
        refine ⟨current, reached, starts_subset_cons ?_ opened⟩
        simp [afterToken_starts]
  | opener further ih =>
      rcases List.cons_eq_append_iff.mp isReading with ⟨rfl, same⟩ | ⟨earlier, rfl, isLater⟩
      · cases same
        exact .inl ⟨_, .opener further, by simp⟩
      · refine (ih isLater).imp_left ?_
        rintro ⟨current, reached, opened⟩
        refine ⟨current, reached, starts_subset_cons ?_ opened⟩
        simp [State.starts, Reading.opens?]
  | text nonempty alone further ih =>
      rcases List.cons_eq_append_iff.mp isReading with ⟨rfl, same⟩ | ⟨earlier, rfl, isLater⟩
      · cases same
        exact .inl ⟨_, .text nonempty alone further, by simp⟩
      · refine (ih isLater).imp_left ?_
        rintro ⟨current, reached, opened⟩
        exact ⟨current, reached, starts_subset_cons (List.subset_append_left _ _) opened⟩
  | @splice block _ _ _ further ih =>
      rcases List.cons_eq_append_iff.mp isReading with ⟨rfl, same⟩ | ⟨earlier, rfl, isLater⟩
      · cases same
        exact .inl ⟨_, .splice further, by simp⟩
      · rcases List.cons_eq_append_iff.mp isLater with ⟨-, same⟩ | ⟨inside, rfl, isInside⟩
        · cases same
          exact .inr ⟨rfl, block, rfl⟩
        · refine (ih isInside).imp_left ?_
          rintro ⟨current, reached, opened⟩
          exact ⟨current, reached, opened⟩
  | close further ih =>
      rcases List.cons_eq_append_iff.mp isReading with ⟨rfl, same⟩ | ⟨earlier, rfl, isLater⟩
      · cases same
        exact .inl ⟨_, .close further, by simp⟩
      · refine (ih isLater).imp_left ?_
        rintro ⟨current, reached, opened⟩
        refine ⟨current, reached, starts_subset_cons ?_ opened⟩
        simp [State.starts]

end

end StructuredShell.Lexer
